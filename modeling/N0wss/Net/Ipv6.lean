/-
IPv6 text as `std::net` writes and reads it: hexadecimal groups, one run of zero groups written `::`, and an embedded
IPv4 address for a mapped one.

- `std`: the concrete text, writer and reader.
- `parse_display`: what is written parses back.
- `std_lawful`: it parses back with no IPv4 reading before it, and it has at most 45 characters.
-/
import N0wss.Net.Addr
import N0wss.Core.Bytes

namespace N0wss.Net.Ipv6

open Text Bytes

/-! ## Hexadecimal groups -/

/-- `char::to_digit(16)` -/
def hexDigit (c : Char) : Option ℕ :=
  if 48 ≤ c.toNat ∧ c.toNat ≤ 57 then some (c.toNat - 48)
  else if 97 ≤ c.toNat ∧ c.toNat ≤ 102 then some (c.toNat - 87)
  else if 65 ≤ c.toNat ∧ c.toNat ≤ 70 then some (c.toNat - 55)
  else none

def isHex (c : Char) : Bool := (hexDigit c).isSome

def ofHex (cs : List Char) : ℕ := cs.foldl (fun n c => n * 16 + (hexDigit c).getD 0) 0

/-- one group as `{:x}` writes it -/
def displayGroup (g : UInt16) : List Char := Nat.toDigits 16 g.toNat

/-- `read_number(16, Some(4), true)`: every digit there is, at most four -/
def readGroup (cs : List Char) : Option (UInt16 × List Char) :=
  if cs.takeWhile isHex = [] ∨ 4 < (cs.takeWhile isHex).length then none
  else some (UInt16.ofNat (ofHex (cs.takeWhile isHex)), cs.dropWhile isHex)

theorem hexDigit_digitChar : ∀ n < 16, hexDigit n.digitChar = some n := by decide

theorem isHex_of_mem_toDigits (n : ℕ) : ∀ c ∈ Nat.toDigits 16 n, isHex c = true := by
  induction n using Nat.strong_induction_on with
  | _ n ih =>
    have hdigit : ∀ m < 16, isHex m.digitChar = true := fun m hm => by rw [isHex, hexDigit_digitChar m hm]; rfl
    intro c hc
    by_cases hn : n < 16
    · rw [Nat.toDigits_of_lt_base hn, List.mem_singleton] at hc
      rw [hc, hdigit n hn]
    · rw [Nat.toDigits_of_base_le (by decide) (not_lt.1 hn), List.mem_append, List.mem_singleton] at hc
      rcases hc with hc | rfl
      · exact ih (n / 16) (by omega) c hc
      · exact hdigit _ (Nat.mod_lt _ (by decide))

theorem ofHex_toDigits (n : ℕ) : ofHex (Nat.toDigits 16 n) = n := by
  induction n using Nat.strong_induction_on with
  | _ n ih =>
    by_cases hn : n < 16
    · rw [Nat.toDigits_of_lt_base hn, ofHex, List.foldl_cons, List.foldl_nil, hexDigit_digitChar n hn]
      simp
    · have hstep : ofHex (Nat.toDigits 16 n) = ofHex (Nat.toDigits 16 (n / 16)) * 16 + n % 16 := by
        rw [Nat.toDigits_of_base_le (by decide) (not_lt.1 hn), ofHex, List.foldl_append, List.foldl_cons, List.foldl_nil,
          hexDigit_digitChar _ (Nat.mod_lt _ (by decide)), ofHex]
        rfl
      rw [hstep, ih (n / 16) (by omega)]
      omega

theorem length_displayGroup_le (g : UInt16) : (displayGroup g).length ≤ 4 :=
  (Nat.length_toDigits_le_iff (by decide) (by decide)).2 (lt_of_lt_of_le g.toNat_lt (by decide))

/-- a group reads back when no further digit follows it -/
theorem readGroup_displayGroup (g : UInt16) {rest : List Char} (h : rest.takeWhile isHex = []) :
    readGroup (displayGroup g ++ rest) = some (g, rest) := by
  have hall := isHex_of_mem_toDigits g.toNat
  have htake : (displayGroup g ++ rest).takeWhile isHex = displayGroup g := by
    rw [displayGroup, List.takeWhile_append_of_pos hall, h, List.append_nil]
  have hdrop : (displayGroup g ++ rest).dropWhile isHex = rest := by
    rw [displayGroup, List.dropWhile_append_of_pos hall]
    simpa [h] using (List.takeWhile_append_dropWhile (p := isHex) (l := rest))
  have hsize : ¬(displayGroup g = [] ∨ 4 < (displayGroup g).length) := by
    rintro (hnil | hlong)
    · exact absurd hnil Nat.toDigits_ne_nil
    · exact absurd (length_displayGroup_le g) (not_le.2 hlong)
  rw [readGroup, htake, hdrop, if_neg hsize, displayGroup, ofHex_toDigits, UInt16.ofNat_toNat]

/-! ## Embedded IPv4 -/

/-- `read_number(10, Some(3), false)` -/
def readOctet (cs : List Char) : Option (UInt8 × List Char) :=
  (parseOctet (cs.takeWhile Char.isDigit)).map (·, cs.dropWhile Char.isDigit)

def readDot : List Char → Option (List Char)
  | '.' :: rest => some rest
  | _ => none

/-- `read_ipv4_addr` -/
def readV4 (cs : List Char) : Option (Ipv4Addr × List Char) := do
  let (a, cs) ← readOctet cs
  let (b, cs) ← (readDot cs).bind readOctet
  let (c, cs) ← (readDot cs).bind readOctet
  let (d, cs) ← (readDot cs).bind readOctet
  return (⟨a, b, c, d⟩, cs)

theorem readOctet_decimal (n : UInt8) {rest : List Char} (h : rest.takeWhile Char.isDigit = []) :
    readOctet (decimal n.toNat ++ rest) = some (n, rest) := by
  have hall : ∀ c ∈ decimal n.toNat, c.isDigit = true := fun c hc => isDigit_of_mem_decimal hc
  have htake : (decimal n.toNat ++ rest).takeWhile Char.isDigit = decimal n.toNat := by
    rw [List.takeWhile_append_of_pos hall, h, List.append_nil]
  have hdrop : (decimal n.toNat ++ rest).dropWhile Char.isDigit = rest := by
    rw [List.dropWhile_append_of_pos hall]
    simpa [h] using (List.takeWhile_append_dropWhile (p := Char.isDigit) (l := rest))
  rw [readOctet, htake, hdrop, parseOctet_decimal, Option.map_some]

theorem readV4_displayV4 (ip : Ipv4Addr) : readV4 (displayV4 ip) = some (ip, []) := by
  have hdot : ∀ rest : List Char, ('.' :: rest).takeWhile Char.isDigit = [] := fun rest => rfl
  have hlast : readOctet (decimal ip.d.toNat) = some (ip.d, []) := by
    have h := readOctet_decimal ip.d (show ([] : List Char).takeWhile Char.isDigit = [] from rfl)
    rwa [List.append_nil] at h
  simp only [readV4, displayV4, readOctet_decimal _ (hdot _), readDot, Option.bind_eq_bind, Option.bind_some, hlast]
  rfl

/-- nothing is read as IPv4 from a text without a dot -/
theorem readV4_of_no_dot {cs : List Char} (h : '.' ∉ cs) : readV4 cs = none := by
  have hdot : readDot (cs.dropWhile Char.isDigit) = none := by
    unfold readDot
    split
    · rename_i rest hrest
      have hmem : '.' ∈ cs.dropWhile Char.isDigit := by rw [hrest]; exact List.mem_cons_self
      exact absurd ((List.dropWhile_sublist _).subset hmem) h
    · rfl
  rw [readV4, readOctet]
  cases parseOctet (cs.takeWhile Char.isDigit) with
  | none => rfl
  | some a => simp only [Option.map_some, Option.bind_eq_bind, Option.bind_some, hdot, Option.bind_none]

/-! ## Writing -/

def groups (ip : Ipv6Addr) : List UInt16 := ip.segments.toList

def ofGroups (gs : List UInt16) : Option Ipv6Addr :=
  if h : gs.length = 8 then some ⟨⟨gs.toArray, by simpa using h⟩⟩ else none

theorem length_groups (ip : Ipv6Addr) : (groups ip).length = 8 := by simp [groups]

theorem ofGroups_groups (ip : Ipv6Addr) : ofGroups (groups ip) = some ip := by
  rw [ofGroups, dif_pos (length_groups ip)]
  rcases ip with ⟨⟨segments, hsize⟩⟩
  simp [groups]

/-- `to_ipv4_mapped`: the last two groups of `::ffff:0:0/96` -/
def toIpv4Mapped : List UInt16 → Option Ipv4Addr
  | [0, 0, 0, 0, 0, 0xffff, x, y] =>
    some ⟨(u16ToBe x).getD 0 0, (u16ToBe x).getD 1 0, (u16ToBe y).getD 0 0, (u16ToBe y).getD 1 0⟩
  | _ => none

/-- a run of groups -/
structure Span where
  start : ℕ
  len : ℕ
deriving DecidableEq, Repr

/-- the run after one more zero group, the `i`-th -/
def Span.grow (s : Span) (i : ℕ) : Span := ⟨if s.len = 0 then i else s.start, s.len + 1⟩

/-- the first longest run of zero groups: `i` groups are read, `current` is the run they end in -/
def longestZeros (i : ℕ) (current longest : Span) : List UInt16 → Span
  | [] => longest
  | g :: gs =>
    if g = 0 then
      longestZeros (i + 1) (current.grow i) (if longest.len < (current.grow i).len then current.grow i else longest) gs
    else longestZeros (i + 1) ⟨0, 0⟩ longest gs

/-- `fmt_subslice`: groups with a colon between -/
def displayGroups : List UInt16 → List Char
  | [] => []
  | first :: tail => displayGroup first ++ tail.flatMap fun g => ':' :: displayGroup g

/-- `Ipv6Addr`'s `Display`, on the groups -/
def display (gs : List UInt16) : List Char :=
  match toIpv4Mapped gs with
  | some ip => "::ffff:".toList ++ displayV4 ip
  | none =>
    let zeroes := longestZeros 0 ⟨0, 0⟩ ⟨0, 0⟩ gs
    if 1 < zeroes.len then
      displayGroups (gs.take zeroes.start) ++ (':' :: ':' :: displayGroups (gs.drop (zeroes.start + zeroes.len)))
    else displayGroups gs

/-! ## Reading -/

/-- `read_separator(':', i, inner)` -/
def readSeparated {α : Type} (first : Bool) (inner : List Char → Option (α × List Char)) (cs : List Char) :
    Option (α × List Char) :=
  if first then inner cs
  else
    match cs with
    | ':' :: rest => inner rest
    | _ => none

/-- `read_groups` into room for `room` groups: the groups, whether they end in an IPv4 address, and what is left -/
def readGroups : ℕ → Bool → List Char → List UInt16 × Bool × List Char
  | 0, _, cs => ([], false, cs)
  | room + 1, first, cs =>
    match if 0 < room then readSeparated first readV4 cs else none with
    | some (ip, rest) => ([u16OfBe [ip.a, ip.b], u16OfBe [ip.c, ip.d]], true, rest)
    | none =>
      match readSeparated first readGroup cs with
      | some (g, rest) => (g :: (readGroups room false rest).1, (readGroups room false rest).2)
      | none => ([], false, cs)

/-- `Ipv6Addr::from_str` -/
def parse (cs : List Char) : Option Ipv6Addr :=
  match readGroups 8 true cs with
  | (head, embedded, rest) =>
    if head.length = 8 then if rest = [] then ofGroups head else none
    else if embedded then none
    else
      match rest with
      | ':' :: ':' :: rest =>
        match readGroups (8 - (head.length + 1)) true rest with
        | (tail, _, rest) =>
          if rest = [] then ofGroups (head ++ List.replicate (8 - head.length - tail.length) 0 ++ tail) else none
      | _ => none

/-- the text of the standard library -/
def std : Ipv6Text where
  display ip := display (groups ip)
  parse := parse

/-! ## What a text holds -/

/-- groups hold hexadecimal digits and colons only -/
theorem displayGroups_chars {gs : List UInt16} {c : Char} (h : c ∈ displayGroups gs) : isHex c = true ∨ c = ':' := by
  have hgroup : ∀ g : UInt16, c ∈ displayGroup g → isHex c = true := fun g hc => isHex_of_mem_toDigits _ c hc
  cases gs with
  | nil => exact absurd h List.not_mem_nil
  | cons first tail =>
    rcases List.mem_append.1 h with h | h
    · exact Or.inl (hgroup first h)
    · obtain ⟨g, -, h⟩ := List.mem_flatMap.1 h
      rcases List.mem_cons.1 h with rfl | h
      · exact Or.inr rfl
      · exact Or.inl (hgroup g h)

theorem dot_notMem_displayGroups (gs : List UInt16) : '.' ∉ displayGroups gs := by
  intro h
  rcases displayGroups_chars h with hc | hc
  · exact absurd hc (by decide)
  · exact absurd hc (by decide)

theorem length_displayGroups_le (gs : List UInt16) : (displayGroups gs).length ≤ 5 * gs.length := by
  have htail : ∀ tail : List UInt16, (tail.flatMap fun g => ':' :: displayGroup g).length ≤ 5 * tail.length := by
    intro tail
    induction tail with
    | nil => simp
    | cons g tail ih =>
      have hg := length_displayGroup_le g
      simp only [List.flatMap_cons, List.length_append, List.length_cons]
      omega
  cases gs with
  | nil => simp [displayGroups]
  | cons first tail =>
    have hfirst := length_displayGroup_le first
    have hrest := htail tail
    simp only [displayGroups, List.length_append, List.length_cons]
    omega

/-! ## Groups read back -/

/-- what may stand after a list of groups: nothing, or the `::` of a compressed run -/
def EndsGroups (rest : List Char) : Prop := (rest = [] ∨ ∃ after, rest = ':' :: ':' :: after) ∧ '.' ∉ rest

theorem readGroups_of_ends (room : ℕ) (first : Bool) {rest : List Char} (h : EndsGroups rest) :
    readGroups room first rest = ([], false, rest) := by
  cases room with
  | zero => rfl
  | succ room =>
    obtain ⟨hshape, hdot⟩ := h
    have hv4 : readSeparated first readV4 rest = none := by
      rcases hshape with rfl | ⟨after, rfl⟩
      · cases first <;> rfl
      · cases first with
        | true => exact readV4_of_no_dot hdot
        | false => exact readV4_of_no_dot fun hmem => hdot (List.mem_cons_of_mem _ hmem)
    have hgroup : readSeparated first readGroup rest = none := by
      rcases hshape with rfl | ⟨after, rfl⟩ <;> cases first <;> rfl
    simp only [readGroups, hv4, hgroup, ite_self]

theorem takeWhile_isHex_of_ends {rest : List Char} (h : EndsGroups rest) : rest.takeWhile isHex = [] := by
  rcases h.1 with rfl | ⟨after, rfl⟩ <;> rfl

/-- one written group is read, then the others -/
theorem readGroups_group {room : ℕ} {first : Bool} {cs rest : List Char} {g : UInt16} (hdot : '.' ∉ cs)
    (h : readSeparated first readGroup cs = some (g, rest)) :
    readGroups (room + 1) first cs = (g :: (readGroups room false rest).1, (readGroups room false rest).2) := by
  have hv4 : readSeparated first readV4 cs = none := by
    cases first with
    | true => exact readV4_of_no_dot hdot
    | false =>
      unfold readSeparated
      simp only [Bool.false_eq_true, if_false]
      split
      · exact readV4_of_no_dot fun hmem => hdot (List.mem_cons_of_mem _ hmem)
      · rfl
  simp only [readGroups, hv4, ite_self, h]

theorem readGroups_tail {tail : List UInt16} {room : ℕ} (hroom : tail.length ≤ room) {rest : List Char}
    (h : EndsGroups rest) :
    readGroups room false (tail.flatMap (fun g => ':' :: displayGroup g) ++ rest) = (tail, false, rest) := by
  induction tail generalizing room with
  | nil => exact readGroups_of_ends room false h
  | cons g tail ih =>
    obtain ⟨room, rfl⟩ : ∃ n, room = n + 1 := ⟨room - 1, by simp only [List.length_cons] at hroom; omega⟩
    set after := tail.flatMap (fun g => ':' :: displayGroup g) ++ rest with hafter
    have hcs : (g :: tail).flatMap (fun g => ':' :: displayGroup g) ++ rest = ':' :: (displayGroup g ++ after) := by
      simp [hafter]
    have hnohex : after.takeWhile isHex = [] := by
      cases tail with
      | nil => exact takeWhile_isHex_of_ends h
      | cons g tail => rfl
    have hnodot : '.' ∉ ':' :: (displayGroup g ++ after) := by
      rw [← hcs]
      intro hmem
      rcases List.mem_append.1 hmem with hmem | hmem
      · have hmem : '.' ∈ displayGroups (0 :: g :: tail) := List.mem_append_right _ hmem
        exact dot_notMem_displayGroups _ hmem
      · exact h.2 hmem
    have hgroup : readSeparated false readGroup (':' :: (displayGroup g ++ after)) = some (g, after) :=
      readGroup_displayGroup g hnohex
    rw [hcs, readGroups_group hnodot hgroup, ih (by simpa using hroom)]

/-- written groups read back, up to the end or to a `::` -/
theorem readGroups_displayGroups {gs : List UInt16} {room : ℕ} (hroom : gs.length ≤ room) {rest : List Char}
    (h : EndsGroups rest) : readGroups room true (displayGroups gs ++ rest) = (gs, false, rest) := by
  cases gs with
  | nil => exact readGroups_of_ends room true h
  | cons first tail =>
    obtain ⟨room, rfl⟩ : ∃ n, room = n + 1 := ⟨room - 1, by simp only [List.length_cons] at hroom; omega⟩
    set after := tail.flatMap (fun g => ':' :: displayGroup g) ++ rest with hafter
    have hcs : displayGroups (first :: tail) ++ rest = displayGroup first ++ after := by
      simp [displayGroups, hafter]
    have hnohex : after.takeWhile isHex = [] := by
      cases tail with
      | nil => exact takeWhile_isHex_of_ends h
      | cons g tail => rfl
    have hnodot : '.' ∉ displayGroup first ++ after := by
      rw [← hcs]
      intro hmem
      rcases List.mem_append.1 hmem with hmem | hmem
      · exact dot_notMem_displayGroups _ hmem
      · exact h.2 hmem
    have hgroup : readSeparated true readGroup (displayGroup first ++ after) = some (first, after) :=
      readGroup_displayGroup first hnohex
    rw [hcs, readGroups_group hnodot hgroup, readGroups_tail (by simpa using hroom) h]

/-! ## The compressed run -/

/-- a run of zero groups inside `gs` -/
structure Span.IsZeros (s : Span) (gs : List UInt16) : Prop where
  fits : s.start + s.len ≤ gs.length
  zeros : ∀ i, s.start ≤ i → i < s.start + s.len → gs[i]? = some 0

theorem Span.IsZeros.append {s : Span} {gs : List UInt16} (h : s.IsZeros gs) (more : List UInt16) :
    s.IsZeros (gs ++ more) where
  fits := le_trans h.fits (by simp)
  zeros i hstart hend := by
    rw [List.getElem?_append_left (lt_of_lt_of_le hend h.fits)]
    exact h.zeros i hstart hend

theorem Span.isZeros_empty (gs : List UInt16) : (⟨0, 0⟩ : Span).IsZeros gs :=
  ⟨Nat.zero_le _, fun i _ hlt => absurd hlt (by simp)⟩

/-- the run that ends in the groups read so far, one zero longer -/
theorem Span.IsZeros.grow {s : Span} {done : List UInt16} (h : s.IsZeros done)
    (hends : s.len = 0 ∨ s.start + s.len = done.length) :
    (s.grow done.length).IsZeros (done ++ [0]) ∧
      (s.grow done.length).start + (s.grow done.length).len = (done ++ [0]).length := by
  have hstart : (s.grow done.length).start + s.len = done.length := by
    unfold Span.grow
    split_ifs with hlen
    · rw [hlen, Nat.add_zero]
    · exact hends.resolve_left hlen
  have hend : (s.grow done.length).start + (s.grow done.length).len = (done ++ [0]).length := by
    rw [List.length_append, List.length_singleton]
    exact congrArg (· + 1) hstart
  refine ⟨⟨hend.le, fun i hi hlt => ?_⟩, hend⟩
  rw [hend, List.length_append, List.length_singleton] at hlt
  rcases Nat.lt_or_ge i done.length with hin | hout
  · rw [List.getElem?_append_left hin]
    have hlen : s.len ≠ 0 := by omega
    rw [Span.grow, if_neg hlen] at hi hstart
    exact h.zeros i hi (by omega)
  · have hi : i = done.length := by omega
    rw [hi, List.getElem?_concat_length]

/-- what is found is a run of zeros: kept while the groups are read -/
theorem longestZeros_isZeros (rest : List UInt16) {done : List UInt16} {current longest : Span}
    (hcurrent : current.IsZeros done) (hends : current.len = 0 ∨ current.start + current.len = done.length)
    (hlongest : longest.IsZeros done) :
    (longestZeros done.length current longest rest).IsZeros (done ++ rest) := by
  induction rest generalizing done current longest with
  | nil => rw [List.append_nil]; exact hlongest
  | cons g rest ih =>
    have hlen : done.length + 1 = (done ++ [g]).length := by simp
    rw [longestZeros, show done ++ g :: rest = done ++ [g] ++ rest by simp]
    by_cases hzero : g = 0
    · subst hzero
      obtain ⟨hgrow, hend⟩ := hcurrent.grow hends
      rw [if_pos rfl, hlen]
      refine ih hgrow (Or.inr hend) ?_
      split_ifs
      · exact hgrow
      · exact hlongest.append _
    · rw [if_neg hzero, hlen]
      exact ih (Span.isZeros_empty _) (Or.inl rfl) (hlongest.append _)

/-- the groups around a run of zeros -/
theorem Span.IsZeros.split {s : Span} {gs : List UInt16} (h : s.IsZeros gs) :
    gs.take s.start ++ List.replicate s.len 0 ++ gs.drop (s.start + s.len) = gs := by
  have hmiddle : (gs.drop s.start).take s.len = List.replicate s.len 0 := by
    have hfits := h.fits
    refine List.eq_replicate_iff.2 ⟨by rw [List.length_take, List.length_drop]; omega, fun g hg => ?_⟩
    obtain ⟨i, hi, hget⟩ := List.mem_iff_getElem.1 hg
    rw [List.length_take, List.length_drop] at hi
    have hzero := h.zeros (s.start + i) (by omega) (by omega)
    rw [List.getElem_take, List.getElem_drop] at hget
    rw [List.getElem?_eq_getElem (by omega), hget] at hzero
    exact Option.some.inj hzero
  rw [← hmiddle, List.append_assoc, ← List.drop_drop, List.take_append_drop, List.take_append_drop]

/-! ## Round trip -/

theorem endsGroups_nil : EndsGroups [] := ⟨Or.inl rfl, List.not_mem_nil⟩

/-- every group written out -/
theorem parse_displayGroups {gs : List UInt16} (hlen : gs.length = 8) : parse (displayGroups gs) = ofGroups gs := by
  have h := readGroups_displayGroups hlen.le endsGroups_nil
  rw [List.append_nil] at h
  simp only [parse, h, hlen, if_true]

/-- a run of zeros written `::` -/
theorem parse_compressed {head tail : List UInt16} (hlen : head.length + tail.length < 8) :
    parse (displayGroups head ++ (':' :: ':' :: displayGroups tail)) =
      ofGroups (head ++ List.replicate (8 - head.length - tail.length) 0 ++ tail) := by
  have hends : EndsGroups (':' :: ':' :: displayGroups tail) := by
    refine ⟨Or.inr ⟨_, rfl⟩, ?_⟩
    simp [dot_notMem_displayGroups]
  have hhead := readGroups_displayGroups (show head.length ≤ 8 by omega) hends
  have htail := readGroups_displayGroups (show tail.length ≤ 8 - (head.length + 1) by omega) endsGroups_nil
  rw [List.append_nil] at htail
  have hne : head.length ≠ 8 := by omega
  simp only [parse, hhead, if_neg hne, Bool.false_eq_true, if_false, htail, if_true]

/-- an IPv4-mapped address -/
theorem parse_mapped (ip : Ipv4Addr) :
    parse ("::ffff:".toList ++ displayV4 ip) =
      ofGroups [0, 0, 0, 0, 0, 0xffff, u16OfBe [ip.a, ip.b], u16OfBe [ip.c, ip.d]] := by
  set after := ':' :: displayV4 ip with hafter
  have htext : "::ffff:".toList ++ displayV4 ip = ':' :: ':' :: (displayGroup 0xffff ++ after) := rfl
  have hhead : readGroups 8 true (':' :: ':' :: (displayGroup 0xffff ++ after)) =
      ([], false, ':' :: ':' :: (displayGroup 0xffff ++ after)) := rfl
  -- an octet is no hexadecimal group, so the first group is read as one
  have hfirst : readGroups 7 true (displayGroup 0xffff ++ after) =
      (0xffff :: (readGroups 6 false after).1, (readGroups 6 false after).2) := by
    have hgroup : readGroup (displayGroup 0xffff ++ after) = some (0xffff, after) := readGroup_displayGroup _ rfl
    have hv4 : readV4 (displayGroup 0xffff ++ after) = none := rfl
    simp only [readGroups, readSeparated, if_true, hv4, ite_self, hgroup]
  have hembedded : readGroups 6 false after = ([u16OfBe [ip.a, ip.b], u16OfBe [ip.c, ip.d]], true, []) := by
    simp only [readGroups, readSeparated, hafter, Bool.false_eq_true, if_false, readV4_displayV4]
    rfl
  rw [htext, parse, hhead]
  simp only [List.length_nil, Nat.reduceEqDiff, if_false, Bool.false_eq_true, Nat.zero_add, Nat.reduceSub, hfirst,
    hembedded, if_true]
  rfl

theorem ofGroups_toIpv4Mapped {gs : List UInt16} {ip : Ipv4Addr} (h : toIpv4Mapped gs = some ip) :
    gs = [0, 0, 0, 0, 0, 0xffff, u16OfBe [ip.a, ip.b], u16OfBe [ip.c, ip.d]] := by
  unfold toIpv4Mapped at h
  split at h
  · rename_i x y
    cases h
    have hpair : ∀ n : UInt16, u16OfBe [(u16ToBe n).getD 0 0, (u16ToBe n).getD 1 0] = n := fun n =>
      u16OfBe_u16ToBe n
    simp only [hpair]
  · cases h

theorem longestZeros_fits (gs : List UInt16) : (longestZeros 0 ⟨0, 0⟩ ⟨0, 0⟩ gs).IsZeros gs :=
  longestZeros_isZeros gs (Span.isZeros_empty []) (Or.inl rfl) (Span.isZeros_empty [])

/-- what is written is read back -/
theorem parse_display (ip : Ipv6Addr) : parse (display (groups ip)) = some ip := by
  have hlen := length_groups ip
  unfold display
  split
  · rename_i ip4 hmapped
    rw [parse_mapped, ← ofGroups_toIpv4Mapped hmapped, ofGroups_groups]
  · have hspan := longestZeros_fits (groups ip)
    set zeroes := longestZeros 0 ⟨0, 0⟩ ⟨0, 0⟩ (groups ip)
    have hfits := hspan.fits
    simp only
    split_ifs with hrun
    · have hhead : ((groups ip).take zeroes.start).length = zeroes.start := by rw [List.length_take]; omega
      have htail : ((groups ip).drop (zeroes.start + zeroes.len)).length = 8 - (zeroes.start + zeroes.len) := by
        rw [List.length_drop, hlen]
      have hgap : 8 - zeroes.start - (8 - (zeroes.start + zeroes.len)) = zeroes.len := by omega
      rw [parse_compressed (by omega), hhead, htail, hgap, hspan.split, ofGroups_groups]
    · rw [parse_displayGroups hlen, ofGroups_groups]

theorem colon_mem_displayGroups {gs : List UInt16} (h : 1 < gs.length) : ':' ∈ displayGroups gs := by
  match gs, h with
  | first :: g :: tail, _ =>
    exact List.mem_append_right _ (by simp)

theorem colon_mem_display (ip : Ipv6Addr) : ':' ∈ display (groups ip) := by
  unfold display
  split
  · exact List.mem_append_left _ (by decide)
  · simp only
    split_ifs
    · simp
    · exact colon_mem_displayGroups (by rw [length_groups]; decide)

/-- **The text of the standard library is lawful.** Every IPv6 address parses back, as IPv6, from at most 45 characters. -/
theorem std_lawful : std.Lawful where
  parseIp_display ip := by
    have hv4 : parseV4 (display (groups ip)) = none := by
      rw [Option.eq_none_iff_forall_ne_some]
      intro ip4 h
      rcases parseV4_chars h ':' (colon_mem_display ip) with hc | hc
      · exact absurd hc (by decide)
      · exact absurd hc (by decide)
    have hparse : std.parse (std.display ip) = some ip := parse_display ip
    rw [parseIp, show parseV4 (std.display ip) = none from hv4]
    simp only [hparse, Option.map_some]
  length_display_le ip := by
    have hlen := length_groups ip
    change (display (groups ip)).length ≤ 45
    unfold display
    split
    · rename_i ip4 hmapped
      have hv4 := length_displayV4_le ip4
      have hfront : "::ffff:".toList.length = 7 := rfl
      rw [List.length_append]
      omega
    · have hspan := longestZeros_fits (groups ip)
      set zeroes := longestZeros 0 ⟨0, 0⟩ ⟨0, 0⟩ (groups ip)
      have hfits := hspan.fits
      have hhead := length_displayGroups_le ((groups ip).take zeroes.start)
      have htail := length_displayGroups_le ((groups ip).drop (zeroes.start + zeroes.len))
      have hall := length_displayGroups_le (groups ip)
      rw [List.length_take] at hhead
      rw [List.length_drop] at htail
      simp only
      split_ifs with hrun
      · simp only [List.length_append, List.length_cons]
        omega
      · omega

/-- the run compressed is the first longest one -/
example : std.display ⟨#v[0x2001, 0xdb8, 0, 0, 1, 0, 0, 1]⟩ = "2001:db8::1:0:0:1".toList := by decide

end N0wss.Net.Ipv6
