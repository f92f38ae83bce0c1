/-
Socket addresses and their text, as `std::net` has them, and the target address of a SOCKS5 request.

IPv4 text is concrete. IPv6 text (compressed zero runs, embedded IPv4) is a parameter: no result here depends on how an
IPv6 address is written. `Net/Ipv6` has the concrete one.

- `parse_display`: the text of an IPv4 address parses back to it, and no IPv6 reading comes first.
- `displayV4_chars`, `parseV4_chars`: it holds digits and dots only, and nothing else is read as one.
- `parseIp_displayIp`: with lawful IPv6 text, every address parses back.
-/
import N0wss.Core.Text

namespace N0wss.Net

open Text

/-! ## Addresses -/

structure Ipv4Addr where
  a : UInt8
  b : UInt8
  c : UInt8
  d : UInt8
deriving DecidableEq, Repr

structure Ipv6Addr where
  segments : Vector UInt16 8
deriving DecidableEq, Repr

inductive IpAddr where
  | v4 (ip : Ipv4Addr)
  | v6 (ip : Ipv6Addr)
deriving DecidableEq, Repr

inductive SocketAddr where
  | v4 (ip : Ipv4Addr) (port : UInt16)
  | v6 (ip : Ipv6Addr) (port : UInt16) (flowinfo scopeId : UInt32)
deriving DecidableEq, Repr

def Ipv4Addr.octets (ip : Ipv4Addr) : List UInt8 := [ip.a, ip.b, ip.c, ip.d]

def Ipv4Addr.isUnspecified (ip : Ipv4Addr) : Bool := ip == ⟨0, 0, 0, 0⟩

def Ipv6Addr.isUnspecified (ip : Ipv6Addr) : Bool := ip == ⟨.replicate 8 0⟩

def IpAddr.isUnspecified : IpAddr → Bool
  | .v4 ip => ip.isUnspecified
  | .v6 ip => ip.isUnspecified

def SocketAddr.new : IpAddr → UInt16 → SocketAddr
  | .v4 ip, port => .v4 ip port
  | .v6 ip, port => .v6 ip port 0 0

def SocketAddr.ip : SocketAddr → IpAddr
  | .v4 ip _ => .v4 ip
  | .v6 ip _ _ _ => .v6 ip

def SocketAddr.port : SocketAddr → UInt16
  | .v4 _ port => port
  | .v6 _ port _ _ => port

/-- the target of a SOCKS5 request -/
inductive TargetAddr where
  | ip (addr : SocketAddr)
  | domain (domain : String) (port : UInt16)
deriving DecidableEq, Repr

/-! ## Text -/

/-- how IPv6 addresses are written and read -/
structure Ipv6Text where
  display : Ipv6Addr → List Char
  parse : List Char → Option Ipv6Addr

/-- one decimal field of an IPv4 address: one to three digits, no leading zero, at most 255 -/
def parseOctet (cs : List Char) : Option UInt8 :=
  if cs = [] ∨ 3 < cs.length ∨ cs.any (fun c => !c.isDigit) ∨ (cs.head? = some '0' ∧ 1 < cs.length) then none
  else if Nat.ofDigitChars 10 cs 0 ≤ 255 then some (UInt8.ofNat (Nat.ofDigitChars 10 cs 0)) else none

/-- `Ipv4Addr::from_str` -/
def parseV4 (cs : List Char) : Option Ipv4Addr :=
  match splitn '.' 4 cs with
  | [a, b, c, d] =>
    match parseOctet a, parseOctet b, parseOctet c, parseOctet d with
    | some a, some b, some c, some d => some ⟨a, b, c, d⟩
    | _, _, _, _ => none
  | _ => none

/-- `Ipv4Addr`'s `Display` -/
def displayV4 (ip : Ipv4Addr) : List Char :=
  decimal ip.a.toNat ++ '.' :: (decimal ip.b.toNat ++ '.' :: (decimal ip.c.toNat ++ '.' :: decimal ip.d.toNat))

/-- `IpAddr`'s `Display` -/
def displayIp (v6 : Ipv6Text) : IpAddr → List Char
  | .v4 ip => displayV4 ip
  | .v6 ip => v6.display ip

/-- `SocketAddr`'s `Display` -/
def displaySocketAddr (v6 : Ipv6Text) : SocketAddr → List Char
  | .v4 ip port => displayV4 ip ++ ':' :: decimal port.toNat
  | .v6 ip port _ scopeId =>
    let scope := if scopeId = 0 then [] else '%' :: decimal scopeId.toNat
    '[' :: (v6.display ip ++ scope) ++ (']' :: ':' :: decimal port.toNat)

/-- `IpAddr::from_str`: IPv4 first -/
def parseIp (v6 : Ipv6Text) (cs : List Char) : Option IpAddr :=
  match parseV4 cs with
  | some ip => some (.v4 ip)
  | none => (v6.parse cs).map .v6

/-- what the standard library promises of IPv6 text: `from_str` inverts `Display`, and a text is short -/
structure Ipv6Text.Lawful (v6 : Ipv6Text) : Prop where
  parseIp_display : ∀ ip, parseIp v6 (v6.display ip) = some (.v6 ip)
  length_display_le : ∀ ip, (v6.display ip).length ≤ 45

/-! ## Round trip -/

theorem parseOctet_decimal_lt : ∀ n < 256, parseOctet (decimal n) = some (UInt8.ofNat n) := by
  decide +kernel

theorem parseOctet_decimal (n : UInt8) : parseOctet (decimal n.toNat) = some n := by
  rw [parseOctet_decimal_lt n.toNat n.toNat_lt, UInt8.ofNat_toNat]

theorem dot_notMem_decimal (n : ℕ) : '.' ∉ decimal n := notMem_decimal (by decide) n

theorem parseV4_displayV4 (ip : Ipv4Addr) : parseV4 (displayV4 ip) = some ip := by
  have hsplit : splitn '.' 4 (displayV4 ip) =
      [decimal ip.a.toNat, decimal ip.b.toNat, decimal ip.c.toNat, decimal ip.d.toNat] := by
    rw [displayV4, splitn_append_cons (dot_notMem_decimal _), splitn_append_cons (dot_notMem_decimal _),
      splitn_append_cons (dot_notMem_decimal _)]
    rfl
  rw [parseV4, hsplit]
  simp only [parseOctet_decimal]

/-- **Round trip.** The text of an IPv4 address parses back to it, whatever IPv6 text looks like. -/
theorem parse_display (v6 : Ipv6Text) (ip : Ipv4Addr) : parseIp v6 (displayIp v6 (.v4 ip)) = some (.v4 ip) := by
  rw [displayIp, parseIp, parseV4_displayV4]

/-- an IPv4 text holds digits and dots only -/
theorem displayV4_chars {ip : Ipv4Addr} {c : Char} (h : c ∈ displayV4 ip) : c.isDigit = true ∨ c = '.' := by
  simp only [displayV4, List.mem_append, List.mem_cons] at h
  rcases h with h | rfl | h | rfl | h | rfl | h
  · exact Or.inl (isDigit_of_mem_decimal h)
  · exact Or.inr rfl
  · exact Or.inl (isDigit_of_mem_decimal h)
  · exact Or.inr rfl
  · exact Or.inl (isDigit_of_mem_decimal h)
  · exact Or.inr rfl
  · exact Or.inl (isDigit_of_mem_decimal h)

theorem isDigit_of_parseOctet {cs : List Char} {n : UInt8} (h : parseOctet cs = some n) : ∀ c ∈ cs, c.isDigit = true := by
  unfold parseOctet at h
  split_ifs at h with hbad
  push Not at hbad
  simpa using hbad.2.2.1

/-- only digits and dots are read as IPv4 -/
theorem parseV4_chars {cs : List Char} {ip : Ipv4Addr} (h : parseV4 cs = some ip) :
    ∀ c ∈ cs, c.isDigit = true ∨ c = '.' := by
  intro c hc
  by_cases hdot : c = '.'
  · exact Or.inr hdot
  left
  obtain ⟨part, hpart, hmem⟩ := exists_mem_splitn hdot hc
  unfold parseV4 at h
  split at h
  · rename_i p q r s hsplit
    split at h
    · rename_i a b c d ha hb hc hd
      rw [hsplit] at hpart
      simp only [List.mem_cons, List.not_mem_nil, or_false] at hpart
      rcases hpart with rfl | rfl | rfl | rfl
      · exact isDigit_of_parseOctet ha _ hmem
      · exact isDigit_of_parseOctet hb _ hmem
      · exact isDigit_of_parseOctet hc _ hmem
      · exact isDigit_of_parseOctet hd _ hmem
    · cases h
  · cases h

/-- with lawful IPv6 text, every address parses back -/
theorem parseIp_displayIp {v6 : Ipv6Text} (hv6 : v6.Lawful) (ip : IpAddr) : parseIp v6 (displayIp v6 ip) = some ip := by
  cases ip with
  | v4 ip => exact parse_display v6 ip
  | v6 ip => exact hv6.parseIp_display ip

theorem displayV4_ne_nil (ip : Ipv4Addr) : displayV4 ip ≠ [] := by
  simp [displayV4]

/-- an IPv4 text is short -/
theorem length_displayV4_le (ip : Ipv4Addr) : (displayV4 ip).length ≤ 15 := by
  have hlen : ∀ n : UInt8, (decimal n.toNat).length ≤ 3 := fun n =>
    (Nat.length_toDigits_le_iff (by decide) (by decide)).2 (lt_of_lt_of_le n.toNat_lt (by decide))
  have ha := hlen ip.a
  have hb := hlen ip.b
  have hc := hlen ip.c
  have hd := hlen ip.d
  simp only [displayV4, List.length_append, List.length_cons]
  omega

theorem length_displayIp_le {v6 : Ipv6Text} (hv6 : v6.Lawful) (ip : IpAddr) : (displayIp v6 ip).length ≤ 45 := by
  cases ip with
  | v4 ip => exact le_trans (length_displayV4_le ip) (by decide)
  | v6 ip => exact hv6.length_display_le ip

end N0wss.Net
