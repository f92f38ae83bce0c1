/-
Proxy errors and the SOCKS5 replies they are mapped to (`socks5/mod.rs`).

- `mapReply_eq_none_iff`: an error has no reply exactly when it comes after the success reply was sent.
- `mapReply_ne_succeeded`: no error is reported as a success.
-/
import Mathlib.Tactic

namespace N0wss.Socks5

/-- the kinds of `std::io::Error` told apart here -/
inductive IoErrorKind where
  | connectionRefused
  | timedOut
  | addrNotAvailable
  | networkUnreachable
  | other
deriving DecidableEq, Repr

structure IoError where
  kind : IoErrorKind
  text : String
deriving DecidableEq, Repr

inductive Socks5Reply where
  | succeeded
  | generalFailure
  | notAllowedByRuleset
  | networkUnreachable
  | hostUnreachable
  | connectionRefused
  | commandNotSupported
  | addressTypeNotSupported
deriving DecidableEq, Repr

def Socks5Reply.code : Socks5Reply → UInt8
  | .succeeded => 0x00
  | .generalFailure => 0x01
  | .notAllowedByRuleset => 0x02
  | .networkUnreachable => 0x03
  | .hostUnreachable => 0x04
  | .connectionRefused => 0x05
  | .commandNotSupported => 0x07
  | .addressTypeNotSupported => 0x08

/-- the bytes of `send_reply` -/
def Socks5Reply.bytes (reply : Socks5Reply) : List UInt8 := [0x05, reply.code, 0x00, 0x01, 0, 0, 0, 0, 0, 0]

inductive ErrorCategory where
  | infrastructure
  | policy
  | target
  | postReply
deriving DecidableEq, Repr

inductive ProxyError where
  | intentQueueFull
  | sessionLimitReached
  | transportFailed (detail : String)
  | egressDenied (detail : String)
  | targetUnreachable (error : IoError)
  | pumpFailed (error : IoError)
  | cancelled
deriving DecidableEq, Repr

def mapTargetError (error : IoError) : Socks5Reply :=
  if error.kind = .connectionRefused then .connectionRefused
  else if error.kind = .timedOut ∨ error.kind = .addrNotAvailable then .hostUnreachable
  else if error.kind = .networkUnreachable then .networkUnreachable
  else .generalFailure

def mapReply : ProxyError → Option Socks5Reply
  | .intentQueueFull => some .generalFailure
  | .sessionLimitReached => some .generalFailure
  | .transportFailed _ => some .generalFailure
  | .egressDenied _ => some .notAllowedByRuleset
  | .targetUnreachable error => some (mapTargetError error)
  | .pumpFailed _ => none
  | .cancelled => some .generalFailure

def ProxyError.category : ProxyError → ErrorCategory
  | .intentQueueFull => .infrastructure
  | .sessionLimitReached => .infrastructure
  | .transportFailed _ => .infrastructure
  | .egressDenied _ => .policy
  | .targetUnreachable _ => .target
  | .pumpFailed _ => .postReply
  | .cancelled => .infrastructure

/-- an error has no reply exactly when the success reply went before it -/
theorem mapReply_eq_none_iff (error : ProxyError) : mapReply error = none ↔ error.category = .postReply := by
  cases error <;> simp [mapReply, ProxyError.category]

theorem mapTargetError_ne_succeeded (error : IoError) : mapTargetError error ≠ .succeeded := by
  unfold mapTargetError
  split_ifs <;> decide

/-- no error is reported as a success -/
theorem mapReply_ne_succeeded (error : ProxyError) : mapReply error ≠ some .succeeded := by
  cases error with
  | targetUnreachable e => simpa [mapReply] using mapTargetError_ne_succeeded e
  | _ => simp [mapReply]

end N0wss.Socks5
