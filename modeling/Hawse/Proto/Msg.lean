import Hawse.Net
import Hawse.Proto.Port

namespace Hawse

abbrev PublicKey := Vector UInt8 32

instance : Std.TransOrd PublicKey := inferInstanceAs (Std.TransOrd (Vector UInt8 32))

inductive BindFailure
  | notGranted
  | inUse
  | badPort
  | badName
  | unsupported
deriving DecidableEq

inductive DenyReason
  | unknownKey
deriving DecidableEq

inductive ClientMessage
  | hello (name : Option String) (agent : String)
  | bind (service : String) (kind : Kind) (port : Option UInt16) (allow : List IpNet)
      (proxyProtocol : Bool)
  | unbind (service : String)
  | ping (nonce : UInt64)
  | pong (nonce : UInt64)
deriving DecidableEq

inductive ServerMessage
  | welcome (agent : String) (clientName : String)
  | denied (reason : DenyReason) (key : PublicKey)
  | bound (service : String) (serviceId : UInt16) (port : UInt16) (address : IpAddr)
  | bindFailed (service : String) (reason : BindFailure)
  | shutdown (reason : String)
  | ping (nonce : UInt64)
  | pong (nonce : UInt64)
deriving DecidableEq

def isControl (c : Char) : Bool := c.toNat < 0x20 ∨ (0x7f ≤ c.toNat ∧ c.toNat ≤ 0x9f)

def printable (text : String) : String :=
  String.ofList ((text.toList.filter fun c => !isControl c).take 128)

namespace Name

def maxLen : Nat := 32

inductive NameError
  | empty
  | tooLong (len : Nat)
  | start (first : Char)
  | char (bad : Char)
deriving DecidableEq

def isAsciiLowercase (c : Char) : Bool := 'a' ≤ c ∧ c ≤ 'z'

def isAsciiDigit (c : Char) : Bool := '0' ≤ c ∧ c ≤ '9'

def validate (name : String) : Except NameError Unit :=
  match name.toList with
  | [] => .error .empty
  | first :: chars =>
      if !isAsciiLowercase first && !isAsciiDigit first then
        .error (if first = '-' then .start first else .char first)
      else if name.utf8ByteSize > maxLen then .error (.tooLong name.utf8ByteSize)
      else
        match chars.find? fun c => !isAsciiLowercase c && !isAsciiDigit c && c != '-' with
        | some bad => .error (.char bad)
        | none => .ok ()

end Name
end Hawse
