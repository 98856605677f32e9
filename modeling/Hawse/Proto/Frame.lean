import Hawse.Proto.Msg

namespace Hawse

/-- What the messages use of `postcard`'s serializer, and `ipnet`'s binary form of a network under
it. -/
class Postcard where
  variant : Nat → List (List UInt8) → List UInt8
  str : String → List UInt8
  u16 : UInt16 → List UInt8
  u64 : UInt64 → List UInt8
  bool : Bool → List UInt8
  option : Option (List UInt8) → List UInt8
  seq : List (List UInt8) → List UInt8
  net : IpNet → List UInt8

/-- How many groups of seven bits a number takes. -/
def varintLen (n : Nat) : Nat := Nat.log 128 n + 1

def netLen : IpNet → Nat
  | .v4 _ => 6
  | .v6 _ => 18

/-- How long the two crates make each. -/
class LawfulPostcard [Postcard] : Prop where
  variant_length : ∀ index fields, index < 128 →
    (Postcard.variant index fields).length = 1 + fields.flatten.length
  str_length : ∀ text, (Postcard.str text).length = varintLen text.utf8ByteSize + text.utf8ByteSize
  u16_length : ∀ n, (Postcard.u16 n).length = varintLen n.toNat
  u64_length : ∀ n, (Postcard.u64 n).length = varintLen n.toNat
  bool_length : ∀ b, (Postcard.bool b).length = 1
  none_length : (Postcard.option none).length = 1
  some_length : ∀ value, (Postcard.option (some value)).length = 1 + value.length
  seq_length : ∀ values, (Postcard.seq values).length = varintLen values.length + values.flatten.length
  net_length : ∀ net, (Postcard.net net).length = netLen net

section
variable [Postcard]
open Postcard

def Kind.serialize : Kind → List UInt8
  | .tcp => variant 0 []
  | .udp => variant 1 []

def ClientMessage.serialize : ClientMessage → List UInt8
  | .hello name agent => variant 0 [option (name.map str), str agent]
  | .bind service kind port allow proxyProtocol =>
      variant 1 [str service, kind.serialize, option (port.map u16), seq (allow.map net), bool proxyProtocol]
  | .unbind service => variant 2 [str service]
  | .ping nonce => variant 3 [u64 nonce]
  | .pong nonce => variant 4 [u64 nonce]

end

inductive FrameError
  | encode
  | tooLarge (len : Nat)
deriving DecidableEq

namespace Frame

def maxFrame : Nat := 64 * 1024

def encode [Postcard] (msg : ClientMessage) : Except FrameError (List UInt8) :=
  let bytes := msg.serialize
  if bytes.length > maxFrame then .error (.tooLarge bytes.length) else .ok bytes

end Frame
end Hawse
