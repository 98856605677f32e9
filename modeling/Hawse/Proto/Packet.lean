import Hawse.Proto.Frame

namespace Hawse

/-- The bytes of an address or a port, the first the most significant. -/
def octets {w : Nat} (bits : BitVec w) : List UInt8 :=
  (List.range (w / 8)).reverse.map fun i => UInt8.ofNat (bits.toNat >>> (8 * i))

def ofOctets (w : Nat) (bytes : List UInt8) : BitVec w :=
  BitVec.ofNat w (bytes.foldl (fun n byte => 256 * n + byte.toNat) 0)

/-- What the packets use of `postcard`: the bytes of a header, and what it makes of the first bytes
of a packet, with those that are left. -/
class Slice (Header : Type) where
  write : Header → List UInt8
  take : List UInt8 → Option (Header × List UInt8)

/-- What it makes of a packet is settled by the bytes it takes. -/
class LawfulSlice (Header : Type) [Slice Header] (size : Header → Nat) : Prop where
  write_length : ∀ header : Header, (Slice.write header).length = size header
  take_write : ∀ (header : Header) rest, Slice.take (Slice.write header ++ rest) = some (header, rest)
  take_prefix : ∀ packet (header : Header) rest, Slice.take packet = some (header, rest) →
    ∃ head, packet = head ++ rest ∧ ∀ other, Slice.take (head ++ other) = some (header, other)

namespace Packet
open Hawse.Frame (maxFrame)

def headerMax : Nat := 3 + 5

def ipv4 : UInt8 := 0x04

def ipv6 : UInt8 := 0x06

section Encode
variable {Header : Type} [Slice Header]

/-- `postcard::to_slice`, into a buffer of `HEADER_MAX` bytes. -/
def toSlice (header : Header) : Except FrameError (List UInt8) :=
  let head := Slice.write header
  if head.length > headerMax then .error .encode else .ok head

def encode (header : Header) (payload : List UInt8) : Except FrameError (List UInt8) := do
  let head ← toSlice header
  let len := head.length + payload.length
  if len > maxFrame then throw (.tooLarge len)
  return head ++ payload

def decode (packet : List UInt8) : Option (Header × List UInt8) := Slice.take packet

/-- The family and the address of a visitor. -/
def address : IpAddr → List UInt8
  | .v4 ip => ipv4 :: octets ip
  | .v6 ip => ipv6 :: octets ip

def addressLen : IpAddr → Nat
  | .v4 _ => 4
  | .v6 _ => 16

def encodeFrom (header : Header) (visitor : SocketAddr) (payload : List UInt8) :
    Except FrameError (List UInt8) := do
  let head ← toSlice header
  let ip := visitor.ip.toCanonical
  let len := head.length + 1 + addressLen ip + 2 + payload.length
  if len > maxFrame then throw (.tooLarge len)
  return head ++ address ip ++ octets visitor.port.toBitVec ++ payload

end Encode

def visitorIp : List UInt8 → Option (IpAddr × List UInt8)
  | [] => none
  | family :: rest =>
      let len := if family = ipv4 then 4 else 16
      if family ≠ ipv4 ∧ family ≠ ipv6 ∨ rest.length < len then none
      else if family = ipv4 then some (.v4 (ofOctets 32 (rest.take 4)), rest.drop 4)
      else some (.v6 (ofOctets 128 (rest.take 16)), rest.drop 16)

/-- `decode` is what `postcard` makes of a packet's first bytes, and the rest. -/
def decodeFrom {Header : Type} (decode : List UInt8 → Option (Header × List UInt8)) (packet : List UInt8) :
    Option (Header × SocketAddr × List UInt8) :=
  match decode packet with
  | none => none
  | some (header, rest) =>
      match visitorIp rest with
      | some (ip, hi :: lo :: payload) => some (header, ⟨ip, ⟨ofOctets 16 [hi, lo]⟩⟩, payload)
      | _ => none

end Packet

namespace Proxy

def signature : List UInt8 := [0x0D, 0x0A, 0x0D, 0x0A, 0x00, 0x0D, 0x0A, 0x51, 0x55, 0x49, 0x54, 0x0A]

def version2Proxy : UInt8 := 0x21

def tcpOverIpv4 : UInt8 := 0x11

def tcpOverIpv6 : UInt8 := 0x21

def udpOverIpv4 : UInt8 := 0x12

def udpOverIpv6 : UInt8 := 0x22

def ipv6 : IpAddr → BitVec 128
  | .v4 a => 0xffff#96 ++ a
  | .v6 a => a

def v2 (src dst : SocketAddr) (overIpv4 overIpv6 : UInt8) : List UInt8 :=
  let addresses := match src.ip.toCanonical, dst.ip.toCanonical with
    | .v4 source, .v4 dest => overIpv4 :: octets 12#16 ++ octets source ++ octets dest
    | source, dest => overIpv6 :: octets 36#16 ++ octets (ipv6 source) ++ octets (ipv6 dest)
  signature ++ [version2Proxy] ++ addresses ++ octets src.port.toBitVec ++ octets dst.port.toBitVec

def v2Tcp (src dst : SocketAddr) : List UInt8 := v2 src dst tcpOverIpv4 tcpOverIpv6

def v2Udp (src dst : SocketAddr) : List UInt8 := v2 src dst udpOverIpv4 udpOverIpv6

end Proxy
end Hawse
