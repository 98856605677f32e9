import Hawse.Proto.Packet

namespace Hawse

namespace Frame

inductive IoError
  | unexpectedEof
  | broken
deriving DecidableEq

/-- What a read finds after the last byte. -/
inductive Ending
  | eof
  | broken
deriving DecidableEq

end Frame

open Hawse.Frame

/-- The receiving half of a stream: the bytes to come, and how many of them each read has ready, less
one, by how many reads there were before it. -/
structure RecvHalf where
  bytes : List UInt8
  ready : Nat → Nat
  reads : Nat
  ending : Ending

namespace RecvHalf

def read (this : RecvHalf) (room : Nat) : Except IoError (List UInt8) × RecvHalf :=
  match this.bytes, this.ending with
  | [], .eof => (.ok [], this)
  | [], .broken => (.error .broken, this)
  | bytes, _ =>
      let len := min room (this.ready this.reads + 1)
      (.ok (bytes.take len), { this with bytes := bytes.drop len, reads := this.reads + 1 })

/-- The loop of `read_exact` for the `len` bytes it has not read, in so many reads at most. -/
def fill : Nat → Nat → RecvHalf → Except IoError (List UInt8) × RecvHalf
  | _, 0, this => (.ok [], this)
  | 0, _ + 1, this => (.error .unexpectedEof, this)
  | left + 1, len + 1, this =>
      match this.read (len + 1) with
      | (.error error, this) => (.error error, this)
      | (.ok [], this) => (.error .unexpectedEof, this)
      | (.ok bytes, this) =>
          match fill left (len + 1 - bytes.length) this with
          | (.error error, this) => (.error error, this)
          | (.ok more, this) => (.ok (bytes ++ more), this)

def readExact (this : RecvHalf) (len : Nat) : Except IoError (List UInt8) × RecvHalf := fill len len this

end RecvHalf

inductive StreamFrameError
  | frame (error : FrameError)
  | io (error : IoError)
deriving DecidableEq

namespace Frame

def toLeBytes (len : BitVec 32) : List UInt8 := (octets len).reverse

def fromLeBytes (bytes : List UInt8) : BitVec 32 := ofOctets 32 bytes.reverse

def readBody (recv : RecvHalf) : Except StreamFrameError (List UInt8) × RecvHalf :=
  match recv.readExact 4 with
  | (.error error, recv) => (.error (.io error), recv)
  | (.ok bytes, recv) =>
      let len := (fromLeBytes bytes).toNat
      if len > maxFrame then (.error (.frame (.tooLarge len)), recv)
      else
        match recv.readExact len with
        | (.error error, recv) => (.error (.io error), recv)
        | (.ok body, recv) => (.ok body, recv)

/-- What `write_body` adds to what was written before. It panics on a body too long for the prefix. -/
def writeBody (sent body : List UInt8) : Option (List UInt8) :=
  if 2 ^ 32 ≤ body.length then none
  else some (sent ++ (toLeBytes (BitVec.ofNat 32 body.length) ++ body))

/-- The settings of `tokio_util`'s `LengthDelimitedCodec`, as its builder starts with them. -/
structure Codec where
  bigEndian : Bool := true
  lengthFieldLength : Nat := 4
  lengthFieldOffset : Nat := 0
  lengthAdjustment : Int := 0
  numSkip : Option Nat := none
  maxFrameLength : Nat := 8 * 1024 * 1024

def codec : Codec := { bigEndian := false, lengthFieldLength := 4, maxFrameLength := maxFrame }

end Frame

/-- What such a codec puts in front of a frame it writes, and what it takes off a buffer: nothing yet,
a frame, or an error. -/
class LengthDelimited where
  encode : Frame.Codec → List UInt8 → Option (List UInt8)
  decode : Frame.Codec → List UInt8 → Except Unit (Option (List UInt8 × List UInt8))

namespace Frame.Codec

/-- The length field is all there is in front of a frame, and counts the frame alone. -/
def Plain (codec : Codec) : Prop :=
  codec.lengthFieldOffset = 0 ∧ codec.lengthAdjustment = 0 ∧ codec.numSkip = none

def field (codec : Codec) (len : Nat) : List UInt8 :=
  let bytes := octets (BitVec.ofNat (8 * codec.lengthFieldLength) len)
  if codec.bigEndian then bytes else bytes.reverse

def value (codec : Codec) (field : List UInt8) : Nat :=
  (ofOctets (8 * codec.lengthFieldLength) (if codec.bigEndian then field else field.reverse)).toNat

end Frame.Codec

/-- What the crate documents of its settings, where they are plain. -/
class LengthDelimited.Documented [LengthDelimited] : Prop where
  encode_eq : ∀ (codec : Frame.Codec) (frame : List UInt8), codec.Plain →
    LengthDelimited.encode codec frame =
      if codec.maxFrameLength < frame.length then none else some (codec.field frame.length ++ frame)
  decode_short : ∀ (codec : Frame.Codec) (buffer : List UInt8), codec.Plain →
    buffer.length < codec.lengthFieldLength → LengthDelimited.decode codec buffer = .ok none
  decode_eq : ∀ (codec : Frame.Codec) (field rest : List UInt8), codec.Plain →
    field.length = codec.lengthFieldLength → LengthDelimited.decode codec (field ++ rest) =
      if codec.maxFrameLength < codec.value field then .error ()
      else if rest.length < codec.value field then .ok none
      else .ok (some (rest.take (codec.value field), rest.drop (codec.value field)))

end Hawse
