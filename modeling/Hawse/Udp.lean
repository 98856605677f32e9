import Hawse.Proto.Packet
import Hawse.Server.Udp

namespace Hawse.Udp
open Server (DatagramHeader)

inductive TransportError
  | connection
  | noDatagrams
  | datagramTooLarge
  | io
deriving DecidableEq

structure DropCounts where
  bulkFull : Nat
  atCap : Nat
  unknown : Nat
  socket : Nat
  queueFull : Nat
  notAllowed : Nat
deriving DecidableEq

namespace DropCounts

def default : DropCounts := ⟨0, 0, 0, 0, 0, 0⟩

def total (this : DropCounts) : Nat :=
  this.bulkFull + this.unknown + this.socket + this.queueFull + this.notAllowed

end DropCounts

structure SentCounts where
  datagram : Nat
  bulk : Nat
deriving DecidableEq

/-- What one call meets, at the moment it asks: the transport's datagram limit, the free space of its
queue, that space again and what came of it when the datagram is sent, with how many others the
transport evicted for it, and whether the bulk queue had room. -/
structure Path where
  maxDatagramSize : Option Nat
  bufferSpace : Nat
  spaceAtSend : Nat
  sent : Except TransportError Unit
  evicted : Nat
  room : Bool
deriving DecidableEq

/-- The last three fields keep track of what the transport took as a datagram, what went on the bulk
queue and how many queued datagrams the transport evicted. -/
structure Sender where
  drops : DropCounts
  sent : SentCounts
  datagrams : List (List UInt8)
  bulk : List (List UInt8)
  evicted : Nat
deriving DecidableEq

namespace Sender

def new : Sender := ⟨.default, ⟨0, 0⟩, [], [], 0⟩

def trySend (this : Sender) (packet : List UInt8) (path : Path) : Sender :=
  if path.room then
    { this with
      bulk := this.bulk ++ [packet], sent := { this.sent with bulk := this.sent.bulk + 1 } }
  else { this with drops := { this.drops with bulkFull := this.drops.bulkFull + 1 } }

def fits (packet : List UInt8) (path : Path) : Bool :=
  match path.maxDatagramSize with
  | none => false
  | some max => packet.length ≤ max

def queueFull (this : Sender) : Sender :=
  { this with drops := { this.drops with queueFull := this.drops.queueFull + 1 } }

/-- The space check, and what the transport does to send the packet. -/
def offer (this : Sender) (packet : List UInt8) (path : Path) : Sender :=
  let this := if path.bufferSpace < packet.length then this.queueFull else this
  { this with evicted := this.evicted + path.evicted }

def dispatch (this : Sender) (packet : Except FrameError (List UInt8)) (path : Path) : Sender :=
  match packet with
  | .error _ => { this with drops := { this.drops with socket := this.drops.socket + 1 } }
  | .ok packet =>
      if fits packet path then
        let this := this.offer packet path
        match path.sent with
        | .error .datagramTooLarge | .error .noDatagrams => this.trySend packet path
        | .ok () =>
            { this with
              datagrams := this.datagrams ++ [packet]
              sent := { this.sent with datagram := this.sent.datagram + 1 } }
        | .error _ => this
      else this.trySend packet path

variable [Slice DatagramHeader]

def send (this : Sender) (header : DatagramHeader) (payload : List UInt8) (path : Path) : Sender :=
  this.dispatch (Packet.encode header payload) path

def sendFrom (this : Sender) (header : DatagramHeader) (visitor : SocketAddr) (payload : List UInt8)
    (path : Path) : Sender :=
  this.dispatch (Packet.encodeFrom header visitor payload) path

inductive Request
  | send (header : DatagramHeader) (payload : List UInt8)
  | sendFrom (header : DatagramHeader) (visitor : SocketAddr) (payload : List UInt8)

def call (this : Sender) : Request × Path → Sender
  | (.send header payload, path) => this.send header payload path
  | (.sendFrom header visitor payload, path) => this.sendFrom header visitor payload path

end Sender
end Hawse.Udp
