import Hawse.Client.Services
import Hawse.Lib.System
import Hawse.Proto.Packet
import Hawse.Server.Udp

namespace Hawse.Client
open Std (ExtTreeMap)
open Server (DatagramHeader Decode)

/-- `id` is what it went into the table under, and `cancelled` that it was evicted. -/
structure LocalSession where
  id : UInt32
  used : Nat
  cancelled : Bool

/-- Where a run of `deliver` is. A session is known by its place among those made. One that scans for
the quietest session, under the sessions lock, has still to read the clocks of those `left`, and
`read` is what it has read, each under the session's own lock. -/
inductive Delivering
  | looking (id : UInt32)
  | connecting (id : UInt32)
  | inserting (id : UInt32)
  | scanning (id : UInt32) (left : List (UInt32 × Nat)) (read : List ((UInt32 × Nat) × Nat))
  | spawning (id : UInt32) (session : Nat)
  | touching (session : Nat)
  | sending (session : Nat)
  | done
deriving DecidableEq

def Delivering.scans : Delivering → Bool
  | .scanning _ _ _ => true
  | _ => false

/-- `datagram` is what goes to `local`, of which `len` bytes are the visitor's. -/
structure Delivery where
  datagram : List UInt8
  len : Nat
  stage : Delivering
deriving DecidableEq

inductive ErrorKind
  | wouldBlock
  | connectionRefused
  | hostUnreachable
  | networkUnreachable
  | other
deriving DecidableEq

def survivable : ErrorKind → Bool
  | .connectionRefused | .hostUnreachable | .networkUnreachable => true
  | _ => false

/-- Why `read_replies` broke out of its loop. -/
inductive Exit
  | cancelled
  | failed
deriving DecidableEq

/-- Where a run of `read_replies` is: about to work out when its session expires, in its `select!`,
out of its loop, back from there, or back from inside it. -/
inductive Reading
  | looping
  | waiting (expires : Nat)
  | leaving (exit : Exit)
  | left (exit : Exit)
  | expired
deriving DecidableEq

structure Reader where
  id : UInt32
  session : Nat
  stage : Reading
deriving DecidableEq

structure Meter where
  visitors : Nat
  down : Nat
  up : Nat
  datagramsDown : Nat
  datagramsUp : Nat

structure Drops where
  atCap : Nat
  unknown : Nat
  socket : Nat

/-- A `UdpLocal` with the tasks at work on it. `made` is every session it has made, `unbound` that
its token is cancelled, and the last two fields keep track of what went each way. -/
structure UdpSessions where
  id : UInt16
  proxy : Option SocketAddr
  idle : Nat
  cap : Nat
  now : Nat
  sessions : ExtTreeMap UInt32 Nat
  made : List LocalSession
  readers : List Reader
  deliveries : List Delivery
  unbound : Bool
  meter : Meter
  drops : Drops
  sent : List (Nat × List UInt8)
  replies : List (DatagramHeader × List UInt8)

namespace UdpSessions

def new (id : UInt16) (proxy : Option SocketAddr) (idle cap now : Nat) : UdpSessions where
  id := id
  proxy := proxy
  idle := idle
  cap := cap
  now := now
  sessions := ∅
  made := []
  readers := []
  deliveries := []
  unbound := false
  meter := ⟨0, 0, 0, 0, 0⟩
  drops := ⟨0, 0, 0⟩
  sent := []
  replies := []

/-- What happens next: time passes, or a task takes its next step, which is at most what it does
under one lock. Those of a run of `deliver` name its place in `deliveries`, and those of a reader
its place in `readers`. An insert that has to make room goes on to its scan, one clock a step. -/
inductive Event
  | tick (later : Nat)
  | deliver (packet : List UInt8)
  | lookup (delivery : Nat)
  | connect (delivery : Nat) (connects : Bool)
  | insert (delivery : Nat) (order : List (UInt32 × Nat))
  | scan (delivery : Nat)
  | evict (delivery : Nat)
  | spawn (delivery : Nat)
  | touch (delivery : Nat)
  | send (delivery : Nat) (sends : Bool)
  | abandon (delivery : Nat)
  | loop (reader : Nat)
  | wake (reader : Nat)
  | readable (reader : Nat) (received : Except ErrorKind (List UInt8))
  | stop (reader : Nat)
  | forget (reader : Nat)
  | unbind

def unpack (this : UdpSessions) (decode : Decode) (packet : List UInt8) :
    Option (UInt32 × List UInt8 × Nat) :=
  let decoded : Option (DatagramHeader × List UInt8 × Nat) := match this.proxy with
    | some listener => (Packet.decodeFrom decode packet).map fun (header, visitor, payload) =>
        (header, Proxy.v2Udp visitor listener ++ payload, payload.length)
    | none => (decode packet).map fun (header, payload) => (header, payload, payload.length)
  match decoded with
  | none => none
  | some (header, datagram, len) =>
      if header.serviceId ≠ this.id then none else some (header.session, datagram, len)

def used (this : UdpSessions) (session : Nat) : Nat := (this.made[session]?.map (·.used)).getD 0

def cancelled (this : UdpSessions) (session : Nat) : Bool :=
  this.unbound || (this.made[session]?.map (·.cancelled)).getD false

def touched (this : UdpSessions) (session : Nat) : UdpSessions :=
  { this with made := this.made.modify session fun found => { found with used := this.now } }

def delivery (this : UdpSessions) (i : Nat) (found : Delivery) (stage : Delivering) : UdpSessions :=
  { this with deliveries := this.deliveries.set i { found with stage } }

def reader (this : UdpSessions) (i : Nat) (found : Reader) (stage : Reading) : UdpSessions :=
  { this with readers := this.readers.set i { found with stage } }

/-- The first of the quietest in the order the map is gone through. -/
def quietest (read : List ((UInt32 × Nat) × Nat)) : Option UInt32 :=
  (read.argmin fun (_, used) => used).map fun ((id, _), _) => id

def evict (this : UdpSessions) (oldest : Option UInt32) : UdpSessions :=
  match oldest.bind fun oldest => this.sessions[oldest]?.map (oldest, ·) with
  | none => this
  | some (oldest, gone) =>
      { this with
        sessions := this.sessions.erase oldest
        made := this.made.modify gone fun found => { found with cancelled := true }
        drops := { this.drops with atCap := this.drops.atCap + 1 } }

def full (this : UdpSessions) (id : UInt32) : Bool :=
  this.cap ≤ this.sessions.size && !this.sessions.contains id

def insert (this : UdpSessions) (id : UInt32) : Delivering × UdpSessions :=
  match this.sessions[id]? with
  | some held => (.touching held, this)
  | none =>
      (.spawning id this.made.length,
        { this with
          sessions := this.sessions.insert id this.made.length
          made := this.made ++ [⟨id, this.now, false⟩]
          meter := { this.meter with visitors := this.meter.visitors + 1 } })

def forget (this : UdpSessions) (id : UInt32) (session : Nat) : UdpSessions :=
  if this.sessions[id]? = some session then { this with sessions := this.sessions.erase id } else this

/-- What a task does once it has the locks it needs. -/
def turn (decode : Decode) (this : UdpSessions) : Event → Option UdpSessions
  | .tick later => some { this with now := this.now + later }
  | .deliver packet =>
      match this.unpack decode packet with
      | none => some { this with drops := { this.drops with unknown := this.drops.unknown + 1 } }
      | some (id, datagram, len) =>
          some { this with deliveries := this.deliveries ++ [⟨datagram, len, .looking id⟩] }
  | .lookup i =>
      match this.deliveries[i]? with
      | some ⟨datagram, len, .looking id⟩ =>
          let stage := match this.sessions[id]? with
            | some found => .touching found
            | none => .connecting id
          some (this.delivery i ⟨datagram, len, .looking id⟩ stage)
      | _ => none
  | .connect i connects =>
      match this.deliveries[i]? with
      | some ⟨datagram, len, .connecting id⟩ =>
          if connects then some (this.delivery i ⟨datagram, len, .connecting id⟩ (.inserting id))
          else
            some { this.delivery i ⟨datagram, len, .connecting id⟩ .done with
              drops := { this.drops with socket := this.drops.socket + 1 } }
      | _ => none
  | .insert i order =>
      match this.deliveries[i]? with
      | some ⟨datagram, len, .inserting id⟩ =>
          if ¬ order.Perm this.sessions.toList then none
          else if this.full id then
            some (this.delivery i ⟨datagram, len, .inserting id⟩ (.scanning id order []))
          else
            let (stage, this) := this.insert id
            some (this.delivery i ⟨datagram, len, .inserting id⟩ stage)
      | _ => none
  | .scan i =>
      match this.deliveries[i]? with
      | some ⟨datagram, len, .scanning id (session :: left) read⟩ =>
          some (this.delivery i ⟨datagram, len, .scanning id (session :: left) read⟩
            (.scanning id left (read ++ [(session, this.used session.2)])))
      | _ => none
  | .evict i =>
      match this.deliveries[i]? with
      | some ⟨datagram, len, .scanning id [] read⟩ =>
          let (stage, this) := (this.evict (quietest read)).insert id
          some (this.delivery i ⟨datagram, len, .scanning id [] read⟩ stage)
      | _ => none
  | .spawn i =>
      match this.deliveries[i]? with
      | some ⟨datagram, len, .spawning id session⟩ =>
          some { this.delivery i ⟨datagram, len, .spawning id session⟩ (.touching session) with
            readers := this.readers ++ [⟨id, session, .looping⟩] }
      | _ => none
  | .touch i =>
      match this.deliveries[i]? with
      | some ⟨datagram, len, .touching session⟩ =>
          some ((this.touched session).delivery i ⟨datagram, len, .touching session⟩ (.sending session))
      | _ => none
  | .send i sends =>
      match this.deliveries[i]? with
      | some ⟨datagram, len, .sending session⟩ =>
          let next := this.delivery i ⟨datagram, len, .sending session⟩ .done
          if sends then
            some { next with
              sent := this.sent ++ [(session, datagram)]
              meter := { this.meter with
                down := this.meter.down + len, datagramsDown := this.meter.datagramsDown + 1 } }
          else some { next with drops := { this.drops with socket := this.drops.socket + 1 } }
      | _ => none
  | .abandon i =>
      match this.deliveries[i]? with
      | some ⟨datagram, len, .connecting id⟩ => some (this.delivery i ⟨datagram, len, .connecting id⟩ .done)
      | some ⟨datagram, len, .sending session⟩ =>
          some (this.delivery i ⟨datagram, len, .sending session⟩ .done)
      | _ => none
  | .loop i =>
      match this.readers[i]? with
      | some ⟨id, session, .looping⟩ =>
          some (this.reader i ⟨id, session, .looping⟩ (.waiting (this.used session + this.idle)))
      | _ => none
  | .wake i =>
      match this.readers[i]? with
      | some ⟨id, session, .waiting expires⟩ =>
          if expires ≤ this.now then
            if this.used session + this.idle ≤ this.now then
              some ((this.forget id session).reader i ⟨id, session, .waiting expires⟩ .expired)
            else some (this.reader i ⟨id, session, .waiting expires⟩ .looping)
          else none
      | _ => none
  | .readable i received =>
      match this.readers[i]? with
      | some ⟨id, session, .waiting expires⟩ =>
          match received with
          | .ok payload =>
              some { (this.touched session).reader i ⟨id, session, .waiting expires⟩ .looping with
                replies := this.replies ++ [(⟨this.id, id⟩, payload)]
                meter := { this.meter with
                  up := this.meter.up + payload.length, datagramsUp := this.meter.datagramsUp + 1 } }
          | .error kind =>
              let stage := if kind = .wouldBlock ∨ survivable kind then .looping else .leaving .failed
              some (this.reader i ⟨id, session, .waiting expires⟩ stage)
      | _ => none
  | .stop i =>
      match this.readers[i]? with
      | some ⟨id, session, .waiting expires⟩ =>
          if this.cancelled session then
            some (this.reader i ⟨id, session, .waiting expires⟩ (.leaving .cancelled))
          else none
      | _ => none
  | .forget i =>
      match this.readers[i]? with
      | some ⟨id, session, .leaving exit⟩ =>
          some ((this.forget id session).reader i ⟨id, session, .leaving exit⟩ (.left exit))
      | _ => none
  | .unbind => some { this with unbound := true }

/-- The steps that take the sessions lock, which a scan keeps until it is done. -/
def Event.locks : Event → Bool
  | .lookup _ | .insert _ _ | .wake _ | .forget _ => true
  | _ => false

def locked (this : UdpSessions) : Bool := this.deliveries.any fun delivery => delivery.stage.scans

def step (decode : Decode) (this : UdpSessions) (event : Event) : Option UdpSessions :=
  if event.locks ∧ this.locked then none else this.turn decode event

end UdpSessions

def udpSessions (id : UInt16) (proxy : Option SocketAddr) (idle cap : Nat) (decode : Decode) :
    Lib.System UdpSessions UdpSessions.Event where
  initial this := ∃ now, this = .new id proxy idle cap now
  step this event next := this.step decode event = some next

/-- The service `demux` has deliver a packet. -/
def demux (decode : Decode) (registry : ExtTreeMap UInt16 UdpLocal) (packet : List UInt8) : Option UdpLocal :=
  match decode packet with
  | none => none
  | some (header, _) => registry[header.serviceId]?

end Hawse.Client
