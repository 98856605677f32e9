import Hawse.Proof.Packet
import Hawse.Udp

namespace Hawse.Proof.Udp
open Hawse.Udp Sender
open Hawse.Server (DatagramHeader)

inductive Outcome
  | datagram
  | bulk
  | socket
  | bulkFull
  | failed
deriving DecidableEq

section Step
variable {s : Sender} {packet : List UInt8} {path : Path}

/-- The transport evicts something exactly when it takes a datagram it has too little space for. -/
def Evicts (packet : List UInt8) (path : Path) : Prop :=
  0 < path.evicted ↔ path.sent = .ok () ∧ path.spaceAtSend < packet.length

/-- A datagram that the space check finds no room for is not turned away for its size, and still
finds no room when it is sent. -/
def Counted (packet : List UInt8) (path : Path) : Prop :=
  fits packet path = true → path.bufferSpace < packet.length →
    path.sent ≠ .error .datagramTooLarge ∧ path.sent ≠ .error .noDatagrams ∧
      (path.sent = .ok () → path.spaceAtSend < packet.length)

def losses (outcomes : List Outcome) : Nat :=
  outcomes.count .socket + outcomes.count .bulkFull + outcomes.count .failed

theorem losses_append (first second : List Outcome) : losses (first ++ second) = losses first + losses second := by
  simp only [losses, List.count_append]
  omega

/-- What one packet came to, and what was counted and evicted on the way. -/
structure Ended (s : Sender) (packet : Option (List UInt8)) (path : Path) (outcome : Outcome)
    (counted evicted : Nat) (next : Sender) : Prop where
  datagram : next.sent.datagram = s.sent.datagram + [outcome].count .datagram
  bulk : next.sent.bulk = s.sent.bulk + [outcome].count .bulk
  socket : next.drops.socket = s.drops.socket + [outcome].count .socket
  bulkFull : next.drops.bulkFull = s.drops.bulkFull + [outcome].count .bulkFull
  handed : next.datagrams = s.datagrams ++ if outcome = .datagram then packet.toList else []
  queued : next.bulk = s.bulk ++ if outcome = .bulk then packet.toList else []
  failed : outcome = .failed → path.sent = .error .connection ∨ path.sent = .error .io
  total : next.drops.total = s.drops.total + counted
  evicted : next.evicted = s.evicted + evicted

theorem trySend_ended (s : Sender) (packet : List UInt8) (path : Path) :
    ∃ outcome, Ended s (some packet) path outcome (losses [outcome]) 0 (s.trySend packet path) := by
  unfold trySend
  split_ifs with room
  · exact ⟨.bulk, rfl, rfl, rfl, rfl, by simp, rfl, by rintro ⟨⟩, rfl, rfl⟩
  · refine ⟨.bulkFull, rfl, rfl, rfl, rfl, by simp, by simp, by rintro ⟨⟩, ?_, rfl⟩
    simp only [DropCounts.total, losses]
    simp
    omega

def bump (packet : List UInt8) (path : Path) : Nat := if path.bufferSpace < packet.length then 1 else 0

theorem offer_eq (s : Sender) (packet : List UInt8) (path : Path) :
    s.offer packet path =
      { s with
        drops := { s.drops with queueFull := s.drops.queueFull + bump packet path }
        evicted := s.evicted + path.evicted } := by
  unfold offer bump
  split_ifs <;> rfl

theorem Ended.offered {outcome : Outcome} {counted evicted : Nat} {next : Sender} {packet : List UInt8}
    (ended : Ended (s.offer packet path) (some packet) path outcome counted evicted next) :
    Ended s (some packet) path outcome (bump packet path + counted) (path.evicted + evicted) next := by
  rw [offer_eq] at ended
  obtain ⟨datagram, bulk, socket, bulkFull, handed, queued, failed, total, evictions⟩ := ended
  refine ⟨datagram, bulk, socket, bulkFull, handed, queued, failed, ?_, ?_⟩
  · rw [total]
    simp only [DropCounts.total]
    omega
  · rw [evictions]
    dsimp only
    omega

theorem bump_le {limit : Nat} : bump packet path ≤ limit ↔ (path.bufferSpace < packet.length → 0 < limit) := by
  unfold bump
  split_ifs with full <;> simp [full, Nat.one_le_iff_ne_zero, Nat.pos_iff_ne_zero]

theorem Evicts.none_of_error {error : TransportError} (evicts : Evicts packet path) (refused : path.sent = .error error) :
    path.evicted = 0 := by
  by_contra some
  have taken := (evicts.mp (Nat.pos_of_ne_zero some)).1
  rw [refused] at taken
  cases taken

/-- What a packet came to, and that the call counts no more than is lost unless the queue was seen
full for a datagram that evicted nothing. -/
def Settled (s : Sender) (packet : List UInt8) (path : Path) (next : Sender) : Prop :=
  ∃ outcome counted evicted, Ended s (some packet) path outcome counted evicted next ∧
    (Evicts packet path → (counted ≤ evicted + losses [outcome] ↔ Counted packet path))

theorem settled_taken (small : fits packet path = true) (taken : path.sent = .ok ()) :
    Settled s packet path (s.dispatch (.ok packet) path) := by
  have ended : Ended (s.offer packet path) (some packet) path .datagram 0 0 (s.dispatch (.ok packet) path) := by
    simp only [dispatch, if_pos small, taken]
    exact ⟨rfl, rfl, rfl, rfl, rfl, (List.append_nil _).symm, by rintro ⟨⟩, rfl, rfl⟩
  refine ⟨_, _, _, ended.offered, ?_⟩
  intro evicts
  have evicted : 0 < path.evicted ↔ path.spaceAtSend < packet.length := evicts.trans (and_iff_right taken)
  have kept : Counted packet path ↔ (path.bufferSpace < packet.length → path.spaceAtSend < packet.length) := by
    simp [Counted, small, taken]
  rw [kept, ← evicted]
  exact bump_le

theorem settled_refused (small : fits packet path = true)
    (refused : path.sent = .error .datagramTooLarge ∨ path.sent = .error .noDatagrams) :
    Settled s packet path (s.dispatch (.ok packet) path) := by
  obtain ⟨outcome, tried⟩ := trySend_ended (s.offer packet path) packet path
  have same : s.dispatch (.ok packet) path = (s.offer packet path).trySend packet path := by
    simp only [dispatch, if_pos small]
    rcases refused with refused | refused <;> rw [refused]
  rw [same]
  refine ⟨outcome, _, _, tried.offered, ?_⟩
  intro evicts
  have none : path.evicted = 0 := by
    rcases refused with refused | refused <;> exact evicts.none_of_error refused
  have kept : Counted packet path ↔ ¬ path.bufferSpace < packet.length := by
    rcases refused with refused | refused <;> simp [Counted, small, refused]
  have seen : bump packet path ≤ 0 ↔ ¬ path.bufferSpace < packet.length := by
    rw [bump_le]
    simp
  rw [kept, ← seen, none]
  omega

theorem settled_failed (small : fits packet path = true)
    (failed : path.sent = .error .connection ∨ path.sent = .error .io) :
    Settled s packet path (s.dispatch (.ok packet) path) := by
  have ended : Ended (s.offer packet path) (some packet) path .failed 0 0 (s.dispatch (.ok packet) path) := by
    have same : s.dispatch (.ok packet) path = s.offer packet path := by
      simp only [dispatch, if_pos small]
      rcases failed with failed | failed <;> rw [failed]
    rw [same]
    exact ⟨rfl, rfl, rfl, rfl, (List.append_nil _).symm, (List.append_nil _).symm, fun _ => failed, rfl, rfl⟩
  refine ⟨_, _, _, ended.offered, ?_⟩
  intro _
  have kept : Counted packet path := by
    rcases failed with failed | failed <;> simp [Counted, failed]
  refine iff_of_true (bump_le.mpr ?_) kept
  intro _
  exact Nat.lt_add_left _ (by decide)

theorem settled_bulk (large : fits packet path ≠ true) : Settled s packet path (s.dispatch (.ok packet) path) := by
  obtain ⟨outcome, tried⟩ := trySend_ended s packet path
  have same : s.dispatch (.ok packet) path = s.trySend packet path := by simp only [dispatch, if_neg large]
  rw [same]
  refine ⟨outcome, _, _, tried, ?_⟩
  intro _
  exact iff_of_true (Nat.le_add_left _ _) fun fitting => absurd fitting large

theorem dispatch_settled (s : Sender) (packet : List UInt8) (path : Path) :
    Settled s packet path (s.dispatch (.ok packet) path) := by
  by_cases small : fits packet path = true
  · rcases taken : path.sent with error | ⟨⟩
    · cases error with
      | datagramTooLarge => exact settled_refused small (.inl taken)
      | noDatagrams => exact settled_refused small (.inr taken)
      | connection => exact settled_failed small (.inl taken)
      | io => exact settled_failed small (.inr taken)
    · exact settled_taken small taken
  · exact settled_bulk small

theorem dispatch_socket (s : Sender) (error : FrameError) (path : Path) :
    Ended s none path .socket 1 0 (s.dispatch (.error error) path) := by
  refine ⟨rfl, rfl, rfl, rfl, (List.append_nil _).symm, (List.append_nil _).symm, by rintro ⟨⟩, ?_, rfl⟩
  simp only [DropCounts.total, dispatch]
  omega

end Step

section Run
variable [Slice DatagramHeader]

def packetOf : Request × Path → Except FrameError (List UInt8)
  | (.send header payload, _) => Packet.encode header payload
  | (.sendFrom header visitor payload, _) => Packet.encodeFrom header visitor payload

def EvictsIn (call : Request × Path) : Prop := ∀ packet, packetOf call = .ok packet → Evicts packet call.2

def CountedIn (call : Request × Path) : Prop := ∀ packet, packetOf call = .ok packet → Counted packet call.2

theorem call_eq (s : Sender) (call : Request × Path) : s.call call = s.dispatch (packetOf call) call.2 := by
  obtain ⟨request, path⟩ := call
  cases request <;> rfl

theorem call_ended (s : Sender) (call : Request × Path) :
    ∃ outcome counted evicted, Ended s (packetOf call).toOption call.2 outcome counted evicted (s.call call) ∧
      (EvictsIn call → (counted ≤ evicted + losses [outcome] ↔ CountedIn call)) := by
  rw [call_eq]
  unfold EvictsIn CountedIn
  cases packetOf call with
  | error error =>
      refine ⟨_, _, _, dispatch_socket s error call.2, ?_⟩
      intro _
      exact iff_of_true (by decide) (by rintro _ ⟨⟩)
  | ok packet =>
      obtain ⟨outcome, counted, evicted, ended, exactly⟩ := dispatch_settled s packet call.2
      refine ⟨outcome, counted, evicted, ended, ?_⟩
      intro evicts
      rw [exactly (evicts packet rfl)]
      simp

def packetsOf (outcome : Outcome) (calls : List (Request × Path)) (outcomes : List Outcome) : List (List UInt8) :=
  (calls.zip outcomes).flatMap fun (call, came) => if came = outcome then (packetOf call).toOption.toList else []

/-- Every call came to one thing, and the counters and both queues tell of nothing else. -/
structure Accounted (calls : List (Request × Path)) (outcomes : List Outcome) (s : Sender) : Prop where
  each : outcomes.length = calls.length
  datagram : s.sent.datagram = outcomes.count .datagram
  bulk : s.sent.bulk = outcomes.count .bulk
  socket : s.drops.socket = outcomes.count .socket
  bulkFull : s.drops.bulkFull = outcomes.count .bulkFull
  handed : s.datagrams = packetsOf .datagram calls outcomes
  queued : s.bulk = packetsOf .bulk calls outcomes
  failed : ∀ call, (call, Outcome.failed) ∈ calls.zip outcomes →
    call.2.sent = .error .connection ∨ call.2.sent = .error .io

theorem packetsOf_append {outcome came : Outcome} {calls : List (Request × Path)} {outcomes : List Outcome}
    (each : outcomes.length = calls.length) (call : Request × Path) :
    packetsOf outcome (calls ++ [call]) (outcomes ++ [came]) =
      packetsOf outcome calls outcomes ++ if came = outcome then (packetOf call).toOption.toList else [] := by
  unfold packetsOf
  rw [List.zip_append each.symm, List.flatMap_append]
  simp

theorem Accounted.call {calls : List (Request × Path)} {outcomes : List Outcome} {s : Sender}
    (accounted : Accounted calls outcomes s) {call : Request × Path} {outcome : Outcome} {counted evicted : Nat}
    {next : Sender} (ended : Ended s (packetOf call).toOption call.2 outcome counted evicted next) :
    Accounted (calls ++ [call]) (outcomes ++ [outcome]) next := by
  refine ⟨?_, ?_, ?_, ?_, ?_, ?_, ?_, ?_⟩
  · rw [List.length_append, List.length_append, accounted.each]
    rfl
  · rw [ended.datagram, accounted.datagram, List.count_append]
  · rw [ended.bulk, accounted.bulk, List.count_append]
  · rw [ended.socket, accounted.socket, List.count_append]
  · rw [ended.bulkFull, accounted.bulkFull, List.count_append]
  · rw [ended.handed, accounted.handed, packetsOf_append accounted.each]
  · rw [ended.queued, accounted.queued, packetsOf_append accounted.each]
  · intro other member
    rw [List.zip_append accounted.each.symm] at member
    rcases List.mem_append.mp member with member | member
    · exact accounted.failed other member
    · obtain ⟨rfl, rfl⟩ := Prod.mk.inj (List.mem_singleton.mp member)
      exact ended.failed rfl

def lost (outcomes : List Outcome) (s : Sender) : Nat := s.evicted + losses outcomes

theorem calls_accounted (calls : List (Request × Path)) :
    ∃ outcomes, Accounted calls outcomes (calls.foldl Sender.call .new) ∧
      ((∀ call ∈ calls, EvictsIn call ∧ CountedIn call) →
        (calls.foldl Sender.call .new).drops.total ≤ lost outcomes (calls.foldl Sender.call .new)) := by
  induction calls using List.reverseRecOn with
  | nil => exact ⟨[], ⟨rfl, rfl, rfl, rfl, rfl, rfl, rfl, by simp⟩, fun _ => le_rfl⟩
  | append_singleton calls call ih =>
      obtain ⟨outcomes, accounted, bounded⟩ := ih
      rw [List.foldl_append, List.foldl_cons, List.foldl_nil]
      obtain ⟨outcome, counted, evicted, ended, exactly⟩ := call_ended (calls.foldl Sender.call .new) call
      refine ⟨outcomes ++ [outcome], accounted.call ended, ?_⟩
      intro good
      have before := bounded fun call member => good call (List.mem_append_left _ member)
      obtain ⟨evicts, counts⟩ := good call (by simp)
      have now := (exactly evicts).mpr counts
      rw [ended.total, lost, ended.evicted, losses_append]
      unfold lost at before
      omega

end Run

/-- The last part is about one call more: it takes the total past what is lost exactly when the queue
is seen full for a datagram that evicts nothing. -/
theorem drops_accounted [Slice DatagramHeader] (calls : List (Request × Path))
    (evicts : ∀ call ∈ calls, EvictsIn call) :
    ∃ outcomes, Accounted calls outcomes (calls.foldl Sender.call .new) ∧
      ((∀ call ∈ calls, CountedIn call) →
        (calls.foldl Sender.call .new).drops.total ≤ lost outcomes (calls.foldl Sender.call .new)) ∧
      ∀ call, EvictsIn call → ∃ outcome,
        Accounted (calls ++ [call]) (outcomes ++ [outcome]) ((calls.foldl Sender.call .new).call call) ∧
        ((((calls.foldl Sender.call .new).call call).drops.total : Int) - (calls.foldl Sender.call .new).drops.total ≤
          lost (outcomes ++ [outcome]) ((calls.foldl Sender.call .new).call call) -
            lost outcomes (calls.foldl Sender.call .new) ↔ CountedIn call) := by
  obtain ⟨outcomes, accounted, bounded⟩ := calls_accounted calls
  refine ⟨outcomes, accounted, fun counts => bounded fun call member => ⟨evicts call member, counts call member⟩, ?_⟩
  intro call good
  obtain ⟨outcome, counted, evicted, ended, exactly⟩ := call_ended (calls.foldl Sender.call .new) call
  refine ⟨outcome, accounted.call ended, ?_⟩
  rw [← exactly good, ended.total, lost, lost, ended.evicted, losses_append]
  omega

section Example
open Proof.Packet (encode_eq slice lawfulSlice)
attribute [local instance] slice lawfulSlice

/-- An empty payload in a queue of no space, which is two bytes of header. -/
def ping (spaceAtSend : Nat) (sent : Except TransportError Unit) (evicted : Nat) : Request × Path :=
  (.send ⟨1, 1⟩ [], ⟨some 1200, 0, spaceAtSend, sent, evicted, true⟩)

theorem ping_packet (spaceAtSend : Nat) (sent : Except TransportError Unit) (evicted : Nat) :
    ∃ packet, packetOf (ping spaceAtSend sent evicted) = .ok packet ∧ packet.length = 2 := by
  refine ⟨Slice.write (⟨1, 1⟩ : DatagramHeader) ++ [], ?_, ?_⟩
  · exact (encode_eq ⟨1, 1⟩ []).trans (if_neg (by decide))
  · rw [List.append_nil, lawfulSlice.write_length]
    decide

/-- The queue is full, and evicts one for the datagram. -/
theorem drops_accounted_evicted :
    ∃ outcomes, Accounted [ping 0 (.ok ()) 1] outcomes (Sender.new.call (ping 0 (.ok ()) 1)) ∧
      (Sender.new.call (ping 0 (.ok ()) 1)).drops.total ≤ lost outcomes (Sender.new.call (ping 0 (.ok ()) 1)) := by
  obtain ⟨packet, made, length⟩ := ping_packet 0 (.ok ()) 1
  have only {found : List UInt8} (same : packetOf (ping 0 (.ok ()) 1) = .ok found) : found = packet :=
    Except.ok.inj (same.symm.trans made)
  have evicts : ∀ call ∈ [ping 0 (.ok ()) 1], EvictsIn call := by
    intro call member found same
    obtain rfl := List.mem_singleton.mp member
    rw [only same]
    exact iff_of_true Nat.one_pos ⟨rfl, length ▸ Nat.two_pos⟩
  obtain ⟨outcomes, accounted, bounded, -⟩ := drops_accounted [ping 0 (.ok ()) 1] evicts
  refine ⟨outcomes, accounted, bounded ?_⟩
  intro call member found same
  obtain rfl := List.mem_singleton.mp member
  rw [only same]
  exact fun _ _ => ⟨by rintro ⟨⟩, by rintro ⟨⟩, fun _ => length ▸ Nat.two_pos⟩

/-- The path's limit shrinks between the check and the send: the packet goes out on the bulk stream,
nothing is lost, and one datagram is counted as dropped. -/
theorem shrunk_path_overcounts :
    EvictsIn (ping 0 (.error .datagramTooLarge) 0) ∧
    (Sender.new.call (ping 0 (.error .datagramTooLarge) 0)).sent = ⟨0, 1⟩ ∧
    (Sender.new.call (ping 0 (.error .datagramTooLarge) 0)).drops.total = 1 ∧
    ∀ outcomes, Accounted [ping 0 (.error .datagramTooLarge) 0] outcomes
        (Sender.new.call (ping 0 (.error .datagramTooLarge) 0)) →
      lost outcomes (Sender.new.call (ping 0 (.error .datagramTooLarge) 0)) = 0 := by
  obtain ⟨packet, made, length⟩ := ping_packet 0 (.error .datagramTooLarge) 0
  have state : Sender.new.call (ping 0 (.error .datagramTooLarge) 0) =
      ⟨{ DropCounts.default with queueFull := 1 }, ⟨0, 1⟩, [], [packet], 0⟩ := by
    rw [call_eq, made]
    simp [ping, dispatch, fits, offer, trySend, queueFull, length, Sender.new, DropCounts.default]
  rw [state]
  refine ⟨?_, rfl, rfl, ?_⟩
  · intro found _
    exact iff_of_false (Nat.lt_irrefl 0) (by rintro ⟨⟨⟩, -⟩)
  · intro outcomes accounted
    obtain ⟨outcome, rfl⟩ := List.length_eq_one_iff.mp accounted.each
    have one := accounted.bulk
    cases outcome with
    | bulk => rfl
    | datagram | socket | bulkFull | failed => cases one

end Example
end Hawse.Proof.Udp
