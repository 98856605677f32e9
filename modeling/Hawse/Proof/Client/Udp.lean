import Hawse.Client.Udp
import Hawse.Lib.Lists
import Hawse.Proof.Server.Udp

namespace Hawse.Proof.Client.Udp
open Lib Hawse.Client

section Tasks

/-- It has the session in hand, from under the lock it took it under until its datagram is out. -/
def Holds : Delivering → Nat → Prop
  | .touching session, h | .sending session, h => session = h
  | _, _ => False

def opens (h : Nat) (delivery : Delivery) : Bool :=
  match delivery.stage with
  | .spawning _ session => session = h
  | _ => false

def reads (h : Nat) (reader : Reader) : Bool := reader.session = h

/-- The readers of a session, and the runs of `deliver` about to start one. -/
def tasks (this : UdpSessions) (h : Nat) : Nat :=
  this.readers.countP (reads h) + this.deliveries.countP (opens h)

def marks (this : UdpSessions) : List (UInt32 × Bool) := this.made.map fun session => (session.id, session.cancelled)

end Tasks

section Evict
variable {this : UdpSessions} {id : UInt32} {left : List (UInt32 × Nat)} {read : List ((UInt32 × Nat) × Nat)}

/-- What a scan knows of the table it keeps locked. Its session may be used after its clock was read,
so a clock read is one of the past. -/
structure Scanned (this : UdpSessions) (id : UInt32) (left : List (UInt32 × Nat))
    (read : List ((UInt32 × Nat) × Nat)) : Prop where
  absent : this.sessions[id]? = none
  full : this.cap ≤ this.sessions.size
  all : (read.map (·.1) ++ left).Perm this.sessions.toList
  past : ∀ clock ∈ read, clock.2 ≤ this.used clock.1.2

/-- The session `gone` goes, whose clock as the scan read it is the least of those it read. -/
structure Quietest (this : UdpSessions) (read : List ((UInt32 × Nat) × Nat)) (oldest : UInt32) (gone : Nat) : Prop where
  held : this.sessions[oldest]? = some gone
  least : ∃ used, ((oldest, gone), used) ∈ read ∧ ∀ clock ∈ read, used ≤ clock.2

inductive Evicted (this : UdpSessions) (read : List ((UInt32 × Nat) × Nat)) : UdpSessions → Prop
  | room (short : this.sessions.size < this.cap) : Evicted this read this
  | empty (size : this.sessions.size = 0) : Evicted this read this
  | full (oldest : UInt32) (gone : Nat) (quietest : Quietest this read oldest gone) :
      Evicted this read { this with
        sessions := this.sessions.erase oldest
        made := this.made.modify gone fun found => { found with cancelled := true }
        drops := { this.drops with atCap := this.drops.atCap + 1 } }

theorem Scanned.evicted (scanned : Scanned this id [] read) :
    Evicted this read (this.evict (UdpSessions.quietest read)) := by
  have all : (read.map (·.1)).Perm this.sessions.toList := by simpa using scanned.all
  have listed (clock : (UInt32 × Nat) × Nat) (member : clock ∈ read) : this.sessions[clock.1.1]? = some clock.1.2 := by
    rw [← Std.ExtTreeMap.mem_toList_iff_getElem?_eq_some]
    exact all.mem_iff.mp (List.mem_map_of_mem member)
  unfold UdpSessions.evict
  cases chosen : UdpSessions.quietest read with
  | none =>
      have unread := List.argmin_eq_none.mp (Option.map_eq_none_iff.mp chosen)
      refine .empty ?_
      rw [← Std.ExtTreeMap.length_toList, ← all.length_eq, unread]
      rfl
  | some quietest =>
      obtain ⟨⟨⟨oldest, gone⟩, used⟩, first, rfl⟩ := Option.map_eq_some_iff.mp chosen
      have member := List.argmin_mem first
      have held : this.sessions[oldest]? = some gone := listed _ member
      simp only [Option.bind_some, held, Option.map_some]
      exact .full oldest gone ⟨held, used, member, fun clock other => List.le_of_mem_argmin other first⟩

end Evict

section Moved

/-- A scan starts, with no other under way, or reads its next clock. -/
inductive Reads (this : UdpSessions) : Delivering → Delivering → Prop
  | start (id : UInt32) (order : List (UInt32 × Nat)) (unlocked : this.locked = false)
      (absent : this.sessions[id]? = none) (full : this.cap ≤ this.sessions.size)
      (all : order.Perm this.sessions.toList) : Reads this (.inserting id) (.scanning id order [])
  | next (id : UInt32) (session : UInt32 × Nat) (left : List (UInt32 × Nat)) (read : List ((UInt32 × Nat) × Nat)) :
      Reads this (.scanning id (session :: left) read)
        (.scanning id left (read ++ [(session, this.used session.2)]))

/-- A stage of `deliver` after another, with neither of them about to start a reader. A session in
hand after it was before, or is in the table. -/
structure Goes (this : UdpSessions) (event : UdpSessions.Event) (i : Nat) (before after : Delivery) : Prop where
  opened : ∀ h, opens h before = false
  opening : ∀ h, opens h after = false
  holds : ∀ h, Holds after.stage h → Holds before.stage h ∨ ∃ id : UInt32, this.sessions[id]? = some h
  scans : after.stage.scans = true → Reads this before.stage after.stage
  own : before.stage.scans = true → event = .scan i

/-- A turn of a reader's loop that does not end it, or one that breaks it off. -/
inductive Turns (this : UdpSessions) (session : Nat) : Reading → Reading → Prop
  | loop (expires : Nat) : Turns this session .looping (.waiting expires)
  | again (expires : Nat) : Turns this session (.waiting expires) .looping
  | fail (expires : Nat) : Turns this session (.waiting expires) (.leaving .failed)
  | stop (expires : Nat) (cancelled : this.cancelled session = true) :
      Turns this session (.waiting expires) (.leaving .cancelled)

/-- The two ways a reader returns, each of which takes its session out of the table. -/
inductive Returns (this : UdpSessions) (event : UdpSessions.Event) (i session : Nat) : Reading → Reading → Prop
  | expire (expires : Nat) (woken : event = .wake i) (idle : this.used session + this.idle ≤ this.now) :
      Returns this event i session (.waiting expires) .expired
  | leave (exit : Exit) : Returns this event i session (.leaving exit) (.left exit)

/-- What a step can do to the table, the sessions and the tasks. -/
inductive Moved (this : UdpSessions) (event : UdpSessions.Event) (next : UdpSessions) : Prop
  | idle (marks : marks next = marks this) (sessions : next.sessions = this.sessions)
      (readers : next.readers = this.readers) (deliveries : next.deliveries = this.deliveries)
  | arrived (delivery : Delivery) (id : UInt32) (stage : delivery.stage = .looking id)
      (marks : marks next = marks this) (sessions : next.sessions = this.sessions)
      (readers : next.readers = this.readers) (deliveries : next.deliveries = this.deliveries ++ [delivery])
  | delivered (i : Nat) (before after : Delivery) (found : this.deliveries[i]? = some before)
      (goes : Goes this event i before after) (marks : marks next = marks this)
      (sessions : next.sessions = this.sessions) (readers : next.readers = this.readers)
      (deliveries : next.deliveries = this.deliveries.set i after)
  | inserted (i : Nat) (before after : Delivery) (id : UInt32) (found : this.deliveries[i]? = some before)
      (opened : ∀ h, opens h before = false)
      (locks : this.locked = true → before.stage.scans = true ∧ event = .evict i)
      (spawning : after.stage = .spawning id this.made.length)
      (absent : this.sessions[id]? = none) (read : List ((UInt32 × Nat) × Nat)) (evicted : UdpSessions)
      (evicts : Evicted this read evicted) (made : next.made = evicted.made ++ [⟨id, this.now, false⟩])
      (sessions : next.sessions = evicted.sessions.insert id this.made.length)
      (readers : next.readers = this.readers) (deliveries : next.deliveries = this.deliveries.set i after)
  | spawned (i : Nat) (before after : Delivery) (id : UInt32) (h : Nat)
      (found : this.deliveries[i]? = some before) (spawning : before.stage = .spawning id h)
      (touching : after.stage = .touching h) (marks : marks next = marks this)
      (sessions : next.sessions = this.sessions) (readers : next.readers = this.readers ++ [⟨id, h, .looping⟩])
      (deliveries : next.deliveries = this.deliveries.set i after)
  | turned (i : Nat) (reader : Reader) (stage : Reading) (found : this.readers[i]? = some reader)
      (turns : Turns this reader.session reader.stage stage) (marks : marks next = marks this)
      (sessions : next.sessions = this.sessions) (readers : next.readers = this.readers.set i { reader with stage })
      (deliveries : next.deliveries = this.deliveries)
  | returned (i : Nat) (reader : Reader) (stage : Reading) (found : this.readers[i]? = some reader)
      (unlocked : this.locked = false) (returns : Returns this event i reader.session reader.stage stage) (marks : marks next = marks this)
      (sessions : next.sessions = (this.forget reader.id reader.session).sessions)
      (readers : next.readers = this.readers.set i { reader with stage })
      (deliveries : next.deliveries = this.deliveries)

structure Kept (this next : UdpSessions) : Prop where
  cap : next.cap = this.cap
  unbound : this.unbound = true → next.unbound = true
  now : this.now ≤ next.now
  clocks : ∀ (h : Nat) (session : LocalSession), next.made[h]? = some session →
    session.used = this.now ∨ ∃ before : LocalSession, this.made[h]? = some before ∧ session.used = before.used
  visitors : next.meter.visitors + (marks this).length = this.meter.visitors + (marks next).length

section Steps
variable {this next : UdpSessions} {event : UdpSessions.Event}

theorem marks_touched (session : Nat) : marks (this.touched session) = marks this := by
  unfold marks UdpSessions.touched
  apply List.ext_getElem?
  intro i
  simp only [List.getElem?_map, List.getElem?_modify]
  split_ifs <;> cases this.made[i]? <;> rfl

theorem forget_eq (id : UInt32) (session : Nat) :
    this.forget id session = { this with sessions := (this.forget id session).sessions } := by
  unfold UdpSessions.forget
  split_ifs <;> rfl

theorem Evicted.kept {read : List ((UInt32 × Nat) × Nat)} {evicted : UdpSessions}
    (evicts : Evicted this read evicted) :
    evicted = { this with sessions := evicted.sessions, made := evicted.made, drops := evicted.drops } ∧
      evicted.made.length = this.made.length := by
  cases evicts with
  | room | empty => exact ⟨rfl, rfl⟩
  | full => exact ⟨rfl, List.length_modify _ _ _⟩

theorem Evicted.fewer {read : List ((UInt32 × Nat) × Nat)} {evicted : UdpSessions}
    (evicts : Evicted this read evicted) {id : UInt32} {h : Nat}
    (held : evicted.sessions[id]? = some h) : this.sessions[id]? = some h := by
  cases evicts with
  | room | empty => exact held
  | full oldest gone =>
      rw [Std.ExtTreeMap.getElem?_erase] at held
      split_ifs at held
      exact held

theorem Evicted.clocks {read : List ((UInt32 × Nat) × Nat)} {evicted : UdpSessions}
    (evicts : Evicted this read evicted) {h : Nat} {session : LocalSession} (made : evicted.made[h]? = some session) :
    ∃ before, this.made[h]? = some before ∧ session.used = before.used := by
  cases evicts with
  | room | empty => exact ⟨session, made, rfl⟩
  | full oldest gone =>
      rw [List.getElem?_modify] at made
      split_ifs at made
      · obtain ⟨before, was, rfl⟩ := Option.map_eq_some_iff.mp made
        exact ⟨before, was, rfl⟩
      · exact ⟨session, by simpa using made, rfl⟩

theorem Goes.still {i : Nat} {before after : Delivery} (was : before.stage.scans = false)
    (still : after.stage.scans = false) (opened : ∀ h, opens h before = false) (opening : ∀ h, opens h after = false)
    (holds : ∀ h, Holds after.stage h → Holds before.stage h ∨ ∃ id : UInt32, this.sessions[id]? = some h) :
    Goes this event i before after where
  opened := opened
  opening := opening
  holds := holds
  scans scans := by cases still.symm.trans scans
  own scans := by cases was.symm.trans scans

theorem Goes.free {i : Nat} {before after : Delivery} (was : before.stage.scans = false)
    (still : after.stage.scans = false) (opened : ∀ h, opens h before = false) (opening : ∀ h, opens h after = false)
    (free : ∀ h, ¬ Holds after.stage h) : Goes this event i before after :=
  .still was still opened opening fun h holds => absurd holds (free h)

theorem Goes.done {i : Nat} {datagram : List UInt8} {len : Nat} {stage : Delivering} (was : stage.scans = false)
    (opened : ∀ h, opens h ⟨datagram, len, stage⟩ = false) :
    Goes this event i ⟨datagram, len, stage⟩ ⟨datagram, len, .done⟩ :=
  .free was rfl opened (fun _ => rfl) fun _ holds => holds

theorem Kept.of_made (cap : next.cap = this.cap) (unbound : next.unbound = this.unbound)
    (now : next.now = this.now) (visitors : next.meter.visitors = this.meter.visitors)
    (made : next.made = this.made) : Kept this next where
  cap := cap
  unbound := unbound.trans
  now := now.ge
  clocks h session there := .inr ⟨session, made ▸ there, rfl⟩
  visitors := by rw [visitors, marks, marks, made]

theorem Kept.of_touched (session : Nat) (cap : next.cap = this.cap) (unbound : next.unbound = this.unbound)
    (now : next.now = this.now) (visitors : next.meter.visitors = this.meter.visitors)
    (made : next.made = (this.touched session).made) : Kept this next where
  cap := cap
  unbound := unbound.trans
  now := now.ge
  clocks := by
    intro h found there
    rw [made, UdpSessions.touched, List.getElem?_modify] at there
    split_ifs at there
    · obtain ⟨before, was, rfl⟩ := Option.map_eq_some_iff.mp there
      exact .inl rfl
    · exact .inr ⟨found, by simpa using there, rfl⟩
  visitors := by rw [visitors, show marks next = marks this by rw [marks, made]; exact marks_touched session]

theorem full_iff {id : UInt32} :
    this.full id = true ↔ this.cap ≤ this.sessions.size ∧ this.sessions[id]? = none := by
  rw [UdpSessions.full, Std.ExtTreeMap.contains_eq_isSome_getElem?]
  cases this.sessions[id]? <;> simp

theorem insert_moved {i : Nat} {delivery : Delivery} {id : UInt32} {read : List ((UInt32 × Nat) × Nat)}
    {evicted : UdpSessions} (found : this.deliveries[i]? = some delivery) (opened : ∀ h, opens h delivery = false)
    (locks : this.locked = true → delivery.stage.scans = true ∧ event = .evict i) (absent : this.sessions[id]? = none)
    (evicts : Evicted this read evicted) :
    Moved this event ((evicted.insert id).2.delivery i delivery (evicted.insert id).1) ∧
    Kept this ((evicted.insert id).2.delivery i delivery (evicted.insert id).1) := by
  have same : evicted.sessions[id]? = none := by
    by_contra some
    obtain ⟨h, still⟩ := Option.ne_none_iff_exists'.mp some
    cases absent.symm.trans (evicts.fewer still)
  obtain ⟨kept, length⟩ := evicts.kept
  have now : evicted.now = this.now := by rw [kept]
  have meter : evicted.meter = this.meter := by rw [kept]
  simp only [UdpSessions.insert, same]
  refine ⟨.inserted i _ { delivery with stage := .spawning id this.made.length } id found opened locks rfl absent
    read evicted evicts ?_ ?_ ?_ ?_, ?_, ?_, ?_, ?_, ?_⟩
  · rw [← now]
    rfl
  · rw [← length]
    rfl
  · rw [kept]
    rfl
  · rw [kept, ← length]
    rfl
  · rw [kept]
    rfl
  · rw [kept]
    exact fun same => same
  · exact now.ge
  · intro h session there
    by_cases bound : h < evicted.made.length
    · rw [show (UdpSessions.delivery _ i delivery (.spawning id evicted.made.length)).made =
        evicted.made ++ [⟨id, evicted.now, false⟩] from rfl, List.getElem?_append_left bound] at there
      exact .inr (evicts.clocks there)
    · rw [show (UdpSessions.delivery _ i delivery (.spawning id evicted.made.length)).made =
        evicted.made ++ [⟨id, evicted.now, false⟩] from rfl, List.getElem?_append_right (Nat.le_of_not_lt bound)] at there
      obtain rfl := List.mem_singleton.mp (List.mem_of_getElem? there)
      exact .inl now
  · simp only [marks, UdpSessions.delivery, List.length_map, List.length_append, length, List.length_singleton, meter]
    omega

/-- One scan at most is under way, and it knows the table. -/
structure Scans (this : UdpSessions) : Prop where
  alone : this.deliveries.countP (fun delivery => delivery.stage.scans) ≤ 1
  scanned : ∀ delivery ∈ this.deliveries, ∀ id left read, delivery.stage = .scanning id left read →
    Scanned this id left read

theorem step_turn {decode : Server.Decode} (stepped : this.step decode event = some next) :
    this.turn decode event = some next ∧ (event.locks = true → this.locked = false) := by
  unfold UdpSessions.step at stepped
  split_ifs at stepped with locked
  exact ⟨stepped, fun locks => Bool.eq_false_iff.mpr fun taken => locked ⟨locks, taken⟩⟩

/-- A run of `deliver` goes on, and changes nothing but where it is. -/
theorem goes_moved {i : Nat} {delivery : Delivery} {stage : Delivering} (found : this.deliveries[i]? = some delivery)
    (goes : Goes this event i delivery { delivery with stage }) :
    Moved this event (this.delivery i delivery stage) ∧ Kept this (this.delivery i delivery stage) :=
  ⟨.delivered i _ _ found goes rfl rfl rfl rfl, .of_made rfl rfl rfl rfl rfl⟩

/-- An insert finds the session there, has room for a new one, or starts its scan. -/
theorem turn_insert {decode : Server.Decode} {i : Nat} {order : List (UInt32 × Nat)} (unlocked : this.locked = false)
    (turned : this.turn decode (.insert i order) = some next) : Moved this (.insert i order) next ∧ Kept this next := by
  simp only [UdpSessions.turn] at turned
  split at turned
  · rename_i datagram len id found
    split_ifs at turned with all full
    · obtain rfl := Option.some.inj turned
      obtain ⟨full, absent⟩ := full_iff.mp full
      exact goes_moved found ⟨fun _ => rfl, fun _ => rfl, fun _ holds => holds.elim,
        fun _ => .start id order unlocked absent full all, fun scans => by cases scans⟩
    · obtain rfl := Option.some.inj turned
      cases held : this.sessions[id]? with
      | some h =>
          simp only [UdpSessions.insert, held]
          refine goes_moved found (.still rfl rfl (fun _ => rfl) (fun _ => rfl) ?_)
          rintro _ rfl
          exact .inr ⟨id, held⟩
      | none =>
          have short : this.sessions.size < this.cap :=
            Nat.lt_of_not_le fun above => full (full_iff.mpr ⟨above, held⟩)
          have room : Evicted this [] this := .room short
          refine insert_moved found (fun _ => rfl) (fun taken => ?_) held room
          cases unlocked.symm.trans taken
  · cases turned

theorem step_moved {decode : Server.Decode} (scans : Scans this) (stepped : this.step decode event = some next) :
    Moved this event next ∧ Kept this next := by
  obtain ⟨stepped, unlocked⟩ := step_turn stepped
  cases event with
  | tick later =>
      obtain rfl := Option.some.inj stepped
      exact ⟨.idle rfl rfl rfl rfl, rfl, fun same => same, Nat.le_add_right _ _,
        fun h session there => .inr ⟨session, there, rfl⟩, rfl⟩
  | unbind =>
      obtain rfl := Option.some.inj stepped
      exact ⟨.idle rfl rfl rfl rfl, rfl, fun _ => rfl, le_rfl,
        fun h session there => .inr ⟨session, there, rfl⟩, rfl⟩
  | deliver packet =>
      simp only [UdpSessions.turn] at stepped
      split at stepped
      · obtain rfl := Option.some.inj stepped
        exact ⟨.idle rfl rfl rfl rfl, .of_made rfl rfl rfl rfl rfl⟩
      · rename_i id datagram len unpacked
        obtain rfl := Option.some.inj stepped
        exact ⟨.arrived ⟨datagram, len, .looking id⟩ id rfl rfl rfl rfl rfl, .of_made rfl rfl rfl rfl rfl⟩
  | lookup i =>
      simp only [UdpSessions.turn] at stepped
      split at stepped
      · rename_i datagram len id found
        obtain rfl := Option.some.inj stepped
        refine goes_moved found ?_
        cases held : this.sessions[id]? with
        | some h =>
            refine .still rfl rfl (fun _ => rfl) (fun _ => rfl) ?_
            rintro _ rfl
            exact .inr ⟨id, held⟩
        | none => exact .free rfl rfl (fun _ => rfl) (fun _ => rfl) fun _ holds => holds
      · cases stepped
  | connect i connects =>
      simp only [UdpSessions.turn] at stepped
      split at stepped
      · rename_i datagram len id found
        split_ifs at stepped
        · obtain rfl := Option.some.inj stepped
          exact goes_moved found (.free rfl rfl (fun _ => rfl) (fun _ => rfl) fun _ holds => holds)
        · obtain rfl := Option.some.inj stepped
          have goes : Goes this (.connect i connects) i ⟨datagram, len, .connecting id⟩ ⟨datagram, len, .done⟩ := .done rfl fun _ => rfl
          exact ⟨.delivered i _ _ found goes rfl rfl rfl rfl, .of_made rfl rfl rfl rfl rfl⟩
      · cases stepped
  | insert i order => exact turn_insert (unlocked rfl) stepped
  | scan i =>
      simp only [UdpSessions.turn] at stepped
      split at stepped
      · rename_i datagram len id session left read found
        obtain rfl := Option.some.inj stepped
        exact goes_moved found ⟨fun _ => rfl, fun _ => rfl, fun _ holds => holds.elim,
          fun _ => .next id session left read, fun _ => rfl⟩
      · cases stepped
  | evict i =>
      simp only [UdpSessions.turn] at stepped
      split at stepped
      · rename_i datagram len id read found
        obtain rfl := Option.some.inj stepped
        have scanned := scans.scanned _ (List.mem_of_getElem? found) id [] read rfl
        exact insert_moved found (fun _ => rfl) (fun _ => ⟨rfl, rfl⟩) scanned.absent scanned.evicted
      · cases stepped
  | spawn i =>
      simp only [UdpSessions.turn] at stepped
      split at stepped
      · rename_i datagram len id session found
        obtain rfl := Option.some.inj stepped
        exact ⟨.spawned i _ ⟨datagram, len, .touching session⟩ id session found rfl rfl rfl rfl rfl rfl,
          .of_made rfl rfl rfl rfl rfl⟩
      · cases stepped
  | touch i =>
      simp only [UdpSessions.turn] at stepped
      split at stepped
      · rename_i datagram len session found
        obtain rfl := Option.some.inj stepped
        have goes : Goes this (.touch i) i ⟨datagram, len, .touching session⟩ ⟨datagram, len, .sending session⟩ :=
          .still rfl rfl (fun _ => rfl) (fun _ => rfl) fun _ holds => .inl holds
        exact ⟨.delivered i _ _ found goes (marks_touched session) rfl rfl rfl,
          .of_touched session rfl rfl rfl rfl rfl⟩
      · cases stepped
  | send i sends =>
      simp only [UdpSessions.turn] at stepped
      split at stepped
      · rename_i datagram len session found
        have goes : Goes this (.send i sends) i ⟨datagram, len, .sending session⟩ ⟨datagram, len, .done⟩ := .done rfl fun _ => rfl
        split_ifs at stepped
        · obtain rfl := Option.some.inj stepped
          exact ⟨.delivered i _ _ found goes rfl rfl rfl rfl, .of_made rfl rfl rfl rfl rfl⟩
        · obtain rfl := Option.some.inj stepped
          exact ⟨.delivered i _ _ found goes rfl rfl rfl rfl, .of_made rfl rfl rfl rfl rfl⟩
      · cases stepped
  | abandon i =>
      simp only [UdpSessions.turn] at stepped
      split at stepped
      · rename_i datagram len id found
        obtain rfl := Option.some.inj stepped
        exact goes_moved found (.done rfl fun _ => rfl)
      · rename_i datagram len session found
        obtain rfl := Option.some.inj stepped
        exact goes_moved found (.done rfl fun _ => rfl)
      · cases stepped
  | loop i =>
      simp only [UdpSessions.turn] at stepped
      split at stepped
      · rename_i id session found
        obtain rfl := Option.some.inj stepped
        exact ⟨.turned i _ _ found (.loop _) rfl rfl rfl rfl, .of_made rfl rfl rfl rfl rfl⟩
      · cases stepped
  | wake i =>
      simp only [UdpSessions.turn] at stepped
      split at stepped
      · rename_i id session expires found
        split_ifs at stepped with due idle
        · obtain rfl := Option.some.inj stepped
          rw [forget_eq]
          exact ⟨.returned i _ _ found (unlocked rfl) (.expire expires rfl idle) rfl rfl rfl rfl, .of_made rfl rfl rfl rfl rfl⟩
        · obtain rfl := Option.some.inj stepped
          exact ⟨.turned i _ _ found (.again _) rfl rfl rfl rfl, .of_made rfl rfl rfl rfl rfl⟩
      · cases stepped
  | readable i received =>
      simp only [UdpSessions.turn] at stepped
      split at stepped
      · rename_i id session expires found
        cases received with
        | ok payload =>
            obtain rfl := Option.some.inj stepped
            exact ⟨.turned i _ .looping found (.again expires) (marks_touched session) rfl rfl rfl,
              .of_touched session rfl rfl rfl rfl rfl⟩
        | error kind =>
            obtain rfl := Option.some.inj stepped
            refine ⟨.turned i _ _ found ?_ rfl rfl rfl rfl, .of_made rfl rfl rfl rfl rfl⟩
            split_ifs
            · exact .again expires
            · exact .fail expires
      · cases stepped
  | stop i =>
      simp only [UdpSessions.turn] at stepped
      split at stepped
      · rename_i id session expires found
        split_ifs at stepped with cancelled
        obtain rfl := Option.some.inj stepped
        exact ⟨.turned i _ _ found (.stop expires cancelled) rfl rfl rfl rfl, .of_made rfl rfl rfl rfl rfl⟩
      · cases stepped
  | forget i =>
      simp only [UdpSessions.turn] at stepped
      split at stepped
      · rename_i id session exit found
        obtain rfl := Option.some.inj stepped
        rw [forget_eq]
        exact ⟨.returned i _ _ found (unlocked rfl) (.leave exit) rfl rfl rfl rfl, .of_made rfl rfl rfl rfl rfl⟩
      · cases stepped

end Steps
end Moved

section Marks
variable {this next : UdpSessions} {event : UdpSessions.Event}

theorem Evicted.marked {read : List ((UInt32 × Nat) × Nat)} {evicted : UdpSessions}
    (evicts : Evicted this read evicted) {h : Nat} {id : UInt32} {c : Bool}
    (marked : (marks this)[h]? = some (id, c)) :
    ∃ c', (marks evicted)[h]? = some (id, c') ∧ (c = true → c' = true) := by
  cases evicts with
  | room | empty => exact ⟨c, marked, fun same => same⟩
  | full oldest gone =>
      unfold marks at marked ⊢
      rw [List.getElem?_map] at marked ⊢
      obtain ⟨session, made, same⟩ := Option.map_eq_some_iff.mp marked
      obtain ⟨rfl, rfl⟩ := Prod.mk.inj same
      rw [List.getElem?_modify, made]
      split_ifs
      · exact ⟨true, rfl, fun _ => rfl⟩
      · exact ⟨session.cancelled, rfl, fun same => same⟩

theorem marks_inserted {evicted : UdpSessions} {id : UInt32} {now : Nat}
    (made : next.made = evicted.made ++ [⟨id, now, false⟩]) : marks next = marks evicted ++ [(id, false)] := by
  unfold marks
  rw [made, List.map_append]
  rfl

theorem Evicted.length {read : List ((UInt32 × Nat) × Nat)} {evicted : UdpSessions}
    (evicts : Evicted this read evicted) :
    (marks evicted).length = (marks this).length := by
  unfold marks
  rw [List.length_map, List.length_map, evicts.kept.2]

theorem Moved.marked (moved : Moved this event next) {h : Nat} {id : UInt32} {c : Bool}
    (marked : (marks this)[h]? = some (id, c)) :
    ∃ c', (marks next)[h]? = some (id, c') ∧ (c = true → c' = true) := by
  cases moved with
  | idle same | arrived _ _ _ same | delivered _ _ _ _ _ same | spawned _ _ _ _ _ _ _ _ same
  | turned _ _ _ _ _ same | returned _ _ _ _ _ _ same =>
      rw [same]
      exact ⟨c, marked, fun same => same⟩
  | inserted i before after id' found opened locks spawning absent read evicted evicts made =>
      obtain ⟨c', marked', grows⟩ := evicts.marked marked
      have bound := (List.getElem?_eq_some_iff.mp marked').1
      rw [marks_inserted made, List.getElem?_append_left bound]
      exact ⟨c', marked', grows⟩

theorem marked_lt {h : Nat} {id : UInt32} {c : Bool} (marked : (marks this)[h]? = some (id, c)) :
    h < (marks this).length := (List.getElem?_eq_some_iff.mp marked).1

theorem cancelled_iff (h : Nat) : this.cancelled h = true ↔
    this.unbound = true ∨ ∃ id, (marks this)[h]? = some (id, true) := by
  unfold UdpSessions.cancelled marks
  rw [Bool.or_eq_true, List.getElem?_map]
  cases this.made[h]? with
  | none => simp
  | some session => simp

theorem Moved.cancelled (moved : Moved this event next) (kept : Kept this next) {h : Nat}
    (cancelled : this.cancelled h = true) : next.cancelled h = true := by
  rw [cancelled_iff] at cancelled ⊢
  rcases cancelled with unbound | ⟨id, marked⟩
  · exact .inl (kept.unbound unbound)
  · obtain ⟨c, marked', grows⟩ := moved.marked marked
    obtain rfl := grows rfl
    exact .inr ⟨id, marked'⟩

end Marks

section Size
variable {this next : UdpSessions} {event : UdpSessions.Event}

theorem forget_getElem? (id : UInt32) (h : Nat) (other : UInt32) :
    (this.forget id h).sessions[other]? =
      if other = id ∧ this.sessions[id]? = some h then none else this.sessions[other]? := by
  unfold UdpSessions.forget
  split_ifs with own both both
  · obtain ⟨rfl, -⟩ := both
    simp
  · have differs : id ≠ other := fun same => both ⟨same.symm, own⟩
    simp [Std.ExtTreeMap.getElem?_erase, differs]
  · exact absurd both.2 own
  · rfl

theorem forget_size (id : UInt32) (h : Nat) : (this.forget id h).sessions.size ≤ this.sessions.size := by
  unfold UdpSessions.forget
  split_ifs
  · rw [Std.ExtTreeMap.size_erase]
    split_ifs <;> omega
  · exact le_rfl

theorem Moved.size (moved : Moved this event next) (room : 1 ≤ this.cap) (size : this.sessions.size ≤ this.cap) :
    next.sessions.size ≤ this.cap := by
  cases moved with
  | idle _ same | arrived _ _ _ _ same | delivered _ _ _ _ _ _ same | spawned _ _ _ _ _ _ _ _ _ same
  | turned _ _ _ _ _ _ same =>
      rw [same]
      exact size
  | returned _ _ _ _ _ _ _ same =>
      rw [same]
      exact (forget_size _ _).trans size
  | inserted i before after id found opened locks spawning absent read evicted evicts made sessions =>
      have grows : next.sessions.size ≤ evicted.sessions.size + 1 := by
        rw [sessions, Std.ExtTreeMap.size_insert]
        split_ifs <;> omega
      cases evicts with
      | room short => omega
      | empty none => omega
      | full oldest gone quietest =>
          have contains : this.sessions.contains oldest = true := by
            rw [Std.ExtTreeMap.contains_eq_isSome_getElem?, quietest.held]
            rfl
          rw [Std.ExtTreeMap.size_erase, if_pos contains] at grows
          omega

end Size

section Invariant
variable {this next : UdpSessions} {event : UdpSessions.Event}

/-- Every session the table and the tasks know is one that was made, under the id they know it by. -/
structure Known (this : UdpSessions) : Prop where
  held : ∀ (id : UInt32) (h : Nat), this.sessions[id]? = some h → ∃ c, (marks this)[h]? = some (id, c)
  read : ∀ reader ∈ this.readers, ∃ c, (marks this)[reader.session]? = some (reader.id, c)
  opening : ∀ delivery ∈ this.deliveries, ∀ id h, delivery.stage = .spawning id h →
    ∃ c, (marks this)[h]? = some (id, c)

theorem Known.held_step (known : Known this) (moved : Moved this event next) (id : UInt32) (h : Nat)
    (held : next.sessions[id]? = some h) : ∃ c, (marks next)[h]? = some (id, c) := by
  have kept (was : this.sessions[id]? = some h) : ∃ c, (marks next)[h]? = some (id, c) := by
    obtain ⟨c, marked⟩ := known.held id h was
    obtain ⟨c', marked', -⟩ := moved.marked marked
    exact ⟨c', marked'⟩
  cases moved with
  | idle _ same | arrived _ _ _ _ same | delivered _ _ _ _ _ _ same | spawned _ _ _ _ _ _ _ _ _ same
  | turned _ _ _ _ _ _ same =>
      rw [same] at held
      exact kept held
  | returned _ _ _ _ _ _ _ same =>
      rw [same, forget_getElem?] at held
      split_ifs at held
      exact kept held
  | inserted i before after id' found opened locks spawning absent read evicted evicts made sessions =>
      rw [sessions, Std.ExtTreeMap.getElem?_insert] at held
      split_ifs at held with same
      · obtain rfl : id' = id := Std.compare_eq_iff_eq.mp same
        obtain rfl := Option.some.inj held
        rw [marks_inserted made, List.getElem?_append_right (by simp [marks, evicts.kept.2])]
        simp [marks, evicts.kept.2]
      · exact kept (evicts.fewer held)

theorem Known.step (known : Known this) (moved : Moved this event next) : Known next := by
  have read {id : UInt32} {h : Nat} (was : ∃ c, (marks this)[h]? = some (id, c)) :
      ∃ c, (marks next)[h]? = some (id, c) := by
    obtain ⟨c, marked⟩ := was
    obtain ⟨c', marked', -⟩ := moved.marked marked
    exact ⟨c', marked'⟩
  have reader {reader : Reader} (was : reader ∈ this.readers) := read (known.read reader was)
  have opening {delivery : Delivery} (was : delivery ∈ this.deliveries) (id : UInt32) (h : Nat)
      (spawning : delivery.stage = .spawning id h) := read (known.opening delivery was id h spawning)
  refine ⟨known.held_step moved, ?_, ?_⟩
  · intro other member
    cases moved with
    | idle _ _ same | arrived _ _ _ _ _ same | delivered _ _ _ _ _ _ _ same
    | inserted _ _ _ _ _ _ _ _ _ _ _ _ _ _ same =>
        rw [same] at member
        exact reader member
    | turned i old stage found _ _ _ same | returned i old stage found _ _ _ _ same =>
        rw [same] at member
        rcases List.mem_or_eq_of_mem_set member with member | rfl
        · exact reader member
        · exact read (known.read old (List.mem_of_getElem? found))
    | spawned i before after id h found spawning touching marks sessions same =>
        rw [same] at member
        rcases List.mem_append.mp member with member | member
        · exact reader member
        · obtain rfl := List.mem_singleton.mp member
          exact opening (List.mem_of_getElem? found) id h spawning
  · intro other member id h spawning
    cases moved with
    | idle _ _ _ same | turned _ _ _ _ _ _ _ _ same | returned _ _ _ _ _ _ _ _ _ same =>
        rw [same] at member
        exact opening member id h spawning
    | arrived delivery id' stage _ _ _ same =>
        rw [same] at member
        rcases List.mem_append.mp member with member | member
        · exact opening member id h spawning
        · obtain rfl := List.mem_singleton.mp member
          cases stage.symm.trans spawning
    | delivered i before after found goes _ _ _ same =>
        rw [same] at member
        rcases List.mem_or_eq_of_mem_set member with member | rfl
        · exact opening member id h spawning
        · have never := goes.opening h
          simp [opens, spawning] at never
    | spawned i before after id' h' found _ touching _ _ _ same =>
        rw [same] at member
        rcases List.mem_or_eq_of_mem_set member with member | rfl
        · exact opening member id h spawning
        · cases touching.symm.trans spawning
    | inserted i before after id' found opened locks spawning' absent read evicted evicts made sessions readers same =>
        rw [same] at member
        rcases List.mem_or_eq_of_mem_set member with member | rfl
        · exact opening member id h spawning
        · obtain ⟨rfl, rfl⟩ : id' = id ∧ this.made.length = h := by
            simpa using spawning'.symm.trans spawning
          rw [marks_inserted made, List.getElem?_append_right (by simp [marks, evicts.kept.2])]
          simp [marks, evicts.kept.2]

theorem Known.tasks_unmade (known : Known this) {h : Nat} (unmade : (marks this).length ≤ h) : tasks this h = 0 := by
  have readers : this.readers.countP (reads h) = 0 := by
    rw [List.countP_eq_zero]
    intro reader member same
    obtain ⟨c, marked⟩ := known.read reader member
    have bound := marked_lt marked
    have same : reader.session = h := of_decide_eq_true same
    omega
  have deliveries : this.deliveries.countP (opens h) = 0 := by
    rw [List.countP_eq_zero]
    intro delivery member same
    unfold opens at same
    split at same
    · rename_i id session spawning
      obtain ⟨c, marked⟩ := known.opening delivery member id session spawning
      have bound := marked_lt marked
      have same : session = h := of_decide_eq_true same
      omega
    · cases same
  unfold tasks
  omega

theorem tasks_turned {i : Nat} {reader : Reader} {stage : Reading} (found : this.readers[i]? = some reader)
    (readers : next.readers = this.readers.set i { reader with stage })
    (deliveries : next.deliveries = this.deliveries) (h : Nat) : tasks next h = tasks this h := by
  have counts := countP_set_add (reads h) found { reader with stage }
  unfold tasks
  rw [readers, deliveries]
  exact congrArg (· + _) (Nat.add_right_cancel counts)

theorem Known.once_step (known : Known this) (moved : Moved this event next)
    (once : ∀ h < (marks this).length, tasks this h = 1) : ∀ h < (marks next).length, tasks next h = 1 := by
  intro h bound
  cases moved with
  | idle same _ readers deliveries =>
      rw [same] at bound
      unfold tasks
      rw [readers, deliveries]
      exact once h bound
  | arrived delivery id stage same _ readers deliveries =>
      rw [same] at bound
      have none : opens h delivery = false := by simp [opens, stage]
      have one := once h bound
      unfold tasks at one ⊢
      rw [readers, deliveries, List.countP_append, List.countP_singleton, none]
      simpa using one
  | delivered i before after found goes same _ readers deliveries =>
      rw [same] at bound
      have counts := countP_set_add (opens h) found after
      rw [goes.opened, goes.opening] at counts
      have one := once h bound
      unfold tasks at one ⊢
      rw [readers, deliveries, Nat.add_right_cancel counts]
      exact one
  | turned i reader stage found _ same _ readers deliveries
  | returned i reader stage found _ _ same _ readers deliveries =>
      rw [same] at bound
      rw [tasks_turned found readers deliveries]
      exact once h bound
  | spawned i before after id h' found spawning touching same _ readers deliveries =>
      rw [same] at bound
      have counts := countP_set_add (opens h) found after
      have opened : opens h before = decide (h' = h) := by simp [opens, spawning]
      have opening : opens h after = false := by simp [opens, touching]
      have reading : reads h ⟨id, h', .looping⟩ = decide (h' = h) := rfl
      have one := once h bound
      rw [opened, opening] at counts
      unfold tasks at one ⊢
      rw [readers, deliveries, List.countP_append, List.countP_singleton, reading]
      -- The task is counted among the readers now.
      by_cases same : h' = h
      · simp only [same, decide_true, Bool.toNat_true, Bool.toNat_false, ↓reduceIte] at counts ⊢
        omega
      · simp only [same, decide_false, Bool.toNat_false, Bool.false_eq_true, ↓reduceIte] at counts ⊢
        omega
  | inserted i before after id found opened locks spawning absent read evicted evicts made sessions readers deliveries =>
      have counts := countP_set_add (opens h) found after
      have opening : opens h after = decide (this.made.length = h) := by simp [opens, spawning]
      have length : (marks this).length = this.made.length := List.length_map _
      rw [opened h, opening] at counts
      rw [marks_inserted made, List.length_append, evicts.length, List.length_singleton] at bound
      have moved : tasks next h = tasks this h + (decide (this.made.length = h)).toNat := by
        unfold tasks
        rw [readers, deliveries]
        simp only [Bool.toNat_false, add_zero] at counts
        omega
      rw [moved]
      by_cases same : this.made.length = h
      · rw [known.tasks_unmade (by omega), decide_eq_true same]
        rfl
      · rw [once h (by omega), decide_eq_false same]
        rfl

def Back (stage : Reading) : Prop := stage = .expired ∨ ∃ exit, stage = .left exit

def Gone (this : UdpSessions) : Prop :=
  ∀ reader ∈ this.readers, Back reader.stage → ∀ id : UInt32, this.sessions[id]? ≠ some reader.session

theorem Gone.step (gone : Gone this) (known : Known this) (moved : Moved this event next) : Gone next := by
  intro reader member back id held
  cases moved with
  | idle _ sessions readers | arrived _ _ _ _ sessions readers | delivered _ _ _ _ _ _ sessions readers =>
      rw [readers] at member
      rw [sessions] at held
      exact gone reader member back id held
  | spawned i before after id' h found spawning touching _ sessions readers =>
      rw [readers] at member
      rw [sessions] at held
      rcases List.mem_append.mp member with member | member
      · exact gone reader member back id held
      · obtain rfl := List.mem_singleton.mp member
        simp [Back] at back
  | turned i old stage found turns _ sessions readers =>
      rw [readers] at member
      rw [sessions] at held
      rcases List.mem_or_eq_of_mem_set member with member | rfl
      · exact gone reader member back id held
      · obtain ⟨id', session, before⟩ := old
        cases turns <;> simp [Back] at back
  | returned i old stage found _ returns _ sessions readers =>
      rw [readers] at member
      rw [sessions, forget_getElem?] at held
      split_ifs at held with own
      rcases List.mem_or_eq_of_mem_set member with member | rfl
      · exact gone reader member back id held
      · -- A session is in the table under its reader's id only.
        obtain ⟨c, marked⟩ := known.held id _ held
        obtain ⟨c', marked'⟩ := known.read old (List.mem_of_getElem? found)
        have same : id = old.id := congrArg Prod.fst (Option.some.inj (marked.symm.trans marked'))
        exact own ⟨same, same ▸ held⟩
  | inserted i before after id' found opened locks spawning absent read evicted evicts made sessions readers =>
      rw [readers] at member
      rw [sessions, Std.ExtTreeMap.getElem?_insert] at held
      split_ifs at held
      · obtain ⟨c, marked⟩ := known.read reader member
        have bound := marked_lt marked
        have newest := Option.some.inj held
        simp only [marks, List.length_map] at bound
        omega
      · exact gone reader member back id (evicts.fewer held)

/-- A reader that was told to leave had been. -/
def Told (this : UdpSessions) : Prop :=
  ∀ reader ∈ this.readers, reader.stage = .leaving .cancelled ∨ reader.stage = .left .cancelled →
    this.cancelled reader.session = true

theorem Told.step (told : Told this) (moved : Moved this event next) (kept : Kept this next) : Told next := by
  intro reader member left
  have stays {h : Nat} : this.cancelled h = true → next.cancelled h = true := moved.cancelled kept
  cases moved with
  | idle _ _ readers | arrived _ _ _ _ _ readers | delivered _ _ _ _ _ _ _ readers
  | inserted _ _ _ _ _ _ _ _ _ _ _ _ _ _ readers =>
      rw [readers] at member
      exact stays (told reader member left)
  | spawned i before after id h found spawning touching _ _ readers =>
      rw [readers] at member
      rcases List.mem_append.mp member with member | member
      · exact stays (told reader member left)
      · obtain rfl := List.mem_singleton.mp member
        simp at left
  | turned i old stage found turns _ _ readers =>
      rw [readers] at member
      rcases List.mem_or_eq_of_mem_set member with member | rfl
      · exact stays (told reader member left)
      · obtain ⟨id, session, before⟩ := old
        cases turns with
        | loop | again | fail => simp at left
        | stop expires cancelled => exact stays cancelled
  | returned i old stage found _ returns _ _ readers =>
      rw [readers] at member
      rcases List.mem_or_eq_of_mem_set member with member | rfl
      · exact stays (told reader member left)
      · have was := List.mem_of_getElem? found
        obtain ⟨id, session, before⟩ := old
        cases returns with
        | expire => simp at left
        | leave exit =>
            have same : exit = .cancelled := by simpa using left
            exact stays (told ⟨id, session, .leaving exit⟩ was (.inl (congrArg Reading.leaving same)))

def Timely (this : UdpSessions) : Prop :=
  ∀ (h : Nat) (session : LocalSession), this.made[h]? = some session → session.used ≤ this.now

theorem Timely.step (timely : Timely this) (kept : Kept this next) : Timely next := by
  intro h session made
  rcases kept.clocks h session made with now | ⟨before, was, same⟩
  · exact now.le.trans kept.now
  · exact (same.le.trans (timely h before was)).trans kept.now

theorem Moved.used_mono (moved : Moved this event next) (kept : Kept this next) (timely : Timely this) (h : Nat) :
    this.used h ≤ next.used h := by
  unfold UdpSessions.used
  cases was : this.made[h]? with
  | none => exact Nat.zero_le _
  | some before =>
      have marked : (marks this)[h]? = some (before.id, before.cancelled) := by simp [marks, was]
      obtain ⟨c, marked', -⟩ := moved.marked marked
      unfold marks at marked'
      rw [List.getElem?_map] at marked'
      obtain ⟨after, made, -⟩ := Option.map_eq_some_iff.mp marked'
      rw [made]
      rcases kept.clocks h after made with now | ⟨other, same, used⟩
      · exact (timely h before was).trans now.ge
      · obtain rfl := Option.some.inj (was.symm.trans same)
        exact used.ge

theorem Scanned.later {id : UInt32} {left : List (UInt32 × Nat)} {read : List ((UInt32 × Nat) × Nat)}
    (scanned : Scanned this id left read) (cap : next.cap = this.cap) (sessions : next.sessions = this.sessions)
    (later : ∀ h, this.used h ≤ next.used h) : Scanned next id left read where
  absent := by rw [sessions]; exact scanned.absent
  full := by rw [cap, sessions]; exact scanned.full
  all := by rw [sessions]; exact scanned.all
  past clock member := (scanned.past clock member).trans (later _)

theorem Reads.scanned {before after : Delivering} {id : UInt32} {left : List (UInt32 × Nat)}
    {read : List ((UInt32 × Nat) × Nat)} (reads : Reads this before after) (scanning : after = .scanning id left read)
    (was : ∀ id left read, before = .scanning id left read → Scanned this id left read) :
    Scanned this id left read := by
  cases reads with
  | start id' order unlocked absent full all =>
      obtain ⟨rfl, rfl, rfl⟩ := Delivering.scanning.inj scanning
      exact ⟨absent, full, all, fun clock member => absurd member List.not_mem_nil⟩
  | next id' session left' read' =>
      obtain ⟨rfl, rfl, rfl⟩ := Delivering.scanning.inj scanning
      obtain ⟨absent, full, all, past⟩ := was id' (session :: left') read' rfl
      refine ⟨absent, full, ?_, ?_⟩
      · simpa using all
      · intro clock member
        rcases List.mem_append.mp member with member | member
        · exact past clock member
        · obtain rfl := List.mem_singleton.mp member
          exact le_rfl

theorem unlocked_iff : this.locked = false ↔ this.deliveries.countP (fun delivery => delivery.stage.scans) = 0 := by
  simp [UdpSessions.locked]

theorem Scans.of_none (none : next.deliveries.countP (fun delivery => delivery.stage.scans) = 0) : Scans next where
  alone := none.trans_le (Nat.zero_le 1)
  scanned delivery member id left read scanning := by
    have still := List.countP_eq_zero.mp none delivery member
    rw [scanning] at still
    exact absurd rfl still

theorem Scans.inserted (scans : Scans this) {i h : Nat} {id : UInt32} {before after : Delivery}
    (found : this.deliveries[i]? = some before)
    (locks : this.locked = true → before.stage.scans = true ∧ event = .evict i)
    (spawning : after.stage = .spawning id h) (deliveries : next.deliveries = this.deliveries.set i after) :
    next.deliveries.countP (fun delivery => delivery.stage.scans) = 0 := by
  have counts := countP_set_add (fun delivery : Delivery => delivery.stage.scans) found after
  have still : after.stage.scans = false := by
    rw [spawning]
    rfl
  have alone := scans.alone
  rw [deliveries]
  cases locked : this.locked with
  | true =>
      -- The scan that is over was the one under way.
      rw [(locks locked).1, still] at counts
      simp only [Bool.toNat_true, Bool.toNat_false] at counts
      omega
  | false =>
      rw [unlocked_iff.mp locked, still] at counts
      simp only [Bool.toNat_false] at counts
      omega

theorem Scans.step (scans : Scans this) (timely : Timely this) (moved : Moved this event next)
    (kept : Kept this next) : Scans next := by
  have later := moved.used_mono kept timely
  have stays (sessions : next.sessions = this.sessions) {delivery : Delivery} (member : delivery ∈ this.deliveries)
      (id : UInt32) (left : List (UInt32 × Nat)) (read : List ((UInt32 × Nat) × Nat))
      (scanning : delivery.stage = .scanning id left read) : Scanned next id left read :=
    (scans.scanned delivery member id left read scanning).later kept.cap sessions later
  cases moved with
  | idle _ sessions _ deliveries | turned _ _ _ _ _ _ sessions _ deliveries =>
      rw [← deliveries] at stays
      exact ⟨deliveries ▸ scans.alone, fun _ member => stays sessions member⟩
  | arrived delivery id stage _ sessions _ deliveries =>
      refine ⟨?_, ?_⟩
      · rw [deliveries, List.countP_append, List.countP_singleton, stage]
        exact scans.alone
      · intro other member
        rw [deliveries] at member
        rcases List.mem_append.mp member with member | member
        · exact stays sessions member
        · obtain rfl := List.mem_singleton.mp member
          intro id' left read scanning
          cases stage.symm.trans scanning
  | delivered i before after found goes _ sessions _ deliveries =>
      have counts := countP_set_add (fun delivery : Delivery => delivery.stage.scans) found after
      have alone := scans.alone
      refine ⟨?_, ?_⟩
      · rw [deliveries]
        cases still : after.stage.scans with
        | false =>
            rw [still] at counts
            simp only [Bool.toNat_false, Nat.add_zero] at counts
            omega
        | true =>
            have begins := goes.scans still
            generalize before.stage = was, after.stage = is at begins counts
            cases begins with
            | start id order unlocked =>
                rw [unlocked_iff.mp unlocked] at counts
                exact (Nat.le_add_right _ _).trans counts.le
            | next => exact (Nat.add_right_cancel counts).le.trans alone
      · intro other member
        rw [deliveries] at member
        rcases List.mem_or_eq_of_mem_set member with member | rfl
        · exact stays sessions member
        · intro id left read scanning
          have begins := goes.scans (by rw [scanning]; rfl)
          have scanned := begins.scanned scanning (scans.scanned before (List.mem_of_getElem? found))
          exact scanned.later kept.cap sessions later
  | spawned i before after id h found spawning touching _ sessions _ deliveries =>
      have counts := countP_set_add (fun delivery : Delivery => delivery.stage.scans) found after
      rw [spawning, touching] at counts
      refine ⟨?_, ?_⟩
      · rw [deliveries]
        exact (Nat.add_right_cancel counts).le.trans scans.alone
      · intro other member
        rw [deliveries] at member
        rcases List.mem_or_eq_of_mem_set member with member | rfl
        · exact stays sessions member
        · intro id' left read scanning
          cases touching.symm.trans scanning
  | inserted i before after id found opened locks spawning absent read evicted evicts made sessions readers deliveries =>
      exact .of_none (scans.inserted found locks spawning deliveries)
  | returned i reader stage found unlocked returns _ _ _ deliveries =>
      apply Scans.of_none
      rw [deliveries]
      exact unlocked_iff.mp unlocked

structure Inv (this : UdpSessions) : Prop where
  visitors : this.meter.visitors = (marks this).length
  known : Known this
  once : ∀ h < (marks this).length, tasks this h = 1
  gone : Gone this
  told : Told this
  timely : Timely this
  scans : Scans this

theorem inv_new (id : UInt16) (proxy : Option SocketAddr) (idle cap now : Nat) :
    Inv (.new id proxy idle cap now) := by
  refine ⟨rfl, ⟨?_, ?_, ?_⟩, ?_, ?_, ?_, ?_, .of_none rfl⟩ <;> simp [UdpSessions.new, marks, Gone, Told, Timely]

theorem Inv.step (inv : Inv this) (moved : Moved this event next) (kept : Kept this next) : Inv next := by
  refine ⟨?_, inv.known.step moved, inv.known.once_step moved inv.once, inv.gone.step inv.known moved,
    inv.told.step moved kept, inv.timely.step kept, inv.scans.step inv.timely moved kept⟩
  have counts := kept.visitors
  have visitors := inv.visitors
  omega

variable {id : UInt16} {proxy : Option SocketAddr} {idle cap : Nat} {decode : Server.Decode}

theorem reachable_inv (reachable : (udpSessions id proxy idle cap decode).Reachable this) : Inv this := by
  apply reachable.invariant Inv
  · rintro _ ⟨now, rfl⟩
    exact inv_new id proxy idle cap now
  · intro before event after _ inv stepped
    obtain ⟨moved, kept⟩ := step_moved inv.scans stepped
    exact inv.step moved kept

theorem reachable_size (room : 1 ≤ cap) (reachable : (udpSessions id proxy idle cap decode).Reachable this) :
    this.cap = cap ∧ this.sessions.size ≤ cap := by
  apply reachable.invariant fun this => this.cap = cap ∧ this.sessions.size ≤ cap
  · rintro _ ⟨now, rfl⟩
    exact ⟨rfl, Nat.zero_le _⟩
  · rintro before event after reached ⟨same, size⟩ stepped
    obtain ⟨moved, kept⟩ := step_moved (reachable_inv reached).scans stepped
    subst same
    exact ⟨kept.cap, moved.size room size⟩

end Invariant

section Table
variable {this next : UdpSessions} {event : UdpSessions.Event}

/-- What an insert does: nothing to the table when the id is there, and otherwise it adds a session,
or at the cap goes on to scan for the one whose place that takes. -/
inductive Inserted (this next : UdpSessions) (i : Nat) (id : UInt32) : Prop
  | held (h : Nat) (found : this.sessions[id]? = some h) (sessions : next.sessions = this.sessions)
      (made : next.made = this.made)
  | added (absent : this.sessions[id]? = none) (short : this.sessions.size < this.cap)
      (sessions : next.sessions = this.sessions.insert id this.made.length)
      (made : next.made = this.made ++ [⟨id, this.now, false⟩])
  | full (absent : this.sessions[id]? = none) (full : this.sessions.size = this.cap)
      (sessions : next.sessions = this.sessions) (made : next.made = this.made) (delivery : Delivery)
      (found : next.deliveries[i]? = some delivery) (order : List (UInt32 × Nat))
      (scanning : delivery.stage = .scanning id order [])

/-- What the end of a scan does: one session goes, and the new one is in its place. -/
structure Replaced (this next : UdpSessions) (id : UInt32) (read : List ((UInt32 × Nat) × Nat)) (oldest : UInt32)
    (gone : Nat) : Prop where
  absent : this.sessions[id]? = none
  full : this.sessions.size = this.cap
  all : (read.map (·.1)).Perm this.sessions.toList
  past : ∀ clock ∈ read, clock.2 ≤ this.used clock.1.2
  quietest : Quietest this read oldest gone
  sessions : next.sessions = (this.sessions.erase oldest).insert id this.made.length
  made : next.made = (this.made.modify gone fun session => { session with cancelled := true }) ++
    [⟨id, this.now, false⟩]

theorem insert_inserted {decode : Server.Decode} {i : Nat} {order : List (UInt32 × Nat)}
    (stepped : this.step decode (.insert i order) = some next) (size : this.sessions.size ≤ this.cap) :
    ∃ delivery id, this.deliveries[i]? = some delivery ∧ delivery.stage = .inserting id ∧
      Inserted this next i id := by
  obtain ⟨stepped, -⟩ := step_turn stepped
  simp only [UdpSessions.turn] at stepped
  split at stepped
  · rename_i datagram len id found
    refine ⟨_, id, found, rfl, ?_⟩
    have bound := (List.getElem?_eq_some_iff.mp found).1
    split_ifs at stepped with all full
    · obtain rfl := Option.some.inj stepped
      obtain ⟨full, absent⟩ := full_iff.mp full
      exact .full absent (by omega) rfl rfl _ (List.getElem?_set_self bound) order rfl
    · obtain rfl := Option.some.inj stepped
      cases held : this.sessions[id]? with
      | some h =>
          simp only [UdpSessions.insert, held]
          exact .held h held rfl rfl
      | none =>
          simp only [UdpSessions.insert, held]
          exact .added held (Nat.lt_of_not_le fun above => full (full_iff.mpr ⟨above, held⟩)) rfl rfl
  · cases stepped

theorem Inv.replaced (inv : Inv this) {decode : Server.Decode} {i : Nat}
    (stepped : this.step decode (.evict i) = some next) (room : 1 ≤ this.cap) (size : this.sessions.size ≤ this.cap) :
    ∃ delivery id read oldest gone, this.deliveries[i]? = some delivery ∧ delivery.stage = .scanning id [] read ∧
      Replaced this next id read oldest gone := by
  obtain ⟨stepped, -⟩ := step_turn stepped
  simp only [UdpSessions.turn] at stepped
  split at stepped
  · rename_i datagram len id read found
    obtain rfl := Option.some.inj stepped
    have scanned := inv.scans.scanned _ (List.mem_of_getElem? found) id [] read rfl
    have full := scanned.full
    have evicts := scanned.evicted
    generalize this.evict (UdpSessions.quietest read) = evicted at evicts
    have same : evicted.sessions[id]? = none := by
      by_contra some
      obtain ⟨h, still⟩ := Option.ne_none_iff_exists'.mp some
      cases scanned.absent.symm.trans (evicts.fewer still)
    simp only [UdpSessions.insert, same]
    cases evicts with
    | room short => omega
    | empty none => omega
    | full oldest gone quietest =>
        refine ⟨_, id, read, oldest, gone, found, rfl, scanned.absent, by omega, by simpa using scanned.all,
          scanned.past, quietest, ?_, rfl⟩
        simp only [UdpSessions.delivery, List.length_modify]
  · cases stepped

theorem scan_reads {decode : Server.Decode} {i : Nat} (stepped : this.step decode (.scan i) = some next) :
    ∃ delivery id session left read, this.deliveries[i]? = some delivery ∧
      delivery.stage = .scanning id (session :: left) read ∧
      next = this.delivery i delivery (.scanning id left (read ++ [(session, this.used session.2)])) := by
  obtain ⟨stepped, -⟩ := step_turn stepped
  simp only [UdpSessions.turn] at stepped
  split at stepped
  · rename_i datagram len id session left read found
    obtain rfl := Option.some.inj stepped
    exact ⟨_, id, session, left, read, found, rfl, rfl⟩
  · cases stepped

theorem scan_enabled {decode : Server.Decode} {i : Nat} {delivery : Delivery}
    (found : this.deliveries[i]? = some delivery) {id : UInt32} {left : List (UInt32 × Nat)}
    {read : List ((UInt32 × Nat) × Nat)} (scanning : delivery.stage = .scanning id left read) :
    (this.step decode (.scan i)).isSome ∨ (this.step decode (.evict i)).isSome := by
  obtain ⟨datagram, len, stage⟩ := delivery
  obtain rfl : stage = .scanning id left read := scanning
  cases left with
  | nil =>
      right
      simp [UdpSessions.step, UdpSessions.turn, UdpSessions.Event.locks, found]
  | cons session left =>
      left
      simp [UdpSessions.step, UdpSessions.turn, UdpSessions.Event.locks, found]

section Spawn
variable {decode : Server.Decode} {i session : Nat} {datagram : List UInt8} {len : Nat} {id : UInt32}

theorem spawn_step (found : this.deliveries[i]? = some ⟨datagram, len, .spawning id session⟩) :
    this.step decode (.spawn i) =
      some { this.delivery i ⟨datagram, len, .spawning id session⟩ (.touching session) with
        readers := this.readers ++ [⟨id, session, .looping⟩] } := by
  simp [UdpSessions.step, UdpSessions.turn, UdpSessions.Event.locks, found]

theorem abandon_step (found : this.deliveries[i]? = some ⟨datagram, len, .spawning id session⟩) :
    this.step decode (.abandon i) = none := by
  simp [UdpSessions.step, UdpSessions.turn, found]

end Spawn

/-- While a scan is under way only its own steps move it on, and the table is as it found it. -/
theorem Inv.scanning (inv : Inv this) (moved : Moved this event next) {i : Nat} {delivery : Delivery}
    (found : this.deliveries[i]? = some delivery) (scans : delivery.stage.scans = true) (other : event ≠ .scan i)
    (another : event ≠ .evict i) : next.deliveries[i]? = some delivery ∧ next.sessions = this.sessions := by
  have locked : this.locked = true := List.any_eq_true.mpr ⟨delivery, List.mem_of_getElem? found, scans⟩
  have bound := (List.getElem?_eq_some_iff.mp found).1
  cases moved with
  | idle _ sessions _ deliveries | turned _ _ _ _ _ _ sessions _ deliveries =>
      exact ⟨deliveries ▸ found, sessions⟩
  | arrived new id stage _ sessions _ deliveries =>
      rw [deliveries, List.getElem?_append_left bound]
      exact ⟨found, sessions⟩
  | delivered j before after found' goes _ sessions _ deliveries =>
      refine ⟨?_, sessions⟩
      rw [deliveries, set_getElem? found']
      split_ifs with same
      · subst same
        obtain rfl := Option.some.inj (found.symm.trans found')
        exact absurd (goes.own scans) other
      · exact found
  | spawned j before after id h found' spawning touching _ sessions _ deliveries =>
      refine ⟨?_, sessions⟩
      rw [deliveries, set_getElem? found']
      split_ifs with same
      · subst same
        obtain rfl := Option.some.inj (found.symm.trans found')
        rw [spawning] at scans
        cases scans
      · exact found
  | inserted j before after id found' opened locks spawning absent read evicted evicts made sessions readers deliveries =>
      have none := inv.scans.inserted found' locks spawning deliveries
      have differs : j ≠ i := by
        rintro rfl
        exact another (locks locked).2
      have still : next.deliveries[i]? = some delivery := by
        rw [deliveries, set_getElem? found', if_neg differs]
        exact found
      exact absurd scans (List.countP_eq_zero.mp none delivery (List.mem_of_getElem? still))
  | returned j reader stage found' unlocked => cases unlocked.symm.trans locked

theorem Inv.leaves (inv : Inv this) (moved : Moved this event next) {i : Nat} {reader : Reader} {stage : Reading}
    (found : this.readers[i]? = some reader) (there : ¬ Back reader.stage)
    (after : next.readers[i]? = some { reader with stage }) (back : Back stage) (id : UInt32) (h : Nat) :
    next.sessions[id]? = some h ↔ this.sessions[id]? = some h ∧ h ≠ reader.session := by
  have bound := (List.getElem?_eq_some_iff.mp found).1
  have stays (same : this.readers[i]? = some { reader with stage }) : False :=
    there ((congrArg Reader.stage (Option.some.inj (found.symm.trans same))) ▸ back)
  cases moved with
  | idle _ _ readers | arrived _ _ _ _ _ readers | delivered _ _ _ _ _ _ _ readers
  | inserted _ _ _ _ _ _ _ _ _ _ _ _ _ _ readers =>
      rw [readers] at after
      exact (stays after).elim
  | spawned _ _ _ _ _ _ _ _ _ _ readers =>
      rw [readers, List.getElem?_append_left bound] at after
      exact (stays after).elim
  | turned j old stage' found' turns _ _ readers =>
      rw [readers, List.getElem?_set] at after
      split_ifs at after with same
      · have equal : stage' = stage := congrArg Reader.stage (Option.some.inj after)
        subst equal
        generalize old.stage = before at turns
        cases turns <;> simp [Back] at back
      · exact (stays after).elim
  | returned j old stage' found' _ returns _ sessions readers =>
      rw [readers, List.getElem?_set] at after
      split_ifs at after with same
      · subst same
        obtain rfl := Option.some.inj (found'.symm.trans found)
        rw [sessions, forget_getElem?]
        split_ifs with own
        · obtain ⟨rfl, held⟩ := own
          constructor
          · rintro ⟨⟩
          · rintro ⟨other, differs⟩
            exact absurd (Option.some.inj (other.symm.trans held)) differs
        · refine ⟨fun held => ⟨held, ?_⟩, fun held => held.1⟩
          rintro rfl
          obtain ⟨c, marked⟩ := inv.known.held id _ held
          obtain ⟨c', marked'⟩ := inv.known.read old (List.mem_of_getElem? found)
          have equal : id = old.id := congrArg Prod.fst (Option.some.inj (marked.symm.trans marked'))
          exact own ⟨equal, equal ▸ held⟩
      · exact (stays after).elim

end Table

/-- After the table, the sessions' readers and the visitors counted come parts about steps: what an
insert and the scan it may go on to do, and that a reader which returns takes its own session with it
and no other. -/
theorem client_session_table (id : UInt16) (proxy : Option SocketAddr) (idle cap : Nat) (decode : Server.Decode)
    (room : 1 ≤ cap) (this : UdpSessions) (reachable : (udpSessions id proxy idle cap decode).Reachable this) :
    this.sessions.size ≤ cap ∧
    (∀ (id : UInt32) (h : Nat), this.sessions[id]? = some h →
      ∃ session, this.made[h]? = some session ∧ session.id = id) ∧
    (∀ h < this.made.length, this.readers.countP (reads h) + this.deliveries.countP (opens h) = 1) ∧
    (∀ (i : Nat) (delivery : Delivery) (h : Nat), this.deliveries[i]? = some delivery → opens h delivery = true →
      (∃ session next, this.made[h]? = some session ∧ this.step decode (.spawn i) = some next ∧
        next.readers = this.readers ++ [⟨session.id, h, .looping⟩]) ∧
      this.step decode (.abandon i) = none) ∧
    this.meter.visitors = this.made.length ∧
    (∀ i order next, this.step decode (.insert i order) = some next →
      ∃ delivery id, this.deliveries[i]? = some delivery ∧ delivery.stage = .inserting id ∧
        Inserted this next i id) ∧
    (∀ (i : Nat) (delivery : Delivery) (id : UInt32) (left : List (UInt32 × Nat)) (read : List ((UInt32 × Nat) × Nat)),
      this.deliveries[i]? = some delivery → delivery.stage = .scanning id left read →
        Scanned this id left read ∧
        ((this.step decode (.scan i)).isSome ∨ (this.step decode (.evict i)).isSome) ∧
        ∀ event next, this.step decode event = some next → event ≠ .scan i → event ≠ .evict i →
          next.deliveries[i]? = some delivery ∧ next.sessions = this.sessions) ∧
    (∀ i next, this.step decode (.scan i) = some next →
      ∃ delivery id session left read, this.deliveries[i]? = some delivery ∧
        delivery.stage = .scanning id (session :: left) read ∧
        next = this.delivery i delivery (.scanning id left (read ++ [(session, this.used session.2)]))) ∧
    (∀ i next, this.step decode (.evict i) = some next →
      ∃ delivery id read oldest gone, this.deliveries[i]? = some delivery ∧ delivery.stage = .scanning id [] read ∧
        Replaced this next id read oldest gone) ∧
    ∀ event next, this.step decode event = some next → ∀ (i : Nat) (reader : Reader) (stage : Reading),
      this.readers[i]? = some reader → ¬ Back reader.stage → next.readers[i]? = some { reader with stage } → Back stage →
      ∀ (id : UInt32) (h : Nat),
        next.sessions[id]? = some h ↔ this.sessions[id]? = some h ∧ h ≠ reader.session := by
  have inv := reachable_inv reachable
  obtain ⟨rfl, size⟩ := reachable_size room reachable
  have length : (marks this).length = this.made.length := List.length_map _
  have known {id : UInt32} {h : Nat} (marked : ∃ c, (marks this)[h]? = some (id, c)) :
      ∃ session, this.made[h]? = some session ∧ session.id = id := by
    obtain ⟨c, marked⟩ := marked
    unfold marks at marked
    rw [List.getElem?_map] at marked
    obtain ⟨session, made, same⟩ := Option.map_eq_some_iff.mp marked
    exact ⟨session, made, congrArg Prod.fst same⟩
  refine ⟨size, fun id h held => known (inv.known.held id h held), ?_, ?_, inv.visitors.trans length, ?_, ?_, ?_, ?_, ?_⟩
  · intro h bound
    exact inv.once h (length ▸ bound)
  · intro i delivery h found opening
    have opened := inv.known.opening delivery (List.mem_of_getElem? found)
    obtain ⟨datagram, len, stage⟩ := delivery
    cases stage with
    | spawning id session =>
        obtain rfl : session = h := of_decide_eq_true opening
        obtain ⟨made, there, rfl⟩ := known (opened id session rfl)
        have spawns : this.step decode (.spawn i) = _ := spawn_step found
        exact ⟨⟨made, _, there, spawns, rfl⟩, abandon_step found⟩
    | looking | connecting | inserting | scanning | touching | sending | done => cases opening
  · intro i order next stepped
    exact insert_inserted stepped size
  · intro i delivery id left read found scanning
    refine ⟨inv.scans.scanned delivery (List.mem_of_getElem? found) id left read scanning, ?_, ?_⟩
    · exact scan_enabled found scanning
    · intro event next stepped other another
      exact inv.scanning (step_moved inv.scans stepped).1 found (by rw [scanning]; rfl) other another
  · intro i next stepped
    exact scan_reads stepped
  · intro i next stepped
    exact inv.replaced stepped room size
  · intro event next stepped i reader stage found there after back
    exact inv.leaves (step_moved inv.scans stepped).1 found there after back

section Example
open Proof.Udp (shortDecode)

/-- A visitor's first datagram. -/
def visits (session : UInt8) (delivery : Nat) (order : List (UInt32 × Nat)) : List UdpSessions.Event :=
  [.deliver [4, session, 63], .lookup delivery, .connect delivery true, .insert delivery order, .spawn delivery,
    .touch delivery, .send delivery true]

/-- At a cap of one, a delivery for session 6 has scanned the table with session 5 in it. -/
def secondVisitor : List UdpSessions.Event :=
  visits 5 0 [] ++ [.deliver [4, 6, 63], .lookup 1, .connect 1 true, .insert 1 [(5, 0)], .scan 1]

theorem client_session_table_evicts : ∃ this next : UdpSessions, ∃ read,
    (udpSessions 4 none 60 1 shortDecode).Reachable this ∧ this.step shortDecode (.evict 1) = some next ∧
      Replaced this next 6 read 5 0 ∧ next.sessions.toList = [(6, 1)] ∧ next.cancelled 0 = true := by
  have first : (udpSessions 4 none 60 1 shortDecode).Reachable (.new 4 none 60 1 0) := .initial ⟨0, rfl⟩
  have reachable : (udpSessions 4 none 60 1 shortDecode).Reachable _ :=
    System.Reachable.run (fun _ _ _ stepped => stepped) first secondVisitor rfl
  obtain ⟨-, -, -, -, -, -, -, -, evicts, -⟩ := client_session_table 4 none 60 1 shortDecode le_rfl _ reachable
  obtain ⟨delivery, id, read, oldest, gone, found, stage, replaced⟩ := evicts 1 _ rfl
  cases found
  cases stage
  obtain ⟨used, member, -⟩ := replaced.quietest.least
  cases List.mem_singleton.mp member
  exact ⟨_, _, _, reachable, rfl, replaced, rfl, rfl⟩

/-- At a cap of three, sessions 5, 6 and 7 were used at 1, 2 and 3, a datagram is on its way to each,
and a fourth visitor's delivery has its socket. -/
def fourthVisitor : List UdpSessions.Event :=
  .tick 1 :: visits 5 0 [] ++ .tick 1 :: visits 6 1 [(5, 0)] ++ .tick 1 :: visits 7 2 [(5, 0), (6, 1)] ++
    [.deliver [4, 5, 33], .lookup 3, .deliver [4, 6, 33], .lookup 4, .deliver [4, 7, 33], .lookup 5,
      .deliver [4, 8, 63], .lookup 6, .connect 6 true]

/-- Its scan reads the clock of session 7 first, and the others after all three datagrams. -/
def usedSince : List UdpSessions.Event :=
  [.insert 6 [(7, 2), (5, 0), (6, 1)], .scan 6, .tick 7, .touch 3, .tick 1, .touch 5, .tick 1, .touch 4, .scan 6, .scan 6]

theorem evicts_used_since : ∃ before this next : UdpSessions,
    (udpSessions 4 none 60 3 shortDecode).Reachable before ∧
      before.sessions.toList = [(5, 0), (6, 1), (7, 2)] ∧ before.used 0 < before.used 2 ∧
      System.run (UdpSessions.step shortDecode) before usedSince = some this ∧
      this.sessions.toList = [(5, 0), (6, 1), (7, 2)] ∧ this.used 0 < this.used 2 ∧
      this.step shortDecode (.evict 6) = some next ∧ next.sessions.toList = [(5, 0), (6, 1), (8, 3)] ∧
      next.cancelled 2 = true := by
  have first : (udpSessions 4 none 60 3 shortDecode).Reachable (.new 4 none 60 3 0) := .initial ⟨0, rfl⟩
  have reachable : (udpSessions 4 none 60 3 shortDecode).Reachable _ :=
    System.Reachable.run (fun _ _ _ stepped => stepped) first fourthVisitor rfl
  exact ⟨_, _, _, reachable, rfl, by decide, rfl, rfl, by decide, rfl, rfl, rfl⟩

end Example
end Hawse.Proof.Client.Udp
