import Hawse.Pump

namespace Hawse.Proof.Pump
open Hawse.Pump

variable {Err : Type} {send : SendHalf} {buffer : Nat} {socket stream : List UInt8}

def unsent : ToStream → List UInt8
  | .writing rest => rest
  | _ => []

theorem unsent_write (send : SendHalf) (rest : List UInt8) : unsent (.write send rest) = rest := by
  cases rest with
  | nil => cases send <;> rfl
  | cons first rest => rfl

theorem write_running (send : SendHalf) (rest : List UInt8) :
    ToStream.write send rest ≠ .finishing ∧ ToStream.write send rest ≠ .done := by
  cases rest with
  | nil => cases send <;> simp [ToStream.write]
  | cons first rest => simp [ToStream.write]

/-- Nothing of the socket's bytes is lost or repeated, and the stream is told to finish at its EOF
with nothing left to write. -/
structure UpwardInv (socket : List UInt8) (up : Upward) : Prop where
  conserved : up.taken ++ unsent up.stage ++ up.source = socket
  total : up.total = (up.taken ++ unsent up.stage).length
  finishing : up.finishing = true ↔ up.stage = .finishing ∨ up.stage = .done
  at_eof : up.finishing = true → up.source = []

theorem UpwardInv.whole {up : Upward} (inv : UpwardInv socket up) (finishing : up.finishing = true) :
    up.taken = socket ∧ up.total = up.taken.length := by
  have idle : unsent up.stage = [] := by
    rcases inv.finishing.mp finishing with stage | stage <;> rw [stage] <;> rfl
  have conserved := inv.conserved
  have total := inv.total
  rw [idle] at conserved total
  rw [inv.at_eof finishing] at conserved
  simp only [List.append_nil] at conserved total
  exact ⟨conserved, total⟩

theorem upward_step {up next : Upward} {event : Upward.Event Err} (inv : UpwardInv socket up)
    (stepped : up.step send event = some (.ok next)) :
    UpwardInv socket next ∧ next.reset = up.reset ∧
      (up.guarded = !up.finishing → next.guarded = !next.finishing) := by
  obtain ⟨conserved, total, finishing, at_eof⟩ := inv
  cases event with
  | read k =>
      simp only [Upward.step] at stepped
      split_ifs at stepped with reading empty
      · cases stepped
        have eof : up.source = [] := by
          rcases List.take_eq_nil_iff.mp (List.eq_nil_of_length_eq_zero empty) with zero | eof
          · omega
          · exact eof
        simp only [reading, unsent] at conserved total
        exact ⟨⟨conserved, total, by simp, fun _ => eof⟩, rfl, by simp⟩
      · cases stepped
        have running : up.finishing = false := by
          by_contra finished
          simp [reading] at finishing
          exact finished finishing
        simp only [reading, unsent, List.append_nil] at conserved total
        refine ⟨⟨?_, ?_, by simp [running], by simp [running]⟩, rfl, id⟩
        · simp only [unsent, List.append_assoc, List.take_append_drop]
          exact conserved
        · simp only [unsent, List.length_append, total]
  | readFails err =>
      simp only [Upward.step] at stepped
      split_ifs at stepped
      cases stepped
  | takes k =>
      simp only [Upward.step] at stepped
      split at stepped
      · rename_i rest writing
        cases stepped
        have running : up.finishing = false := by
          by_contra finished
          simp [writing] at finishing
          exact finished finishing
        have busy := write_running send (rest.drop (k + 1))
        simp only [writing, unsent] at conserved total
        refine ⟨⟨?_, ?_, by simp [running, busy], by simp [running]⟩, rfl, id⟩
        · simp only [unsent_write, List.append_assoc, List.take_append_drop]
          rw [← List.append_assoc]
          exact conserved
        · simp only [unsent_write, List.append_assoc, List.take_append_drop, total]
      · cases stepped
  | writeFails err =>
      simp only [Upward.step] at stepped
      split at stepped <;> cases stepped
  | flushed =>
      simp only [Upward.step] at stepped
      split_ifs at stepped with flushing
      cases stepped
      simp only [flushing, unsent] at conserved total
      simp only [flushing] at finishing
      exact ⟨⟨conserved, total, by simpa using finishing, at_eof⟩, rfl, id⟩
  | finished result =>
      simp only [Upward.step] at stepped
      split_ifs at stepped with stage
      cases stepped
      simp only [stage, unsent] at conserved total
      simp only [stage] at finishing
      exact ⟨⟨conserved, total, by simpa using finishing, at_eof⟩, rfl, id⟩

def unwritten : ToSocket → List UInt8
  | .writing rest => rest
  | _ => []

theorem unwritten_write (rest : List UInt8) : unwritten (.write rest) = rest := by
  cases rest <;> rfl

theorem write_copying (rest : List UInt8) :
    ToSocket.write rest ≠ .shutdown ∧ ToSocket.write rest ≠ .done := by
  cases rest <;> simp [ToSocket.write]

structure DownwardInv (stream : List UInt8) (down : Downward) : Prop where
  conserved : down.taken ++ unwritten down.stage ++ down.source = stream
  total : down.total = (down.taken ++ unwritten down.stage).length
  at_eof : down.stage = .shutdown ∨ down.stage = .done → down.source = []

theorem DownwardInv.whole {down : Downward} (inv : DownwardInv stream down)
    (done : down.stage = .done) : down.taken = stream ∧ down.total = down.taken.length := by
  have conserved := inv.conserved
  have total := inv.total
  rw [inv.at_eof (.inr done), done] at conserved
  rw [done] at total
  simp only [unwritten, List.append_nil] at conserved total
  exact ⟨conserved, total⟩

theorem downward_step (some_room : 0 < buffer) {down next : Downward} {event : Downward.Event Err}
    (inv : DownwardInv stream down) (stepped : down.step buffer event = some (.ok next)) :
    DownwardInv stream next := by
  obtain ⟨conserved, total, at_eof⟩ := inv
  cases event with
  | read k =>
      simp only [Downward.step] at stepped
      split_ifs at stepped with reading empty
      · cases stepped
        have eof : down.source = [] := by
          rcases List.take_eq_nil_iff.mp (List.eq_nil_of_length_eq_zero empty) with zero | eof
          · omega
          · exact eof
        simp only [reading, unwritten] at conserved total
        exact ⟨conserved, total, fun _ => eof⟩
      · cases stepped
        simp only [reading, unwritten, List.append_nil] at conserved total
        refine ⟨?_, ?_, by simp⟩
        · simp only [unwritten, List.append_assoc, List.take_append_drop]
          exact conserved
        · simp only [unwritten, List.length_append, total]
  | readFails err =>
      simp only [Downward.step] at stepped
      split_ifs at stepped
      cases stepped
  | takes k =>
      simp only [Downward.step] at stepped
      split at stepped
      · rename_i rest writing
        cases stepped
        have busy := write_copying (rest.drop (k + 1))
        simp only [writing, unwritten] at conserved total
        refine ⟨?_, ?_, by simp [busy]⟩
        · simp only [unwritten_write, List.append_assoc, List.take_append_drop]
          rw [← List.append_assoc]
          exact conserved
        · simp only [unwritten_write, List.append_assoc, List.take_append_drop, total]
      · cases stepped
  | writeFails err =>
      simp only [Downward.step] at stepped
      split at stepped <;> cases stepped
  | shutdown result =>
      simp only [Downward.step] at stepped
      split_ifs at stepped with stage
      cases stepped
      simp only [stage, unwritten] at conserved total
      exact ⟨conserved, total, fun _ => at_eof (.inl stage)⟩

/-- While it runs, exactly an unfinished stream is guarded. Once it has ended, an unfinished stream
was reset and the socket aborted, unless both directions are done. -/
def Settled (this : State Err) : Prop :=
  match this.outcome with
  | .running => this.up.guarded = !this.up.finishing ∧ this.up.reset = none ∧ this.finished = false
  | .dropped | .returned (.error _) =>
      this.up.reset = (if this.up.finishing then none else some aborted) ∧ this.socketAborted = true
  | .returned (.ok stats) =>
      this.up.stage = .done ∧ this.down.stage = .done ∧ this.up.reset = none ∧
        stats = ⟨this.up.total, this.down.total⟩

structure Inv (socket stream : List UInt8) (this : State Err) : Prop where
  up : UpwardInv socket this.up
  down : DownwardInv stream this.down
  settled : Settled this

theorem drop_inv {up : Upward} (inv : UpwardInv socket up) : UpwardInv socket up.drop := by
  unfold Upward.drop
  split_ifs
  · exact ⟨inv.conserved, inv.total, inv.finishing, inv.at_eof⟩
  · exact inv

theorem drop_reset {up : Upward} (guarded : up.guarded = !up.finishing) (unreset : up.reset = none) :
    up.drop.reset = if up.drop.finishing then none else some aborted := by
  unfold Upward.drop
  cases finishing : up.finishing <;> simp_all

theorem leave_inv {this : State Err} (inv : Inv socket stream this) (running : this.outcome = .running)
    {outcome : Outcome Err} (stops : outcome = .dropped ∨ ∃ err, outcome = .returned (.error err)) :
    Inv socket stream (this.leave outcome) := by
  obtain ⟨up, down, settled⟩ := inv
  rw [Settled, running] at settled
  obtain ⟨guarded, unreset, unfinished⟩ := settled
  refine ⟨drop_inv up, down, ?_⟩
  have reset := drop_reset guarded unreset
  rcases stops with rfl | ⟨err, rfl⟩
  · exact ⟨reset, by simp [State.leave, unfinished]⟩
  · exact ⟨reset, by simp [State.leave, unfinished]⟩

theorem join_inv {this : State Err} (inv : Inv socket stream this) (running : this.outcome = .running) :
    Inv socket stream this.join := by
  unfold State.join
  split_ifs with both
  · obtain ⟨up, down, settled⟩ := inv
    rw [Settled, running] at settled
    obtain ⟨guarded, unreset, -⟩ := settled
    have unguarded : this.up.guarded = false := by
      rw [guarded, up.finishing.mpr (.inr both.1), Bool.not_true]
    have dropped : this.up.drop = this.up := by simp [Upward.drop, unguarded]
    refine ⟨drop_inv up, down, ?_⟩
    simp only [Settled, State.leave, dropped]
    exact ⟨both.1, both.2, unreset, trivial⟩
  · exact inv

theorem step_inv (some_room : 0 < buffer) {this next : State Err} {event : Event Err}
    (inv : Inv socket stream this)
    (stepped : (pump send buffer socket stream).step this event next) : Inv socket stream next := by
  have running : this.outcome = .running := by
    by_contra ended
    simp only [pump, State.step] at stepped
    split at stepped <;> simp_all
  have settled := inv.settled
  rw [Settled, running] at settled
  obtain ⟨guarded, unreset, unfinished⟩ := settled
  cases event with
  | up event =>
      simp only [pump, State.step, running] at stepped
      cases result : this.up.step send event with
      | none => simp [result] at stepped
      | some result' =>
          cases result' with
          | error err =>
              simp only [result, Option.some.injEq] at stepped
              rw [← stepped]
              exact leave_inv inv running (.inr ⟨err, rfl⟩)
          | ok up =>
              simp only [result, Option.some.injEq] at stepped
              rw [← stepped]
              obtain ⟨inv', same, guards⟩ := upward_step inv.up result
              refine join_inv ⟨inv', inv.down, ?_⟩ rfl
              exact ⟨guards guarded, same.trans unreset, unfinished⟩
  | down event =>
      simp only [pump, State.step, running] at stepped
      cases result : this.down.step buffer event with
      | none => simp [result] at stepped
      | some result' =>
          cases result' with
          | error err =>
              simp only [result, Option.some.injEq] at stepped
              rw [← stepped]
              exact leave_inv inv running (.inr ⟨err, rfl⟩)
          | ok down =>
              simp only [result, Option.some.injEq] at stepped
              rw [← stepped]
              refine join_inv ⟨inv.up, downward_step some_room inv.down result, ?_⟩ rfl
              exact ⟨guarded, unreset, unfinished⟩
  | drop =>
      simp only [pump, State.step, running, Option.some.injEq] at stepped
      rw [← stepped]
      exact leave_inv inv running (.inl rfl)

theorem reachable_inv (some_room : 0 < buffer) {this : State Err}
    (reachable : (pump send buffer socket stream).Reachable this) : Inv socket stream this := by
  apply reachable.invariant (Inv socket stream)
  · intro first initial
    rw [initial]
    refine ⟨⟨rfl, rfl, ?_, ?_⟩, ⟨rfl, rfl, ?_⟩, ?_⟩ <;> simp [State.start, Settled]
  · intro before event after _ inv stepped
    exact step_inv some_room inv stepped

-- `buffer` is at least 1 KiB in every configuration `validate` accepts.
theorem pump_never_ends_clean_when_cut (send : SendHalf) {buffer : Nat} (some_room : 0 < buffer)
    (socket stream : List UInt8) (this : State Err)
    (reachable : (pump send buffer socket stream).Reachable this) :
    (this.up.finishing = true → this.up.source = [] ∧ this.up.taken = socket ∧ this.up.reset = none) ∧
    (this.outcome ≠ .running → this.up.finishing = false → this.up.reset = some aborted) ∧
    (this.outcome ≠ .running → this.socketAborted = false →
      this.up.source = [] ∧ this.down.source = [] ∧ this.up.taken = socket ∧
        this.down.taken = stream) ∧
    ∀ stats, this.outcome = .returned (.ok stats) →
      stats = ⟨this.up.taken.length, this.down.taken.length⟩ ∧
        this.up.taken = socket ∧ this.down.taken = stream := by
  obtain ⟨up, down, settled⟩ := reachable_inv some_room reachable
  have whole : this.up.stage = .done → this.down.stage = .done → this.up.source = [] ∧
      this.down.source = [] ∧ this.up.taken = socket ∧ this.down.taken = stream := by
    intro upDone downDone
    have finishing := up.finishing.mpr (.inr upDone)
    exact ⟨up.at_eof finishing, down.at_eof (.inr downDone), (up.whole finishing).1,
      (down.whole downDone).1⟩
  refine ⟨?_, ?_, ?_, ?_⟩
  · intro finishing
    refine ⟨up.at_eof finishing, (up.whole finishing).1, ?_⟩
    unfold Settled at settled
    split at settled
    · exact settled.2.1
    · simpa [finishing] using settled.1
    · simpa [finishing] using settled.1
    · exact settled.2.2.1
  · intro ended unfinished
    unfold Settled at settled
    split at settled
    · exact absurd ‹_› ended
    · simpa [unfinished] using settled.1
    · simpa [unfinished] using settled.1
    · rw [up.finishing.mpr (.inr settled.1)] at unfinished
      cases unfinished
  · intro ended unaborted
    unfold Settled at settled
    split at settled
    · exact absurd ‹_› ended
    · exact absurd settled.2 (by simp [unaborted])
    · exact absurd settled.2 (by simp [unaborted])
    · exact whole settled.1 settled.2.1
  · intro stats returned
    rw [Settled, returned] at settled
    obtain ⟨upDone, downDone, -, same⟩ := settled
    have moved := whole upDone downDone
    rw [same, (up.whole (up.finishing.mpr (.inr upDone))).2, (down.whole downDone).2]
    exact ⟨rfl, moved.2.2.1, moved.2.2.2⟩

theorem pump_never_ends_clean_when_cut_byte :
    ∃ this : State Unit, (pump .quic 1024 [7] []).Reachable this ∧
      this.outcome = .returned (.ok ⟨1, 0⟩) ∧ this.socketAborted = false ∧
      this.up.source = [] ∧ this.up.taken = [7] ∧ this.down.taken = [] := by
  have reachable : (pump .quic 1024 [7] []).Reachable
      ⟨⟨.done, 1, 1, false, [], [7], true, none⟩, ⟨.done, 0, 0, [], []⟩, true, false,
        .returned (.ok ⟨1, 0⟩)⟩ :=
    Lib.System.Reachable.run (fun _ _ _ stepped => stepped) (.initial rfl)
      [.up (.read 0), .down (.read 0), .down (.shutdown (.error ())), .up (.takes 0),
        .up (.read 0), .up (.finished (.ok ()))] rfl
  obtain ⟨-, -, clean, -⟩ :=
    pump_never_ends_clean_when_cut .quic (by decide) [7] [] _ reachable
  obtain ⟨eof, -, up, down⟩ := clean (by simp) rfl
  exact ⟨_, reachable, rfl, rfl, eof, up, down⟩

end Hawse.Proof.Pump
