import Hawse.Proof.Transport.Reader

namespace Hawse.Proof.Transport
open Record Hawse.Transport RecordWriter

def queued (this : RecordWriter) : List UInt8 := this.inner.sent ++ this.buf

theorem pollWrite_sent (sink : Sink) {data : List UInt8} (some_data : data ≠ []) :
    (∃ next, sink.pollWrite data = (.pending, next) ∧ next.sent = sink.sent) ∨
    ∃ n next, sink.pollWrite data = (.ready n, next) ∧ 0 < n ∧
      next.sent = sink.sent ++ data.take n := by
  have long := List.length_pos_iff.mpr some_data
  obtain ⟨sent, polls⟩ := sink
  cases polls with
  | nil => exact .inr ⟨data.length, _, rfl, long, by rw [List.take_length]⟩
  | cons poll polls =>
      cases poll with
      | none => exact .inl ⟨_, rfl, rfl⟩
      | some k =>
          refine .inr ⟨min (k + 1) data.length, _, rfl, lt_min (Nat.succ_pos k) long, ?_⟩
          rw [List.take_eq_take_min]

theorem pollQuiet_sent (sink : Sink) : sink.pollQuiet.2.sent = sink.sent := by
  obtain ⟨sent, polls⟩ := sink
  rcases polls with _ | ⟨_ | k, polls⟩ <;> rfl

structure Drained (this : RecordWriter) (result : Poll (Except IoError Unit)) (next : RecordWriter) :
    Prop where
  queued : queued next = queued this
  ended : next.ended = this.ended
  succeeds : ∀ err, result ≠ .ready (.error err)

theorem drainLoop_drained (turns : Nat) (this : RecordWriter) :
    Drained this (drainLoop turns this).1 (drainLoop turns this).2 := by
  induction turns generalizing this with
  | zero => exact ⟨rfl, rfl, by simp [drainLoop]⟩
  | succ turns ih =>
      unfold drainLoop
      split_ifs with empty
      · exact ⟨rfl, rfl, by simp⟩
      · rcases pollWrite_sent this.inner empty with ⟨inner, polled, sent⟩ | ⟨n, inner, polled, some_n, sent⟩
        · rw [polled]
          exact ⟨by simp [queued, sent], rfl, by simp⟩
        · rw [polled]
          simp only [Nat.ne_of_gt some_n, ↓reduceIte]
          have rest := ih { this with inner, buf := this.buf.drop n }
          refine ⟨?_, rest.ended, rest.succeeds⟩
          rw [rest.queued]
          simp [queued, sent]

theorem pollDrain_drained (this : RecordWriter) : Drained this this.pollDrain.1 this.pollDrain.2 :=
  drainLoop_drained _ this

theorem drainThen_queued (this : RecordWriter) :
    queued this.drainThen.2 = queued this ∧ this.drainThen.2.ended = this.ended := by
  have drained := pollDrain_drained this
  unfold drainThen
  revert drained
  generalize this.pollDrain = result
  obtain ⟨result, next⟩ := result
  intro drained
  split
  · rename_i next' same
    cases same
    have quiet := pollQuiet_sent next.inner
    revert quiet
    generalize next.inner.pollQuiet = polled
    obtain ⟨polled, inner⟩ := polled
    intro (quiet : inner.sent = next.inner.sent)
    have same : queued { next with inner } = queued this := by
      rw [← drained.queued]
      simp only [queued, quiet]
    cases polled with
    | ready _ => exact ⟨same, drained.ended⟩
    | pending => exact ⟨same, drained.ended⟩
  · exact ⟨drained.queued, drained.ended⟩

theorem reset_queued (this : RecordWriter) (code : UInt32) :
    queued (this.reset code) = queued (this.endWith (Record.reset code)) ∧
      (this.reset code).ended = (this.endWith (Record.reset code)).ended := by
  have drained := pollDrain_drained (this.endWith (Record.reset code))
  unfold RecordWriter.reset
  revert drained
  generalize (this.endWith (Record.reset code)).pollDrain = result
  obtain ⟨result, next⟩ := result
  intro drained
  cases result with
  | pending => exact ⟨drained.queued, drained.ended⟩
  | ready _ =>
      refine ⟨?_, drained.ended⟩
      rw [← drained.queued]
      simp [queued, pollQuiet_sent]

def accepts (data : List UInt8) : List UInt8 := data.take (min data.length maxData)

theorem accepts_length (data : List UInt8) : (accepts data).length = min data.length maxData := by
  rw [accepts, List.length_take]
  omega

theorem pollWrite_queued {this : RecordWriter} (running : this.ended = false) (data : List UInt8) :
    (∃ next, this.pollWrite data = (.pending, next) ∧ next.ended = false ∧
      queued next = queued this) ∨
    ∃ next, this.pollWrite data = (.ready (.ok (min data.length maxData)), next) ∧
      next.ended = false ∧
      queued next = queued this ++ if accepts data = [] then [] else dataRecord (accepts data) := by
  have len := accepts_length data
  have drained := pollDrain_drained this
  unfold RecordWriter.pollWrite
  simp only [running, Bool.false_eq_true, ↓reduceIte]
  revert drained
  generalize this.pollDrain = result
  obtain ⟨result, next⟩ := result
  intro drained
  have running' : next.ended = false := drained.ended.trans running
  cases result with
  | pending => exact .inl ⟨next, rfl, running', drained.queued⟩
  | ready done =>
      cases done with
      | error err => exact absurd rfl (drained.succeeds err)
      | ok =>
          dsimp only
          right
          by_cases none : accepts data = []
          · have zero : min data.length maxData = 0 := by rw [← len, none, List.length_nil]
            simp only [none, zero, ↓reduceIte]
            exact ⟨next, rfl, running', by rw [drained.queued, List.append_nil]⟩
          · have positive : min data.length maxData ≠ 0 := by
              rw [← len]
              exact fun zero => none (List.eq_nil_of_length_eq_zero zero)
            simp only [none, positive, ↓reduceIte]
            have drained' := pollDrain_drained { next with
              buf := next.buf ++ Record.data (UInt16.ofNat (min data.length maxData)) ++
                data.take (min data.length maxData) }
            revert drained'
            generalize RecordWriter.pollDrain _ = result'
            obtain ⟨result', last⟩ := result'
            intro drained'
            have queued_last : queued last = queued this ++ dataRecord (accepts data) := by
              rw [drained'.queued, ← drained.queued, dataRecord, len]
              simp [queued, accepts]
            cases result' with
            | pending => exact ⟨last, rfl, drained'.ended.trans running', queued_last⟩
            | ready done =>
                cases done with
                | error err => exact absurd rfl (drained'.succeeds err)
                | ok => exact ⟨last, rfl, drained'.ended.trans running', queued_last⟩

def Call.ends : Call → Bool
  | .shutdown => true
  | .reset _ => true
  | _ => false

def lastRecord : Option Call → List UInt8
  | some .shutdown => [finishTag]
  | some (.reset code) => Record.reset code
  | _ => []

/-- What a writer has queued since it was new: a record for each chunk it accepted and, after the
call that ended it, that call's. -/
structure Frames (this : RecordWriter) (accepted : List UInt8) (ended : Option Call) : Prop where
  flag : this.ended = ended.isSome
  chunks : ∃ chunks : List (List UInt8), (∀ chunk ∈ chunks, Whole chunk) ∧
    chunks.flatten = accepted ∧ queued this = chunks.flatMap dataRecord ++ lastRecord ended

theorem Frames.of_queued {this next : RecordWriter} {accepted : List UInt8} {ended : Option Call}
    (frames : Frames this accepted ended) (same : queued next = queued this)
    (still : next.ended = this.ended) : Frames next accepted ended :=
  ⟨still.trans frames.flag, by rw [same]; exact frames.chunks⟩

theorem Frames.write {this : RecordWriter} {accepted : List UInt8}
    (frames : Frames this accepted none) {next : RecordWriter} {data : List UInt8}
    (running : next.ended = false)
    (more : queued next =
      queued this ++ if accepts data = [] then [] else dataRecord (accepts data)) :
    Frames next (accepted ++ accepts data) none := by
  obtain ⟨chunks, whole, flat, framed⟩ := frames.chunks
  refine ⟨running, ?_⟩
  rw [more, framed]
  by_cases none : accepts data = []
  · exact ⟨chunks, whole, by rw [flat, none, List.append_nil], by simp [none, lastRecord]⟩
  · refine ⟨chunks ++ [accepts data], ?_, by simp [flat], by simp [none, lastRecord]⟩
    intro chunk member
    rcases List.mem_append.mp member with member | member
    · exact whole chunk member
    · rw [List.mem_singleton.mp member]
      refine ⟨List.length_pos_iff.mpr none, ?_⟩
      rw [accepts_length]
      exact min_le_right _ _

theorem Frames.endWith {this : RecordWriter} {accepted : List UInt8} {ended : Option Call}
    (frames : Frames this accepted ended) (last : Call) :
    Frames (this.endWith (lastRecord (some last))) accepted (ended.or (some last)) := by
  cases ended with
  | some other =>
      have ended : this.ended = true := frames.flag
      simpa [RecordWriter.endWith, ended] using frames
  | none =>
      have running : this.ended = false := frames.flag
      obtain ⟨chunks, whole, flat, framed⟩ := frames.chunks
      simp only [lastRecord, List.append_nil] at framed
      refine ⟨by simp [RecordWriter.endWith, running], chunks, whole, flat, ?_⟩
      rw [← framed]
      simp [RecordWriter.endWith, running, queued]

theorem call_frames {this : RecordWriter} {accepted : List UInt8} {ended : Option Call}
    (frames : Frames this accepted ended) (call : Call) :
    Frames (this.call call).2 (accepted ++ (this.call call).1)
      (ended.or (if Call.ends call then some call else none)) ∧
    (ended.isSome → (this.call call).1 = []) := by
  cases call with
  | write data =>
      cases ended with
      | some last =>
          have ended : this.ended = true := frames.flag
          simpa [RecordWriter.call, RecordWriter.pollWrite, ended, Call.ends] using frames
      | none =>
          refine ⟨?_, by simp⟩
          rcases pollWrite_queued frames.flag data with
            ⟨next, polled, running, same⟩ | ⟨next, polled, running, more⟩
          · simp only [RecordWriter.call, polled, List.append_nil, Call.ends]
            exact frames.of_queued same (running.trans frames.flag.symm)
          · simp only [RecordWriter.call, polled, Call.ends]
            exact frames.write running more
  | flush =>
      simp only [RecordWriter.call, List.append_nil, Call.ends, implies_true, and_true]
      have drained := drainThen_queued this
      simpa [RecordWriter.pollFlush] using frames.of_queued drained.1 drained.2
  | shutdown =>
      simp only [RecordWriter.call, List.append_nil, Call.ends, implies_true, and_true, ↓reduceIte]
      have drained := drainThen_queued (this.endWith [finishTag])
      exact (frames.endWith .shutdown).of_queued drained.1 drained.2
  | reset code =>
      simp only [RecordWriter.call, List.append_nil, Call.ends, implies_true, and_true, ↓reduceIte]
      have drained := reset_queued this code
      exact (frames.endWith (.reset code)).of_queued drained.1 drained.2

theorem calls_frames {this : RecordWriter} {accepted : List UInt8} {ended : Option Call}
    (frames : Frames this accepted ended) (calls : List Call) :
    Frames (this.calls calls).2 (accepted ++ (this.calls calls).1)
      (ended.or (calls.find? Call.ends)) ∧
    (ended.isSome → (this.calls calls).1 = []) := by
  induction calls generalizing this accepted ended with
  | nil => simpa [RecordWriter.calls] using frames
  | cons call calls ih =>
      obtain ⟨once, quiet⟩ := call_frames frames call
      obtain ⟨later, quiet'⟩ := ih once
      simp only [RecordWriter.calls, List.find?_cons]
      constructor
      · rw [List.append_assoc] at later
        cases isEnd : Call.ends call <;> cases ended <;> simpa [isEnd] using later
      · intro over_already
        rw [quiet over_already, quiet' (by simp [over_already]), List.append_nil]

def endingOf : Option Call → Ending
  | some .shutdown => .finished
  | some (.reset code) => .reset (some code)
  | _ => .reset none

theorem parse_lastRecord (ended : Option Call) : parse (lastRecord ended) = ([], endingOf ended) := by
  match ended with
  | none | some (.write _) | some .flush => simp [lastRecord, endingOf, parse]
  | some .shutdown => exact parse_finish []
  | some (.reset code) =>
      have parsed := parse_reset code []
      rwa [List.append_nil] at parsed

theorem Frames.parse_queued {this : RecordWriter} {accepted : List UInt8} {ended : Option Call}
    (frames : Frames this accepted ended) : parse (queued this) = (accepted, endingOf ended) := by
  obtain ⟨chunks, whole, flat, framed⟩ := frames.chunks
  rw [framed, parse_flatMap whole, parse_lastRecord, prepend, flat, List.append_nil]

theorem Frames.parse_arrived {this : RecordWriter} {accepted : List UInt8} {ended : Option Call}
    (frames : Frames this accepted ended) {wire : List UInt8} (arrived : wire <+: queued this) :
    (parse wire).1 <+: accepted ∧
      ((parse wire).2 ≠ .reset none → parse wire = (accepted, endingOf ended)) := by
  obtain ⟨rest, whole⟩ := arrived
  have parsed := frames.parse_queued
  rw [← whole] at parsed
  constructor
  · have within := parse_append_prefix wire rest
    rwa [parsed] at within
  · intro said
    rwa [parse_append_ended said] at parsed

theorem delivered_ends (before : List Polled) (ends : Nat) (ending : Ending) :
    delivered (before ++ List.replicate ends (report ending)) = delivered before := by
  have nothing : Polled.bytes (report ending) = [] := by cases ending <;> rfl
  simp [delivered, nothing]

theorem endingOf_eq_finished {ended : Option Call} (finished : endingOf ended = .finished) :
    ended = some .shutdown := by
  match ended with
  | some .shutdown => rfl
  | none | some (.write _) | some .flush | some (.reset _) => simp [endingOf] at finished

theorem endingOf_eq_reset {ended : Option Call} {code : UInt32}
    (reset : endingOf ended = .reset (some code)) : ended = some (.reset code) := by
  match ended with
  | some (.reset _) => simpa [endingOf] using reset
  | none | some (.write _) | some .flush | some .shutdown => simp [endingOf] at reset

theorem new_frames (sink : List (Option Nat)) :
    Frames (RecordWriter.new ⟨[], sink⟩) [] none :=
  ⟨rfl, [], by simp, rfl, rfl⟩

theorem calls_append (this : RecordWriter) (before after : List Call) :
    this.calls (before ++ after) =
      ((this.calls before).1 ++ ((this.calls before).2.calls after).1,
        ((this.calls before).2.calls after).2) := by
  induction before generalizing this with
  | nil => rfl
  | cons call before ih => simp [RecordWriter.calls, ih]

theorem calls_ended (sink : List (Option Nat)) (before : List Call) {last : Call} (after : List Call)
    (ends : Call.ends last) :
    ((RecordWriter.new ⟨[], sink⟩).calls (before ++ last :: after)).1 =
      ((RecordWriter.new ⟨[], sink⟩).calls before).1 := by
  have frames := (calls_frames (new_frames sink) before).1
  rw [calls_append, RecordWriter.calls]
  generalize (RecordWriter.new ⟨[], sink⟩).calls before = result at frames ⊢
  obtain ⟨accepted, this⟩ := result
  have once := (call_frames frames last).1
  have quiet : (this.call last).1 = [] := by
    cases last <;> first | rfl | simp [Call.ends] at ends
  have later := (calls_frames once after).2 (by simp [ends])
  simp only [quiet, later, List.append_nil]

theorem Reads.mem_end {payload : List UInt8} {most ends : Nat} {before : List Polled}
    (reads : Reads payload most before ends) {polled last : Polled}
    (member : polled ∈ before ++ List.replicate ends last) (stops : ¬ Polled.goesOn polled) :
    0 < ends ∧ polled = last := by
  rcases List.mem_append.mp member with early | late
  · exact absurd (reads.goesOn polled early) stops
  · have := List.mem_replicate.mp late
    exact ⟨Nat.pos_of_ne_zero this.1, this.2⟩

theorem never_truncated_silently (sink : List (Option Nat)) (calls : List Call) (wire : List UInt8)
    (arrived : wire <+: ((RecordWriter.new ⟨[], sink⟩).calls calls).2.inner.sent)
    (splits : List (Option Nat)) (sizes : List Nat) (some_room : ∀ size ∈ sizes, 0 < size) :
    ∃ polled reader, (RecordReader.new ⟨wire, splits⟩).polls sizes = some (polled, reader) ∧
      delivered polled <+: ((RecordWriter.new ⟨[], sink⟩).calls calls).1 ∧
      (.ok [] ∈ polled → calls.find? Call.ends = some .shutdown ∧
        delivered polled = ((RecordWriter.new ⟨[], sink⟩).calls calls).1) ∧
      (∀ code, .failed (some code) ∈ polled → calls.find? Call.ends = some (.reset code)) ∧
      ∀ before last after, calls = before ++ last :: after → Call.ends last →
        ((RecordWriter.new ⟨[], sink⟩).calls calls).1 =
          ((RecordWriter.new ⟨[], sink⟩).calls before).1 := by
  obtain ⟨before, ends, reader, ran, count, reads⟩ := new_reads wire splits some_room
  have frames := (calls_frames (new_frames sink) calls).1
  simp only [List.nil_append, Option.none_or] at frames
  obtain ⟨within, said⟩ := frames.parse_arrived (arrived.trans (List.prefix_append _ _))
  refine ⟨_, reader, ran, ?_, ?_, ?_, ?_⟩
  · rw [delivered_ends]
    exact reads.delivers.trans within
  · intro clean
    obtain ⟨some_ends, same⟩ := reads.mem_end clean (by simp [Polled.goesOn])
    have finished : (parse wire).2 = .finished := report_injective same.symm
    have whole := said (by simp [finished])
    rw [whole] at finished
    refine ⟨endingOf_eq_finished finished, ?_⟩
    rw [delivered_ends, reads.delivers_all some_ends, whole]
  · intro code failed
    obtain ⟨-, same⟩ := reads.mem_end failed (by simp [Polled.goesOn])
    have reset : (parse wire).2 = .reset (some code) := report_injective same.symm
    have whole := said (by simp [reset])
    rw [whole] at reset
    exact endingOf_eq_reset reset
  · intro before last after split ends
    rw [split]
    exact calls_ended sink before after ends

theorem never_truncated_silently_split :
    (∀ size ∈ List.replicate 9 2, 0 < size) ∧
    ∃ polled reader,
      (RecordReader.new ⟨[0, 2, 0, 7, 8, 0, 1, 0, 9, 1], [some 0, none, some 4]⟩).polls
        (List.replicate 9 2) = some (polled, reader) ∧
      delivered polled <+: [7, 8, 9] ∧ (.ok [] ∈ polled → delivered polled = [7, 8, 9]) := by
  have sent : (RecordWriter.new ⟨[], [some 1, none, some 0]⟩).calls
      [.write [7, 8], .write [9], .shutdown] =
        ([7, 8, 9], ⟨⟨[0, 2, 0, 7, 8, 0, 1, 0, 9, 1], []⟩, [], true⟩) := by rfl
  obtain ⟨polled, reader, ran, within, clean, -⟩ :=
    never_truncated_silently [some 1, none, some 0] [.write [7, 8], .write [9], .shutdown]
      [0, 2, 0, 7, 8, 0, 1, 0, 9, 1] (by rw [sent]) [some 0, none, some 4] (List.replicate 9 2)
      (by simp)
  rw [sent] at within clean
  exact ⟨by simp, polled, reader, ran, within, fun ended => (clean ended).2⟩

end Hawse.Proof.Transport
