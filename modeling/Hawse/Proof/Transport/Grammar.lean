import Hawse.Proto.Record

namespace Hawse.Proof.Transport
open Record

inductive Ending
  | finished
  | reset (code : Option UInt32)
deriving DecidableEq

def dataRecord (chunk : List UInt8) : List UInt8 := data (UInt16.ofNat chunk.length) ++ chunk

def Whole (chunk : List UInt8) : Prop := 0 < chunk.length ∧ chunk.length ≤ maxData

def Finishes (input : List UInt8) : Prop :=
  ∃ (chunks : List (List UInt8)) (rest : List UInt8), (∀ chunk ∈ chunks, Whole chunk) ∧
    input = chunks.flatMap dataRecord ++ finishTag :: rest

def Resets (input : List UInt8) (code : UInt32) : Prop :=
  ∃ (chunks : List (List UInt8)) (rest : List UInt8), (∀ chunk ∈ chunks, Whole chunk) ∧
    input = chunks.flatMap dataRecord ++ (reset code ++ rest)

def cutPayload : List UInt8 → List UInt8
  | tag :: lo :: hi :: part => if tag = dataTag ∧ u16FromLe lo hi ≠ 0 then part else []
  | _ => []

/-- Past the last whole data record. -/
def AtTail (tail : List UInt8) : Prop := ¬ ∃ chunk rest, Whole chunk ∧ tail = dataRecord chunk ++ rest

/-- `payload` is what `input` carries: its leading whole records and, after the last of them, what
there is of a record cut short. -/
def Carries (input payload : List UInt8) : Prop :=
  ∃ (chunks : List (List UInt8)) (tail : List UInt8), (∀ chunk ∈ chunks, Whole chunk) ∧
    input = chunks.flatMap dataRecord ++ tail ∧ AtTail tail ∧
    payload = chunks.flatten ++ cutPayload tail

def prepend (bytes : List UInt8) (result : List UInt8 × Ending) : List UInt8 × Ending :=
  (bytes ++ result.1, result.2)

def parse : List UInt8 → List UInt8 × Ending
  | [] => ([], .reset none)
  | tag :: rest =>
      if tag = dataTag then
        match rest with
        | lo :: hi :: body =>
            let len := (u16FromLe lo hi).toNat
            if len = 0 then ([], .reset none)
            else if body.length < len then (body, .reset none)
            else prepend (body.take len) (parse (body.drop len))
        | _ => ([], .reset none)
      else if tag = finishTag then ([], .finished)
      else if tag = resetTag then
        match rest with
        | a :: b :: c :: d :: _ => ([], .reset (some (u32FromLe a b c d)))
        | _ => ([], .reset none)
      else ([], .reset none)
termination_by input => input.length
decreasing_by
  simp only [List.length_drop, List.length_cons]
  omega

def parseData (left : Nat) (rest : List UInt8) : List UInt8 × Ending :=
  if rest.length < left then (rest, .reset none)
  else prepend (rest.take left) (parse (rest.drop left))

theorem prepend_prepend (first second : List UInt8) (result : List UInt8 × Ending) :
    prepend first (prepend second result) = prepend (first ++ second) result := by
  simp [prepend]

theorem parseData_zero (rest : List UInt8) : parseData 0 rest = parse rest := by
  simp [parseData, prepend]

theorem parseData_append {left : Nat} {bytes : List UInt8} (fits : bytes.length ≤ left)
    (rest : List UInt8) :
    parseData left (bytes ++ rest) = prepend bytes (parseData (left - bytes.length) rest) := by
  unfold parseData
  by_cases short : rest.length < left - bytes.length
  · have short' : (bytes ++ rest).length < left := by
      rw [List.length_append]
      omega
    rw [if_pos short', if_pos short]
    rfl
  · have long : ¬ (bytes ++ rest).length < left := by
      rw [List.length_append]
      omega
    rw [if_neg long, if_neg short, prepend_prepend]
    rw [List.take_append, List.drop_append, List.take_of_length_le fits, List.drop_of_length_le fits,
      List.nil_append]

theorem parse_head_data (lo hi : UInt8) (positive : u16FromLe lo hi ≠ 0) (body : List UInt8) :
    parse (dataTag :: lo :: hi :: body) = parseData (u16FromLe lo hi).toNat body := by
  have positive' : (u16FromLe lo hi).toNat ≠ 0 := by
    intro zero
    exact positive (UInt16.toNat_inj.mp zero)
  rw [parse]
  simp [parseData, positive']

theorem parse_head_empty {lo hi : UInt8} (zero : u16FromLe lo hi = 0) (body : List UInt8) :
    parse (dataTag :: lo :: hi :: body) = ([], .reset none) := by
  rw [parse]
  simp [zero]

theorem parse_finish (rest : List UInt8) : parse (finishTag :: rest) = ([], .finished) := by
  rw [parse.eq_def]
  rfl

theorem parse_head_reset (a b c d : UInt8) (rest : List UInt8) :
    parse (resetTag :: a :: b :: c :: d :: rest) = ([], .reset (some (u32FromLe a b c d))) := by
  rw [parse]
  simp [finishTag, dataTag, resetTag]

theorem parse_unknown {tag : UInt8} (unknown : headLen tag = none) (rest : List UInt8) :
    parse (tag :: rest) = ([], .reset none) := by
  unfold headLen at unknown
  rw [parse.eq_def]
  dsimp only
  split_ifs at unknown ⊢
  rfl

theorem parse_short {tag : UInt8} {more : List UInt8} {need : Nat} (known : headLen tag = some need)
    (short : more.length + 1 < need) : parse (tag :: more) = ([], .reset none) := by
  unfold headLen at known
  rw [parse.eq_def]
  dsimp only
  split_ifs at known ⊢
  · rcases more with _ | ⟨_, _ | ⟨_, _⟩⟩
    · rfl
    · rfl
    · simp only [Option.some.injEq, List.length_cons] at known short
      omega
  · simp only [Option.some.injEq] at known
    omega
  · rcases more with _ | ⟨_, _ | ⟨_, _ | ⟨_, _ | ⟨_, _⟩⟩⟩⟩
    · rfl
    · rfl
    · rfl
    · rfl
    · simp only [Option.some.injEq, List.length_cons] at known short
      omega

theorem parse_reset (code : UInt32) (rest : List UInt8) :
    parse (reset code ++ rest) = ([], .reset (some code)) := by
  have := parse_head_reset (UInt8.ofNat code.toNat) (UInt8.ofNat (code.toNat / 256))
    (UInt8.ofNat (code.toNat / 65536)) (UInt8.ofNat (code.toNat / 16777216)) rest
  rwa [u32FromLe_reset] at this

theorem toNat_ofNat_length {chunk : List UInt8} (whole : Whole chunk) :
    (UInt16.ofNat chunk.length).toNat = chunk.length := by
  have := whole.2
  unfold maxData at this
  rw [UInt16.toNat_ofNat']
  omega

theorem parse_dataRecord {chunk : List UInt8} (whole : Whole chunk) (rest : List UInt8) :
    parse (dataRecord chunk ++ rest) = prepend chunk (parse rest) := by
  have len := toNat_ofNat_length whole
  have positive : UInt16.ofNat chunk.length ≠ 0 := by
    intro zero
    rw [zero] at len
    have := whole.1
    simp at len
    omega
  have head := parse_head_data (UInt8.ofNat (UInt16.ofNat chunk.length).toNat)
    (UInt8.ofNat ((UInt16.ofNat chunk.length).toNat / 256))
    (by rwa [u16FromLe_data]) (chunk ++ rest)
  rw [u16FromLe_data, len, parseData_append le_rfl, Nat.sub_self, parseData_zero] at head
  rw [← head]
  simp [dataRecord, data, len]

theorem parse_flatMap {chunks : List (List UInt8)} (whole : ∀ chunk ∈ chunks, Whole chunk)
    (rest : List UInt8) :
    parse (chunks.flatMap dataRecord ++ rest) = prepend chunks.flatten (parse rest) := by
  induction chunks with
  | nil => simp [prepend]
  | cons chunk chunks ih =>
      rw [List.flatMap_cons, List.append_assoc, parse_dataRecord (whole chunk (by simp)),
        ih (fun other member => whole other (by simp [member])), prepend_prepend, List.flatten_cons]

theorem dataRecord_of_head {lo hi : UInt8} {body : List UInt8} (positive : u16FromLe lo hi ≠ 0)
    (long : (u16FromLe lo hi).toNat ≤ body.length) :
    Whole (body.take (u16FromLe lo hi).toNat) ∧
      dataTag :: lo :: hi :: body =
        dataRecord (body.take (u16FromLe lo hi).toNat) ++ body.drop (u16FromLe lo hi).toNat := by
  have len : (body.take (u16FromLe lo hi).toNat).length = (u16FromLe lo hi).toNat := by
    rw [List.length_take]
    omega
  have some_bytes : (u16FromLe lo hi).toNat ≠ 0 := by
    intro zero
    exact positive (UInt16.toNat_inj.mp zero)
  have few_bytes := (u16FromLe lo hi).toNat_lt
  refine ⟨?_, ?_⟩
  · unfold Whole maxData
    omega
  · unfold dataRecord
    rw [len, UInt16.ofNat_toNat, data_u16FromLe, List.append_assoc, List.take_append_drop]
    rfl

theorem exists_tail (input : List UInt8) :
    ∃ (chunks : List (List UInt8)) (tail : List UInt8), (∀ chunk ∈ chunks, Whole chunk) ∧
      input = chunks.flatMap dataRecord ++ tail ∧ AtTail tail := by
  by_cases atTail : AtTail input
  · exact ⟨[], input, by simp, by simp, atTail⟩
  · unfold AtTail at atTail
    push Not at atTail
    obtain ⟨chunk, rest, whole, split⟩ := atTail
    have shorter : rest.length < input.length := by
      rw [split, dataRecord, List.length_append, List.length_append]
      have := whole.1
      omega
    obtain ⟨chunks, tail, wholes, split', atTail⟩ := exists_tail rest
    refine ⟨chunk :: chunks, tail, ?_, ?_, atTail⟩
    · intro other member
      rcases List.mem_cons.mp member with rfl | member
      · exact whole
      · exact wholes other member
    · rw [split, split', List.flatMap_cons, List.append_assoc]
termination_by input.length

theorem cutPayload_other {tag : UInt8} (other : tag ≠ dataTag) (rest : List UInt8) :
    cutPayload (tag :: rest) = [] := by
  match rest with
  | [] | [_] => rfl
  | lo :: hi :: part => simp [cutPayload, other]

theorem parse_tail {tail : List UInt8} (atTail : AtTail tail) :
    (parse tail).1 = cutPayload tail ∧
    ((parse tail).2 = .finished → ∃ rest, tail = finishTag :: rest) ∧
    ∀ code, (parse tail).2 = .reset (some code) → ∃ rest, tail = reset code ++ rest := by
  rw [parse.eq_def]
  cases tail with
  | nil => simp [cutPayload]
  | cons tag rest =>
      dsimp only
      split_ifs with isData isFinish isReset
      · subst isData
        rcases rest with _ | ⟨lo, _ | ⟨hi, body⟩⟩
        · simp [cutPayload]
        · simp [cutPayload]
        · dsimp only
          split_ifs with zero short
          · have zero : u16FromLe lo hi = 0 := UInt16.toNat_inj.mp zero
            simp [cutPayload, zero]
          · have positive : u16FromLe lo hi ≠ 0 := by
              intro zero'
              rw [zero'] at zero
              exact zero rfl
            simp [cutPayload, positive]
          · exfalso
            apply atTail
            have positive : u16FromLe lo hi ≠ 0 := by
              intro zero'
              rw [zero'] at zero
              exact zero rfl
            obtain ⟨whole, split⟩ := dataRecord_of_head positive (Nat.le_of_not_lt short)
            exact ⟨_, _, whole, split⟩
      · subst isFinish
        exact ⟨(cutPayload_other (by decide) rest).symm, fun _ => ⟨rest, rfl⟩, by simp⟩
      · subst isReset
        have notData : resetTag ≠ dataTag := by decide
        rcases rest with _ | ⟨a, _ | ⟨b, _ | ⟨c, _ | ⟨d, rest⟩⟩⟩⟩
        · simp [cutPayload_other notData]
        · simp [cutPayload_other notData]
        · simp [cutPayload_other notData]
        · simp [cutPayload_other notData]
        · refine ⟨(cutPayload_other notData _).symm, by simp, ?_⟩
          intro code same
          simp only [Ending.reset.injEq, Option.some.injEq] at same
          exact ⟨rest, by rw [← same, reset_u32FromLe]; rfl⟩
      · exact ⟨(cutPayload_other isData rest).symm, by simp, by simp⟩

theorem carries_iff {input payload : List UInt8} : Carries input payload ↔ payload = (parse input).1 := by
  constructor
  · intro carries
    obtain ⟨chunks, tail, whole, rfl, atTail, rfl⟩ := carries
    rw [parse_flatMap whole, prepend, (parse_tail atTail).1]
  · intro same
    obtain ⟨chunks, tail, whole, rfl, atTail⟩ := exists_tail input
    refine ⟨chunks, tail, whole, rfl, atTail, ?_⟩
    rw [same, parse_flatMap whole, prepend, (parse_tail atTail).1]

theorem finishes_iff {input : List UInt8} : Finishes input ↔ (parse input).2 = .finished := by
  constructor
  · intro finishes
    obtain ⟨chunks, rest, whole, rfl⟩ := finishes
    rw [parse_flatMap whole, parse_finish]
    rfl
  · intro finished
    obtain ⟨chunks, tail, whole, rfl, atTail⟩ := exists_tail input
    rw [parse_flatMap whole] at finished
    obtain ⟨rest, rfl⟩ := (parse_tail atTail).2.1 finished
    exact ⟨chunks, rest, whole, rfl⟩

theorem resets_iff {input : List UInt8} {code : UInt32} :
    Resets input code ↔ (parse input).2 = .reset (some code) := by
  constructor
  · intro resets
    obtain ⟨chunks, rest, whole, rfl⟩ := resets
    rw [parse_flatMap whole, parse_reset]
    rfl
  · intro same
    obtain ⟨chunks, tail, whole, rfl, atTail⟩ := exists_tail input
    rw [parse_flatMap whole] at same
    obtain ⟨rest, rfl⟩ := (parse_tail atTail).2.2 code same
    exact ⟨chunks, rest, whole, rfl⟩

theorem parse_append_tail {tail : List UInt8} (atTail : AtTail tail) (rest : List UInt8) :
    cutPayload tail <+: (parse (tail ++ rest)).1 := by
  match tail with
  | [] | [_] | [_, _] => exact List.nil_prefix
  | tag :: lo :: hi :: part =>
      simp only [cutPayload]
      split_ifs with cut
      · obtain ⟨rfl, positive⟩ := cut
        have short : part.length ≤ (u16FromLe lo hi).toNat := by
          by_contra long
          obtain ⟨whole, split⟩ := dataRecord_of_head positive (le_of_not_ge long)
          exact atTail ⟨_, _, whole, split⟩
        rw [List.cons_append, List.cons_append, List.cons_append, parse_head_data lo hi positive,
          parseData_append short]
        exact List.prefix_append _ _
      · exact List.nil_prefix

theorem parse_append_prefix (input rest : List UInt8) : (parse input).1 <+: (parse (input ++ rest)).1 := by
  obtain ⟨chunks, tail, whole, rfl, atTail⟩ := exists_tail input
  rw [List.append_assoc, parse_flatMap whole, parse_flatMap whole]
  simp only [prepend, (parse_tail atTail).1]
  exact (List.prefix_append_right_inj _).mpr (parse_append_tail atTail rest)

theorem parse_append_ended {input : List UInt8} (ended : (parse input).2 ≠ .reset none)
    (rest : List UInt8) : parse (input ++ rest) = parse input := by
  obtain ⟨chunks, tail, whole, rfl, atTail⟩ := exists_tail input
  rw [List.append_assoc, parse_flatMap whole, parse_flatMap whole]
  rw [parse_flatMap whole] at ended
  obtain ⟨-, finish, reset⟩ := parse_tail atTail
  cases said : (parse tail).2 with
  | finished =>
      obtain ⟨after, rfl⟩ := finish said
      rw [List.cons_append, parse_finish, parse_finish]
  | reset code =>
      cases code with
      | none => exact absurd said ended
      | some code =>
          obtain ⟨after, rfl⟩ := reset code said
          rw [List.append_assoc, parse_reset, parse_reset]

end Hawse.Proof.Transport
