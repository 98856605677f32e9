import Mathlib.Tactic

namespace Hawse.Lib.Words
variable (separates : Char → Bool) (unescape : Char → Option Char)

/-- The words of a line, with the quote that is open and the word under way. -/
def split : Option Char → Option (List Char) → List Char → Option (List (List Char))
  | none, word, [] => some word.toList
  | some _, _, [] => none
  | quote, word, '\\' :: rest =>
      match rest with
      | [] => none
      | c :: rest => (unescape c).bind fun c => split quote (some (word.getD [] ++ [c])) rest
  | none, word, c :: rest =>
      if separates c then (split none none rest).map (word.toList ++ ·)
      else if c = '"' ∨ c = '\'' then split (some c) (some (word.getD [])) rest
      else split none (some (word.getD [] ++ [c])) rest
  | some quote, word, c :: rest =>
      if c = quote then split none word rest else split (some quote) (some (word.getD [] ++ [c])) rest

/-- Text that stands for itself outside quotes. -/
def Plain (text : List Char) : Prop :=
  ∀ c ∈ text, separates c = false ∧ c ≠ '"' ∧ c ≠ '\'' ∧ c ≠ '\\'

/-- Inside double quotes. -/
def escape (c : Char) : List Char := if c = '\\' ∨ c = '"' then ['\\', c] else [c]

variable {separates unescape}

theorem split_separator {c : Char} (separator : separates c) (other : c ≠ '\\') (word : Option (List Char))
    (rest : List Char) : split separates unescape none word (c :: rest) =
      (split separates unescape none none rest).map (word.toList ++ ·) := by
  rw [split.eq_def]
  simp [separator]

theorem split_plain {text : List Char} (plain : Plain separates text) (word rest : List Char) :
    split separates unescape none (some word) (text ++ rest) = split separates unescape none (some (word ++ text)) rest := by
  induction text generalizing word with
  | nil => simp
  | cons c text ih =>
      obtain ⟨inside, double, single, slash⟩ := plain c List.mem_cons_self
      have own : split separates unescape none (some word) (c :: (text ++ rest)) =
          split separates unescape none (some (word ++ [c])) (text ++ rest) := by
        rw [split.eq_def]
        simp [inside, double, single]
      rw [List.cons_append, own, ih fun d member => plain d (List.mem_cons_of_mem c member)]
      simp

/-- A word's first character opens it. -/
theorem split_opens {c : Char} (inside : separates c = false) (other : c ≠ '\\') (rest : List Char) :
    split separates unescape none none (c :: rest) = split separates unescape none (some []) (c :: rest) := by
  rw [split.eq_def, split.eq_def]
  simp [inside]

theorem split_quote (inside : separates '"' = false) (word rest : List Char) :
    split separates unescape none (some word) ('"' :: rest) = split separates unescape (some '"') (some word) rest := by
  rw [split.eq_def]
  simp [inside]

theorem split_escaped (slash : unescape '\\' = some '\\') (double : unescape '"' = some '"') (text word rest : List Char) :
    split separates unescape (some '"') (some word) (text.flatMap escape ++ '"' :: rest) =
      split separates unescape none (some (word ++ text)) rest := by
  induction text generalizing word with
  | nil =>
      rw [split.eq_def]
      simp
  | cons c text ih =>
      rw [List.flatMap_cons, List.append_assoc]
      by_cases special : c = '\\' ∨ c = '"'
      · have read : unescape c = some c := by
          rcases special with rfl | rfl
          · exact slash
          · exact double
        rw [escape, if_pos special, split.eq_def]
        simp [read, ih]
      · rw [escape, if_neg special, split.eq_def]
        obtain ⟨backslash, quote⟩ := not_or.mp special
        simp [quote, ih]

end Hawse.Lib.Words
