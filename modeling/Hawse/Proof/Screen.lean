import Hawse.Proof.Terminal
import Hawse.Screen

namespace Hawse.Proof.Screen
open Lib Hawse.Terminal

/-! ## Texts -/

theorem not_parameter_m : ¬ Tty.Parameter 'm' := by decide

theorem skip_link {body : List Char} (clean : '\x1b' ∉ body) (rest : List Char) :
    skip .link (body ++ '\x1b' :: '\\' :: rest) = plain rest := by
  induction body with
  | nil => rfl
  | cons c body ih =>
      obtain ⟨other, more⟩ := List.ne_and_not_mem_of_not_mem_cons clean
      have own : skip .link (c :: (body ++ '\x1b' :: '\\' :: rest)) = skip .link (body ++ '\x1b' :: '\\' :: rest) :=
        if_neg (Ne.symm other)
      rw [List.cons_append, own, ih more]

/-- `plain` is what a terminal shows. -/
theorem plain_drawn {text cells : List Char} (drawn : Tty.Drawn text cells) : plain text = cells := by
  induction drawn with
  | nil => rfl
  | @char c text cells printable _ ih =>
      have own : plain (c :: text) = c :: plain text := if_neg (printable.ne Tty.not_printable_escape)
      rw [own, ih]
  | @colour code text cells parameters _ ih =>
      have unended : 'm' ∉ code := fun member => not_parameter_m (parameters _ member)
      have opened : plain ('\x1b' :: '[' :: (code ++ 'm' :: text)) = skip .colour (code ++ 'm' :: text) := rfl
      rw [opened, Terminal.skip_colour unended, ih]
  | @link body text cells printable _ ih =>
      have clean : '\x1b' ∉ body := fun member => Tty.not_printable_escape (printable _ member)
      have opened : plain ('\x1b' :: ']' :: (body ++ '\x1b' :: '\\' :: text)) = skip .link (body ++ '\x1b' :: '\\' :: text) := rfl
      rw [opened, skip_link clean, ih]

theorem drawn_plain {text : List Char} (shown : Shown text) : Tty.Drawn text (plain text) := by
  obtain ⟨cells, drawn⟩ := shown
  rw [plain_drawn drawn]
  exact drawn

theorem drawn_all {texts : List (List Char)} (shown : ∀ text ∈ texts, Shown text) :
    List.Forall₂ Tty.Drawn texts (texts.map plain) := by
  rw [List.forall₂_map_right_iff]
  exact List.forall₂_same.mpr fun text member => drawn_plain (shown text member)

section Counts
variable [UnicodeWidth]

/-- The terminal shows the sheet, and holds the panel on it. -/
structure Shows (s : Stderr) (sheet : Sheet) : Prop where
  ground : s.tty.mode = .ground
  resting : s.tty.screen.Resting
  inside : s.tty.screen.seen < s.tty.screen.height
  panel : sheet.panel = s.screen.rows.map plain
  drawn : ∀ row ∈ s.screen.rows, Shown row
  held : Held s.told s.tty.screen.width (s.tty.screen.seen + 1) s.screen.rows
  text : s.tty.screen.line :: s.tty.screen.above = sheet.text.reverse

/-- The panel's place, with the panel off it. -/
structure Clear (screen was : Tty.Screen) (log : List (List Char)) : Prop where
  width : screen.width = was.width
  height : screen.height = was.height
  resting : screen.Resting
  inside : screen.seen < screen.height
  fresh : screen.line = []
  above : screen.above = log.reverse

variable {s : Stderr} {sheet : Sheet}

theorem Shows.fits (shows : Shows s sheet) : Held s.told s.tty.screen.width s.tty.screen.height s.screen.rows :=
  ⟨shows.held.counted, Nat.le_trans shows.held.visible shows.inside⟩

theorem Clear.print {screen was : Tty.Screen} {log : List (List Char)} (clear : Clear screen was log) {line : List Char}
    (shown : ∀ text ∈ line.splitOn '\n', Shown text) (rest : List Char) :
    ∃ next, Tty.feedAll widthOf ⟨.ground, screen⟩ (line ++ '\n' :: rest) = Tty.feedAll widthOf ⟨.ground, next⟩ rest ∧
      Clear next was (log ++ (line.splitOn '\n').map plain) := by
  have positive : 1 ≤ screen.height := Nat.one_le_of_lt clear.inside
  have lines : line ++ '\n' :: rest = (line.splitOn '\n').flatMap (· ++ ['\n']) ++ rest := by
    rw [Tty.flatMap_newline (List.splitOn_ne_nil _ _), List.intercalate_splitOn, List.append_assoc, List.singleton_append]
  have bound : (screen.writeLines widthOf ((line.splitOn '\n').map plain)).seen ≤ screen.height - 1 := min_le_right _ _
  refine ⟨screen.writeLines widthOf ((line.splitOn '\n').map plain), ?_, clear.width, clear.height, clear.resting, ?_, clear.fresh, ?_⟩
  · rw [lines, Tty.feedAll_lines (drawn_all shown) clear.resting clear.inside clear.fresh]
  · change _ < screen.height
    omega
  · change ((line.splitOn '\n').map plain).reverse ++ screen.above = _
    rw [clear.above, List.reverse_append]

end Counts

section Sample
attribute [local instance] Terminal.narrow

def blank : Stderr := ⟨.new, ⟨.ground, ⟨10, 5, [], [], .after, [], 0⟩⟩, true⟩

def panel : List (List Char) := ["head".toList, "row".toList]

def drawn : Stderr := ⟨⟨panel, 10⟩, ⟨.ground, ⟨10, 5, ["head".toList], "row".toList, .after, [], 1⟩⟩, true⟩

def warned : Stderr := ⟨⟨panel, 10⟩, ⟨.ground, ⟨10, 5, ["head".toList, "warn".toList], "row".toList, .after, [], 2⟩⟩, true⟩

end Sample
end Hawse.Proof.Screen
