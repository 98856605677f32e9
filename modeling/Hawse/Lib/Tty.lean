import Hawse.Lib.System

namespace Hawse.Lib.Tty

/-! ## Rows -/

section Rows
variable (wide : Char → Nat) (width : Nat)

/-- How often a terminal of `width` columns wraps while it writes the text from column `x` on. -/
def fill : Nat → List Char → Nat
  | _, [] => 0
  | x, c :: text => if width < x + wide c then fill (wide c) text + 1 else fill (x + wide c) text

/-- The rows a line takes. -/
def rows (line : List Char) : Nat := fill wide width 0 line + 1

variable {wide width}

theorem fill_le_append (x : Nat) (text more : List Char) :
    fill wide width x text ≤ fill wide width x (text ++ more) := by
  induction text generalizing x with
  | nil => exact Nat.zero_le _
  | cons c text ih =>
      simp only [List.cons_append, fill]
      split
      · exact Nat.succ_le_succ (ih _)
      · exact ih _

theorem rows_le_append (line more : List Char) : rows wide width line ≤ rows wide width (line ++ more) :=
  Nat.succ_le_succ (fill_le_append 0 line more)

end Rows

/-! ## The screen -/

/-- After the last character of the cursor's line, or at the start of one of the line's rows. -/
inductive Place
  | after
  | start (row : Nat)
deriving DecidableEq

/-- What a terminal that rewraps its lines holds: the lines above the cursor's, nearest first and
with those scrolled off, and how many rows of the screen are above the cursor's. -/
structure Screen where
  width : Nat
  height : Nat
  above : List (List Char)
  line : List Char
  place : Place
  below : List (List Char)
  seen : Nat

namespace Screen
variable (wide : Char → Nat) (this : Screen)

def text : List (List Char) := this.above.reverse ++ this.line :: this.below

/-- At the end of everything, where a terminal is that was only written to. -/
def Resting : Prop := this.place = .after ∧ this.below = []

instance : Decidable this.Resting := inferInstanceAs (Decidable (_ ∧ _))

/-- The cursor comes `count` rows down, and the screen scrolls where it has no more. -/
def down (count : Nat) : Nat := min (this.seen + count) (this.height - 1)

def write (cells : List Char) : Screen :=
  { this with
    line := this.line ++ cells
    seen := this.down (rows wide this.width (this.line ++ cells) - rows wide this.width this.line) }

def put (c : Char) : Option Screen := if this.Resting then some (this.write wide [c]) else none

def feedLine : Screen := { this with above := this.line :: this.above, line := [], seen := this.down 1 }

def newline : Option Screen := if this.Resting then some this.feedLine else none

def carriageReturn : Screen :=
  match this.place with
  | .after => { this with place := .start (rows wide this.width this.line - 1) }
  | .start _ => this

/-- `count` rows up from the start of a row. -/
def ascend (width : Nat) : Nat → List (List Char) → List Char → Nat → List (List Char) →
    List (List Char) × List Char × Nat × List (List Char)
  | count, [], line, row, below => ([], line, row - count, below)
  | count, last :: above, line, row, below =>
      if count ≤ row then (last :: above, line, row - count, below)
      else ascend width (count - row - 1) above last (rows wide width last - 1) (line :: below)

/-- `CUU`, which stops at the top of the screen. -/
def up (count : Nat) : Option Screen :=
  match this.place with
  | .after => none
  | .start row =>
      let moved := min count this.seen
      let there := ascend wide this.width moved this.above this.line row this.below
      some { this with
        above := there.1
        line := there.2.1
        place := .start there.2.2.1
        below := there.2.2.2
        seen := this.seen - moved }

/-- `ED`, from the cursor to the end of the screen. -/
def eraseBelow : Option Screen :=
  match this.place with
  | .after => some { this with below := [] }
  | .start 0 => some { this with line := [], place := .after, below := [] }
  | .start (_ + 1) => none

/-- Another size, with the cursor's row somewhere on it. -/
def resize (width height seen : Nat) : Screen := { this with width, height, seen }

end Screen

/-! ## Escapes -/

inductive Mode
  | ground
  | escape
  | control (code : List Char)
  | string
  | ending
deriving DecidableEq

structure State where
  mode : Mode
  screen : Screen

def Printable (c : Char) : Prop := 0x20 ≤ c.toNat ∧ c.toNat < 0x7f ∨ 0xa0 ≤ c.toNat

instance (c : Char) : Decidable (Printable c) := inferInstanceAs (Decidable (_ ∨ _))

def Parameter (c : Char) : Prop := 0x30 ≤ c.toNat ∧ c.toNat < 0x40

instance (c : Char) : Decidable (Parameter c) := inferInstanceAs (Decidable (_ ∧ _))

/-- A count that is left out is one, and so is a zero. -/
def count (code : List Char) : Option Nat :=
  if code.all Char.isDigit then some (max (Nat.ofDigitChars 10 code 0) 1) else none

variable (wide : Char → Nat)

/-- `none` where what the terminal does is not described here. -/
def execute (screen : Screen) (code : List Char) (final : Char) : Option Screen :=
  if final = 'm' then some screen
  else if final = 'A' then (count code).bind (screen.up wide)
  else if final = 'J' ∧ (code = [] ∨ code = ['0']) then screen.eraseBelow
  else none

def feed (s : State) (c : Char) : Option State :=
  match s.mode with
  | .ground =>
      if c = '\n' then s.screen.newline.map fun screen => { s with screen }
      else if c = '\r' then some { s with screen := s.screen.carriageReturn wide }
      else if c = '\x1b' then some { s with mode := .escape }
      else if Printable c then (s.screen.put wide c).map fun screen => { s with screen }
      else none
  | .escape =>
      if c = '[' then some { s with mode := .control [] }
      else if c = ']' then some { s with mode := .string }
      else none
  | .control code =>
      if Parameter c then some { s with mode := .control (code ++ [c]) }
      else (execute wide s.screen code c).map fun screen => ⟨.ground, screen⟩
  | .string =>
      if c = '\x1b' then some { s with mode := .ending } else if Printable c then some s else none
  | .ending => if c = '\\' then some { s with mode := .ground } else none

def feedAll (s : State) : List Char → Option State
  | [] => some s
  | c :: text => (feed wide s c).bind fun t => feedAll t text

variable {wide}

theorem feedAll_append (s : State) (a b : List Char) :
    feedAll wide s (a ++ b) = (feedAll wide s a).bind fun t => feedAll wide t b := by
  induction a generalizing s with
  | nil => rfl
  | cons c a ih =>
      simp only [List.cons_append, feedAll]
      cases feed wide s c with
      | none => rfl
      | some t => exact ih t

theorem feedAll_of {s t : State} {a : List Char} (fed : feedAll wide s a = some t) (b : List Char) :
    feedAll wide s (a ++ b) = feedAll wide t b := by
  rw [feedAll_append, fed, Option.bind_some]

theorem feedAll_parameters {code : List Char} (parameters : ∀ c ∈ code, Parameter c) (before : List Char)
    (screen : Screen) (rest : List Char) :
    feedAll wide ⟨.control before, screen⟩ (code ++ rest) = feedAll wide ⟨.control (before ++ code), screen⟩ rest := by
  induction code generalizing before with
  | nil => rw [List.nil_append, List.append_nil]
  | cons c code ih =>
      have fed : feed wide ⟨.control before, screen⟩ c = some ⟨.control (before ++ [c]), screen⟩ :=
        if_pos (parameters c List.mem_cons_self)
      rw [List.cons_append, feedAll, fed, Option.bind_some, ih fun c member => parameters c (List.mem_cons_of_mem _ member),
        List.append_assoc, List.singleton_append]

theorem not_printable_escape : ¬ Printable '\x1b' := by decide

theorem feedAll_string {body : List Char} (printable : ∀ c ∈ body, Printable c) (screen : Screen) (rest : List Char) :
    feedAll wide ⟨.string, screen⟩ (body ++ rest) = feedAll wide ⟨.string, screen⟩ rest := by
  induction body with
  | nil => rfl
  | cons c body ih =>
      have own := printable c List.mem_cons_self
      have other : c ≠ '\x1b' := by
        rintro rfl
        exact not_printable_escape own
      have fed : feed wide ⟨.string, screen⟩ c = some ⟨.string, screen⟩ := (if_neg other).trans (if_pos own)
      rw [List.cons_append, feedAll, fed, Option.bind_some, ih fun c member => printable c (List.mem_cons_of_mem _ member)]

/-! ## Text -/

/-- A text that stays on its line, with the characters a terminal shows of it: its colours and
links take no room. -/
inductive Drawn : List Char → List Char → Prop
  | nil : Drawn [] []
  | char {c : Char} {text cells : List Char} : Printable c → Drawn text cells → Drawn (c :: text) (c :: cells)
  | colour {code text cells : List Char} : (∀ c ∈ code, Parameter c) → Drawn text cells →
      Drawn ('\x1b' :: '[' :: (code ++ 'm' :: text)) cells
  | link {body text cells : List Char} : (∀ c ∈ body, Printable c) → Drawn text cells →
      Drawn ('\x1b' :: ']' :: (body ++ '\x1b' :: '\\' :: text)) cells

section Screens
variable {screen : Screen}

@[simp] theorem Screen.write_width (cells : List Char) : (screen.write wide cells).width = screen.width := rfl

@[simp] theorem Screen.write_height (cells : List Char) : (screen.write wide cells).height = screen.height := rfl

theorem Screen.Resting.write (resting : screen.Resting) (cells : List Char) : (screen.write wide cells).Resting := resting

theorem Screen.Resting.feedLine (resting : screen.Resting) : screen.feedLine.Resting := resting

theorem Screen.write_nil (inside : screen.seen < screen.height) : screen.write wide [] = screen := by
  have still : screen.down 0 = screen.seen := min_eq_left (Nat.le_sub_one_of_lt inside)
  rw [Screen.write, List.append_nil, Nat.sub_self, still]

theorem Screen.write_write (a b : List Char) :
    (screen.write wide a).write wide b = screen.write wide (a ++ b) := by
  have first : rows wide screen.width screen.line ≤ rows wide screen.width (screen.line ++ a) := rows_le_append _ _
  have second : rows wide screen.width (screen.line ++ a) ≤ rows wide screen.width (screen.line ++ a ++ b) := rows_le_append _ _
  have seen : (screen.write wide a).down (rows wide screen.width (screen.line ++ a ++ b) - rows wide screen.width (screen.line ++ a)) =
      screen.down (rows wide screen.width (screen.line ++ a ++ b) - rows wide screen.width screen.line) := by
    simp only [Screen.down, Screen.write]
    omega
  rw [Screen.write]
  simp only [Screen.write_width]
  change ({ screen.write wide a with
    line := screen.line ++ a ++ b
    seen := (screen.write wide a).down (rows wide screen.width (screen.line ++ a ++ b) - rows wide screen.width (screen.line ++ a)) } : Screen) = _
  rw [seen, Screen.write, Screen.write, List.append_assoc]

theorem Screen.write_inside (inside : screen.seen < screen.height) (cells : List Char) :
    (screen.write wide cells).seen < screen.height := by
  have bound : (screen.write wide cells).seen ≤ screen.height - 1 := min_le_right _ _
  omega

end Screens

theorem Printable.ne {c : Char} (printable : Printable c) {other : Char} (hidden : ¬ Printable other) : c ≠ other := by
  rintro rfl
  exact hidden printable

theorem feed_char {c : Char} (printable : Printable c) {screen : Screen} (resting : screen.Resting) :
    feed wide ⟨.ground, screen⟩ c = some ⟨.ground, screen.write wide [c]⟩ := by
  simp only [feed]
  rw [if_neg (printable.ne (by decide)), if_neg (printable.ne (by decide)), if_neg (printable.ne (by decide)), if_pos printable,
    Screen.put, if_pos resting]
  rfl

theorem feed_newline {screen : Screen} (resting : screen.Resting) :
    feed wide ⟨.ground, screen⟩ '\n' = some ⟨.ground, screen.feedLine⟩ := by
  have moved : screen.newline = some screen.feedLine := if_pos resting
  change screen.newline.map (fun screen => (⟨.ground, screen⟩ : State)) = _
  rw [moved, Option.map_some]

theorem feedAll_drawn {text cells : List Char} (drawn : Drawn text cells) {screen : Screen} (resting : screen.Resting)
    (inside : screen.seen < screen.height) :
    feedAll wide ⟨.ground, screen⟩ text = some ⟨.ground, screen.write wide cells⟩ := by
  induction drawn generalizing screen with
  | nil => rw [feedAll, Screen.write_nil inside]
  | @char c text cells printable _ ih =>
      rw [feedAll, feed_char printable resting, Option.bind_some, ih (resting.write _) (Screen.write_inside inside _), Screen.write_write,
        List.singleton_append]
  | @colour code text cells parameters _ ih =>
      have opened : feedAll wide ⟨.ground, screen⟩ ('\x1b' :: '[' :: (code ++ 'm' :: text)) =
          feedAll wide ⟨.control [], screen⟩ (code ++ 'm' :: text) := rfl
      have closed : feedAll wide ⟨.control ([] ++ code), screen⟩ ('m' :: text) = feedAll wide ⟨.ground, screen⟩ text := rfl
      rw [opened, feedAll_parameters parameters, closed, ih resting inside]
  | @link body text cells printable _ ih =>
      have opened : feedAll wide ⟨.ground, screen⟩ ('\x1b' :: ']' :: (body ++ '\x1b' :: '\\' :: text)) =
          feedAll wide ⟨.string, screen⟩ (body ++ '\x1b' :: '\\' :: text) := rfl
      have closed : feedAll wide ⟨.string, screen⟩ ('\x1b' :: '\\' :: text) = feedAll wide ⟨.ground, screen⟩ text := rfl
      rw [opened, feedAll_string printable, closed, ih resting inside]

/-! ## Lines -/

/-- Some lines, each with the newline after it. -/
def Screen.writeLines (wide : Char → Nat) (screen : Screen) (lines : List (List Char)) : Screen :=
  { screen with
    above := lines.reverse ++ screen.above
    seen := screen.down (lines.map (rows wide screen.width)).sum }

theorem feedLine_write {screen : Screen} (fresh : screen.line = []) (line : List Char) :
    (screen.write wide line).feedLine = screen.writeLines wide [line] := by
  obtain ⟨width, height, above, own, place, below, seen⟩ := screen
  obtain rfl : own = [] := fresh
  have one : rows wide width [] = 1 := rfl
  have positive : 1 ≤ rows wide width line := Nat.le_add_left 1 _
  simp only [Screen.write, Screen.feedLine, Screen.writeLines, Screen.down, List.nil_append, one, List.map_cons, List.map_nil,
    List.sum_cons, List.sum_nil, List.reverse_singleton, List.singleton_append]
  congr 1
  omega

theorem writeLines_cons (screen : Screen) (line : List Char) (lines : List (List Char)) :
    (screen.writeLines wide [line]).writeLines wide lines = screen.writeLines wide (line :: lines) := by
  simp only [Screen.writeLines, Screen.down, List.map_cons, List.map_nil, List.sum_cons, List.sum_nil, List.reverse_cons,
    List.append_assoc]
  congr 1
  omega

theorem feedAll_lines {texts cells : List (List Char)} (drawn : List.Forall₂ Drawn texts cells) {screen : Screen}
    (resting : screen.Resting) (inside : screen.seen < screen.height) (fresh : screen.line = []) (rest : List Char) :
    feedAll wide ⟨.ground, screen⟩ (texts.flatMap (· ++ ['\n']) ++ rest) =
      feedAll wide ⟨.ground, screen.writeLines wide cells⟩ rest := by
  induction drawn generalizing screen with
  | nil =>
      have still : screen.down 0 = screen.seen := min_eq_left (Nat.le_sub_one_of_lt inside)
      rw [Screen.writeLines, List.map_nil, List.sum_nil, still]
      rfl
  | @cons text line texts cells own _ ih =>
      have fed : feedAll wide ⟨.ground, screen⟩ (text ++ ['\n']) = some ⟨.ground, screen.writeLines wide [line]⟩ := by
        rw [feedAll_of (feedAll_drawn own resting inside), feedAll, feed_newline (resting.write line), Option.bind_some,
          feedLine_write fresh]
        rfl
      have bound : (screen.writeLines wide [line]).seen ≤ screen.height - 1 := min_le_right _ _
      have more := @ih (screen.writeLines wide [line]) resting (by change _ < screen.height; omega) fresh
      rw [List.flatMap_cons, List.append_assoc, feedAll_of fed, more, writeLines_cons]

theorem flatMap_newline {lines : List (List Char)} (some : lines ≠ []) :
    lines.flatMap (· ++ ['\n']) = ['\n'].intercalate lines ++ ['\n'] := by
  induction lines with
  | nil => exact absurd rfl some
  | cons line lines ih =>
      cases lines with
      | nil => simp [List.intercalate]
      | cons next lines =>
          rw [List.flatMap_cons, ih (List.cons_ne_nil _ _)]
          simp [List.intercalate, List.intersperse]

section Erase
variable {screen : Screen}

end Erase

end Hawse.Lib.Tty
