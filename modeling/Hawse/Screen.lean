import Hawse.Lib.Tty
import Hawse.Terminal

namespace Hawse
open Lib Terminal

structure Screen where
  rows : List (List Char)
  width : Nat

namespace Screen
variable [UnicodeWidth] (this : Screen)

def lines (cols width : Nat) : Nat := if width = 0 then 1 else max ((cols + width - 1) / width) 1

def new : Screen := ⟨[], 0⟩

def erase (width : Nat) : List Char :=
  if this.rows = [] then []
  else
    let up := (this.rows.map fun row => lines (columns row) width).sum - 1
    '\r' :: ((if 0 < up then "\x1b[".toList ++ decimal up ++ ['A'] else []) ++ "\x1b[J".toList)

def put : List Char := ['\n'].intercalate this.rows

/-! What each of these writes, and the screen after it. -/

def print (line : List Char) (width : Nat) : List Char × Screen :=
  (this.erase width ++ (line ++ '\n' :: this.put), this)

def draw (rows : List (List Char)) (width : Nat) : List Char × Screen :=
  if rows = this.rows ∧ width = this.width then ([], this)
  else
    let drawn : Screen := ⟨rows, width⟩
    (this.erase width ++ drawn.put, drawn)

def release : List Char × Screen := (if this.rows = [] then [] else ['\n'], { this with rows := [] })

end Screen

/-- One event's text. -/
structure Logged where
  text : List Char

def Logged.write (this : Logged) (buf : List Char) : Logged := ⟨this.text ++ buf⟩

/-- `trim_end_matches('\n')`. -/
def trimNewlines (text : List Char) : List Char := (text.reverse.dropWhile (· = '\n')).reverse

def Logged.drop [UnicodeWidth] (this : Logged) (screen : Screen) (width : Nat) : List Char × Screen :=
  if this.text = [] then ([], screen) else screen.print (trimNewlines this.text) width

/-! ## On a terminal -/

/-- `STDERR` and the terminal it is written to, which may not say its size. -/
structure Stderr where
  screen : Screen
  tty : Tty.State
  told : Bool

/-- What comes to `STDERR`, a line at a time behind its lock. `draw` is given the width its rows
were cut to, and `logged` is an event formatted in several writes. -/
inductive Stderr.Event
  | print (line : List Char)
  | logged (writes : List (List Char))
  | draw (rows : List (List Char)) (width : Nat)
  | release
  | resize (width height seen : Nat)

namespace Stderr
variable (this : Stderr)

def size : Nat × Nat := if this.told then (this.tty.screen.width, this.tty.screen.height) else (0, 0)

/-- One event's writer, from `make_writer` on. -/
def event (writes : List (List Char)) : Logged := writes.foldl Logged.write ⟨[]⟩

variable [UnicodeWidth]

/-- `none` where what the terminal makes of it is not known. -/
def receive (written : List Char × Screen) : Option Stderr :=
  (Tty.feedAll widthOf this.tty written.1).map fun tty => { this with screen := written.2, tty }

def step : Event → Option Stderr
  | .print line => this.receive (this.screen.print line this.size.1)
  | .logged writes => this.receive ((event writes).drop this.screen this.size.1)
  | .draw rows width => this.receive (this.screen.draw rows width)
  | .release => this.receive this.screen.release
  | .resize width height seen =>
      some { this with tty := { this.tty with screen := this.tty.screen.resize width height seen } }

end Stderr

/-! ## What it is for -/

/-- Lines that scroll by, and the panel under the last of them. -/
structure Sheet where
  log : List (List Char)
  panel : List (List Char)

namespace Sheet
variable (this : Sheet)

def text : List (List Char) := this.log ++ if this.panel = [] then [[]] else this.panel

def print (line : List Char) : Sheet := { this with log := this.log ++ (line.splitOn '\n').map plain }

def apply : Stderr.Event → Sheet
  | .print line => this.print line
  | .logged writes => if writes.flatten = [] then this else this.print (trimNewlines writes.flatten)
  | .draw rows _ => { this with panel := rows.map plain }
  | .release => ⟨this.log ++ this.panel, []⟩
  | .resize _ _ _ => this

end Sheet

section Allowed
variable [UnicodeWidth]

def Shown (text : List Char) : Prop := ∃ cells, Tty.Drawn text cells

/-- The rows are known to take as many lines as `Screen` counts: they fit, or the terminal tells
its width and no character is of two columns, so that none is moved whole to the next line. And
those lines are in `room`. -/
structure Held (told : Bool) (width room : Nat) (rows : List (List Char)) : Prop where
  counted : ∀ row ∈ rows, columns row ≤ width ∨ told = true ∧ 0 < width ∧ ∀ c ∈ plain row, widthOf c ≤ 1
  visible : (rows.map fun row => Tty.rows widthOf width (plain row)).sum ≤ room

end Allowed
end Hawse
