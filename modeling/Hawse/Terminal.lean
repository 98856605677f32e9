import Hawse.Panel

namespace Hawse
open Std (ExtTreeMap)

/-- The crate `unicode-width`. -/
class UnicodeWidth where
  width : Char → Option Nat

class UnicodeWidth.Documented [UnicodeWidth] : Prop where
  printable : ∀ c : Char, 0x20 ≤ c.toNat → c.toNat < 0x7f → UnicodeWidth.width c = some 1

/-- The colours of the crate `anstyle`, each with the escapes that turn it on and off. -/
class Anstyle (Color : Type) where
  render : Color → List Char
  renderReset : Color → List Char

class Anstyle.Documented (Color : Type) [Anstyle Color] : Prop where
  render_eq : ∀ color : Color, ∃ code : List Char, 'm' ∉ code ∧ Anstyle.render color = '\x1b' :: '[' :: (code ++ ['m'])

def BindFailure.display : BindFailure → List Char
  | .notGranted => "port is not granted to this client".toList
  | .inUse => "port is already in use on the server".toList
  | .badPort => "port cannot be bound".toList
  | .badName => "service name is not valid".toList
  | .unsupported => "this build does not support that bind yet".toList

namespace Terminal

structure Style (Color : Type) where
  color : Bool
  unicode : Bool
  accent : Option Color
  links : Bool

namespace Style
variable {Color : Type} (this : Style Color)

def pick (unicode ascii : List Char) : List Char := if this.unicode then unicode else ascii

def dim (text : List Char) : List Char :=
  if this.color then "\x1b[2m".toList ++ text ++ "\x1b[0m".toList else text

def red (text : List Char) : List Char :=
  if this.color then "\x1b[31m".toList ++ text ++ "\x1b[0m".toList else text

def link (url : Option (List Char)) (text : List Char) : List Char :=
  match url with
  | some url =>
      if this.links then "\x1b]8;;".toList ++ url ++ "\x1b\\".toList ++ text ++ "\x1b]8;;\x1b\\".toList else text
  | none => text

def accented [Anstyle Color] (text : List Char) : List Char :=
  match this.accent with
  | some color => Anstyle.render color ++ text ++ Anstyle.renderReset color
  | none => text

end Style

/-- `String::len`, in bytes. -/
def len (text : List Char) : Nat := (text.map Char.utf8Size).sum

/-- `{text:width$}`, which counts characters. -/
def padRight (width : Nat) (text : List Char) : List Char := text ++ List.replicate (width - text.length) ' '

/-- `{text:>width$}`. -/
def padLeft (width : Nat) (text : List Char) : List Char := List.replicate (width - text.length) ' ' ++ text

def spaces (count : Nat) : List Char := List.replicate count ' '

/-- A width that a format is given as it runs is one of 16 bits, and the format panics at another. -/
def formatWidth (width : Nat) : Option Nat := if width ≤ 65535 then some width else none

def url (host : List Char) (port : Port) (localAddr : String) : Option (List Char) :=
  let address (scheme : List Char) : List Char :=
    let host := if ':' ∈ host then '[' :: (host ++ [']']) else host
    scheme ++ "://".toList ++ host ++ ':' :: displayU16 port.number
  if port.kind = .udp then none
  else
    match (splitHostPort localAddr).bind (·.2) with
    | some 22 => none
    | some 443 | some 8443 => some (address "https".toList)
    | _ => some (address "http".toList)

def portWidth : PortRequest → Nat
  | .fixed port => len port.display
  | .any .tcp => len "65535".toList
  | .any .udp => len "65535/udp".toList

def millis (roundTrip : Nat) : List Char :=
  match roundTrip / 1000000 with
  | 0 => "<1 ms".toList
  | ms => decimal ms ++ " ms".toList

/-- `count` in units of `scale`, while a larger unit is left and it comes to 1000 or more. -/
def scaled (count scale : Nat) (unit : Char) : List Char → List Char
  | larger :: units =>
      if 1000 ≤ (count * 2 + scale) / (scale * 2) then scaled count (scale * 1024) larger units
      else figure
  | [] => figure
where
  figure : List Char :=
    let tenths := (count * 20 + scale) / (scale * 2)
    if tenths < 100 then decimal (tenths / 10) ++ '.' :: (decimal (tenths % 10) ++ [unit])
    else decimal ((count * 2 + scale) / (scale * 2)) ++ [unit]

def bytes (count : Nat) : List Char :=
  if count < 1000 then decimal count ++ ['B'] else scaled count 1024 'K' ['M', 'G']

def rate (perSecond : Nat) : List Char := bytes perSecond ++ "/s".toList

def span (elapsed : Nat) : List Char :=
  let minutes := elapsed / 1000000000 / 60
  if minutes = 0 then "<1 min".toList
  else if minutes < 60 then decimal minutes ++ " min".toList
  else if minutes < 1440 then decimal (minutes / 60) ++ " h ".toList ++ decimal (minutes % 60) ++ " m".toList
  else decimal (minutes / 1440) ++ " d ".toList ++ decimal (minutes % 1440 / 60) ++ " h".toList

/-! ## Fitting -/

/-- Where `plain` is in an escape: past `ESC`, up to an `m`, up to the next `ESC`, and past that. -/
inductive Skipping
  | nothing
  | escape
  | colour
  | link
  | closing

def skip : Skipping → List Char → List Char
  | _, [] => []
  | .nothing, c :: text => if c = '\x1b' then skip .escape text else c :: skip .nothing text
  | .escape, c :: text => if c = ']' then skip .link text else skip .colour text
  | .colour, c :: text => if c = 'm' then skip .nothing text else skip .colour text
  | .link, c :: text => if c = '\x1b' then skip .closing text else skip .link text
  | .closing, _ :: text => skip .nothing text

def plain (text : List Char) : List Char := skip .nothing text

section Fit
variable [UnicodeWidth]

def widthOf (c : Char) : Nat := (UnicodeWidth.width c).getD 0

def columns (text : List Char) : Nat := ((plain text).map widthOf).sum

/-- The fields that go on a line that holds `line` already. -/
def joined (room : Nat) (line : List Char) : List (List Char) → List Char
  | [] => line
  | field :: fields =>
      if 0 < room ∧ line ≠ [] ∧ room < columns line + columns field then line
      else joined room (line ++ field) fields

/-- The `take_while` of a line that is cut, with the columns taken. -/
def cut (room taken : Nat) : List Char → List Char
  | [] => []
  | c :: text => if taken + widthOf c ≤ room then c :: cut room (taken + widthOf c) text else []

def fit (fields : List (List Char)) (room : Nat) : List Char :=
  let line := joined room [] fields
  if 0 < room ∧ room < columns line then cut room 0 (plain line) else line

def trimEnd (text : List Char) : List Char := (text.reverse.dropWhile isWhitespace).reverse

def fitRows (rows : List (List (List Char))) (room : Nat) : List (List Char) :=
  let tooWide := 0 < room ∧ rows.any fun fields => room < (fields.map columns).sum
  rows.map fun fields =>
    let fields := if tooWide ∧ 1 < fields.length then fields.eraseIdx 1 else fields
    trimEnd (fit fields room)

end Fit

/-! ## The panel -/

section Panel
variable {Color : Type} [Anstyle Color] (style : Style Color)

def dot : List Char := style.dim (style.pick ['·'] ['|'])

def field (text : List Char) : List Char := "  ".toList ++ dot style ++ "  ".toList ++ text

/-- `to_string().to_uppercase()`. -/
def transportName : TransportKind → List Char
  | .quic => "QUIC".toList
  | .tcp => "TCP".toList

def header (link : Link) (cfg : ClientConfig) (now : Nat) : List (List Char) :=
  ["  hawse client".toList, field style cfg.server.toList] ++
    match link with
    | .up transport roundTrip since =>
        [field style (transportName transport), field style (millis roundTrip),
          field style ("up ".toList ++ span (now - since))]
    | .down since retryAt =>
        if now < retryAt then
          let left := retryAt - now
          let secs := left / 1000000000 + if 0 < left % 1000000000 then 1 else 0
          [field style ("down ".toList ++ span (now - since)),
            field style ("retrying in ".toList ++ decimal secs ++ " s".toList)]
        else [field style "connecting".toList]
    | .connecting => [field style "connecting".toList]
    | .stopped => [field style "stopped".toList]

structure Widths where
  names : Nat
  public_ : Nat
  locals : Nat

/-- `none` where the subtraction of the padding underflows, or a width is too much for a format. -/
def serviceFields (mark service host : List Char) (port : Port) (localAddr : String) (widths : Widths) :
    Option (List (List Char)) :=
  if widths.locals < len localAddr.toList then none
  else do
    let address := host ++ ':' :: port.display
    let names ← formatWidth widths.names
    let fill ← formatWidth (widths.public_ - len address)
    let pad ← formatWidth (widths.locals - len localAddr.toList)
    let address := style.link (url host port localAddr) address
    let column := style.dim ("  ".toList ++ style.pick ['←'] ['<', '-'] ++ "  ".toList ++ localAddr.toList)
    some ["  ".toList ++ mark ++ ' ' :: (padRight names service ++ "  ".toList ++ address ++ spaces fill),
      column ++ spaces pad]

-- `counts` is no more than the 20 digits of a u64.
def figures (opened down up counts : Nat) : List (List Char) :=
  let moved := 0 < down ∨ 0 < up
  if opened = 0 ∧ ¬ moved then ["  ".toList ++ style.dim "idle".toList]
  else
    ("  ".toList ++ style.accented (padLeft counts (decimal opened))) ::
      if moved then
        ["  ".toList ++ style.accented (style.pick ['↓'] ['v'] ++ ' ' :: padLeft 6 (rate down)),
          "  ".toList ++ style.accented (style.pick ['↑'] ['^'] ++ ' ' :: padLeft 6 (rate up))]
      else []

def largest (sizes : List Nat) (otherwise : Nat) : Nat := sizes.max?.getD otherwise

def host (cfg : ClientConfig) : List Char := (((splitHostPort cfg.server).map (·.1)).getD "").toList

def widths (cfg : ClientConfig) : Widths where
  names := largest (cfg.expose.toList.map fun exposed => len exposed.1.toList) 0
  public_ := len (host cfg) + 1 + largest (cfg.expose.toList.map fun exposed => portWidth exposed.2.port) 0
  locals := largest (cfg.expose.toList.map fun exposed => len exposed.2.localAddr.toList) 0

def countsWidth (rows : ExtTreeMap String Row) : Nat :=
  largest (rows.toList.filterMap fun row =>
    match row.2 with
    | .bound _ opened _ _ => some (len (decimal opened))
    | .refused _ => none) 1

def mark (link : Link) (down up : Nat) : List Char :=
  match link with
  | .up _ _ _ =>
      if 0 < down ∨ 0 < up then style.accented (style.pick ['●'] ['*']) else style.accented (style.pick ['○'] ['o'])
  | .stopped => style.red (style.pick ['✗'] ['x'])
  | .connecting | .down _ _ => style.accented (style.pick ['↻'] ['~'])

def rowFields (link : Link) (cfg : ClientConfig) (counts : Nat) (service : String) (expose : Client.Expose) :
    Row → Option (List (List Char))
  | .refused reason => do
      let names ← formatWidth (widths cfg).names
      some ["  ".toList ++ style.red (style.pick ['✗'] ['x']) ++
        ' ' :: (padRight names service.toList ++ "  ".toList ++ reason.display)]
  | .bound port opened down up => do
      let fields ← serviceFields style (mark style link down up) service.toList (host cfg) port expose.localAddr
        (widths cfg)
      some (fields ++
        match link with
        | .up _ _ _ => figures style opened down up counts
        | _ => [])

def rowsFields (link : Link) (rows : ExtTreeMap String Row) (cfg : ClientConfig) : Option (List (List (List Char))) :=
  (cfg.expose.toList.filterMap fun exposed => rows[exposed.1]?.map fun row => (exposed, row)).mapM fun shown =>
    rowFields style link cfg (countsWidth rows) shown.1.1 shown.1.2 shown.2

variable [UnicodeWidth]

/-- The lines before they are folded. -/
def panelLines (link : Link) (rows : ExtTreeMap String Row) (cfg : ClientConfig) (now room : Nat) :
    Option (List (List Char)) :=
  (rowsFields style link rows cfg).map fun fields =>
    let body := fitRows fields room
    [[], fit (header style link cfg now) room] ++ if body = [] then [] else [] :: body

def summary (more : Nat) : List Char :=
  "  ".toList ++ style.pick ['…'] ['.', '.', '.'] ++ ' ' :: (decimal more ++ " more".toList)

def fold (lines : List (List Char)) (height room : Nat) : List (List Char) :=
  let lines := if 0 < height ∧ height < lines.length ∧ lines.head? = some [] then lines.tail else lines
  if height = 1 then lines.take 1
  else if 0 < height ∧ height < lines.length then
    let kept := height - 1
    let more := ((lines.drop kept).filter (· ≠ [])).length
    lines.take kept ++ [fit [summary style more] room]
  else lines

/-- `none` where it panics. -/
def frame (link : Link) (rows : ExtTreeMap String Row) (cfg : ClientConfig) (now width height : Nat) :
    Option (List (List Char)) :=
  (panelLines style link rows cfg now (width - 1)).map fun lines => fold style lines height (width - 1)

end Panel
end Terminal
end Hawse
