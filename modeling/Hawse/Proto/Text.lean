import Hawse.Proto.Msg

namespace Hawse

def splitOnce (c : Char) : List Char → Option (List Char × List Char)
  | [] => none
  | d :: chars =>
      if d = c then some ([], chars)
      else (splitOnce c chars).map fun (before, after) => (d :: before, after)

/-- `u16::from_str`. -/
def parseU16 (text : List Char) : Option UInt16 :=
  let digits := match text with
    | '+' :: rest => rest
    | _ => text
  if digits ≠ [] ∧ digits.all Name.isAsciiDigit then
    let value := digits.foldl (fun value c => 10 * value + (c.toNat - '0'.toNat)) 0
    if value < 2 ^ 16 then some (.ofNat value) else none
  else none

/-- The `Display` of an unsigned number. -/
def decimal (n : Nat) : List Char := Nat.toDigits 10 n

def displayU16 (n : UInt16) : List Char := decimal n.toNat

/-- `char::is_whitespace`. -/
def isWhitespace (c : Char) : Bool :=
  let n := c.toNat
  (9 ≤ n && n ≤ 13) || n = 0x20 || n = 0x85 || n = 0xa0 || n = 0x1680 || (0x2000 ≤ n && n ≤ 0x200a) || n = 0x2028 ||
    n = 0x2029 || n = 0x202f || n = 0x205f || n = 0x3000

/-- What a serde format holds, as far as these types are written to one. -/
inductive Value
  | number (n : Int)
  | text (s : List Char)
  | variant (name : String)
  | record (fields : List (String × Value))

inductive ParsePortError
  | empty
  | number (text : List Char)
  | protocol (text : List Char)
  | reversed (first last : UInt16)
deriving DecidableEq

def ParsePortError.message : ParsePortError → String
  | .empty => "port is empty"
  | .number text => "`" ++ String.ofList text ++ "` is not a port number between 1 and 65535"
  | .protocol text => "unknown protocol `" ++ String.ofList text ++ "`, expected `tcp` or `udp`"
  | .reversed first last => s!"range {first}-{last} runs backwards"

-- The two ways a deserializer fails: serde's own, for a value of another shape, and a parser's error.
inductive DeserializeError
  | shape
  | custom (message : String)
deriving DecidableEq

def Kind.asStr : Kind → List Char
  | .tcp => ['t', 'c', 'p']
  | .udp => ['u', 'd', 'p']

def splitKind (s : List Char) : Except ParsePortError (List Char × Kind) :=
  match splitOnce '/' s with
  | none => .ok (s, .tcp)
  | some (n, proto) =>
      if proto = Kind.tcp.asStr then .ok (n, .tcp)
      else if proto = Kind.udp.asStr then .ok (n, .udp)
      else .error (.protocol proto)

def parseNumber (s : List Char) : Except ParsePortError UInt16 :=
  match parseU16 s with
  | none => .error (.number s)
  | some n => if n = 0 then .error (.number s) else .ok n

def splitBounds (s : List Char) : Except ParsePortError (UInt16 × UInt16) :=
  match splitOnce '-' s with
  | some (a, b) => do
      let first ← parseNumber a
      let last ← parseNumber b
      pure (first, last)
  | none => do
      let n ← parseNumber s
      pure (n, n)

def parseBounds (s : List Char) : Except ParsePortError (UInt16 × UInt16) :=
  if s = [] then .error .empty
  else do
    let bounds ← splitBounds s
    if bounds.2 < bounds.1 then .error (.reversed bounds.1 bounds.2) else .ok bounds

def displayBounds (first last : UInt16) : List Char :=
  if first = last then displayU16 first else displayU16 first ++ '-' :: displayU16 last

def Value.u16 : Value → Except DeserializeError UInt16
  | .number n => if 0 ≤ n ∧ n < 2 ^ 16 then .ok (.ofNat n.toNat) else .error .shape
  | _ => .error .shape

def Value.string : Value → Except DeserializeError (List Char)
  | .text s => .ok s
  | _ => .error .shape

def Value.field (name : String) : Value → Except DeserializeError Value
  | .record fields =>
      match fields.find? fun field => field.1 = name with
      | some (_, value) => .ok value
      | none => .error .shape
  | _ => .error .shape

def custom {α : Type} (parsed : Except ParsePortError α) : Except DeserializeError α :=
  parsed.mapError fun err => .custom err.message

-- `Kind` and `Port` derive theirs.
namespace Kind

def variant : Kind → Value
  | .tcp => .variant "Tcp"
  | .udp => .variant "Udp"

def ofVariant : Value → Except DeserializeError Kind
  | .variant name => if name = "Tcp" then .ok .tcp else if name = "Udp" then .ok .udp else .error .shape
  | _ => .error .shape

end Kind

namespace Port

def fromStr (s : List Char) : Except ParsePortError Port :=
  if s = [] then .error .empty
  else do
    let (number, kind) ← splitKind s
    let number ← parseNumber number
    pure ⟨number, kind⟩

def display (port : Port) : List Char :=
  match port.kind with
  | .tcp => displayU16 port.number
  | .udp => displayU16 port.number ++ '/' :: Kind.udp.asStr

def serialize (port : Port) : Value :=
  .record [("number", .number port.number.toNat), ("kind", port.kind.variant)]

def deserialize (value : Value) : Except DeserializeError Port := do
  let number ← value.field "number"
  let number ← number.u16
  let kind ← value.field "kind"
  let kind ← Kind.ofVariant kind
  pure ⟨number, kind⟩

end Port

namespace PortRange

def fromStr (s : List Char) : Except ParsePortError PortRange := do
  let (body, kind) ← splitKind s
  let (first, last) ← parseBounds body
  pure ⟨first, last, kind⟩

def display (range : PortRange) : List Char :=
  displayBounds range.first range.last ++ if range.kind = .udp then '/' :: Kind.udp.asStr else []

def serialize (range : PortRange) : Value := .text range.display

def deserialize (value : Value) : Except DeserializeError PortRange := do
  let s ← value.string
  custom (fromStr s)

end PortRange

namespace PortSpan

def fromStr (s : List Char) : Except ParsePortError PortSpan :=
  match splitOnce '/' s with
  | some (_, proto) => .error (.protocol proto)
  | none => do
      let (first, last) ← parseBounds s
      pure ⟨first, last⟩

def display (span : PortSpan) : List Char := displayBounds span.first span.last

def serialize (span : PortSpan) : Value := .text span.display

def deserialize (value : Value) : Except DeserializeError PortSpan := do
  let s ← value.string
  custom (fromStr s)

end PortSpan

namespace PortRequest

def fromStr (s : List Char) : Except ParsePortError PortRequest :=
  if s = ['a', 'n', 'y'] ∨ s = ['a', 'n', 'y', '/'] ++ Kind.tcp.asStr then .ok (.any .tcp)
  else if s = ['a', 'n', 'y', '/'] ++ Kind.udp.asStr then .ok (.any .udp)
  else if ['a', 'n', 'y', '/'].isPrefixOf s then .error (.protocol (s.drop 4))
  else (Port.fromStr s).map .fixed

def display : PortRequest → List Char
  | .any .tcp => ['a', 'n', 'y']
  | .any .udp => ['a', 'n', 'y', '/'] ++ Kind.udp.asStr
  | .fixed port => port.display

def serialize : PortRequest → Value
  | .fixed ⟨number, .tcp⟩ => .number number.toNat
  | other => .text other.display

/-- An untagged `Raw`: a number of 16 bits, or a text. -/
def deserialize : Value → Except DeserializeError PortRequest
  | .text t => custom (fromStr t)
  | value => do
      let n ← value.u16
      if n = 0 then .error (.custom (ParsePortError.message (.number ['0']))) else .ok (.fixed ⟨n, .tcp⟩)

end PortRequest
end Hawse
