import Hawse.Proto.Record

namespace Hawse.Transport

/-- The bytes a stream has left before its end, and how its next polls cut them: `none` is not
ready, `some k` hands over at most `k + 1` bytes, and past the list a poll hands over what fits. -/
structure Inner where
  rest : List UInt8
  splits : List (Option Nat)

def Inner.pollRead (inner : Inner) (want : Nat) : Option (List UInt8) × Inner :=
  match inner.splits with
  | [] => (some (inner.rest.take want), ⟨inner.rest.drop want, []⟩)
  | none :: splits => (none, ⟨inner.rest, splits⟩)
  | some k :: splits =>
      (some (inner.rest.take (min want (k + 1))), ⟨inner.rest.drop (min want (k + 1)), splits⟩)

inductive Reading
  | head (collected : List UInt8)
  | data (left : Nat)
  | finished
  | reset (code : Option UInt32)

structure RecordReader where
  inner : Inner
  state : Reading

def RecordReader.new (inner : Inner) : RecordReader := ⟨inner, .head []⟩

inductive Polled
  | pending
  | ok (bytes : List UInt8)
  | failed (code : Option UInt32)
deriving DecidableEq

namespace RecordReader

def need : List UInt8 → Option Nat
  | [] => some 1
  | tag :: _ => Record.headLen tag

/-- One turn of the loop in `poll_read`: what to return, if it returns. `remaining` is the room in
the caller's buffer. -/
def turn (this : RecordReader) (remaining : Nat) : Option Polled × RecordReader :=
  match this.state with
  | .finished => (some (.ok []), this)
  | .reset code => (some (.failed code), this)
  | .data left =>
      if remaining = 0 then (some (.ok []), this)
      else
        match this.inner.pollRead (min left remaining) with
        | (none, inner) => (some .pending, ⟨inner, .data left⟩)
        | (some [], inner) => (none, ⟨inner, .reset none⟩)
        | (some bytes, inner) =>
            (some (.ok bytes),
              ⟨inner, if left = bytes.length then .head [] else .data (left - bytes.length)⟩)
  | .head collected =>
      match need collected with
      | none => (none, ⟨this.inner, .reset none⟩)
      | some need =>
          if collected.length < need then
            match this.inner.pollRead (need - collected.length) with
            | (none, inner) => (some .pending, ⟨inner, .head collected⟩)
            | (some [], inner) => (none, ⟨inner, .reset none⟩)
            | (some bytes, inner) => (none, ⟨inner, .head (collected ++ bytes)⟩)
          else
            match Record.decode (collected.take need) with
            | some (.data len) => (none, ⟨this.inner, .data len.toNat⟩)
            | some .finish => (none, ⟨this.inner, .finished⟩)
            | some (.reset code) => (none, ⟨this.inner, .reset (some code)⟩)
            | none => (none, ⟨this.inner, .reset none⟩)

def loop (remaining : Nat) : Nat → RecordReader → Option (Polled × RecordReader)
  | 0, _ => none
  | turns + 1, this =>
      match this.turn remaining with
      | (some polled, next) => some (polled, next)
      | (none, next) => loop remaining turns next

def maxTurns : Nat := 8

def pollRead (this : RecordReader) (remaining : Nat) : Option (Polled × RecordReader) :=
  loop remaining maxTurns this

def polls : RecordReader → List Nat → Option (List Polled × RecordReader)
  | this, [] => some ([], this)
  | this, size :: sizes => do
      let (polled, this) ← this.pollRead size
      let (rest, this) ← polls this sizes
      return (polled :: rest, this)

end RecordReader

inductive IoError
  | brokenPipe
  | writeZero
deriving DecidableEq

inductive Poll (α : Type)
  | pending
  | ready (value : α)

/-- A sink that has taken `sent`. Each of its next polls is not ready, or takes at most `k + 1`
bytes, as an `Inner` hands them over. -/
structure Sink where
  sent : List UInt8
  polls : List (Option Nat)

def Sink.pollWrite (sink : Sink) (data : List UInt8) : Poll Nat × Sink :=
  match sink.polls with
  | [] => (.ready data.length, ⟨sink.sent ++ data, []⟩)
  | none :: polls => (.pending, ⟨sink.sent, polls⟩)
  | some k :: polls =>
      (.ready (min (k + 1) data.length), ⟨sink.sent ++ data.take (k + 1), polls⟩)

def Sink.pollQuiet (sink : Sink) : Poll Unit × Sink :=
  match sink.polls with
  | [] => (.ready (), sink)
  | none :: polls => (.pending, ⟨sink.sent, polls⟩)
  | some _ :: polls => (.ready (), ⟨sink.sent, polls⟩)

structure RecordWriter where
  inner : Sink
  buf : List UInt8
  ended : Bool

def RecordWriter.new (inner : Sink) : RecordWriter := ⟨inner, [], false⟩

namespace RecordWriter

/-- The loop of `poll_drain`. Every turn takes a byte or more off `buf`, so its length is enough
turns. -/
def drainLoop : Nat → RecordWriter → Poll (Except IoError Unit) × RecordWriter
  | 0, this => (.ready (.ok ()), this)
  | turns + 1, this =>
      if this.buf = [] then (.ready (.ok ()), this)
      else
        match this.inner.pollWrite this.buf with
        | (.pending, inner) => (.pending, { this with inner })
        | (.ready n, inner) =>
            if n = 0 then (.ready (.error .writeZero), { this with inner })
            else drainLoop turns { this with inner, buf := this.buf.drop n }

def pollDrain (this : RecordWriter) : Poll (Except IoError Unit) × RecordWriter :=
  drainLoop this.buf.length this

def endWith (this : RecordWriter) (last : List UInt8) : RecordWriter :=
  if this.ended then this else { this with ended := true, buf := this.buf ++ last }

def drainThen (this : RecordWriter) : Poll (Except IoError Unit) × RecordWriter :=
  match this.pollDrain with
  | (.ready (.ok ()), this) =>
      match this.inner.pollQuiet with
      | (.ready (), inner) => (.ready (.ok ()), { this with inner })
      | (.pending, inner) => (.pending, { this with inner })
  | other => other

def reset (this : RecordWriter) (code : UInt32) : RecordWriter :=
  let (drained, this) := (this.endWith (Record.reset code)).pollDrain
  match drained with
  | .pending => this
  | .ready _ => { this with inner := this.inner.pollQuiet.2 }

def pollWrite (this : RecordWriter) (data : List UInt8) : Poll (Except IoError Nat) × RecordWriter :=
  if this.ended then (.ready (.error .brokenPipe), this)
  else
    match this.pollDrain with
    | (.pending, this) => (.pending, this)
    | (.ready (.error err), this) => (.ready (.error err), this)
    | (.ready (.ok ()), this) =>
        let n := min data.length Record.maxData
        if n = 0 then (.ready (.ok 0), this)
        else
          let this := { this with buf := this.buf ++ Record.data (UInt16.ofNat n) ++ data.take n }
          match this.pollDrain with
          | (.ready (.error err), this) => (.ready (.error err), this)
          | (_, this) => (.ready (.ok n), this)

def pollFlush (this : RecordWriter) : Poll (Except IoError Unit) × RecordWriter := this.drainThen

def pollShutdown (this : RecordWriter) : Poll (Except IoError Unit) × RecordWriter :=
  (this.endWith [Record.finishTag]).drainThen

inductive Call
  | write (data : List UInt8)
  | flush
  | shutdown
  | reset (code : UInt32)
deriving DecidableEq

def call (this : RecordWriter) : Call → List UInt8 × RecordWriter
  | .write data =>
      match this.pollWrite data with
      | (.ready (.ok n), this) => (data.take n, this)
      | (_, this) => ([], this)
  | .flush => ([], this.pollFlush.2)
  | .shutdown => ([], this.pollShutdown.2)
  | .reset code => ([], this.reset code)

def calls : RecordWriter → List Call → List UInt8 × RecordWriter
  | this, [] => ([], this)
  | this, first :: rest =>
      let (accepted, this) := this.call first
      let (later, this) := calls this rest
      (accepted ++ later, this)

end RecordWriter
end Hawse.Transport
