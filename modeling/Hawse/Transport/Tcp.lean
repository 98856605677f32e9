import Hawse.Config
import Hawse.Proto.Record

namespace Hawse.Transport

structure Tuning where
  idleTimeout : Nat
  congestion : Congestion
  streamWindow : UInt32
  connectionWindow : UInt64
  maxStreams : UInt32

def Tuning.server : Tuning := ⟨30000000000, .cubic, 8 * 1024 * 1024, 64 * 1024 * 1024, 4096⟩

def Tuning.client : Tuning := ⟨30000000000, .bbr, 2 * 1024 * 1024, 16 * 1024 * 1024, 4096⟩

/-- The width of a `usize`. -/
inductive Target
  | bits32
  | bits64
deriving DecidableEq

namespace Target

def usizeMax : Target → Nat
  | .bits32 => 2 ^ 32 - 1
  | .bits64 => 2 ^ 64 - 1

def saturatingMul (target : Target) (a b : Nat) : Nat := min (a * b) target.usizeMax

def saturatingAdd (target : Target) (a b : Nat) : Nat := min (a + b) target.usizeMax

/-- An `as usize` of an unsigned number, which keeps its low bits. -/
def cast (target : Target) (n : Nat) : Nat := n % (target.usizeMax + 1)

end Target

namespace Yamux

def defaultCredit : Nat := 256 * 1024

structure Config where
  maxConnectionReceiveWindow : Option Nat
  maxNumStreams : Nat
  splitSendSize : Nat
deriving DecidableEq

inductive Setter
  | maxConnectionReceiveWindow (n : Option Nat)
  | maxNumStreams (n : Nat)
  | splitSendSize (n : Nat)
deriving DecidableEq

def Config.set (cfg : Config) : Setter → Config
  | .maxConnectionReceiveWindow n => { cfg with maxConnectionReceiveWindow := n }
  | .maxNumStreams n => { cfg with maxNumStreams := n }
  | .splitSendSize n => { cfg with splitSendSize := n }

/-- What the setters of the two limits assert of them. -/
def Config.consistent (cfg : Config) : Bool :=
  match cfg.maxConnectionReceiveWindow with
  | none => true
  | some window => cfg.maxNumStreams * defaultCredit ≤ window

/-- A setter of the crate, with `none` for the panic of its assertion. -/
def Config.call (cfg : Config) (setter : Setter) : Option Config :=
  match setter with
  | .splitSendSize _ => some (cfg.set setter)
  | _ => if (cfg.set setter).consistent then some (cfg.set setter) else none

end Yamux

section Config
variable (target : Target) (tuning : Tuning)

def headroom : Nat := 2

def yamuxStreams : Nat :=
  min (target.saturatingMul (target.cast tuning.maxStreams.toNat) headroom) (target.usizeMax / Yamux.defaultCredit)

def yamuxWindow : Nat :=
  target.saturatingAdd (target.saturatingMul (yamuxStreams target tuning) Yamux.defaultCredit)
    -- `usize::try_from`, or the largest where it does not fit.
    (if tuning.connectionWindow.toNat ≤ target.usizeMax then tuning.connectionWindow.toNat else target.usizeMax)

def setters : List Yamux.Setter :=
  [.maxConnectionReceiveWindow none, .maxNumStreams (yamuxStreams target tuning),
    .maxConnectionReceiveWindow (some (yamuxWindow target tuning)), .splitSendSize (Record.maxData + 3)]

/-- From the crate's default, `none` where a setter panics. -/
def config (default : Yamux.Config) : Option Yamux.Config := (setters target tuning).foldlM Yamux.Config.call default

end Config
end Hawse.Transport
