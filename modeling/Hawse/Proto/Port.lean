import Mathlib.Tactic

namespace Hawse

inductive Kind
  | tcp
  | udp
deriving DecidableEq

structure Port where
  number : UInt16
  kind : Kind
deriving DecidableEq

structure PortRange where
  first : UInt16
  last : UInt16
  kind : Kind
deriving DecidableEq

def PortRange.contains (range : PortRange) (port : Port) : Bool :=
  port.kind = range.kind ∧ range.first ≤ port.number ∧ port.number ≤ range.last

structure PortSpan where
  first : UInt16
  last : UInt16
deriving DecidableEq

def PortSpan.len (span : PortSpan) : Nat := (span.last - span.first).toNat + 1

inductive PortRequest
  | any (kind : Kind)
  | fixed (port : Port)
deriving DecidableEq

def PortRequest.kind : PortRequest → Kind
  | .any kind => kind
  | .fixed port => port.kind

end Hawse
