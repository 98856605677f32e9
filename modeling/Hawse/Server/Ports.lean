import Hawse.Lib.System
import Hawse.Proto.Msg

namespace Hawse.Server

structure PortAllocator where
  span : PortSpan
  cursor : UInt16
  inUse : Finset Port

namespace PortAllocator

def new (span : PortSpan) : PortAllocator := ⟨span, span.first, ∅⟩

def claim (this : PortAllocator) (port : Port) : Except BindFailure Unit × PortAllocator :=
  if port ∈ this.inUse then (.error .inUse, this)
  else (.ok (), { this with inUse := insert port this.inUse })

def advance (this : PortAllocator) : PortAllocator :=
  { this with cursor := if this.cursor = this.span.last then this.span.first else this.cursor + 1 }

/-- The loop of `claim_dynamic`, for the `left` ports of the span it has not looked at. -/
def walk (kind : Kind) : Nat → PortAllocator → Option Port × PortAllocator
  | 0, this => (none, this)
  | left + 1, this =>
      let port : Port := ⟨this.cursor, kind⟩
      if port ∈ this.inUse then walk kind left this.advance
      else (some port, { this.advance with inUse := insert port this.inUse })

def claimDynamic (this : PortAllocator) (kind : Kind) : Option Port × PortAllocator :=
  walk kind this.span.len this

def release (this : PortAllocator) (port : Port) : Bool × PortAllocator :=
  (port ∈ this.inUse, { this with inUse := this.inUse.erase port })

def reserve (this : PortAllocator) (number : UInt16) : PortAllocator :=
  { this with inUse := insert ⟨number, .udp⟩ (insert ⟨number, .tcp⟩ this.inUse) }

inductive Op
  | claim (port : Port)
  | claimDynamic (kind : Kind)
  | release (port : Port)
  | reserve (number : UInt16)

def call (this : PortAllocator) : Op → PortAllocator
  | .claim port => (this.claim port).2
  | .claimDynamic kind => (this.claimDynamic kind).2
  | .release port => (this.release port).2
  | .reserve number => this.reserve number

end PortAllocator

def allocator (span : PortSpan) : Lib.System PortAllocator PortAllocator.Op where
  initial this := this = .new span
  step this op next := next = this.call op

end Hawse.Server
