import Hawse.Lib.Future

namespace Hawse.Client
open Lib

inductive Raced (T E : Type)
  | quic (dialed : T)
  | tcp (dialed : T) (quic : Option E)
  | failed (quic tcp : E)
deriving DecidableEq

variable {T E : Type}

/-- How a race ends in which QUIC has failed. -/
def Raced.onTcp (quicErr : E) (now : Nat) (tcp : Future (Except E T)) : Future (Raced T E) :=
  match Future.await now tcp with
  | none => none
  | some (now, .ok dialed) => some (now, .tcp dialed (some quicErr))
  | some (now, .error tcpErr) => some (now, .failed quicErr tcpErr)

/-- The moments are since the race began. `tcp` tells of a dial begun at some moment how long it
takes and how it ends. The first result is when the race began that dial. -/
def race (quic : Future (Except E T)) (tcp : Nat → Future (Except E T)) (after : Nat) :
    Option Nat × Future (Raced T E) :=
  match Future.timeout 0 after quic with
  | (now, some (.ok dialed)) => (none, some (now, .quic dialed))
  | (now, some (.error quicErr)) => (some now, Raced.onTcp quicErr now (Future.start now (tcp now)))
  | (now, none) =>
      let tcp := Future.start now (tcp now)
      (some now,
        match Future.select now quic tcp with
        | none => none
        | some (now, .inl (.ok dialed)) => some (now, .quic dialed)
        | some (now, .inl (.error quicErr)) => Raced.onTcp quicErr now tcp
        | some (now, .inr (.ok dialed)) => some (now, .tcp dialed none)
        | some (now, .inr (.error tcpErr)) =>
            match Future.await now quic with
            | none => none
            | some (now, .ok dialed) => some (now, .quic dialed)
            | some (now, .error quicErr) => some (now, .failed quicErr tcpErr))

end Hawse.Client
