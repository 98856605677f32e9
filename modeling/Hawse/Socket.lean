import Hawse.Lib.System
import Hawse.Systemd

namespace Hawse.Socket

/-! ## Where it is -/

/-- The names of a path, from the root. -/
abbrev Path := List String

structure Env where
  notify : Bool
  runtimeDirectory : Option Path
  root : Bool
  linux : Bool
  xdgRuntimeDir : Option Path
  stateDir : Option Path

inductive Place
  | at_ (path : Path)
  | unitWithout
  | nowhere
deriving DecidableEq

def roleName (role : Role) : String := .ofList role.name

def fileName (role : Role) : String := roleName role ++ ".sock"

def systemPath (role : Role) : Path := ["run", "hawse-" ++ roleName role, fileName role]

def place (role : Role) (env : Env) : Place :=
  let underHawse (dir : Path) : Path := dir ++ ["hawse", fileName role]
  match env.runtimeDirectory with
  | some dir => .at_ (dir ++ [fileName role])
  | none =>
      if env.notify then .unitWithout
      else if env.root && env.linux then .at_ (systemPath role)
      else
        match env.xdgRuntimeDir, env.stateDir with
        | some dir, _ => .at_ (underHawse dir)
        | none, some dir => .at_ (underHawse dir)
        | none, none => .nowhere

def candidates (role : Role) (env : Env) : List Path :=
  (env.runtimeDirectory.toList.map fun dir => dir ++ [fileName role]) ++
    (if env.linux then [systemPath role] else []) ++
    ([env.xdgRuntimeDir, env.stateDir].filterMap id).map fun dir => dir ++ ["hawse", fileName role]

/-! ## Who has it -/

/-- What stands at the path: the socket a process bound, or a file of another kind. -/
inductive Entry
  | socket (owner : Nat)
  | other
deriving DecidableEq

inductive BindError
  | noDir
  | foreign
  | taken
  | io
deriving DecidableEq

/-- How far a process is in `bind_at`, and then with its `Bound`. -/
inductive Stage
  | starting
  /-- The directory is there. -/
  | made
  /-- And is this account's. -/
  | owned
  /-- Nothing stands at the path. -/
  | missing
  /-- What stands there refuses a connection. -/
  | refused
  /-- And is a socket. -/
  | stale
  /-- Its socket is at the path, and does not listen yet. -/
  | named
  | bound
  | serving
  /-- `Bound` has removed the file, and has yet to close the listener. -/
  | leaving
  | failed (err : BindError)
  | gone
deriving DecidableEq

def Stage.Listening (stage : Stage) : Prop := stage = .bound ∨ stage = .serving ∨ stage = .leaving

instance (stage : Stage) : Decidable stage.Listening := inferInstanceAs (Decidable (_ ∨ _))

/-- Between finding the socket left over and having removed it. -/
def Stage.Replacing (stage : Stage) : Prop := stage = .refused ∨ stage = .stale

instance (stage : Stage) : Decidable stage.Replacing := inferInstanceAs (Decidable (_ ∨ _))

/-- Any number of processes that go for one path, and the account that owns its directory. -/
structure State where
  dir : Option Nat
  entry : Option Entry
  stage : Nat → Stage

inductive Event
  | create (p : Nat) (ok : Bool)
  | owner (p : Nat) (ok : Bool)
  /-- `other` is how a connection to a file that is no socket ends: refused or not. -/
  | connect (p : Nat) (ok other : Bool)
  | inspect (p : Nat) (ok : Bool)
  | remove (p : Nat) (ok : Bool)
  | bind (p : Nat) (ok : Bool)
  | listen (p : Nat) (ok : Bool)
  | permit (p : Nat) (ok : Bool)
  | drop (p : Nat)
  | close (p : Nat)
  | crash (p : Nat)

namespace State
variable (this : State)

def put (p : Nat) (stage : Stage) : State := { this with stage := Function.update this.stage p stage }

/-- `Drop for Bound`, up to the close of the listener: it removes whatever stands at the path. -/
def unlink (p : Nat) : State := { this with entry := none }.put p .leaving

def connect (other : Bool) : Stage :=
  match this.entry with
  | none => .missing
  | some (.socket q) => if (this.stage q).Listening then .failed .taken else .refused
  | some .other => if other then .refused else .failed .io

/-- One system call of a process run by the account `euid p`. `ok` is false where the call fails for
a reason of its own. -/
def step (euid : Nat → Nat) : Event → Option State
  | .create p ok =>
      if this.stage p = .starting then
        some (if ok then { this with dir := some (this.dir.getD (euid p)) }.put p .made else this.put p (.failed .noDir))
      else none
  | .owner p ok =>
      if this.stage p = .made then
        some (this.put p (if ok then if this.dir = some (euid p) then .owned else .failed .foreign else .failed .io))
      else none
  | .connect p ok other =>
      if this.stage p = .owned then some (this.put p (if ok then this.connect other else .failed .io)) else none
  | .inspect p ok =>
      if this.stage p = .refused then
        match ok, this.entry with
        | true, some (.socket _) => some (this.put p .stale)
        | _, _ => some (this.put p (.failed .io))
      else none
  | .remove p ok =>
      if this.stage p = .stale then
        match ok, this.entry with
        | true, some _ => some ({ this with entry := none }.put p .missing)
        | _, _ => some (this.put p (.failed .io))
      else none
  | .bind p ok =>
      if this.stage p = .missing then
        match ok, this.entry with
        | true, none => some ({ this with entry := some (.socket p) }.put p .named)
        | _, _ => some (this.put p (.failed .io))
      else none
  | .listen p ok =>
      if this.stage p = .named then some (this.put p (if ok then .bound else .failed .io)) else none
  | .permit p ok =>
      if this.stage p = .bound then some (if ok then this.put p .serving else this.unlink p) else none
  | .drop p => if this.stage p = .bound ∨ this.stage p = .serving then some (this.unlink p) else none
  | .close p => if this.stage p = .leaving then some (this.put p .gone) else none
  | .crash p => if this.stage p = .gone then none else some (this.put p .gone)

/-- No process comes to the path while another is replacing what it found there, or has bound it and
does not listen yet. -/
def Alone (this : State) : Event → Prop
  | .connect p _ _ => ∀ q, q ≠ p → ¬ (this.stage q).Replacing ∧ this.stage q ≠ .named
  | _ => True

/-- What an undisturbed start does about what it finds. -/
def startup (p : Nat) : Option Entry → List Event
  | none => [.create p true, .owner p true, .connect p true true, .bind p true, .listen p true, .permit p true]
  | some _ => [.create p true, .owner p true, .connect p true true, .inspect p true, .remove p true, .bind p true,
      .listen p true, .permit p true]

end State

/-- From before any of them starts, with a socket of an earlier process or another file at the path
or nothing. -/
def sockets (euid : Nat → Nat) : Lib.System State Event where
  initial s := (∀ p, s.stage p = .starting ∨ s.stage p = .gone) ∧ ∀ p, s.entry = some (.socket p) → s.stage p = .gone
  step s event t := s.step euid event = some t

end Hawse.Socket
