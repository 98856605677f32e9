import Hawse.Lib.Fallible
import Hawse.Proof.Text
import Hawse.Upgrade

namespace Hawse.Proof.Upgrade
open Hawse.Upgrade Hawse.Lib.Files Hawse.Lib.Fallible

/-! ## What a run is to do -/

section Purpose
variable (world : World) (base : List Char) (version : Version) (target : List Char)

def archive : Bytes := world.fetch (url base version (archiveOf version target))

def sums : List Char := fromUtf8Lossy (world.fetch (url base version "SHA256SUMS".toList))

/-- The binary is the `hawse` of an archive its `SHA256SUMS` lists under its exact name, and it printed
the version. -/
structure Released (binary : Bytes) : Prop where
  listed : hex (world.sha256 (archive world base version target)) ++ [' ', ' '] ++ archiveOf version target ∈
    lines (sums world base version)
  unpacked : ∃ entries, world.unpack (archive world base version target) = some entries ∧
    entries [nameOf version target, "hawse".toList] = some (.file binary)
  runs : (world.output binary).1.success = true
  prints : saysVersion (fromUtf8Lossy (world.output binary).2) version = true

/-- Where the binary at `exe` was `file`, after a run that returned. -/
def Installed (exe : Path) (file : File) (after : FS) : Prop :=
  ∃ new old : File, after exe = some (.file new) ∧ after (kept exe) = some (.file old) ∧
    Released world base version target new.bytes ∧ old.bytes = file.bytes ∧ new.mode = file.mode ∧ old.mode = file.mode

/-- After one that failed. -/
def Undisturbed (exe : Path) (file : File) (before after : FS) : Prop :=
  after exe = before exe ∧ (after (kept exe) = before (kept exe) ∨
    ∃ copy : File, after (kept exe) = some (.file copy) ∧ copy.bytes = file.bytes)

/-- The binary is replaced wholly or not at all, and the staging directory is the run's own. -/
structure Whole (process : Process) (exe : Path) (file : File) (before : FS) : Prop where
  replaces : Ends (replace world process base version target exe before)
    (fun _ after => Installed world base version target exe file after)
    fun _ after => Undisturbed exe file before after
  cleans : before (stagingOf exe) = none → Ends (replace world process base version target exe before)
    (fun _ after => ∀ path, stagingOf exe <+: path → after path = none)
    fun _ after => (∀ path, stagingOf exe <+: path → after path = none) ∨
      world.fault (.createDir (stagingOf exe)) ≠ none ∧ after = before
  locks : before (stagingOf exe) ≠ none → Ends (replace world process base version target exe before)
    (fun _ _ => False) fun _ after => after = before

end Purpose

/-! ## When a run goes through -/

section Success
variable (world : World) (process : Process) (base : List Char) (version : Version) (target : List Char) (exe : Path)

def archivePath : Path := stagingOf exe ++ [archiveOf version target]

def sumsPath : Path := stagingOf exe ++ ["SHA256SUMS".toList]

def new : Path := stagingOf exe ++ [nameOf version target, "hawse".toList]

def unitPath (role : Role) : Path := stagingOf exe ++ [nameOf version target, "contrib".toList, unitOf role]

def stagedOld : Path := stagingOf exe ++ ["hawse.old".toList]

/-- The release is fetched, and the sum is its own. -/
structure Fetches : Prop where
  spawns : world.fault (.spawn (curlWords (stagingOf exe) base version target)) = none
  exits : world.fault (.exit (curlWords (stagingOf exe) base version target)) = none
  readsArchive : world.fault (.read (archivePath version target exe)) = none
  readsSums : world.fault (.read (sumsPath exe)) = none
  listed : sum (sums world base version) (archiveOf version target) =
    some (hex (world.sha256 (archive world base version target)))

/-- What tar unpacks at the paths of a run is a file of its own or a directory, or nothing. -/
def Entry.plain : Entry → Bool
  | .file _ | .directory => true
  | .link _ | .other => false

def uses : List Path :=
  [["hawse.old".toList], [nameOf version target], [nameOf version target, "hawse".toList],
    [nameOf version target, "contrib".toList], [nameOf version target, "contrib".toList, unitOf .server],
    [nameOf version target, "contrib".toList, unitOf .client]]

def Plain (entries : Tree (List Char) Entry) : Prop :=
  ∀ path ∈ uses version target, ∀ entry, entries path = some entry → Entry.plain entry = true

structure Unpacks (entries : Tree (List Char) Entry) : Prop where
  spawns : world.fault (.spawn (tarWords (stagingOf exe) (archivePath version target exe))) = none
  exits : world.fault (.exit (tarWords (stagingOf exe) (archivePath version target exe))) = none
  unpacks : world.unpack (archive world base version target) = some entries

/-- The binary among them prints the version. -/
structure Runs (entries : Tree (List Char) Entry) : Prop where
  spawns : world.fault (.output (new version target exe)) = none
  prints : ∃ bytes, entries [nameOf version target, "hawse".toList] = some (.file bytes) ∧
    (world.output bytes).1.success = true ∧ saysVersion (fromUtf8Lossy (world.output bytes).2) version = true

structure Ships (entries : Tree (List Char) Entry) (role : Role) : Prop where
  reads : world.fault (.read (unitPath version target exe role)) = none
  ships : ∃ bytes, entries [nameOf version target, "contrib".toList, unitOf role] = some (.file bytes)

structure Owns (path : Path) : Prop where
  setsMode : world.fault (.setPermissions path) = none
  setsOwner : process.root = true → world.fault (.chown path) = none

structure Swaps (entries : Tree (List Char) Entry) (before : FS) : Prop where
  metadata : world.fault (.metadata exe) = none
  copies : world.fault (.copy exe (stagedOld exe)) = none
  clear : entries ["hawse.old".toList] ≠ some .directory
  ownsOld : Owns world process (stagedOld exe)
  keeps : world.fault (.rename (stagedOld exe) (kept exe)) = none
  replaceable : before (kept exe) ≠ some .directory
  ownsNew : Owns world process (new version target exe)
  replaces : world.fault (.rename (new version target exe) exe) = none

/-- Once the staging directory is there. -/
structure Goes (before : FS) : Prop where
  fetches : Fetches world base version target exe
  goesOn : ∃ entries, Unpacks world base version target exe entries ∧ Runs world version target exe entries ∧
    (∀ role, Ships world version target exe entries role) ∧ Swaps world process version target exe entries before

structure Succeeds (before : FS) : Prop where
  free : before (stagingOf exe) = none
  creates : world.fault (.createDir (stagingOf exe)) = none
  goes : Goes world process base version target exe before

end Success

/-- Whether a file of the group `gid` keeps a mode that a run gives it. -/
def Keeps (process : Process) (mode : Mode) (gid : Nat) : Prop :=
  process.os = .linux →
    if process.root then mode.setUid = false ∧ (mode.setGid = true → mode.groupExecutes = false)
    else mode.setGid = true → gid ∈ process.groups

def owned (process : Process) (gid : Nat) (mode : Mode) : Mode :=
  if process.root then process.chown (process.chmod gid mode) else process.chmod gid mode

section Paths
variable {version : Version} {target : List Char} {exe : Path}

theorem inside (exe path : Path) : stagingOf exe <+: stagingOf exe ++ path := List.prefix_append _ _

end Paths

/-! ## The calls -/

section Calls
variable {world : World} {process : Process} {staging : Path} {fs : FS}

end Calls

/-! ## The phases of a run -/

section Phases
variable {world : World} {process : Process} {base : List Char} {version : Version} {target : List Char} {exe : Path}
  {fs : FS}

end Phases

/-! ## The whole run -/

section Whole
variable {world : World} {process : Process} {base : List Char} {version : Version} {target : List Char} {exe : Path}
  {before : FS} {file : File}

structure Failed (world : World) (exe : Path) (file : File) (before after : FS) : Prop where
  undisturbed : Undisturbed exe file before after
  cleans : before (stagingOf exe) = none → (∀ path, stagingOf exe <+: path → after path = none) ∨
    world.fault (.createDir (stagingOf exe)) ≠ none ∧ after = before
  locks : before (stagingOf exe) ≠ none → after = before

end Whole

namespace Sample

def ascii (text : String) : Bytes := text.toList.map fun c => .ofNat c.toNat

def base : List Char := "https://github.com/andriykohut/hawse".toList

def version : Version := ⟨1, 0, 0⟩

def target : List Char := "x86_64-unknown-linux-musl".toList

def tarball : Bytes :=
  [31, 139, 8, 0, 0, 0, 0, 0, 2, 3, 237, 212, 65, 11, 131, 32, 20, 192, 113, 207, 125, 138, 198, 206, 214, 115, 154,
   237, 219, 140, 18, 65, 89, 51, 208, 92, 125, 252, 85, 59, 140, 13, 6, 109, 176, 14, 235, 253, 46, 47, 68, 240,
   144, 127, 77, 213, 7, 77, 89, 6, 25, 208, 225, 40, 79, 82, 208, 232, 206, 174, 237, 29, 109, 172, 139, 3, 189,
   196, 208, 228, 102, 218, 69, 190, 5, 163, 178, 40, 230, 57, 122, 157, 0, 156, 63, 190, 167, 117, 86, 112, 224, 36,
   5, 178, 130, 24, 186, 202, 143, 199, 147, 109, 218, 239, 242, 218, 186, 60, 152, 68, 43, 211, 166, 243, 143, 78,
   231, 235, 144, 16, 244, 255, 204, 162, 254, 85, 235, 58, 111, 235, 251, 59, 64, 131, 246, 87, 237, 179, 105, 88,
   165, 151, 245, 47, 133, 120, 223, 63, 176, 231, 254, 15, 76, 150, 18, 251, 95, 67, 192, 4, 176, 255, 15, 251, 87,
   141, 213, 174, 251, 109, 255, 2, 251, 95, 133, 194, 4, 16, 66, 104, 147, 110, 127, 158, 225, 196, 0, 16, 0, 0]

def digest : Bytes :=
  [255, 195, 178, 187, 180, 87, 55, 125, 13, 232, 203, 89, 189, 253, 17, 82, 12, 47, 241, 201, 56, 142, 236, 99, 86,
   42, 255, 136, 203, 107, 5, 44]

def binary : Bytes := ascii "#!/bin/sh\necho hawse 1.0.0\n"

def entries : Tree (List Char) Entry := fun path =>
  if path = [nameOf version target] ∨ path = [nameOf version target, "contrib".toList] then some .directory
  else if path = [nameOf version target, "hawse".toList] then some (.file binary)
  else if path = [nameOf version target, "contrib".toList, unitOf .server] then some (.file (ascii "s"))
  else if path = [nameOf version target, "contrib".toList, unitOf .client] then some (.file (ascii "c"))
  else none

def world : World where
  fault _ := none
  leaves _ _ := none
  created _ := ⟨⟨false, false, false, 0o755⟩, 0, 0⟩
  fetch from_ :=
    if from_ = url base version "SHA256SUMS".toList then
      ascii "ffc3b2bbb457377d0de8cb59bdfd11520c2ff1c9388eec63562aff88cb6b052c  hawse-1.0.0-x86_64-unknown-linux-musl.tar.gz\n"
    else tarball
  unpack bytes := if bytes = tarball then some entries else none
  output bytes :=
    if bytes = binary then (⟨true, "exit status: 0".toList⟩, ascii "hawse 1.0.0\n")
    else (⟨false, "exit status: 1".toList⟩, [])
  sha256 bytes := if bytes = tarball then digest else []

def exe : Path := ["usr".toList, "local".toList, "bin".toList, "hawse".toList]

def running (mode : Mode) : File := { mode := mode, uid := 0, gid := 0, bytes := [0x7f, 0x45, 0x4c, 0x46] }

def before (mode : Mode) : FS := fun path =>
  if path = exe then some (.file (running mode)) else if path <+: exe then some .directory else none

theorem fetch_tarball : archive world base version target = tarball := by
  decide +kernel

theorem unpack_tarball : world.unpack (archive world base version target) = some entries := by
  rw [fetch_tarball]
  simp only [world, if_true]

theorem plain : Fetches world base version target exe →
    ∀ entries, Unpacks world base version target exe entries → Plain version target entries := by
  intro _ entries' unpacks
  obtain rfl := Option.some.inj (unpack_tarball.symm.trans unpacks.unpacks)
  intro path used entry found
  cases entry with
  | file | directory => rfl
  | link | other =>
      unfold entries at found
      split_ifs at found <;> cases found

theorem before_absent {path : Path} (apart : path ≠ exe ∧ ¬ path <+: exe) (mode : Mode) : before mode path = none := by
  simp [before, apart]

theorem succeeds (process : Process) (mode : Mode) : Succeeds world process base version target exe (before mode) where
  free := before_absent (by decide +kernel) mode
  creates := rfl
  goes := {
    fetches := ⟨rfl, rfl, rfl, rfl, by decide +kernel⟩
    goesOn := by
      refine ⟨entries, ⟨rfl, rfl, unpack_tarball⟩, ⟨rfl, binary, by decide +kernel⟩, ?_, ?_⟩
      · intro role
        cases role with
        | server => exact ⟨rfl, ascii "s", by decide +kernel⟩
        | client => exact ⟨rfl, ascii "c", by decide +kernel⟩
      · refine ⟨rfl, rfl, by decide +kernel, ⟨rfl, fun _ => rfl⟩, rfl, ?_, ⟨rfl, fun _ => rfl⟩, rfl⟩
        rw [before_absent (by decide +kernel)]
        simp }

end Sample

end Hawse.Proof.Upgrade
