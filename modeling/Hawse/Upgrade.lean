import Hawse.Lib.Files
import Hawse.Proto.Text
import Hawse.Systemd

namespace Hawse.Upgrade
open Lib.Files

abbrev Path := List (List Char)

abbrev Bytes := List UInt8

/-! ## Files and the calls on them -/

/-- `permissions` is the nine bits of user, group and others. -/
structure Mode where
  setUid : Bool
  setGid : Bool
  sticky : Bool
  permissions : BitVec 9
deriving DecidableEq

def Mode.groupExecutes (mode : Mode) : Bool := mode.permissions.getLsbD 3

structure Metadata where
  mode : Mode
  uid : Nat
  gid : Nat
deriving DecidableEq

structure File extends Metadata where
  bytes : Bytes
deriving DecidableEq

/-- What a symbolic link says: names from the root, or from where the link stands. -/
structure Target where
  absolute : Bool
  names : Path
deriving DecidableEq

def Target.from (target : Target) (path : Path) : Path :=
  target.names.foldl (fun dir name => if name = ['.', '.'] then dir.dropLast else if name = ['.'] then dir else dir ++ [name])
    (if target.absolute then [] else path.dropLast)

inductive Node
  | file (file : File)
  | directory
  | link (target : Target)
  | other
deriving DecidableEq

abbrev FS := Tree (List Char) Node

inductive ErrorKind
  | notFound
  | permissionDenied
  | alreadyExists
  | isADirectory
  | other
deriving DecidableEq

structure IoError where
  kind : ErrorKind
  text : List Char

namespace IoError

def notFound : IoError := ⟨.notFound, "No such file or directory (os error 2)".toList⟩

def alreadyExists : IoError := ⟨.alreadyExists, "File exists (os error 17)".toList⟩

def isADirectory : IoError := ⟨.isADirectory, "Is a directory (os error 21)".toList⟩

def loop : IoError := ⟨.other, "Too many levels of symbolic links (os error 40)".toList⟩

def other : IoError := ⟨.other, "unsupported file type".toList⟩

end IoError

inductive Os
  | linux
  | macos
deriving DecidableEq

structure Process where
  root : Bool
  os : Os
  groups : List Nat

namespace Process

/-- chmod(2) on Linux turns the set-group-ID bit off for a process without privilege that is not of the
file's group; on macOS it fails. -/
def chmod (process : Process) (gid : Nat) (mode : Mode) : Mode :=
  if process.os = .linux ∧ process.root = false ∧ gid ∉ process.groups then { mode with setGid := false } else mode

/-- The mode chown(2) leaves for root. On Linux root is treated like other users: the set-user-ID bit is
cleared, and the set-group-ID bit of a file its group may execute. -/
def chown (process : Process) (mode : Mode) : Mode :=
  match process.os with
  | .linux => { mode with setUid := false, setGid := mode.setGid && !mode.groupExecutes }
  | .macos => mode

end Process

namespace Call

/-- A new directory is empty. -/
def createDir (path : Path) (fs : FS) : Except IoError (Unit × FS) :=
  match fs path with
  | some _ => .error .alreadyExists
  | none => .ok ((), (fs.below path fun _ => none).set path .directory)

/-- Where the links at a path lead, after 40 of them at most. -/
def followed (fs : FS) : Nat → Path → Path
  | 0, path => path
  | fuel + 1, path =>
      match fs path with
      | some (.link target) => followed fs fuel (target.from path)
      | _ => path

-- The directories a path goes through are no links: exe is canonical, and the rest is below its directory.
def real (fs : FS) (path : Path) : Path := followed fs 40 path

def file (path : Path) (fs : FS) : Except IoError File :=
  match fs (real fs path) with
  | some (.file file) => .ok file
  | some .directory => .error .isADirectory
  | some (.link _) => .error .loop
  | some .other => .error .other
  | none => .error .notFound

def read (path : Path) (fs : FS) : Except IoError (Bytes × FS) := do
  let found ← file path fs
  pure (found.bytes, fs)

def metadata (path : Path) (fs : FS) : Except IoError (Metadata × FS) := do
  let found ← file path fs
  pure (found.toMetadata, fs)

/-- The target is truncated before the source is read. A file that is written over stays its owner's, and
`created` is the owner of a new one. -/
def copy (created : Metadata) (source target : Path) (fs : FS) : Except IoError (Unit × FS) := do
  let found ← file source fs
  let into := real fs target
  let bytes := if into = real fs source then [] else found.bytes
  match fs into with
  | some .directory => .error .isADirectory
  | some (.link _) => .error .loop
  | some .other => .error .other
  | some (.file there) => .ok ((), fs.set into (.file { there with bytes := bytes, mode := found.mode }))
  | none => .ok ((), fs.set into (.file { created with bytes := bytes, mode := found.mode }))

def setPermissions (process : Process) (path : Path) (mode : Mode) (fs : FS) : Except IoError (Unit × FS) := do
  let found ← file path fs
  pure ((), fs.set (real fs path) (.file { found with mode := process.chmod found.gid mode }))

def chown (process : Process) (path : Path) (uid gid : Nat) (fs : FS) : Except IoError (Unit × FS) := do
  let found ← file path fs
  pure ((), fs.set (real fs path) (.file { found with mode := process.chown found.mode, uid := uid, gid := gid }))

/-- A link is moved, and one at the target replaced; a directory there is not. -/
def rename (source target : Path) (fs : FS) : Except IoError (Unit × FS) :=
  match fs source, fs target with
  | none, _ => .error .notFound
  | some _, some .directory => .error .isADirectory
  | some _, _ => .ok ((), fs.rename source target)

end Call

/-! ## The world a run meets -/

inductive Op
  | createDir (path : Path)
  | spawn (words : List (List Char))
  | exit (words : List (List Char))
  | output (program : Path)
  | read (path : Path)
  | metadata (path : Path)
  | copy (source target : Path)
  | setPermissions (path : Path)
  | chown (path : Path)
  | rename (source target : Path)
deriving DecidableEq

/-- An archive's own entries. The last are hard links, devices and the like. -/
inductive Entry
  | file (bytes : Bytes)
  | directory
  | link (target : Target)
  | other
deriving DecidableEq

structure ExitStatus where
  success : Bool
  text : List Char

/-- Which calls fail, and what a failed one leaves below the staging directory; the owner and mode of what
is written there; what the release serves, tar unpacks and a binary prints. -/
structure World where
  fault : Op → Option IoError
  leaves : Op → FS
  created : Path → Metadata
  fetch : List Char → Bytes
  unpack : Bytes → Option (Tree (List Char) Entry)
  output : Bytes → ExitStatus × Bytes
  sha256 : Bytes → Bytes

structure Report where
  text : List Char
  cause : Option IoError

/-- A call whose failure ends the run. -/
def attempt {α : Type} (world : World) (staging : Path) (op : Op) (report : IoError → Report)
    (call : FS → Except IoError (α × FS)) : EStateM Report FS α := fun fs =>
  match world.fault op with
  | some err => .error (report err) (fs.below staging (world.leaves op))
  | none =>
      match call fs with
      | .error err => .error (report err) fs
      | .ok (value, fs) => .ok value fs

/-! ## Texts -/

/-- The bounds of the bytes that follow a first one in UTF-8. -/
def following (first : Nat) : Option (List (Nat × Nat)) :=
  if first < 0x80 then some []
  else if 0xc2 ≤ first ∧ first ≤ 0xdf then some [(0x80, 0xbf)]
  else if first = 0xe0 then some [(0xa0, 0xbf), (0x80, 0xbf)]
  else if first = 0xed then some [(0x80, 0x9f), (0x80, 0xbf)]
  else if 0xe1 ≤ first ∧ first ≤ 0xef then some [(0x80, 0xbf), (0x80, 0xbf)]
  else if first = 0xf0 then some [(0x90, 0xbf), (0x80, 0xbf), (0x80, 0xbf)]
  else if 0xf1 ≤ first ∧ first ≤ 0xf3 then some [(0x80, 0xbf), (0x80, 0xbf), (0x80, 0xbf)]
  else if first = 0xf4 then some [(0x80, 0x8f), (0x80, 0xbf), (0x80, 0xbf)]
  else none

/-- The scalar value with the bits of the bytes that follow, unless one of them is missing or out of bounds. -/
def scalar (value : Nat) : List (Nat × Nat) → Bytes → Option Nat × Bytes
  | [], bytes => (some value, bytes)
  | _ :: _, [] => (none, [])
  | (low, high) :: bounds, byte :: bytes =>
      if low ≤ byte.toNat ∧ byte.toNat ≤ high then scalar (value * 64 + byte.toNat % 64) bounds bytes
      else (none, byte :: bytes)

def lossy : Nat → Bytes → List Char
  | 0, _ => []
  | _ + 1, [] => []
  | fuel + 1, byte :: bytes =>
      match following byte.toNat with
      | none => '\uFFFD' :: lossy fuel bytes
      | some bounds =>
          let first := match bounds.length with
            | 0 => byte.toNat
            | 1 => byte.toNat % 32
            | 2 => byte.toNat % 16
            | _ => byte.toNat % 8
          match scalar first bounds bytes with
          | (some value, bytes) => Char.ofNat value :: lossy fuel bytes
          | (none, bytes) => '\uFFFD' :: lossy fuel bytes

/-- `String::from_utf8_lossy`. -/
def fromUtf8Lossy (bytes : Bytes) : List Char := lossy bytes.length bytes

/-- `str::lines`, with the line under way. -/
def linesFrom (line : List Char) : List Char → List (List Char)
  | [] => if line = [] then [] else [line]
  | c :: text =>
      if c = '\n' then (line.dropSuffix? ['\r']).getD line :: linesFrom [] text else linesFrom (line ++ [c]) text

def lines (text : List Char) : List (List Char) := linesFrom [] text

def trim (text : List Char) : List Char :=
  ((text.dropWhile isWhitespace).reverse.dropWhile isWhitespace).reverse

def sum (sums file : List Char) : Option (List Char) :=
  (lines sums).findSome? fun listed => (listed.dropSuffix? file).bind (·.dropSuffix? [' ', ' '])

def hex (bytes : Bytes) : List Char :=
  bytes.flatMap fun byte => [Nat.digitChar (byte.toNat / 16), Nat.digitChar (byte.toNat % 16)]

structure Version where
  major : Nat
  minor : Nat
  patch : Nat
deriving DecidableEq

def Version.display (version : Version) : List Char :=
  decimal version.major ++ '.' :: (decimal version.minor ++ '.' :: decimal version.patch)

def saysVersion (output : List Char) (version : Version) : Bool := trim output = "hawse ".toList ++ version.display

/-! ## Paths -/

def parent (path : Path) : Path := path.dropLast

def kept (exe : Path) : Path := parent exe ++ [exe.getLast?.getD [] ++ ".old".toList]

def stagingOf (exe : Path) : Path := parent exe ++ [".hawse-upgrade".toList]

def display (path : Path) : List Char := if path = [] then ['/'] else path.flatMap ('/' :: ·)

def nameOf (version : Version) (target : List Char) : List Char :=
  "hawse-".toList ++ version.display ++ '-' :: target

def archiveOf (version : Version) (target : List Char) : List Char := nameOf version target ++ ".tar.gz".toList

def url (base : List Char) (version : Version) (file : List Char) : List Char :=
  base ++ "/releases/download/v".toList ++ version.display ++ '/' :: file

def unitOf (role : Role) : List Char := "hawse-".toList ++ role.name ++ ".service".toList

/-! ## The upgrade -/

section Steps
variable (world : World) (process : Process) (staging : Path)

def runCommand (words : List (List Char)) (effect : FS → Option FS) : EStateM Report FS Unit := do
  let joined := List.intercalate [' '] words
  attempt world staging (.spawn words) (fun err => ⟨"cannot run ".toList ++ joined, some err⟩) fun fs => .ok ((), fs)
  attempt world staging (.exit words) (fun _ => ⟨joined ++ " failed".toList, none⟩) fun fs =>
    match effect fs with
    | some fs => .ok ((), fs)
    | none => .error .other

def read (path : Path) : EStateM Report FS Bytes :=
  attempt world staging (.read path) (fun err => ⟨"cannot read ".toList ++ display path, some err⟩) (Call.read path)

def curlWords (base : List Char) (version : Version) (target : List Char) : List (List Char) :=
  ["curl".toList, "-fsSL".toList, "--fail-early".toList, "-o".toList, display (staging ++ [archiveOf version target]),
    url base version (archiveOf version target), "-o".toList, display (staging ++ ["SHA256SUMS".toList]),
    url base version "SHA256SUMS".toList]

/-- What `curl -o` writes for a file of the release. -/
def download (base : List Char) (version : Version) (file : List Char) (fs : FS) : FS :=
  let path := staging ++ [file]
  fs.set path (.file { world.created path with bytes := world.fetch (url base version file) })

def curl (base : List Char) (version : Version) (target : List Char) (fs : FS) : Option FS :=
  some (download world staging base version "SHA256SUMS".toList
    (download world staging base version (archiveOf version target) fs))

def tarWords (archive : Path) : List (List Char) :=
  ["tar".toList, "-xzf".toList, display archive, "-C".toList, display staging]

/-- What `tar -xzf` puts below the staging directory. -/
def extract (entries : Tree (List Char) Entry) (fs : FS) : FS :=
  fs.below staging fun path =>
    match entries (path.drop staging.length) with
    | some (.file bytes) => some (.file { world.created path with bytes := bytes })
    | some .directory => some .directory
    | some (.link target) => some (.link target)
    | some .other => some .other
    | none => fs path

def tar (archive : Path) (fs : FS) : Option FS := do
  let file ← (Call.file archive fs).toOption
  let entries ← world.unpack file.bytes
  some (extract world staging entries fs)

def doesNotRun (version : Version) (why : List Char) : Report :=
  ⟨"the ".toList ++ version.display ++ " binary does not run here: ".toList ++ why, none⟩

/-- Runs the new binary for its version. -/
def tried (version : Version) (new : Path) : EStateM Report FS Unit := do
  let out ← attempt world staging (.output new) (fun err => doesNotRun version err.text) fun fs => do
    let file ← Call.file new fs
    pure (world.output file.bytes, fs)
  if out.1.success then
    if saysVersion (fromUtf8Lossy out.2) version then pure ()
    else throw (doesNotRun version ("it says ".toList ++ trim (fromUtf8Lossy out.2)))
  else throw (doesNotRun version ("it ended with ".toList ++ out.1.text))

def own (metadata : Metadata) (path : Path) : EStateM Report FS Unit := do
  attempt world staging (.setPermissions path) (fun err => ⟨"cannot set the mode of ".toList ++ display path, some err⟩)
    (Call.setPermissions process path metadata.mode)
  if process.root then
    attempt world staging (.chown path) (fun err => ⟨"cannot set the owner of ".toList ++ display path, some err⟩)
      (Call.chown process path metadata.uid metadata.gid)
  else pure ()

def swap (exe new : Path) : EStateM Report FS Unit := do
  let metadata ← attempt world staging (.metadata exe) (fun err => ⟨"cannot read ".toList ++ display exe, some err⟩)
    (Call.metadata exe)
  let old := kept exe
  let stagedOld := staging ++ ["hawse.old".toList]
  attempt world staging (.copy exe stagedOld) (fun err => ⟨"cannot copy ".toList ++ display exe, some err⟩)
    (Call.copy (world.created stagedOld) exe stagedOld)
  own world process staging metadata stagedOld
  attempt world staging (.rename stagedOld old)
    (fun err => ⟨"cannot keep ".toList ++ display exe ++ " as ".toList ++ display old, some err⟩)
    (Call.rename stagedOld old)
  own world process staging metadata new
  attempt world staging (.rename new exe) (fun err => ⟨"cannot replace ".toList ++ display exe, some err⟩)
    (Call.rename new exe)

/-- Fetches the release and holds it to its `SHA256SUMS`. -/
def fetched (base : List Char) (version : Version) (target : List Char) : EStateM Report FS Unit := do
  let archive := staging ++ [archiveOf version target]
  runCommand world staging (curlWords staging base version target) (curl world staging base version target)
  let got ← read world staging archive
  let sums ← read world staging (staging ++ ["SHA256SUMS".toList])
  if sum (fromUtf8Lossy sums) (archiveOf version target) = some (hex (world.sha256 got)) then pure ()
  else throw ⟨archiveOf version target ++ " does not match the release's SHA256SUMS".toList, none⟩

def units (unpacked : Path) : EStateM Report FS (List (Role × List Char)) :=
  [Role.server, Role.client].mapM fun role => do
    let unit ← read world staging (unpacked ++ ["contrib".toList, unitOf role])
    pure (role, fromUtf8Lossy unit)

/-- `replace`, while its staging directory is there. -/
def staged (base : List Char) (version : Version) (target : List Char) (exe : Path) :
    EStateM Report FS (List (Role × List Char)) := do
  let archive := staging ++ [archiveOf version target]
  let unpacked := staging ++ [nameOf version target]
  let new := unpacked ++ ["hawse".toList]
  fetched world staging base version target
  runCommand world staging (tarWords staging archive) (tar world staging archive)
  tried world staging version new
  let found ← units world staging unpacked
  swap world process staging exe new
  pure found

/-- The staging directory is removed however `body` ends. -/
def Staging.drop {α : Type} (body : EStateM Report FS α) : EStateM Report FS α := fun fs =>
  match body fs with
  | .ok value fs => .ok value (fs.removeAll staging)
  | .error report fs => .error report (fs.removeAll staging)

def createStaging (exe : Path) : EStateM Report FS Unit := fun fs =>
  let failed (err : IoError) : Report :=
    match err.kind with
    | .permissionDenied => ⟨"cannot write to ".toList ++ display (parent exe) ++ "; run it with sudo".toList, none⟩
    | .alreadyExists =>
        ⟨"another upgrade of ".toList ++ display exe ++ " is staging in ".toList ++ display staging ++
          "; if none is running, one was killed, so remove it and run this again".toList, none⟩
    | _ => ⟨"cannot create ".toList ++ display staging, some err⟩
  match world.fault (.createDir staging) with
  | some err => .error (failed err) fs
  | none =>
      match Call.createDir staging fs with
      | .error err => .error (failed err) fs
      | .ok (_, fs) => .ok () fs

end Steps

def replace (world : World) (process : Process) (base : List Char) (version : Version) (target : List Char)
    (exe : Path) : EStateM Report FS (List (Role × List Char)) := do
  createStaging world (stagingOf exe) exe
  Staging.drop (stagingOf exe) (staged world process (stagingOf exe) base version target exe)

end Hawse.Upgrade
