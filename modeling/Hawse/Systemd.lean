import Hawse.Lib.Words
import Hawse.Proto.Text

namespace Hawse

inductive Role
  | server
  | client
deriving DecidableEq

def Role.name : Role → List Char
  | .server => "server".toList
  | .client => "client".toList

namespace Systemd

def marker : List Char := "Written by hawse service install.".toList

structure Account where
  name : List Char
  keyDir : List Char

/-- The lines of the unit for a role, as this release ships it. -/
def contrib (role : Role) : List (List Char) :=
  ["[Unit]".toList, "Description=hawse tunnel ".toList ++ role.name,
    "Documentation=https://andriykohut.github.io/hawse/".toList, "After=network-online.target".toList,
    "Wants=network-online.target".toList, [], "[Service]".toList, "Type=notify".toList,
    "ExecStart=/usr/local/bin/hawse ".toList ++ role.name ++ " --config /etc/hawse/".toList ++ role.name ++
      ".toml --log pretty".toList,
    "ExecReload=/bin/kill -HUP $MAINPID".toList, "Restart=always".toList, "RestartSec=5s".toList, [],
    "# The service has no home, so the config path cannot be discovered and is given".toList, "# above.".toList,
    "ConfigurationDirectory=hawse".toList, "StateDirectory=hawse".toList,
    "RuntimeDirectory=hawse-".toList ++ role.name, "DynamicUser=yes".toList, "UMask=0077".toList, []] ++
  (match role with
    | .server => ["# Add CAP_NET_BIND_SERVICE to both lines below to grant ports under 1024.".toList]
    | .client => []) ++
  ["CapabilityBoundingSet=".toList, "AmbientCapabilities=".toList, [], "NoNewPrivileges=yes".toList,
    "ProtectSystem=strict".toList, "ProtectHome=yes".toList, "ProtectProc=invisible".toList, "ProtectClock=yes".toList,
    "ProtectHostname=yes".toList, "ProtectKernelTunables=yes".toList, "ProtectKernelModules=yes".toList,
    "ProtectKernelLogs=yes".toList, "ProtectControlGroups=yes".toList, "PrivateTmp=yes".toList,
    "PrivateDevices=yes".toList,
    "# AF_UNIX is for the name resolver, which may talk to nscd or systemd-resolved, and for the".toList,
    "# socket that hawse status asks.".toList, "RestrictAddressFamilies=AF_INET AF_INET6 AF_UNIX".toList,
    "RestrictNamespaces=yes".toList, "RestrictRealtime=yes".toList, "RestrictSUIDSGID=yes".toList,
    "LockPersonality=yes".toList, "MemoryDenyWriteExecute=yes".toList, "SystemCallArchitectures=native".toList,
    "SystemCallFilter=@system-service".toList, "SystemCallFilter=~@privileged @resources".toList, [],
    "[Install]".toList, "WantedBy=multi-user.target".toList]

def canExecute (path : List Char) : Bool :=
  !path.any (fun c => c = '"' || c = '\'' || c = '\\') && !path.any isControl

/-- `str::replace`, of one character. -/
def replace (c : Char) (by_ : List Char) (text : List Char) : List Char :=
  text.flatMap fun d => if d = c then by_ else [d]

def word (arg : List Char) : List Char :=
  let arg := replace '%' ['%', '%'] arg
  if arg.any fun c => isWhitespace c || c = '"' || c = '\'' || c = '\\' then
    '"' :: (replace '"' ['\\', '"'] (replace '\\' ['\\', '\\'] arg) ++ ['"'])
  else arg

def execStart (role : Role) (exe config : List Char) : List Char :=
  "ExecStart=:".toList ++ (word exe ++ ' ' :: (role.name ++ " --config ".toList ++ (word config ++ " --log pretty".toList)))

/-- What `unit` writes for a line of the contrib unit. -/
def line (role : Role) (exe config : List Char) (account : Option Account) (shipped : List Char) : List (List Char) :=
  if "ExecStart=".toList.isPrefixOf shipped then [execStart role exe config]
  else
    match account with
    | none => [shipped]
    | some account =>
        if shipped = "DynamicUser=yes".toList then
          ["User=".toList ++ account.name, "ReadWritePaths=".toList ++ word account.keyDir]
        else if "ConfigurationDirectory=".toList.isPrefixOf shipped || "StateDirectory=".toList.isPrefixOf shipped then []
        else [shipped]

/-- The lines `unit` writes. -/
def unit (role : Role) (exe config : List Char) (account : Option Account) : List (List Char) :=
  ("# ".toList ++ marker ++ " Run it again to update this file, and put changes in a drop-in (systemctl edit hawse-".toList ++
    role.name ++ ").".toList) :: (contrib role).flatMap (line role exe config account)

/-! ## The settings as systemd reads them -/

/-- The values a unit's lines give a setting. -/
def settings (name : List Char) (lines : List (List Char)) : List (List Char) :=
  (lines.filter (name.isPrefixOf ·)).map (·.drop name.length)

/-- A value on a line of its own, which nothing continues. -/
def OneLine (value : List Char) : Prop := '\n' ∉ value ∧ value.getLast? ≠ some '\\'

/-- The C escapes of one character. -/
def unescape : Char → Option Char
  | 'a' => some '\x07'
  | 'b' => some '\x08'
  | 'f' => some '\x0c'
  | 'n' => some '\n'
  | 'r' => some '\r'
  | 't' => some '\t'
  | 'v' => some '\x0b'
  | '\\' => some '\\'
  | '"' => some '"'
  | '\'' => some '\''
  | 's' => some ' '
  | _ => none

/-- A doubled `%` is one, and a specifier is nothing a unit here is to hold. -/
def specifiers : List Char → Option (List Char)
  | [] => some []
  | '%' :: '%' :: text => (specifiers text).map ('%' :: ·)
  | '%' :: _ => none
  | c :: text => (specifiers text).map (c :: ·)

/-- The special prefixes of an executable, and whether `:` is among them. -/
def executable : List Char → Bool × List Char
  | [] => (false, [])
  | c :: text =>
      if c = ':' then (true, (executable text).2)
      else if c = '@' || c = '-' || c = '+' || c = '!' then executable text
      else (false, c :: text)

section Read
variable (separates : Char → Bool) (expand : List Char → List (List Char))

/-- The words of a command: `expand` is what systemd makes of the `$` in an argument, which it does
without a `:` before the executable. -/
def command (value : List Char) : Option (List (List Char)) :=
  match Lib.Words.split separates unescape none none value with
  | none | some [] => none
  | some (first :: args) => do
      let path ← specifiers (executable first).2
      let args ← args.mapM specifiers
      some (path :: if (executable first).1 then args else args.flatMap expand)

def paths (value : List Char) : Option (List (List Char)) :=
  (Lib.Words.split separates unescape none none value).bind (·.mapM specifiers)

end Read
end Systemd
end Hawse
