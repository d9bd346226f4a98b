import TodoMarkers.Config.Store
import TodoMarkers.Disk
import TodoMarkers.Workspace.Scan

/-! What a run can see of the machine: its files, its variables, and the user that it works for. -/

namespace TodoMarkers

/-- What a program that was run has left. -/
structure ProgramResult where
  /-- What it has written. -/
  output : List UInt8
  /-- How it has ended; zero means success. -/
  exitCode : Nat
  deriving DecidableEq, Repr

/-- A machine, as far as a run can see it. -/
structure Host where
  /-- The entries of a directory. -/
  list : Path → Except FileError (List Entry)
  /-- The bytes of a file. -/
  read : Path → Except FileError (List UInt8)
  /-- The variables. -/
  environment : Environment
  /-- What asking for the user's name in a directory has left, absent when that cannot be run. -/
  askUserName : Path → Option ProgramResult
  /-- A bound on the steps of every traversal that ends. -/
  stepLimit : Nat

namespace Host

/-- The host's files as a workspace, whose texts are decoded as far as possible. -/
def workspace (host : Host) : Workspace where
  list? := fun path => (host.list path).toOption
  read? := fun path => (host.read path).toOption.map Text.lossyText
  stepLimit := host.stepLimit

/-- The name of the user that works in a directory: what was written, trimmed, if the program
succeeded and wrote anything but blanks. -/
def userName? (host : Host) (directory : Path) : Option String :=
  (host.askUserName directory).bind fun result =>
    if result.exitCode = 0 then Text.nonBlank? (Text.lossyText result.output) else none

/-- The configuration that a store gives on this host. -/
def getConfig (host : Host) (store : ConfigStore) :
    Except ConfigError Config × ConfigStore :=
  store.get (host.read store.path) host.environment

/-- A host whose files are those of a disk.

The user's name can only be asked for in a directory that is there. -/
def ofDisk (disk : Disk) (environment : Environment) (user : Option ProgramResult) : Host where
  list := disk.list
  read := disk.read
  environment := environment
  askUserName := fun directory => if (disk.list directory).isOk then user else none
  stepLimit := Nat.pow (disk.top.size + 2) (disk.top.size + 2)

end Host

end TodoMarkers
