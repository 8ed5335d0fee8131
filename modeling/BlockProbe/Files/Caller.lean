/-
Who is at work on the files.

What a process may do with a file is decided by the file's permission bits, by how the process stands to it and by what
the process is privileged to. A tree lists the permission bits of its files; a `Caller` is everything else, directories
and devices included, and every statement about a tree is one about any caller.

- `Caller.mayOpen` is the permission check that opening a node comes with.
- `Caller.createdMode` is the mode of a file that it creates: what is asked for less what the process masks. In a
  directory that hands its group on, a file that its group may execute is created without the set-group-id bit by
  somebody outside that group.
- `Caller.modeAfterChange` is the mode of a file once its content has changed: without the set-user-id bit, and without
  the set-group-id bit where the group may execute the file or the process is outside the group. A process that is
  privileged to keep these bits leaves them.
-/
import BlockProbe.Files.Node

namespace BlockProbe.Files

inductive Access where
  | read
  | write
deriving DecidableEq, Repr

/-- whose permission bits of a file count -/
inductive Standing where
  | owner
  | group
  | other
deriving DecidableEq, Repr

/-- the permission bit that is looked at -/
def Standing.bit : Standing → Access → UInt32
  | .owner, .read => 0o400
  | .owner, .write => 0o200
  | .group, .read => 0o040
  | .group, .write => 0o020
  | .other, .read => 0o004
  | .other, .write => 0o002

/-- a process as far as the files are concerned. Where it says something of the file at a location, that is the file
there or the one that it creates there. Where nothing is said it may open everything, masks what group and others could
write, and is not privileged to keep set-id bits. -/
structure Caller where
  /-- the permission bits a new file never gets -/
  mask : UInt32 := 0o022
  /-- is it privileged to do without the permission bits of files? -/
  overrides (access : Access) : Bool := true
  /-- is it privileged to change a file that keeps its set-id bits? -/
  keepsSetIds : Bool := false
  /-- how it stands to the file at a location -/
  standing (location : Location) : Standing := .owner
  /-- does it belong to the group of the file at a location? -/
  isMember (location : Location) : Bool := true
  /-- may it look up names in the directory at a location? -/
  searches (location : Location) : Bool := true
  /-- may it create files in the directory at a location? -/
  adds (location : Location) : Bool := true
  /-- does nothing but permission bits keep it from opening what is at a location? -/
  opens (access : Access) (location : Location) : Bool := true

namespace Caller

/-- do a file's permission bits let the process in? -/
def isPermitted (caller : Caller) (access : Access) (location : Location) (mode : UInt32) : Bool :=
  caller.overrides access || mode &&& (caller.standing location).bit access != 0

/-- the permission check for opening a node -/
def mayOpen (caller : Caller) (access : Access) (location : Location) : Node → Bool
  | .file mode _ => caller.opens access location && caller.isPermitted access location mode
  | _ => caller.opens access location

/-- what is asked for less what the process masks -/
def masked (caller : Caller) (requested : UInt32) : UInt32 := requested &&& 0o7777 &&& ~~~caller.mask

def createdMode (caller : Caller) (location : Location) (requested : UInt32) : UInt32 :=
  let isStripped := requested &&& 0o2010 = 0o2010 ∧ !caller.keepsSetIds ∧ !caller.isMember location
  if isStripped then caller.masked requested &&& ~~~0o2000 else caller.masked requested

def modeAfterChange (caller : Caller) (location : Location) (mode : UInt32) : UInt32 :=
  if caller.keepsSetIds then mode
  else
    let mode := mode &&& ~~~0o4000
    if mode &&& 0o0010 ≠ 0 ∨ !caller.isMember location then mode &&& ~~~0o2000 else mode

end Caller

end BlockProbe.Files
