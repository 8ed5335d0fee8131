/-
What there is in a tree of files.

A location is the list of names from the root down. There are directories, regular files with their permission bits and
content, symbolic links, named pipes and three devices.
-/

namespace BlockProbe.Files

/-- the names from the root down -/
abbrev Location := List String

/-- the devices: one that swallows everything, one that is also an endless source of zeros, one that is always full -/
inductive Device where
  | null
  | zero
  | full
deriving DecidableEq, Repr

inductive Node where
  | directory
  | file (mode : UInt32) (content : List UInt8)
  | link (target : String)
  | pipe
  | device (device : Device)
deriving DecidableEq, Repr

end BlockProbe.Files
