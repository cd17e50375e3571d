import RegisterMap.Files.Path

/-!
Files and directories, and what a path leads to among them, seen from a working directory. Places
are given by the components of their way from the root.
-/

set_option autoImplicit false

namespace RegisterMap

abbrev Bytes := List UInt8

/-- What a path leads to. A sink is a device or a stream and no file: it takes all that is written
to it, and drops it, shows it or hands it on. A vacant path names nothing yet, in a directory that
exists; on the way of a missing one a directory is missing, and on the way of a blocked one there is
something else. A malformed path can lead nowhere. -/
inductive Status
  | file (content : Bytes)
  | sink
  | directory
  | vacant
  | missing
  | blocked
  | tooLong
  | malformed
deriving DecidableEq, Repr

inductive Entry
  | file (content : Bytes)
  | sink
  | directory
deriving DecidableEq, Repr

def Entry.status : Entry → Status
  | .file content => .file content
  | .sink => .sink
  | .directory => .directory

structure Files where
  directory : List String
  entries : List (List String × Entry)
deriving DecidableEq, Repr

namespace Files

/-- The places that the files tell of. -/
def places (files : Files) : List (List String) := files.directory :: files.entries.map (·.1)

/-- The entry at a place; a directory is also where another place lies inside. -/
def entry? (files : Files) (place : List String) : Option Entry :=
  match files.entries.find? fun e => e.1 = place with
  | some (_, entry) => some entry
  | none =>
    if place.isEmpty || files.places.any (fun other => place.isPrefixOf other) then some .directory
    else none

/-- Follows components from a directory on. Given are the place that they lead to and its status.
The root is its own parent. -/
def follow (files : Files) (here : List String) : List String → List String × Status
  | [] => (here, .directory)
  | ".." :: rest => follow files here.dropLast rest
  | name :: rest =>
    let there := here ++ [name]
    if Path.isLongName name then (there, .tooLong)
    else match files.entry? there with
      | some .directory => follow files there rest
      | some entry => (there, if rest.isEmpty then entry.status else .blocked)
      | none => (there, if rest.isEmpty then .vacant else .missing)

/-- The directory from which a path leads on. -/
def start (files : Files) (p : Path) : List String := if p.root = "" then files.directory else []

def status (files : Files) (p : Path) : Status :=
  if p.hasNull then .malformed
  else if p.isLong then .tooLong
  else (files.follow (files.start p) p.parts).2

/-- The place that a path leads to. -/
def place (files : Files) (p : Path) : List String := (files.follow (files.start p) p.parts).1

end Files

end RegisterMap
