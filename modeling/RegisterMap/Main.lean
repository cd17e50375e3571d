import RegisterMap.Command.Run

/-!
The command line program. It looks up the paths that a command line names, runs the command on what
is there, and carries out what the run leaves behind.
-/

set_option autoImplicit false

namespace RegisterMap.Command

/-- What there is on the disk under a path, if anything. Whatever is neither a file nor a directory,
the standard output among it, takes text as a sink does. -/
def entryOnDisk? (path : Path) : IO (Option Entry) := do
  try
    match (← ((← IO.currentDir) / path.text).metadata).type with
    | .dir => return some .directory
    | .file => return some (.file (← IO.FS.readBinFile path.text).toList)
    | _ => return some .sink
  catch _ => return none

/-- What a path leads to on the disk. -/
def statusOnDisk (path : Path) : IO Status := do
  if path.hasNull then return .malformed
  if path.isLong then return .tooLong
  if let some entry ← entryOnDisk? path then return entry.status
  let parent : Path := { path with parts := path.parts.dropLast }
  match ← entryOnDisk? parent with
  | some .directory =>
    return if path.parts.getLast?.any Path.isLongName then .tooLong else .vacant
  | some _ => return .blocked
  | none => return .missing

def surroundingsOf (paths : List Path) : IO Surroundings := do
  let found ← paths.mapM fun path => return (path, ← statusOnDisk path)
  return {
    directory := (← IO.currentDir).toString
    status := fun path => ((found.find? fun entry => entry.1 = path).map (·.2)).getD .missing
    toml := Toml.text? }

/-- The text with a replacement character for every lone half. -/
def shown (text : Text) : String :=
  String.ofList (text.map fun point => point.char?.getD '\ufffd')

def report (o : Outcome) : IO UInt32 := do
  for notice in o.notices do
    IO.eprintln (shown notice.text)
  if let some complaint := o.complaint then
    IO.eprintln complaint
  IO.print (shown o.output)
  if let some (path, text) := o.written then
    IO.FS.writeFile path.text (shown text)
  match o.ending with
  | .exit code => return UInt32.ofNat code
  | .failed f =>
    IO.eprintln (shown f.message)
    return 1

end RegisterMap.Command

open RegisterMap.Command in
def main (texts : List String) : IO UInt32 := do
  report (run (← surroundingsOf (pathsOf texts)) texts)
