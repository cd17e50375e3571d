import RegisterMap.Command.Request
import RegisterMap.Document.Source
import RegisterMap.Files.Tree
import RegisterMap.Outline
import RegisterMap.Toml
import RegisterMap.Zig.Rendering

/-!
Running a command: the description is read from its file, the text is made, and only then is it
written, to a file or to the standard output. Whatever goes wrong before leaves all files as they
are.
-/

set_option autoImplicit false

namespace RegisterMap.Command

/-- What a command has around it: the working directory, what paths lead to, and a writer of TOML,
which may have no text for a value. The writer is the one at hand unless another is given. -/
structure Surroundings where
  directory : String
  status : Path → Status
  toml : Value → Option Text := Toml.text?

/-- Why a command breaks off. -/
inductive Failure
  | tooDeep (nest : Json.Nest)
  | settings (fault : Document.SettingsFault)
  | noPath
  | noSuchFile (path : String)
  | numeral (tooLong : Numeral.TooLong)
  | misfit (cause : Misfit)
  | noFormat
  | noTomlForm
  | noOutput
  | noDirectory (path : String)
  | isDirectory (path : String)
  | notDirectory (path : String)
  | nameTooLong (path : String)
  | malformedPath
  | loneHalves (position : Nat) (halves : Text)
deriving DecidableEq

def systemMessage (number : Nat) (text : String) (path : String) : String :=
  "[Errno " ++ Numeral.decimalText number ++ "] " ++ text ++ ": " ++ Text.quoted path

/-- The kind of the value that stands for nothing given. -/
def kindOfNothing : String := (Value.list []).kind

def lacking (use : String) : String :=
  "'" ++ kindOfNothing ++ "' object has no attribute '" ++ use ++ "'"

/-- The position of a character with its text, or those of the first and the last of several. -/
def spanText (position : Nat) (points : Text) : String :=
  let first := Numeral.decimalText position
  if points.length = 1 then " " ++ Text.quoted points ++ " in position " ++ first
  else "s in position " ++ first ++ "-" ++ Numeral.decimalText (position + points.length - 1)

def depthMessage (nest : Json.Nest) : String :=
  let what := match nest with
    | .list => "array"
    | .object => "object"
  "maximum recursion depth exceeded while decoding a JSON " ++ what ++ " from a unicode string"

def Failure.message : Failure → Text
  | .tooDeep nest => depthMessage nest
  | .settings fault => fault.message
  | .noPath => "expected str, bytes or os.PathLike object, not " ++ kindOfNothing
  | .noSuchFile path => "No such file: " ++ path
  | .numeral tooLong => tooLong.message
  | .misfit cause => cause.message
  | .noFormat => lacking "upper"
  | .noTomlForm =>
    "Unable to convert an object of <class '" ++ Value.null.kind ++ "'> to a TOML item"
  | .noOutput => lacking "write_text"
  | .noDirectory path => systemMessage 2 "No such file or directory" path
  | .isDirectory path => systemMessage 21 "Is a directory" path
  | .notDirectory path => systemMessage 20 "Not a directory" path
  | .nameTooLong path => systemMessage 36 "File name too long" path
  | .malformedPath => "embedded null byte"
  | .loneHalves position halves =>
    "'utf-8' codec can't encode character" ++ spanText position halves ++
      ": surrogates not allowed"

/-- How a run ends: with an exit code, or broken off. -/
inductive Ending
  | exit (code : Nat)
  | failed (f : Failure)
deriving DecidableEq

/-- What a run leaves behind: what it prints itself, and at most one path that it writes to. -/
structure Outcome where
  ending : Ending
  output : Text := []
  complaint : Option String := none
  written : Option (Path × Text) := none
  notices : List Notice := []
deriving DecidableEq

/-- The description's file, or that there is none. -/
def content (around : Surroundings) (p : Path) : Except Failure Bytes :=
  match around.status p with
  | .file content => .ok content
  | .tooLong => .error (.nameTooLong p.text)
  | _ => .error (.noSuchFile (p.absolute around.directory).text)

/-- The text of an outline, or that there is none in the format. -/
def outlineText (toml : Value → Option Text) (format : Given Format) (outline : Value) :
    Except Failure Text :=
  match format with
  | .nothing => .error .noFormat
  | .value .json => .ok (Json.pretty outline ++ "\n")
  | .value .toml =>
    match toml outline with
    | some text => .ok text
    | none => .error .noTomlForm

/-- The names that are given; what was given no name counts as one that no peripheral can have. -/
def selectionOf (peripherals : Option (List (Given String))) : Selection :=
  { names := peripherals.map fun names => names.map fun given =>
      match given with
      | .value name => .ofString name
      | .nothing => .list [] }

/-- The text that a command makes of a device, and what it notices. -/
def textFor (toml : Value → Option Text) (request : Request) (d : Device) :
    Except Failure Text × List Notice :=
  let selection := selectionOf request.peripherals
  match request.action with
  | .generate =>
    let report := Zig.renderText d selection
    (report.result.mapError .misfit, report.notices)
  | .dump =>
    let report := d.outline selection
    ((report.result.mapError .misfit).bind (outlineText toml request.format), report.notices)

/-- Writes a text to a file. A text with lone halves of pairs has no bytes, and leaves the file
empty. -/
def write (p : Path) (text : Text) (notices : List Notice) : Outcome :=
  match text.firstHalves? with
  | none => { ending := .exit 0, written := some (p, text), notices := notices }
  | some (position, halves) =>
    { ending := .failed (.loneHalves position halves)
      written := some (p, [])
      notices := notices }

/-- Writes a text to a path: to a file where one is or can be, or into a sink. -/
def writeTo (around : Surroundings) (p : Path) (text : Text) (notices : List Notice) : Outcome :=
  let failed (f : Failure) : Outcome := { ending := .failed f, notices := notices }
  match around.status p with
  | .file _ | .sink | .vacant => write p text notices
  | .directory => failed (.isDirectory p.text)
  | .missing => failed (.noDirectory p.text)
  | .blocked => failed (.notDirectory p.text)
  | .tooLong => failed (.nameTooLong p.text)
  | .malformed => failed .malformedPath

/-- Puts the text where it is asked for. -/
def deliver (around : Surroundings) (outputFile : Option (Given String)) (text : Text)
    (notices : List Notice) : Outcome :=
  match outputFile with
  | none => { ending := .exit 0, output := text, notices := notices }
  | some .nothing => { ending := .failed .noOutput, notices := notices }
  | some (.value name) => writeTo around (.ofText name) text notices

/-- Goes on with a description that has been read from a file. -/
def finish (around : Surroundings) (request : Request) (p : Path) (s : Document.Reading) :
    Outcome :=
  let notices := s.notices.toList
  match s.fault with
  | some (.numeralTooLong tooLong) => { ending := .failed (.numeral tooLong), notices := notices }
  | some fault => { ending := .exit 1, notices := notices ++ [.invalidFile p.text fault] }
  | none =>
    let (text, more) := textFor around.toml request s.device
    match text with
    | .ok text => deliver around request.outputFile text (notices ++ more)
    | .error f => { ending := .failed f, notices := notices ++ more }

/-- The settings that are given; giving nothing changes none. -/
def settingsOf (request : Request) : Except Failure Document.Settings :=
  match request.parseOptions with
  | some (.value v) => (Document.Settings.ofValue v).mapError .settings
  | some .nothing | none => .ok {}

def pathOf (given : Given String) : Except Failure Path :=
  match given with
  | .value text => .ok (.ofText text)
  | .nothing => .error .noPath

/-- The path of the description and the reading of it. -/
def readingFor (around : Surroundings) (request : Request) :
    Except Failure (Path × Document.Reading) := do
  let settings ← settingsOf request
  let p ← pathOf request.svdFile
  let bytes ← content around p
  return (p, Document.readBytes settings bytes)

def perform (around : Surroundings) (request : Request) : Outcome :=
  match readingFor around request with
  | .ok (p, s) => finish around request p s
  | .error f => { ending := .failed f }

/-- The paths that a command line makes a command look at. -/
def pathsOf (texts : List String) : List Path :=
  match readLine texts with
  | .run _ request =>
    (request.svdFile :: request.outputFile.toList).filterMap fun given => (pathOf given).toOption
  | .noAction | .help | .problem .. | .tooDeep _ => []

/-- The least level of the notices that are shown. -/
def levelShown : Nat → Level
  | 0 => .critical
  | 1 => .warning
  | 2 => .info
  | _ => .debug

def Outcome.showFrom (level : Level) (o : Outcome) : Outcome :=
  { o with notices := o.notices.filter fun n => level.rank ≤ n.level.rank }

def programName : String := "svd2zig"

def usage : String := "usage: " ++ programName ++ " [-h] [-v] " ++ actionChoice ++ " ...\n"

/-- A problem is attributed to the program or to one of its commands. -/
def complaint (action : Option Action) (p : Problem) : String :=
  programName ++ ((action.map fun a => " " ++ a.text).getD "") ++ ": error: " ++ p.message

def run (around : Surroundings) (texts : List String) : Outcome :=
  match readLine texts with
  | .run verbosity request => (perform around request).showFrom (levelShown verbosity)
  | .noAction => { ending := .exit 2, output := usage }
  | .help => { ending := .exit 0, output := usage }
  | .problem action p => { ending := .exit 2, complaint := some (complaint action p) }
  | .tooDeep nest => { ending := .failed (.tooDeep nest) }

end RegisterMap.Command
