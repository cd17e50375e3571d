import RegisterMap.Command.Words
import RegisterMap.Json.Reader
import RegisterMap.Text.Quoted

/-!
What a command line asks for. Options of the program stand before the command, and all that stands
behind it belongs to the command. Words that belong to nothing are reported last, when all else has
been read.
-/

set_option autoImplicit false

namespace RegisterMap.Command

inductive Action
  | generate
  | dump
deriving DecidableEq, Repr

namespace Action

def all : List Action := [.generate, .dump]

def text : Action → String
  | .generate => "generate"
  | .dump => "dump"

def ofText? (s : String) : Option Action := all.find? fun a => a.text = s

end Action

inductive Format
  | json
  | toml
deriving DecidableEq, Repr

namespace Format

def all : List Format := [.json, .toml]

def text : Format → String
  | .json => "json"
  | .toml => "toml"

def ofText? (s : String) : Option Format := all.find? fun f => f.text = s

end Format

/-- The options of the program. -/
inductive ProgramOption
  | help
  | verbose
deriving DecidableEq, Repr

/-- The options of its commands. -/
inductive ActionOption
  | help
  | svdFile
  | parseOptions
  | peripheral
  | outputFile
  | outputFormat
deriving DecidableEq, Repr

def ProgramOption.text : ProgramOption → String
  | .help => "-h/--help"
  | .verbose => "-v/--verbose"

def ActionOption.text : ActionOption → String
  | .help => "-h/--help"
  | .svdFile => "-s/--svd-file"
  | .parseOptions => "--svd-parse-options"
  | .peripheral => "-p/--peripheral"
  | .outputFile => "-o/--output-file"
  | .outputFormat => "-O/--output-format"

def programVocabulary : Vocabulary ProgramOption :=
  { options := [("-h", .help), ("--help", .help), ("-v", .verbose), ("--verbose", .verbose)]
    takesValue := fun _ => false }

/-- Only an outline has a format. -/
def actionVocabulary (a : Action) : Vocabulary ActionOption :=
  { options :=
      [("-h", .help), ("--help", .help), ("-s", .svdFile), ("--svd-file", .svdFile),
        ("--svd-parse-options", .parseOptions), ("-p", .peripheral), ("--peripheral", .peripheral),
        ("-o", .outputFile), ("--output-file", .outputFile)] ++
      (if a = .dump then [("-O", .outputFormat), ("--output-format", .outputFormat)] else [])
    takesValue := fun o => o ≠ .help }

/-- Why a command line cannot be followed. -/
inductive Problem
  | unrecognized (words : List String)
  | noSuchAction (text : String)
  | noSuchFormat (text : String)
  | notReadable (option text : String)
  | needlessValue (option text : String)
  | missingValue (option : String)
  | missingOption (option : String)
deriving DecidableEq, Repr

def choices (names : List String) : String :=
  String.intercalate ", " (names.map fun (name : String) => Text.quoted name)

def actionChoice : String :=
  "\x7b" ++ String.intercalate "," (Action.all.map Action.text) ++ "\x7d"

def aboutOption (option text : String) : String := "argument " ++ option ++ ": " ++ text

def invalidChoice (option text : String) (names : List String) : String :=
  aboutOption option
    ("invalid choice: " ++ Text.quoted text ++ " (choose from " ++ choices names ++ ")")

def Problem.message : Problem → String
  | .unrecognized words => "unrecognized arguments: " ++ String.intercalate " " words
  | .noSuchAction text => invalidChoice actionChoice text (Action.all.map Action.text)
  | .noSuchFormat text =>
    invalidChoice (ActionOption.text .outputFormat) text (Format.all.map Format.text)
  | .notReadable option text => aboutOption option ("invalid loads value: " ++ Text.quoted text)
  | .needlessValue option text =>
    aboutOption option ("ignored explicit argument " ++ Text.quoted text)
  | .missingValue option => aboutOption option "expected one argument"
  | .missingOption option => "the following arguments are required: " ++ option

/-- What is given to an option that takes a value. A double hyphen attached to the option gives it
nothing. -/
inductive Given (α : Type)
  | value (v : α)
  | nothing
deriving DecidableEq, Repr

namespace Given

variable {α β : Type}

def ofAttached (text : List Char) : Given String :=
  if text = ['-', '-'] then .nothing else .value (String.ofList text)

def map (f : α → β) : Given α → Given β
  | .value v => .value (f v)
  | .nothing => .nothing

/-- What a text that is given is read as, or nothing. -/
def read {ε : Type} (f : α → Except ε β) : Given α → Except ε (Given β)
  | .value v => (f v).map .value
  | .nothing => .ok .nothing

end Given

/-- What the options of a command come to. -/
structure Demand where
  svdFile : Option (Given String) := none
  parseOptions : Option (Given Value) := none
  peripherals : Option (List (Given String)) := none
  outputFile : Option (Given String) := none
  format : Given Format := .value .json

/-- Why the options of a command are not read to their end: a problem, a value that lies too deep in
others, or an option that asks for help. -/
inductive Stop
  | problem (p : Problem)
  | tooDeep (nest : Json.Nest)
  | help
deriving DecidableEq, Repr

def parseOptionsOf (text : String) : Except Stop Value :=
  match Json.ofText text with
  | .ok v => .ok v
  | .error .malformed =>
    .error (.problem (.notReadable (ActionOption.text .parseOptions) text))
  | .error (.tooDeep nest) => .error (.tooDeep nest)

def formatOf (text : String) : Except Stop Format :=
  match Format.ofText? text with
  | some f => .ok f
  | none => .error (.problem (.noSuchFormat text))

/-- The last value of an option counts, but peripherals are gathered. -/
def Demand.put (d : Demand) (o : ActionOption) (given : Given String) : Except Stop Demand :=
  match o with
  | .help => .ok d
  | .svdFile => .ok { d with svdFile := some given }
  | .parseOptions => (given.read parseOptionsOf).map fun v => { d with parseOptions := some v }
  | .peripheral => .ok { d with peripherals := some (d.peripherals.getD [] ++ [given]) }
  | .outputFile => .ok { d with outputFile := some given }
  | .outputFormat => (given.read formatOf).map fun f => { d with format := f }

/-- What the options of a command demand, and the words that are none. -/
structure Scanned where
  demand : Demand
  extra : List String

/-- The options that one word stands for, or the problem with what is attached to one. -/
def clusterOf {α : Type} (v : Vocabulary α) (text : α → String) (o : α) (name : String)
    (attached : Option (List Char)) : Except Problem (Cluster α) :=
  (v.cluster o name attached).mapError fun needless =>
    .needlessValue (text needless.option) (String.ofList needless.text)

/-- Gives a value to an option. The options without value that stand before it in its word ask for
help, which ends the reading. -/
def Demand.take (d : Demand) (before : List ActionOption) (o : ActionOption)
    (given : Given String) : Except Stop Demand :=
  if before.isEmpty then d.put o given else .error .help

def Demand.scan (v : Vocabulary ActionOption) (d : Demand) (extra : List String) :
    List (Word ActionOption) → Except Stop Scanned
  | [] => .ok ⟨d, extra⟩
  | .value text :: rest => d.scan v (extra ++ [text]) rest
  | .separator :: rest => d.scan v (extra ++ ["--"]) rest
  | .unknown text :: rest => d.scan v (extra ++ [text]) rest
  | .option o name attached :: rest =>
    match clusterOf v ActionOption.text o name attached with
    | .error p => .error (.problem p)
    | .ok c =>
      match c.valued, rest with
      | none, _ => .error .help
      | some (o, some text), rest =>
        match d.take c.plain o (.ofAttached text) with
        | .ok d => d.scan v extra rest
        | .error stop => .error stop
      | some (o, none), .value text :: rest =>
        match d.take c.plain o (.value text) with
        | .ok d => d.scan v extra rest
        | .error stop => .error stop
      | some (o, none), _ => .error (.problem (.missingValue o.text))

/-- A command with all that it needs. -/
structure Request where
  action : Action
  svdFile : Given String
  parseOptions : Option (Given Value)
  peripherals : Option (List (Given String))
  outputFile : Option (Given String)
  format : Given Format

/-- What a command line leads to. A problem is one of a command, or else of the program. -/
inductive Reading
  | run (verbosity : Nat) (request : Request)
  | noAction
  | help
  | problem (action : Option Action) (p : Problem)
  | tooDeep (nest : Json.Nest)

/-- Reads what stands behind a command; `extra` holds the words before it that belong to nothing. -/
def readAction (verbosity : Nat) (extra : List String) (a : Action) (texts : List String) :
    Reading :=
  let v := actionVocabulary a
  match Demand.scan v {} [] (v.words texts) with
  | .error .help => .help
  | .error (.problem p) => .problem (some a) p
  | .error (.tooDeep nest) => .tooDeep nest
  | .ok ⟨d, more⟩ =>
    match d.svdFile with
    | none => .problem (some a) (.missingOption (ActionOption.text .svdFile))
    | some svdFile =>
      if (extra ++ more).isEmpty then
        .run verbosity
          { action := a
            svdFile := svdFile
            parseOptions := d.parseOptions
            peripherals := d.peripherals
            outputFile := d.outputFile
            format := d.format }
      else .problem none (.unrecognized (extra ++ more))

/-- The first value names the command. -/
def readCommand (verbosity : Nat) (extra : List String) (name : String) (texts : List String) :
    Reading :=
  match Action.ofText? name with
  | some a => readAction verbosity extra a texts
  | none => .problem none (.noSuchAction name)

/-- Reads words up to the first value; `texts` are the words as they were given. -/
def readProgram (verbosity : Nat) (extra : List String) :
    List (Word ProgramOption) → List String → Reading
  | .value name :: _, _ :: texts => readCommand verbosity extra name texts
  | .separator :: _ :: _, _ :: texts => readCommand verbosity extra "--" texts
  | .separator :: rest, _ :: texts => readProgram verbosity (extra ++ ["--"]) rest texts
  | .unknown text :: rest, _ :: texts => readProgram verbosity (extra ++ [text]) rest texts
  | .option o name attached :: rest, _ :: texts =>
    match clusterOf programVocabulary ProgramOption.text o name attached with
    | .error p => .problem none p
    | .ok c =>
      if c.plain.contains .help then .help
      else readProgram (verbosity + c.plain.length) extra rest texts
  | _, _ => if extra.isEmpty then .noAction else .problem none (.unrecognized extra)

def readLine (texts : List String) : Reading :=
  readProgram 0 [] (programVocabulary.words texts) texts

end RegisterMap.Command
