import RegisterMap.Text.DecimalDigit

/-!
The words of a command line. A word that begins with a hyphen may be an option; an option may have
a value attached to it, behind an equals sign or, if its name is a single letter, right behind the
name. Several options of a single letter may stand in one word. Negative numbers and words with a
space are values, and so is every word behind a double hyphen.
-/

set_option autoImplicit false

namespace RegisterMap.Command

/-- The options that a command knows: their names, and which of them take a value. -/
structure Vocabulary (α : Type) where
  options : List (String × α)
  takesValue : α → Bool

inductive Word (α : Type)
  | value (text : String)
  | separator
  | option (o : α) (name : String) (attached : Option (List Char))
  | unknown (text : String)

/-- The text without one line feed at its end. -/
def withoutLineEnd (s : List Char) : List Char := if s.getLast? = some '\n' then s.dropLast else s

/-- Digits of any script with at most one point, which has a digit behind it. -/
def isMagnitude (s : List Char) : Bool :=
  match s.dropWhile Text.isDecimalDigit with
  | [] => !s.isEmpty
  | '.' :: fraction => !fraction.isEmpty && fraction.all Text.isDecimalDigit
  | _ => false

/-- A magnitude behind a minus sign; one line feed may stand at its end. -/
def isNegativeNumber : List Char → Bool
  | '-' :: s => isMagnitude (withoutLineEnd s)
  | _ => false

namespace Vocabulary

variable {α : Type}

def find? (v : Vocabulary α) (name : List Char) : Option α :=
  (v.options.find? fun entry => entry.1.toList = name).map (·.2)

/-- An option with a value behind an equals sign. -/
def withEquals? (v : Vocabulary α) (s : List Char) : Option (Word α) :=
  let name := s.takeWhile (· ≠ '=')
  match s.dropWhile (· ≠ '=') with
  | [] => none
  | _ :: text => (v.find? name).map fun o => .option o (String.ofList name) (some text)

/-- An option of a single letter with more behind it. -/
def withLetter? (v : Vocabulary α) (s : List Char) : Option (Word α) :=
  match s with
  | dash :: letter :: text =>
    if letter = '-' then none
    else (v.find? [dash, letter]).map fun o =>
      .option o (String.ofList [dash, letter]) (some text)
  | _ => none

def word (v : Vocabulary α) (text : String) : Word α :=
  let s := text.toList
  if s.head? ≠ some '-' then .value text
  else match v.find? s with
    | some o => .option o text none
    | none =>
      if s.length = 1 then .value text
      else match (v.withEquals? s).or (v.withLetter? s) with
        | some w => w
        | none => if isNegativeNumber s || s.contains ' ' then .value text else .unknown text

/-- The words of a line; behind the first double hyphen all are values. -/
def words (v : Vocabulary α) : List String → List (Word α)
  | [] => []
  | text :: rest =>
    if text = "--" then .separator :: rest.map .value else v.word text :: words v rest

end Vocabulary

/-- What one option word comes to: options without value in their order, then possibly one that
takes a value, with what is attached to it. -/
structure Cluster (α : Type) where
  plain : List α := []
  valued : Option (α × Option (List Char)) := none

/-- Something attached to an option that takes no value, and is no other option. -/
structure Needless (α : Type) where
  option : α
  text : List Char

namespace Vocabulary

variable {α : Type}

/-- Takes the letters behind the option `o`, which has no value, for further options. -/
def letters (v : Vocabulary α) (plain : List α) (o : α) :
    List Char → Except (Needless α) (Cluster α)
  | [] => .ok { plain := plain ++ [o] }
  | letter :: rest =>
    match v.find? ['-', letter] with
    | none => .error ⟨o, letter :: rest⟩
    | some next =>
      if v.takesValue next then
        let attached := if rest.isEmpty then none else some rest
        .ok { plain := plain ++ [o], valued := some (next, attached) }
      else v.letters (plain ++ [o]) next rest

/-- Only behind the single letter of an option without value can other options stand. -/
def cluster (v : Vocabulary α) (o : α) (name : String) (attached : Option (List Char)) :
    Except (Needless α) (Cluster α) :=
  if v.takesValue o then .ok { valued := some (o, attached) }
  else match attached with
    | none => .ok { plain := [o] }
    | some text =>
      if text.isEmpty || name.length ≠ 2 then .error ⟨o, text⟩ else v.letters [] o text

end Vocabulary

end RegisterMap.Command
