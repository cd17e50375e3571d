import RegisterMap.Numeral.Digits
import RegisterMap.Numeral.Shortest
import RegisterMap.Value.Basic

/-!
Writing an object as TOML. Every object is a table, and so is every object in a list that holds
nothing else and stands in a table; other lists and the objects in them stand on the line of their
name. A table begins with its values, and its tables follow, each under a header that names the way
to it; in a table that is an item of a list, lists of tables come before other tables. A table that
holds nothing but tables has no header, nor has the outermost one. There is no text for null.
-/

set_option autoImplicit false

namespace RegisterMap.Toml

open Numeral (paddedHex decimalText)

def stringChar (c : Char) : String :=
  match c with
  | '"' => "\\\""
  | '\\' => "\\\\"
  | '\n' => "\\n"
  | '\r' => "\\r"
  | '\t' => "\\t"
  | '\x08' => "\\b"
  | '\x0C' => "\\f"
  | c =>
    if c.toNat < 0x20 || c.toNat = 0x7F then "\\u" ++ paddedHex 4 c.toNat
    else String.singleton c

def stringPoint : CodePoint → Text
  | .char c => stringChar c
  | .half code => [.half code]

def stringText (s : Text) : Text := "\"" ++ s.flatMap stringPoint ++ "\""

def isBarePoint : CodePoint → Bool
  | .char c => c.isAlphanum || c == '_' || c == '-'
  | .half _ => false

/-- A name of letters, digits, underscores and hyphens stands bare. -/
def keyText (name : Text) : Text :=
  if !name.isEmpty && name.all isBarePoint then name else stringText name

def bracketed (opening separator closing : String) (parts : List Text) : Text :=
  opening ++ Text.intercalate separator parts ++ closing

mutual

/-- The text of a value on one line, with the separator that members of an object have there. -/
def inlineText (separator : String) : Value → Text
  | .null => []
  | .bool true => "true"
  | .bool false => "false"
  | .int n => decimalText n
  | .float x => x.text "nan" "inf"
  | .text s => stringText s
  | .list items => bracketed "[" ", " "]" (inlineItems items)
  | .object members => bracketed "\x7b" separator "\x7d" (inlineMembers members)

def inlineItems : List Value → List Text
  | [] => []
  | v :: rest => inlineText ", " v :: inlineItems rest

def inlineMembers : List (Text × Value) → List Text
  | [] => []
  | (name, v) :: rest => (keyText name ++ " = " ++ inlineText "," v) :: inlineMembers rest

end

def isTableList (items : List Value) : Bool := !items.isEmpty && items.all Value.isObject

/-- Whether a member of a table is a table itself, or a list of tables. -/
def isTable : Value → Bool
  | .object _ => true
  | .list items => isTableList items
  | _ => false

/-- The lines of a table's own values. -/
def valueLines (members : List (Text × Value)) : Text :=
  Text.join ((inlineMembers (members.filter fun m => !isTable m.2)).map (· ++ Text.ofString "\n"))

/-- Whether a table has no values of its own. -/
def isBare (members : List (Text × Value)) : Bool := members.all fun m => isTable m.2

def pathText (path : List Text) : Text := Text.intercalate "." (path.map keyText)

/-- The header of a table, unless it holds nothing but tables. -/
def header (path : List Text) (members : List (Text × Value)) : Text :=
  if isBare members && !members.isEmpty then [] else "[" ++ pathText path ++ "]\n"

def itemHeader (path : List Text) : Text := "[[" ++ pathText path ++ "]]\n"

def isEmptyTable : Value → Bool
  | .object [] => true
  | _ => false

def blankUnless (close : Bool) : Text := if close then [] else "\n"

mutual

/-- The tables among the members of a table; `bare` says whether that has no values of its own, and
`first` whether these members begin with its first one. -/
def innerText (path : List Text) (bare first : Bool) : List (Text × Value) → Text
  | [] => []
  | (name, v) :: rest =>
    entryText (path ++ [name]) bare first v ++ innerText path bare false rest

/-- A blank line stands before a table, unless it comes first and no values do. -/
def entryText (path : List Text) (bare first : Bool) : Value → Text
  | .object members =>
    blankUnless (bare && first) ++ header path members ++ valueLines members ++
      innerText path (isBare members) true members
  | .list items => if isTableList items then itemsText path first items else []
  | _ => []

/-- The tables of a list; a blank line stands before the first one unless the list comes first, and
before others unless they follow an empty one. -/
def itemsText (path : List Text) (close : Bool) : List Value → Text
  | [] => []
  | v :: rest =>
    blankUnless close ++ itemHeader path ++ itemText path v ++ itemsText path (isEmptyTable v) rest

def itemText (path : List Text) : Value → Text
  | .object members => valueLines members ++ innerText path (isBare members) true members
  | _ => []

end

/-- An item of a list of tables, with the members that are objects behind the others. -/
def objectsLast : Value → Value
  | .object members =>
    .object (members.filter (fun m => !m.2.isObject) ++ members.filter fun m => m.2.isObject)
  | v => v

mutual

/-- A member of a table, with the items of all lists of tables in the order of their text. -/
def arranged : Value → Value
  | .object members => .object (arrangedMembers members)
  | .list items => .list (if isTableList items then arrangedItems items else items)
  | v => v

def arrangedMembers : List (Text × Value) → List (Text × Value)
  | [] => []
  | (name, v) :: rest => (name, arranged v) :: arrangedMembers rest

def arrangedItems : List Value → List Value
  | [] => []
  | v :: rest => objectsLast (arranged v) :: arrangedItems rest

end

mutual

def holdsNull : Value → Bool
  | .null => true
  | .list items => itemsHoldNull items
  | .object members => membersHoldNull members
  | _ => false

def itemsHoldNull : List Value → Bool
  | [] => false
  | v :: rest => holdsNull v || itemsHoldNull rest

def membersHoldNull : List (Text × Value) → Bool
  | [] => false
  | (_, v) :: rest => holdsNull v || membersHoldNull rest

end

/-- The text of an object, unless there is a null in it. -/
def text? (v : Value) : Option Text :=
  if holdsNull v then none else some (itemText [] (arranged v))

end RegisterMap.Toml
