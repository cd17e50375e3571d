import RegisterMap.Value.Basic

/-!
Settings of a reading: the size and the reset value of registers for which neither they themselves
nor their device give one. A setting may be a value of any kind, and is kept as it is.
-/

set_option autoImplicit false

namespace RegisterMap.Document

structure Settings where
  registerSize : Value := .int 32
  resetValue : Value := .int 0
deriving DecidableEq

/-- Why a value gives no settings: it is no object, or a member of it is no setting. -/
inductive SettingsFault
  | notAnObject (value : Value)
  | reserved (name : Text)
  | unknown (name : Text)
deriving DecidableEq

def SettingsFault.message : SettingsFault → Text
  | .notAnObject value =>
    "dataclasses.replace() argument after ** must be a mapping, not " ++ value.kind
  | .reserved name => "Options.__init__() got multiple values for argument '" ++ name ++ "'"
  | .unknown name => "Options.__init__() got an unexpected keyword argument '" ++ name ++ "'"

namespace Settings

def set (s : Settings) (member : Text × Value) : Except SettingsFault Settings :=
  if member.1 = Text.ofString "default_register_size" then .ok { s with registerSize := member.2 }
  else if member.1 = Text.ofString "default_reset_value" then .ok { s with resetValue := member.2 }
  else if member.1 = Text.ofString "self" then .error (.reserved member.1)
  else .error (.unknown member.1)

/-- The members are taken in order, so that the first one that is no setting is reported. -/
def ofMembers (members : List (Text × Value)) : Except SettingsFault Settings :=
  members.foldlM set {}

/-- A value that counts as nothing changes no setting. -/
def ofValue (v : Value) : Except SettingsFault Settings :=
  if v.isNothing then .ok {}
  else match v with
    | .object members => ofMembers members
    | _ => .error (.notAnObject v)

end Settings

end RegisterMap.Document
