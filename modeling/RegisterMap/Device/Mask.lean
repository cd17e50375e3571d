import RegisterMap.Device.Basic
import RegisterMap.Value.Order

/-!
Masks of fields and registers, as words of 32 bits. A width of no bits, or of more than 32, stands
for the whole word; a negative width has no mask. The place of a field in its register is its
offset modulo 32. A width may be of any kind; masks of other than whole numbers are remembered, and
found again under every width that denotes the same, be it fit for a mask itself or not.
-/

set_option autoImplicit false

namespace RegisterMap

def wordBits : Nat := 32

def wholeMask : Nat := Nat.pow 2 wordBits - 1

/-- The mask of the lowest bits. -/
def lowMask (width : Int) : Except Misfit Nat :=
  if width < 0 then .error .negativeWidth
  else if width = 0 ∨ wordBits < width then .ok wholeMask
  else .ok (Nat.pow 2 width.toNat - 1)

/-- The masks made so far, under their widths. -/
abbrev Masks := List (Value × Nat)

/-- Work that makes masks. Those that it makes are remembered even where it fails. -/
abbrev Masking := ExceptT Misfit (StateM Masks)

/-- The mask of a width that is no whole number. Of truth values both have one, and of other
numbers a zero and those above 32. -/
def makeMask (width : Value) : Except Misfit Nat :=
  match width.whole? with
  | some n => lowMask n
  | none =>
    if !width.isNumber then .error (.noOrder ">" width (.int wordBits))
    else if width.isNothing || Value.numberPrecedes (.int wordBits) width then .ok wholeMask
    else .error (.noOperation "<<" (.int 1) width)

/-- Makes the mask of a width, unless it is remembered. -/
def recallMask (width : Value) : Masking Nat := do
  match Members.get? Value.alike width (← get) with
  | some mask => return mask
  | none =>
    let mask ← makeMask width
    modify fun masks => (width, mask) :: masks
    return mask

def maskOfWidth (width : Value) : Masking Nat :=
  match width with
  | .int n => lowMask n
  | width => do recallMask (← width.asName)

/-- The place of an offset that may be of any kind. -/
def shiftOfOffset (offset : Value) : Except Misfit Nat :=
  if offset.isNothing then .ok 0
  else match offset.whole? with
    | some n => .ok (n % wordBits).toNat
    | none => .error (.noOperation "&" offset (.int (wordBits - 1)))

namespace Field

/-- The mask of the field's value, before it is put into its place. -/
def valueMask (f : Field) : Masking Nat := maskOfWidth (f.bitWidth.orElse (.int 0))

def mask (f : Field) : Masking Nat := do
  let bits ← f.valueMask
  let shift ← shiftOfOffset f.bitOffset
  return (bits <<< shift) % Nat.pow 2 wordBits

/-- Whether the field takes part in writing its register. -/
def isWritten (f : Field) : Bool :=
  !f.bitOffset.isNull && !f.bitWidth.isNull && f.access.writable

end Field

namespace Register

/-- The bits of all fields that can be written. -/
def writeMask (r : Register) : Masking Nat :=
  (r.fields.filter Field.isWritten).foldlM (fun bits f => return bits ||| (← f.mask)) 0

/-- A register without a bit that can be written is read only. -/
def effectiveAccess (r : Register) : Masking Access := do
  return if (← r.writeMask) = 0 then .readOnly else r.access

end Register

end RegisterMap
