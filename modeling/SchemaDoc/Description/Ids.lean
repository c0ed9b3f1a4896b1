import SchemaDoc.Descriptor.Kind
import SchemaDoc.Text.Integer

/-!
# Option numbers

Comments are stored in options under a number that is chosen for each kind of entity; a kind
without a number is left alone. Settings give the numbers, one default number may be given
instead for all kinds, and both are checked before use.
-/
namespace SchemaDoc.Description

open Descriptor (EntityKind)
open Text (SettingText readInteger readSetting)

/-- The largest number that a field can have. -/
def maxNumber : Nat := 536870911

/-- A number that a field can have. -/
structure OptionNumber where
  value : Nat
  positive : 1 ≤ value
  bounded : value ≤ maxNumber
  deriving DecidableEq, Repr

/-- The option number of each kind of entity. -/
structure Ids where
  forKind : EntityKind → Option OptionNumber

namespace Ids

/-- No kind has a number. -/
def empty : Ids where
  forKind _ := none

/-- Every kind has the same number. -/
def uniform (number : OptionNumber) : Ids where
  forKind _ := some number

/-- Whether no kind has a number. -/
def isEmpty (ids : Ids) : Bool :=
  EntityKind.all.all fun kind => (ids.forKind kind).isNone

theorem isEmpty_iff (ids : Ids) : ids.isEmpty = true ↔ ∀ kind, ids.forKind kind = none := by
  simp only [isEmpty, List.all_eq_true, Option.isNone_iff_eq_none]
  exact ⟨fun all kind => all kind (EntityKind.mem_all kind), fun all kind _ => all kind⟩

end Ids

/-- A value given for a number. -/
inductive Setting where
  | absent
  | integer (value : Int)
  /-- A binary floating-point number: the significand times two to the exponent. -/
  | float (significand exponent : Int)
  /-- An infinity, or no number at all. -/
  | notFinite
  | text (content : List Char)
  /-- A value of a type that no number can be read from. -/
  | other
  deriving DecidableEq, Repr

/-- Why a value is not an option number. -/
inductive NumberFault where
  | notFinite
  | fraction
  | unreadable
  | tooLong
  | wrongType
  | tooSmall
  | tooLarge
  deriving DecidableEq, Repr

/-- The name of a fault. -/
def NumberFault.name : NumberFault → String
  | .notFinite => "finite_number"
  | .fraction => "int_from_float"
  | .unreadable => "int_parsing"
  | .tooLong => "int_parsing_size"
  | .wrongType => "int_type"
  | .tooSmall => "greater_than_equal"
  | .tooLarge => "less_than_equal"

/-- What is said of a fault. -/
def NumberFault.message : NumberFault → String
  | .notFinite => "Input should be a finite number"
  | .fraction => "Input should be a valid integer, got a number with a fractional part"
  | .unreadable => "Input should be a valid integer, unable to parse string as an integer"
  | .tooLong => "Unable to parse input string as an integer, exceeded maximum size"
  | .wrongType => "Input should be a valid integer"
  | .tooSmall => "Input should be greater than or equal to 1"
  | .tooLarge => "Input should be less than or equal to 536870911"

/-- Check the range of a number. -/
def OptionNumber.ofInt (value : Int) : Except NumberFault OptionNumber :=
  if low : value < 1 then .error .tooSmall
  else if high : value > maxNumber then .error .tooLarge
  else .ok ⟨value.toNat, by omega, by omega⟩

/-- The integer that a binary floating-point number is, if it is one. -/
def wholeFloat? (significand exponent : Int) : Option Int :=
  let scale : Int := Nat.shiftLeft 1 exponent.natAbs
  if 0 ≤ exponent then some (significand * scale)
  else if significand % scale = 0 then some (significand / scale)
  else none

/-- The bound that the integers read from floating-point numbers stay below in size. -/
def floatBound : Int := 0x8000000000000000

/-- Read the number that a floating-point number gives. -/
def readFloat (significand exponent : Int) : Except NumberFault OptionNumber :=
  match wholeFloat? significand exponent with
  | none => .error .fraction
  | some value =>
    if -floatBound < value ∧ value < floatBound then OptionNumber.ofInt value
    else .error .tooLong

/-- Read the number that a value gives. -/
def Setting.read : Setting → Except NumberFault (Option OptionNumber)
  | .absent => .ok none
  | .integer value => (OptionNumber.ofInt value).map some
  | .float significand exponent => (readFloat significand exponent).map some
  | .notFinite => .error .notFinite
  | .other => .error .wrongType
  | .text content =>
    match readSetting content with
    | .number value => (OptionNumber.ofInt value).map some
    | .unreadable => .error .unreadable
    | .tooLong => .error .tooLong

/-- Settings that do not give numbers: each bad one with its kind, in the order of the kinds. -/
structure SettingsError where
  faults : List (EntityKind × NumberFault)
  deriving Repr

/-- Read the numbers that settings give. -/
def Ids.ofSettings (settings : EntityKind → Setting) : Except SettingsError Ids :=
  let faults := EntityKind.all.filterMap fun kind =>
    match (settings kind).read with
    | .error fault => some (kind, fault)
    | .ok _ => none
  if faults.isEmpty then
    .ok ⟨fun kind => match (settings kind).read with | .ok number => number | .error _ => none⟩
  else .error ⟨faults⟩

/-- The number used when none is given. -/
def standardNumber : OptionNumber := ⟨1000, by decide, by decide⟩

/-- Why the environment gives no default number. -/
inductive DefaultError where
  | notInteger (text : List Char)
  | outOfRange (value : Int)
  deriving DecidableEq, Repr

/-- What is said of a bad default number. -/
def DefaultError.message : DefaultError → String
  | .notInteger text =>
    "PROTO_DOC_DESCRIPTION_ID must be an integer, got '" ++ String.ofList text ++ "'"
  | .outOfRange value => "PROTO_DOC_DESCRIPTION_ID out of range: " ++ toString value

/-- The number for kinds of entity when no settings are given: that of the environment variable
if it is set and not empty. -/
def defaultNumber (environment : Option (List Char)) : Except DefaultError OptionNumber :=
  match environment with
  | none | some [] => .ok standardNumber
  | some text =>
    match readInteger text with
    | none => .error (.notInteger text)
    | some value =>
      match OptionNumber.ofInt value with
      | .ok number => .ok number
      | .error _ => .error (.outOfRange value)

/-- Why no option numbers could be chosen. -/
inductive IdsError where
  | settings (error : SettingsError)
  | default (error : DefaultError)
  deriving Repr

/-- The numbers that settings give, or the default number for every kind if they give none. -/
def Ids.choose (environment : Option (List Char)) (settings : EntityKind → Setting) :
    Except IdsError Ids := do
  let ids ← (ofSettings settings).mapError .settings
  if ids.isEmpty then
    let number ← (defaultNumber environment).mapError .default
    return uniform number
  else return ids

end SchemaDoc.Description
