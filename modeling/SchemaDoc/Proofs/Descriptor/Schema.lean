import Mathlib.Tactic.Common
import SchemaDoc.Descriptor.Kind

/-!
# Facts about the schema

What holds of every field that the schema declares is read off its tables once, and the rest goes
by these facts.
-/
namespace SchemaDoc.Descriptor

namespace MessageType

theorem field?_eq_some {type : MessageType} {number : Nat} {spec : FieldSpec} :
    type.field? number = some spec ↔ spec ∈ type.fields ∧ spec.number = number := by
  constructor
  · intro found
    exact ⟨List.mem_of_find?_eq_some found, by simpa using List.find?_some found⟩
  · rintro ⟨listed, rfl⟩
    have table : ∀ spec ∈ type.fields, type.field? spec.number = some spec := by
      cases type <;> decide
    exact table spec listed

theorem number_of_field? {type : MessageType} {number : Nat} {spec : FieldSpec}
    (known : type.field? number = some spec) : spec.number = number :=
  (field?_eq_some.mp known).2

/-- Field numbers fit into a tag. -/
theorem number_bounds {type : MessageType} {number : Nat} {spec : FieldSpec}
    (known : type.field? number = some spec) : 1 ≤ number ∧ number < 0x20000000 := by
  obtain ⟨listed, rfl⟩ := field?_eq_some.mp known
  have table : ∀ spec ∈ type.fields, 1 ≤ spec.number ∧ spec.number < 0x20000000 := by
    cases type <;> decide
  exact table spec listed

/-- Only lists of integers of 32 bits are packed. -/
theorem kind_of_packed {type : MessageType} {number : Nat} {spec : FieldSpec}
    (known : type.field? number = some spec) (packed : spec.occurrence = .packed) :
    spec.kind = .int32 := by
  have table : ∀ spec ∈ type.fields, spec.occurrence = .packed → spec.kind = .int32 := by
    cases type <;> decide
  exact table spec (field?_eq_some.mp known).1 packed

/-- A floating-point number occurs once. -/
theorem single_of_double {type : MessageType} {number : Nat} {spec : FieldSpec}
    (known : type.field? number = some spec) (double : spec.kind = .double) :
    spec.occurrence = .single := by
  have table : ∀ spec ∈ type.fields, spec.kind = .double → spec.occurrence = .single := by
    cases type <;> decide
  exact table spec (field?_eq_some.mp known).1 double

end MessageType

/-- An entity has its options once. -/
theorem EntityKind.single_optionsTag {kind : EntityKind} {spec : FieldSpec}
    (known : kind.descriptorType.field? kind.optionsTag = some spec) :
    spec.occurrence = .single := by
  cases kind <;> cases known <;> rfl

end SchemaDoc.Descriptor
