import SchemaDoc.Proofs.Comment.Flow
import SchemaDoc.Proofs.Description.Rerun

/-!
# Which comments are kept

A location documents a declaration when one of its two comments says something. Embedding takes the
leading comment when it is set at all, and the trailing one only when there is none. So whatever
documents a declaration is kept, unless the leading comment is set and blank: then nothing is taken
from the location, whatever the trailing comment says.
-/
namespace SchemaDoc.Description

open Comment
open Descriptor (EntityKind Location Message Path locations resolveDeclaration)
open Text (Bytes encode isBlank isBlankByte strip trim)

/-- The comment says something: it has more than blanks. -/
def isSpoken (comment : Bytes) : Bool :=
  match Text.decode comment with
  | some text => !text.all isBlank
  | none => !comment.all isBlankByte

/-- What documents the declaration at a location: the leading comment if that says something, else
the trailing one if that does. -/
def documentation? (location : Location) : Option Bytes :=
  (location.leading.filter isSpoken).or (location.trailing.filter isSpoken)

/-- The leading comment is set and says nothing. -/
def leadsBlank (location : Location) : Bool :=
  location.leading.any (!isSpoken ·)

variable {ids : Ids} {join : Bool} {location : Location}

/-! ### One comment -/

theorem isEmpty_normalized (join : Bool) (text : List Char) :
    (encode (if join then joinLines text else strip text)).isEmpty = text.all isBlank := by
  have blanks : (if join then joinLines text else strip text) = [] ↔
      ∀ char ∈ text, isBlank char = true := by
    cases join with
    | false => exact Text.trim_eq_nil_iff
    | true => exact joinLines_eq_nil_iff
  rw [Bool.eq_iff_iff, List.isEmpty_iff, List.all_eq_true, ← blanks]
  exact ⟨fun none => Text.encode_inj none, fun none => by rw [none]; rfl⟩

/-- Something is left of a comment just when it says something. -/
theorem normalize_isSome {comment : Bytes} {content : Option Bytes}
    (normalized : normalize join comment = .ok content) : content.isSome = isSpoken comment := by
  have kept : ∀ text : Bytes,
      (if text.isEmpty then none else some text).isSome = !text.isEmpty := by
    intro text
    cases text <;> rfl
  rw [isSpoken]
  cases decoded : Text.decode comment with
  | some text =>
    simp only [normalize, decoded, Except.ok.injEq] at normalized
    rw [← normalized, kept, isEmpty_normalized]
  | none =>
    have blanks : (trim isBlankByte comment).isEmpty = comment.all isBlankByte := by
      rw [Bool.eq_iff_iff, List.isEmpty_iff, List.all_eq_true, Text.trim_eq_nil_iff]
    simp only [normalize, decoded] at normalized
    split at normalized
    · cases normalized
    · cases normalized
      rw [kept, blanks]

theorem isSpoken_of_normalize {comment description : Bytes}
    (normalized : normalize join comment = .ok (some description)) : isSpoken comment = true :=
  (normalize_isSome normalized).symm

/-! ### One location -/

/-- A location whose leading comment is not set or says something gives what documents the
declaration. -/
theorem locationComment_of_documentation (join : Bool) (shown : leadsBlank location = false)
    {comment : Bytes} (documents : documentation? location = some comment) :
    locationComment join location = normalize join comment ∧ isSpoken comment = true := by
  obtain ⟨path, span, leading, trailing⟩ := location
  simp only [leadsBlank, documentation?] at shown documents
  cases leading with
  | some first =>
    have spoken : isSpoken first = true := by simpa using shown
    simp only [Option.filter, spoken, if_true, Option.some_or, Option.some.injEq] at documents
    exact documents ▸ ⟨rfl, spoken⟩
  | none =>
    rw [Option.filter_none, Option.none_or, Option.filter_eq_some_iff] at documents
    obtain ⟨rfl, spoken⟩ := documents
    exact ⟨rfl, spoken⟩

/-- Any other location gives nothing. -/
theorem documented_of_locationComment {description : Bytes}
    (taken : locationComment join location = .ok (some description)) :
    leadsBlank location = false ∧ ∃ comment, documentation? location = some comment := by
  obtain ⟨path, span, leading, trailing⟩ := location
  simp only [leadsBlank, documentation?]
  cases leading with
  | some first =>
    have spoken := isSpoken_of_normalize taken
    exact ⟨by simp [spoken], first, by simp [Option.filter, spoken]⟩
  | none =>
    cases trailing with
    | some second =>
      have spoken := isSpoken_of_normalize taken
      exact ⟨rfl, second, by simp [Option.filter, spoken]⟩
    | none => cases taken

/-! ### One declaration -/

/-- After embedding, a declaration of a kind with a number has what documents it at each of its
locations but those whose leading comment is set and blank. What else it has it had before. -/
theorem embedFile_documents (undeclared : ids.AreUndeclared) {file final before : Message}
    {count : Nat} (returned : (embedFile ids join file).result = .ok (count, final)) {path : Path}
    {kind : EntityKind} (resolves : resolveDeclaration file path = some (kind, before))
    {number : OptionNumber} (numbered : ids.forKind kind = some number) :
    ∃ after, resolveDeclaration final path = some (kind, after) ∧
      (∀ location ∈ locations file, location.path = path → leadsBlank location = false →
        ∀ comment, documentation? location = some comment →
          ∃ description, normalize join comment = .ok (some description) ∧
            description ∈ readOwned kind after number.value) ∧
      ∀ description ∈ readOwned kind after number.value,
        description ∈ readOwned kind before number.value ∨
        ∃ location ∈ locations file, location.path = path ∧ leadsBlank location = false ∧
          ∃ comment, documentation? location = some comment ∧
            normalize join comment = .ok (some description) := by
  have embeds := embedFile_embeds undeclared returned
  obtain ⟨_, _, _, walk, _, _⟩ := embedFile_ok_iff.mp returned
  obtain ⟨⟨_, after⟩, found, same⟩ := Option.map_eq_some_iff.mp
    ((embeds.resolves path).trans (congrArg (Option.map (·.1)) resolves))
  cases same
  have grown := embeds.declared path kind before after number resolves found numbered
  -- The list has grown by what the locations give, so both directions are read off it.
  refine ⟨after, found, fun location member here shown comment documents => ?_,
    fun description held => ?_⟩
  · obtain ⟨content, taken⟩ := embedLocations_comments walk location member
    obtain ⟨read, spoken⟩ := locationComment_of_documentation join shown documents
    have normalized := read.symm.trans taken
    obtain ⟨description, rfl⟩ := Option.isSome_iff_exists.mp
      ((normalize_isSome normalized).trans spoken)
    refine ⟨description, normalized, ?_⟩
    rw [grown, mem_addAllNew, mem_commentsAt_iff]
    exact .inr ⟨location, member, here, taken⟩
  · rw [grown, mem_addAllNew, mem_commentsAt_iff] at held
    refine held.imp_right fun ⟨location, member, here, taken⟩ => ?_
    obtain ⟨shown, comment, documents⟩ := documented_of_locationComment taken
    have read := (locationComment_of_documentation join shown documents).1.symm.trans taken
    exact ⟨location, member, here, shown, comment, documents, read⟩

/-- A file whose message has two locations with a trailing comment each. A leading comment of
blanks stands beside the second. -/
def halfDocumentedFile : Message :=
  [.message 4 [.text 1 [0x41]],
   .message 9
    [.message 1 [.packed 1 [4, 0], .packed 2 [1, 0, 12], .text 4 [0x61]],
     .message 1 [.packed 1 [4, 0], .packed 2 [1, 0, 12], .text 3 [0x20, 0x0A], .text 4 [0x62]]]]

/-- What becomes of `halfDocumentedFile`. -/
def halfEmbeddedFile : Message :=
  [.message 4 [.text 1 [0x41], .message 7 [entryOf standardNumber [0x61]]],
   .message 9
    [.message 1 [.packed 1 [4, 0], .packed 2 [1, 0, 12], .text 4 [0x61]],
     .message 1 [.packed 1 [4, 0], .packed 2 [1, 0, 12], .text 3 [0x20, 0x0A], .text 4 [0x62]]]]

/-- Both trailing comments document the message, and only the first is stored. -/
theorem embedFile_documents_half :
    (Ids.uniform standardNumber).AreUndeclared ∧
    (embedFile (.uniform standardNumber) true halfDocumentedFile).result =
      .ok (1, halfEmbeddedFile) ∧
    (locations halfDocumentedFile).map documentation? = [some [0x61], some [0x62]] ∧
    (locations halfDocumentedFile).map leadsBlank = [false, true] ∧
    resolveDeclaration halfDocumentedFile [4, 0] = some (.message, [.text 1 [0x41]]) ∧
    ∃ after, resolveDeclaration halfEmbeddedFile [4, 0] = some (.message, after) ∧
      (∀ location ∈ locations halfDocumentedFile, location.path = [4, 0] →
        leadsBlank location = false → ∀ comment, documentation? location = some comment →
          ∃ description, normalize true comment = .ok (some description) ∧
            description ∈ readOwned .message after standardNumber.value) ∧
      ∀ description ∈ readOwned .message after standardNumber.value,
        description ∈ readOwned .message [.text 1 [0x41]] standardNumber.value ∨
        ∃ location ∈ locations halfDocumentedFile, location.path = [4, 0] ∧
          leadsBlank location = false ∧
          ∃ comment, documentation? location = some comment ∧
            normalize true comment = .ok (some description) := by
  have returned : (embedFile (.uniform standardNumber) true halfDocumentedFile).result =
      .ok (1, halfEmbeddedFile) := by
    cbv
  have resolves : resolveDeclaration halfDocumentedFile [4, 0] =
      some (.message, [.text 1 [0x41]]) := by
    cbv
  exact ⟨standardNumber_undeclared, returned, by cbv, by cbv, resolves,
    embedFile_documents standardNumber_undeclared returned resolves rfl⟩

end SchemaDoc.Description
