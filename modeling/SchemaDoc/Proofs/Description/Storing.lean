import Mathlib.Logic.Relation
import SchemaDoc.Proofs.Description.Embedding

/-!
# Embedding one description after another

All that embedding does to a file is to append descriptions, each to the options of the file or of
a declaration inside it. That holds whatever the numbers of the descriptions mean to the options.
-/
namespace SchemaDoc.Description

open Descriptor
open Relation (ReflTransGen)
open Text (Bytes)

/-- A descriptor becomes another as one description is appended, to its own options or to those of
a declaration inside it. -/
inductive Stores (ids : Ids) : EntityKind → Message → Message → Prop
  | own {kind : EntityKind} {number : OptionNumber} {text : Bytes} {options : Message}
      (entity : Message) (numbered : ids.forKind kind = some number)
      (appended : append kind.optionsType ((entity.child? kind.optionsTag).getD []) number.value
        text = { options, added := .ok true }) :
      Stores ids kind entity (entity.setChild kind.optionsTag options)
  | inside {kind child : EntityKind} {tag : Nat} {before after : Message}
      (front back : List Entry) (nested : kind.nested? tag = some child)
      (stores : Stores ids child before after) :
      Stores ids kind (front ++ .message tag before :: back) (front ++ .message tag after :: back)

variable {ids : Ids} {join : Bool} {file final : Message}

theorem describe_stores {kind : EntityKind} {entity after : Message} {number : OptionNumber}
    {comment : Bytes} {grown : Bool} (numbered : ids.forKind kind = some number)
    (done : describe kind entity number comment = .ok (grown, after)) :
    (grown = false ∧ after = entity) ∨ (grown = true ∧ Stores ids kind entity after) := by
  rw [describe] at done
  generalize appended : append kind.optionsType ((entity.child? kind.optionsTag).getD [])
    number.value comment = appending at done
  obtain ⟨options, added⟩ := appending
  simp only at done
  split at done
  · cases done
    exact Or.inr ⟨rfl, .own entity numbered appended⟩
  · cases done
    exact Or.inl ⟨rfl, rfl⟩
  · cases done
  · cases done
  · cases done

/-- What is appended to the declaration at a path is appended inside the descriptor around it. -/
theorem Stores.modifyAt {outer kind : EntityKind} {descriptor entity after : Message} {path : Path}
    (resolves : declarationFrom outer descriptor path = some (kind, entity))
    (stores : Stores ids kind entity after) :
    Stores ids outer descriptor (modifyAt (fun _ => after) path descriptor) := by
  induction path using List.twoStepInduction generalizing outer descriptor with
  | nil =>
    rw [declarationFrom_nil] at resolves
    cases resolves
  | singleton tag =>
    rw [declarationFrom_single] at resolves
    cases resolves
  | cons_cons tag index rest ih =>
    rw [declarationFrom_cons] at resolves
    obtain ⟨⟨child, inner⟩, step, inside⟩ := Option.bind_eq_some_iff.mp resolves
    obtain ⟨field, place, rfl, rfl, listed, found⟩ := nestedAt?_eq_some.mp step
    obtain ⟨front, back, rfl, changed⟩ := Message.modifyNth_split found
    have deeper : Stores ids child inner (Descriptor.modifyAt (fun _ => after) rest inner) := by
      split at inside
      next last =>
        cases inside
        rw [last, modifyAt_nil]
        exact stores
      · exact ih inside
    rw [Descriptor.modifyAt, Int.toNat_natCast, Int.toNat_natCast, changed]
    exact .inside front back (EntityKind.mem_nestedTags.mp listed) deeper

theorem embedLocation_stores {location : Location} {outcome : Outcome}
    (done : embedLocation ids join file location = .ok (outcome, final)) :
    ReflTransGen (Stores ids .file) file final := by
  rw [embedLocation] at done
  obtain ⟨content, _, done⟩ := bind_eq_ok_iff.mp done
  cases content with
  | none =>
    cases done
    exact .refl
  | some comment =>
    simp only at done
    split at done
    · cases done
      exact .refl
    next kind entity resolves =>
      split at done
      · cases done
        exact .refl
      next number numbered =>
        obtain ⟨⟨grown, after⟩, described, told⟩ := bind_eq_ok_iff.mp done
        rcases describe_stores numbered described with ⟨rfl, rfl⟩ | ⟨rfl, stores⟩
        · cases told
          exact .refl
        · cases told
          exact .single (Stores.modifyAt resolves stores)

theorem embedLocations_stores {locations : List Location} {count : Nat}
    (done : (embedLocations ids join file locations).result = .ok (count, final)) :
    ReflTransGen (Stores ids .file) file final := by
  induction locations generalizing file count with
  | nil =>
    cases done
    exact .refl
  | cons location rest ih =>
    obtain ⟨_, _, _, step, run, _⟩ := embedLocations_cons_ok_iff.mp done
    exact (embedLocation_stores step).trans (ih run)

theorem embedFileComment_stores {more : Nat}
    (done : embedFileComment ids join file = .ok (more, final)) :
    ReflTransGen (Stores ids .file) file final := by
  simp only [embedFileComment] at done
  split at done
  · cases done
    exact .refl
  next number numbered =>
    obtain ⟨content, _, told⟩ := bind_eq_ok_iff.mp done
    cases content with
    | none =>
      cases told
      exact .refl
    | some comment =>
      obtain ⟨⟨grown, after⟩, described, ended⟩ := bind_eq_ok_iff.mp told
      rcases describe_stores numbered described with ⟨rfl, rfl⟩ | ⟨rfl, stores⟩
      · cases ended
        exact .refl
      · cases ended
        exact .single stores

theorem embedFile_stores {count : Nat}
    (returned : (embedFile ids join file).result = .ok (count, final)) :
    ReflTransGen (Stores ids .file) file final := by
  obtain ⟨_, _, _, walk, own, _⟩ := embedFile_ok_iff.mp returned
  exact (embedLocations_stores walk).trans (embedFileComment_stores own)

end SchemaDoc.Description
