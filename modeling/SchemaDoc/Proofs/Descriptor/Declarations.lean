import Mathlib.Data.List.Induction
import Mathlib.Data.List.Nodup
import Mathlib.Data.List.Sigma
import SchemaDoc.Descriptor.Resolution
import SchemaDoc.Proofs.Descriptor.Message

/-!
# The declarations of a file

A path leads to a declaration step by step, each step from a descriptor to one of its nested
declarations. Options hang off the declarations and are no step of any path, so setting the
options of one leaves the paths as they are and the options of all the others, too.
-/
namespace SchemaDoc.Descriptor

/-! ### One step of a path -/

/-- The kind of the declarations that a field of a descriptor holds, if it holds any. -/
def EntityKind.nested? (kind : EntityKind) (tag : Int) : Option EntityKind :=
  match kind.member? tag with
  | some (.declarations child) => some child
  | _ => none

/-- The declaration at an index of a field of a descriptor. -/
def nestedAt? (kind : EntityKind) (descriptor : Message) (tag index : Int) :
    Option (EntityKind × Message) :=
  (kind.nested? tag).bind fun child =>
    (nth? (descriptor.children tag.toNat) index).map fun found => (child, found)

/-- The declaration that a path leads to from inside a descriptor. -/
def declarationFrom (kind : EntityKind) (descriptor : Message) (path : Path) :
    Option (EntityKind × Message) :=
  match resolveFrom kind descriptor path with
  | some (.declaration found inner) => some (found, inner)
  | _ => none

theorem resolveDeclaration_eq (file : Message) (path : Path) :
    resolveDeclaration file path = declarationFrom .file file path := rfl

theorem declarationFrom_nil (kind : EntityKind) (descriptor : Message) :
    declarationFrom kind descriptor [] = none := by
  rw [declarationFrom, resolveFrom]
  simp

theorem declarationFrom_single (kind : EntityKind) (descriptor : Message) (tag : Int) :
    declarationFrom kind descriptor [tag] = none := by
  rw [declarationFrom, resolveFrom]
  simp

theorem resolveOption_ne_declaration {type : MessageType} {options : Message} {number : Int}
    {kind : EntityKind} {descriptor : Message} :
    resolveOption type options number ≠ some (.declaration kind descriptor) := by
  intro found
  simp only [resolveOption] at found
  split at found
  · cases found
  · obtain ⟨spec, _, last⟩ := Option.bind_eq_some_iff.mp found
    split at last <;> cases last

theorem declarationFrom_cons (kind : EntityKind) (descriptor : Message) (tag index : Int)
    (rest : Path) :
    declarationFrom kind descriptor (tag :: index :: rest) =
      (nestedAt? kind descriptor tag index).bind fun found =>
        if rest = [] then some found else declarationFrom found.1 found.2 rest := by
  rw [declarationFrom, resolveFrom, nestedAt?, EntityKind.nested?]
  cases kind.member? tag with
  | none => rfl
  | some member =>
    cases member with
    | declarations child =>
      cases nth? (descriptor.children tag.toNat) index with
      | none => rfl
      | some found =>
        cases rest with
        | nil => rfl
        | cons next more => rfl
    | ranges range =>
      cases rest <;> cases nth? (descriptor.children tag.toNat) index <;> rfl
    | reservedNames =>
      cases rest <;> cases nth? (descriptor.texts tag.toNat) index <;> rfl
    | options type =>
      simp only [Option.bind_none]
      split
      next found inner same =>
        obtain ⟨options, _, option⟩ := Option.bind_eq_some_iff.mp same
        exact absurd option resolveOption_ne_declaration
      · rfl

/-- Paths lead to declarations by pairs of a field and an index. -/
theorem even_length_of_declarationFrom {kind found : EntityKind} {descriptor inner : Message}
    {path : Path} (leads : declarationFrom kind descriptor path = some (found, inner)) :
    path.length % 2 = 0 := by
  induction path using List.twoStepInduction generalizing kind descriptor with
  | nil => rfl
  | singleton tag =>
    rw [declarationFrom_single] at leads
    cases leads
  | cons_cons tag index rest ih =>
    rw [declarationFrom_cons] at leads
    obtain ⟨middle, _, leads⟩ := Option.bind_eq_some_iff.mp leads
    rw [List.length_cons, List.length_cons]
    -- Either the path ends with this pair or it goes on from the declaration in between.
    split at leads
    next last => simp [last]
    next =>
      have even := ih leads
      omega

/-- Fields that hold declarations have numbers of their own. -/
theorem nested?_apart {kind child : EntityKind} {tag : Int} (nested : kind.nested? tag = some child) :
    0 < tag ∧ tag.toNat ≠ kind.optionsTag ∧ (kind = .file → tag.toNat ≠ 9) := by
  simp only [EntityKind.nested?, EntityKind.member?] at nested
  split at nested
  next found =>
    split at found <;> simp_all [EntityKind.optionsTag]
  · cases nested

/-- The source information of a file is no declaration, so no path leads there. -/
theorem resolveDeclaration_clear (file : Message) (path : Path) :
    resolveDeclaration (file.clear 9) path = resolveDeclaration file path := by
  rw [resolveDeclaration_eq, resolveDeclaration_eq]
  match path with
  | [] => rw [declarationFrom_nil, declarationFrom_nil]
  | [tag] => rw [declarationFrom_single, declarationFrom_single]
  | tag :: index :: rest =>
    rw [declarationFrom_cons, declarationFrom_cons]
    congr 1
    rw [nestedAt?, nestedAt?]
    cases nested : EntityKind.file.nested? tag with
    | none => rfl
    | some child =>
      rw [Message.children_clear_ne file ((nested?_apart nested).2.2 rfl)]

theorem nth?_modify {Item : Type} (items : List Item) {place : Int} (positive : 0 ≤ place)
    (change : Item → Item) (index : Int) :
    nth? (items.modify place.toNat change) index =
      if index = place then (nth? items index).map change else nth? items index := by
  simp only [nth?]
  by_cases negative : index < 0
  · rw [if_pos negative, if_pos negative, if_neg (by omega)]
  · rw [if_neg negative, if_neg negative, List.getElem?_modify]
    by_cases same : index = place
    · subst same
      simp
    · have apart : place.toNat ≠ index.toNat := by omega
      simp [apart, same]

theorem nth?_nonneg {Item : Type} {items : List Item} {index : Int} {item : Item}
    (found : nth? items index = some item) : 0 ≤ index := by
  by_contra negative
  rw [nth?, if_pos (by omega)] at found
  cases found

/-! ### Options along paths -/

/-- The kind and the options of the declaration that a path leads to from inside a descriptor. -/
def optionsFrom (kind : EntityKind) (descriptor : Message) (path : Path) :
    Option (EntityKind × Option Message) :=
  (declarationFrom kind descriptor path).map fun found =>
    (found.1, found.2.child? found.1.optionsTag)

/-- The kind and the options of the declaration that a path leads to in a file. -/
def optionsAt (file : Message) (path : Path) : Option (EntityKind × Option Message) :=
  optionsFrom .file file path

theorem optionsFrom_cons (kind : EntityKind) (descriptor : Message) (tag index : Int)
    (rest : Path) :
    optionsFrom kind descriptor (tag :: index :: rest) =
      (nestedAt? kind descriptor tag index).bind fun found =>
        if rest = [] then some (found.1, found.2.child? found.1.optionsTag)
        else optionsFrom found.1 found.2 rest := by
  rw [optionsFrom, declarationFrom_cons]
  cases nestedAt? kind descriptor tag index with
  | none => rfl
  | some found =>
    simp only [Option.bind_some]
    split <;> rfl

theorem nestedAt?_setChild (kind : EntityKind) (descriptor options : Message) (tag index : Int) :
    nestedAt? kind (descriptor.setChild kind.optionsTag options) tag index =
      nestedAt? kind descriptor tag index := by
  rw [nestedAt?, nestedAt?]
  cases nested : kind.nested? tag with
  | none => rfl
  | some child =>
    rw [Option.bind_some, Option.bind_some,
      Message.children_setChild_ne descriptor options (nested?_apart nested).2.1]

/-- Setting the options of a descriptor leaves those of everything inside it. -/
theorem optionsFrom_setChild (kind : EntityKind) (descriptor options : Message) (path : Path) :
    optionsFrom kind (descriptor.setChild kind.optionsTag options) path =
      optionsFrom kind descriptor path := by
  match path with
  | [] => rw [optionsFrom, optionsFrom, declarationFrom_nil, declarationFrom_nil]
  | [tag] => rw [optionsFrom, optionsFrom, declarationFrom_single, declarationFrom_single]
  | tag :: index :: rest => rw [optionsFrom_cons, optionsFrom_cons, nestedAt?_setChild]

theorem nestedAt?_modifyNth {kind child : EntityKind} {descriptor inner : Message}
    {tag index : Int} (found : nestedAt? kind descriptor tag index = some (child, inner))
    (change : Message → Message) (tag' index' : Int) :
    nestedAt? kind (descriptor.modifyNth tag.toNat change index.toNat) tag' index' =
      if tag' = tag ∧ index' = index then some (child, change inner)
      else nestedAt? kind descriptor tag' index' := by
  simp only [nestedAt?, Option.bind_eq_some_iff, Option.map_eq_some_iff, Prod.mk.injEq] at found ⊢
  obtain ⟨_, nested, _, stands, rfl, rfl⟩ := found
  have positive := (nested?_apart nested).1
  cases nested' : kind.nested? tag' with
  | none =>
    have apart : tag' ≠ tag := by
      rintro rfl
      rw [nested] at nested'
      cases nested'
    simp [apart]
  | some child' =>
    have positive' := (nested?_apart nested').1
    rw [Option.bind_some, Option.bind_some]
    by_cases same : tag' = tag
    · subst same
      rw [nested] at nested'
      cases nested'
      rw [Message.children_modifyNth, nth?_modify _ (nth?_nonneg stands)]
      by_cases here : index' = index
      · subst here
        simp [stands]
      · simp [here]
    · rw [Message.children_modifyNth_ne _ _ _ (by omega), if_neg (fun both => same both.1)]

theorem modifyAt_nil (change : Message → Message) (descriptor : Message) :
    modifyAt change [] descriptor = change descriptor := by
  simp [modifyAt]

theorem child?_modifyAt (number : Nat) {kind : EntityKind} {descriptor : Message} {path : Path}
    (resolves : (declarationFrom kind descriptor path).isSome)
    (apart : ∀ tag child, kind.nested? tag = some child → tag.toNat ≠ number)
    (change : Message → Message) :
    (modifyAt change path descriptor).child? number = descriptor.child? number := by
  match path with
  | [] =>
    rw [declarationFrom_nil] at resolves
    cases resolves
  | [tag] =>
    rw [declarationFrom_single] at resolves
    cases resolves
  | tag :: index :: rest =>
    rw [declarationFrom_cons] at resolves
    obtain ⟨found, step⟩ := Option.isSome_iff_exists.mp (Option.isSome_of_isSome_bind resolves)
    simp only [nestedAt?, Option.bind_eq_some_iff] at step
    obtain ⟨child, nested, _⟩ := step
    rw [modifyAt, Message.child?_modifyNth_ne _ _ _ (apart tag child nested).symm]

/-- Setting the options of the declaration at a path changes the options at that path only. -/
theorem optionsFrom_modifyAt {outer kind : EntityKind} {descriptor entity : Message} {path : Path}
    (resolves : declarationFrom outer descriptor path = some (kind, entity)) (options : Message)
    (other : Path) :
    optionsFrom outer
        (modifyAt (fun _ => entity.setChild kind.optionsTag options) path descriptor) other =
      if other = path then some (kind, some options) else optionsFrom outer descriptor other := by
  induction path using List.twoStepInduction generalizing outer descriptor other with
  | nil =>
    rw [declarationFrom_nil] at resolves
    cases resolves
  | singleton tag =>
    rw [declarationFrom_single] at resolves
    cases resolves
  | cons_cons tag index rest ih =>
    rw [declarationFrom_cons] at resolves
    obtain ⟨⟨child, inner⟩, step, inside⟩ := Option.bind_eq_some_iff.mp resolves
    match other with
    | [] =>
      rw [optionsFrom, optionsFrom, declarationFrom_nil, declarationFrom_nil, if_neg (by simp)]
    | [tag'] =>
      rw [optionsFrom, optionsFrom, declarationFrom_single, declarationFrom_single,
        if_neg (by simp)]
    | tag' :: index' :: rest' =>
      rw [modifyAt, optionsFrom_cons, optionsFrom_cons, nestedAt?_modifyNth step]
      -- Both paths are walked together until they part or one of them ends.
      by_cases here : tag' = tag ∧ index' = index
      · obtain ⟨rfl, rfl⟩ := here
        rw [if_pos ⟨rfl, rfl⟩, step]
        simp only [Option.bind_some, List.cons.injEq, true_and]
        cases rest with
        | nil =>
          -- The walk ends here, so what stands here is the declaration itself.
          cases inside
          rw [modifyAt_nil, Message.child?_setChild, optionsFrom_setChild]
          by_cases last : rest' = []
          · rw [if_pos last, if_pos last]
          · rw [if_neg last, if_neg last, if_neg last]
        | cons next more =>
          rw [if_neg (by simp)] at inside
          cases rest' with
          | nil =>
            -- The other path ends above the declaration, whose options are none of those here.
            have kept := child?_modifyAt child.optionsTag
              (Option.isSome_iff_exists.mpr ⟨_, inside⟩)
              (fun tag inner nested => (nested?_apart nested).2.1)
              (fun _ => entity.setChild kind.optionsTag options)
            simp [kept]
          | cons next' more' => simp [ih inside]
      · have apart : tag' :: index' :: rest' ≠ tag :: index :: rest := by
          intro same
          injection same with first others
          injection others with second others
          exact here ⟨first, second⟩
        rw [if_neg here, if_neg apart]

theorem optionsAt_modifyAt {file entity : Message} {kind : EntityKind} {path : Path}
    (resolves : resolveDeclaration file path = some (kind, entity)) (options : Message)
    (other : Path) :
    optionsAt (modifyAt (fun _ => entity.setChild kind.optionsTag options) path file) other =
      if other = path then some (kind, some options) else optionsAt file other :=
  optionsFrom_modifyAt resolves options other

/-! ### All declarations -/

/-- The fields of a descriptor that hold declarations, each with the kind of these. -/
def EntityKind.nestedTags (kind : EntityKind) : List (Nat × EntityKind) :=
  (List.range 16).filterMap fun tag : Nat => (kind.nested? tag).map fun child => (tag, child)

theorem EntityKind.mem_nestedTags {kind child : EntityKind} {tag : Nat} :
    (tag, child) ∈ kind.nestedTags ↔ kind.nested? tag = some child := by
  have small : kind.nested? tag = some child → tag < 16 := by
    intro nested
    simp only [EntityKind.nested?, EntityKind.member?] at nested
    split at nested
    next found => split at found <;> first | omega | cases found
    · cases nested
  simp only [nestedTags, List.mem_filterMap, List.mem_range, Option.map_eq_some_iff, Prod.mk.injEq]
  constructor
  · rintro ⟨_, _, _, nested, rfl, rfl⟩
    exact nested
  · exact fun nested => ⟨tag, small nested, child, nested, rfl, rfl⟩

/-- What holds declarations is declared to hold descriptors of their kind. -/
theorem EntityKind.field?_of_nested? {kind child : EntityKind} {tag : Nat}
    (nested : kind.nested? tag = some child) :
    (kind.descriptorType.field? tag).map (·.kind) = some (.message child.descriptorType) := by
  have table : ∀ field ∈ kind.nestedTags, (kind.descriptorType.field? field.1).map (·.kind) =
      some (.message field.2.descriptorType) := by
    cases kind <;> decide
  exact table _ (EntityKind.mem_nestedTags.mpr nested)

theorem sizeOf_lt_of_mem_children {number : Nat} {message child : Message}
    (member : child ∈ message.children number) : sizeOf child < sizeOf message := by
  obtain ⟨entry, inside, holds⟩ := List.mem_filterMap.mp member
  have held := List.sizeOf_lt_of_mem inside
  cases entry with
  | message found content =>
    simp only [Message.childOf?] at holds
    split at holds <;> cases holds
    simp only [Entry.message.sizeOf_spec] at held
    omega
  | _ => cases holds

/-- The paths from a descriptor to itself and to all declarations inside it. -/
def walks (kind : EntityKind) (descriptor : Message) : List Path :=
  [] :: kind.nestedTags.flatMap fun field =>
    ((descriptor.children field.1).attach.map fun child => walks field.2 child.1).zipIdx.flatMap
      fun inner => inner.1.map fun rest => (field.1 : Int) :: (inner.2 : Int) :: rest
termination_by sizeOf descriptor
decreasing_by exact sizeOf_lt_of_mem_children child.2

theorem walks_eq (kind : EntityKind) (descriptor : Message) :
    walks kind descriptor = [] :: kind.nestedTags.flatMap fun field =>
      ((descriptor.children field.1).map (walks field.2)).zipIdx.flatMap
        fun inner => inner.1.map fun rest => (field.1 : Int) :: (inner.2 : Int) :: rest := by
  rw [walks]
  simp only [List.attach_map_val]

/-- The paths that lead to the declarations of a file. -/
def declarationPaths (file : Message) : List Path :=
  (walks .file file).tail

theorem nestedAt?_eq_some {kind child : EntityKind} {descriptor inner : Message}
    {tag index : Int} :
    nestedAt? kind descriptor tag index = some (child, inner) ↔
      ∃ field place : Nat, tag = field ∧ index = place ∧ (field, child) ∈ kind.nestedTags ∧
        (descriptor.children field)[place]? = some inner := by
  simp only [nestedAt?, Option.bind_eq_some_iff, Option.map_eq_some_iff, Prod.mk.injEq,
    EntityKind.mem_nestedTags]
  constructor
  · rintro ⟨_, nested, _, stands, rfl, rfl⟩
    have positive := (nested?_apart nested).1
    have below := nth?_nonneg stands
    rw [nth?, if_neg (by omega)] at stands
    refine ⟨tag.toNat, index.toNat, by omega, by omega, ?_, stands⟩
    rw [Int.toNat_of_nonneg (by omega)]
    exact nested
  · rintro ⟨field, place, rfl, rfl, nested, stands⟩
    exact ⟨child, nested, inner, by simpa [nth?] using stands, rfl, rfl⟩

theorem mem_walks {kind : EntityKind} {descriptor : Message} {path : Path} :
    path ∈ walks kind descriptor ↔ path = [] ∨ (declarationFrom kind descriptor path).isSome := by
  -- A path is a list of pairs of a tag and an index, and one that ends within a pair leads nowhere.
  induction path using List.twoStepInduction generalizing kind descriptor with
  | nil => simp [walks_eq]
  | singleton tag => simp [walks_eq, declarationFrom_single]
  | cons_cons tag index rest ih =>
    rw [walks_eq, declarationFrom_cons]
    simp only [List.mem_cons, reduceCtorEq, false_or, List.mem_flatMap, List.mem_map,
      Prod.exists, List.mem_zipIdx_iff_getElem?, List.getElem?_map,
      Option.map_eq_some_iff, List.cons.injEq]
    constructor
    · rintro ⟨field, child, nested, _, place, ⟨inner, stands, rfl⟩, _, member, rfl, rfl, rfl⟩
      have step := nestedAt?_eq_some.mpr ⟨field, place, rfl, rfl, nested, stands⟩
      rw [step, Option.bind_some]
      rcases ih.mp member with rfl | inside
      · rfl
      · split
        · rfl
        · exact inside
    · intro resolves
      obtain ⟨last, found⟩ := Option.isSome_iff_exists.mp resolves
      obtain ⟨⟨child, inner⟩, step, within⟩ := Option.bind_eq_some_iff.mp found
      obtain ⟨field, place, rfl, rfl, nested, stands⟩ := nestedAt?_eq_some.mp step
      refine ⟨field, child, nested, _, place, ⟨inner, stands, rfl⟩, rest, ih.mpr ?_, rfl, rfl, rfl⟩
      split at within
      next last => exact Or.inl last
      · exact Or.inr (Option.isSome_of_eq_some within)

theorem EntityKind.nestedTags_distinct (kind : EntityKind) :
    kind.nestedTags.Pairwise fun first second => first.1 ≠ second.1 := by
  cases kind <;> decide

/-- Paths that start with the number of a field and the index of an element are distinct, if those
inside each element are. -/
theorem nodup_steps {Field : Type} {fields : List (Nat × Field)}
    (distinct : fields.Pairwise fun first second => first.1 ≠ second.1)
    {elements : Nat × Field → List (List Path)}
    (inside : ∀ field ∈ fields, ∀ element ∈ elements field, element.Nodup) :
    (fields.flatMap fun field => (elements field).zipIdx.flatMap fun element =>
      element.1.map fun rest => (field.1 : Int) :: (element.2 : Int) :: rest).Nodup := by
  rw [List.nodup_flatMap]
  constructor
  · intro field listed
    rw [List.nodup_flatMap]
    constructor
    · rintro ⟨element, place⟩ member
      have stands := List.mem_of_getElem? (List.mem_zipIdx_iff_getElem?.mp member)
      exact (inside field listed element stands).map fun _ _ same => by simpa using same
    · -- Elements of one field differ in their index.
      have places := List.nodup_zipIdx_map_snd (elements field)
      rw [List.Nodup, List.pairwise_map] at places
      refine places.imp fun apart path first second => ?_
      obtain ⟨_, _, rfl⟩ := List.mem_map.mp first
      obtain ⟨_, _, same⟩ := List.mem_map.mp second
      simp only [List.cons.injEq, true_and, Int.natCast_inj] at same
      exact apart same.1.symm
  · -- Elements of different fields differ in their tag.
    refine distinct.imp fun apart path first second => ?_
    obtain ⟨_, _, first⟩ := List.mem_flatMap.mp first
    obtain ⟨_, _, second⟩ := List.mem_flatMap.mp second
    obtain ⟨_, _, rfl⟩ := List.mem_map.mp first
    obtain ⟨_, _, same⟩ := List.mem_map.mp second
    simp only [List.cons.injEq, Int.natCast_inj] at same
    exact apart same.1.symm

theorem walks_nodup (kind : EntityKind) (descriptor : Message) : (walks kind descriptor).Nodup := by
  induction kind, descriptor using walks.induct with
  | case1 kind descriptor ih =>
    rw [walks_eq, List.nodup_cons]
    refine ⟨by simp, nodup_steps kind.nestedTags_distinct fun field _ element member => ?_⟩
    obtain ⟨child, stands, rfl⟩ := List.mem_map.mp member
    exact ih field ⟨child, stands⟩

/-- Exactly the declarations of a file are listed. -/
theorem mem_declarationPaths {file : Message} {path : Path} :
    path ∈ declarationPaths file ↔ (resolveDeclaration file path).isSome := by
  have all : path ∈ walks .file file ↔ path = [] ∨ (declarationFrom .file file path).isSome :=
    mem_walks
  have distinct := walks_nodup .file file
  rw [resolveDeclaration_eq, declarationPaths]
  rw [walks_eq] at all distinct ⊢
  rw [List.mem_cons] at all
  rw [List.tail_cons]
  by_cases empty : path = []
  · subst empty
    have absent := (List.nodup_cons.mp distinct).1
    simp only [declarationFrom_nil, Option.isSome_none, Bool.false_eq_true, iff_false]
    exact absent
  · simpa only [empty, false_or] using all

theorem declarationPaths_nodup (file : Message) : (declarationPaths file).Nodup :=
  (walks_nodup .file file).tail

end SchemaDoc.Descriptor
