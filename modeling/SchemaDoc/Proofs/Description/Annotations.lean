import SchemaDoc.Proofs.Description.Restoration
import SchemaDoc.Proofs.Descriptor.Declarations

/-!
# The annotations of an entity

The annotations of an entity are the locations at the path of its option, as they are listed, and
then those one step below it, in order of that step. No location is an annotation of two entities:
options lie at paths of even length and their elements one step further, so the path of a location
without an odd last step is that of the option, and that tells the entity.
-/
namespace SchemaDoc.Description

open Descriptor
open Text (Bytes)

/-- Two places of locations one step below a path: the first takes the lesser step, or both take
the same step and the first is listed earlier. -/
def ElementPrecedes (locations : List Location) (path : Path)
    (one two : Fin locations.length) : Prop :=
  ∃ step step' : Int, locations[one].path = path ++ [step] ∧
    locations[two].path = path ++ [step'] ∧ (step < step' ∨ step = step' ∧ one < two)

/-- The places of all locations one step below a path, in order of the step and for one step as
they are listed. -/
structure ListsElements (locations : List Location) (path : Path)
    (places : List (Fin locations.length)) : Prop where
  exact : ∀ place, place ∈ places ↔ ∃ step, locations[place].path = path ++ [step]
  ordered : places.Pairwise (ElementPrecedes locations path)
  once : places.Nodup

/-- A described entity and the option that holds its descriptions, by their paths. The file itself
is at the empty path. -/
inductive Describes (file : Message) (ids : Ids) : Path → Path → Prop where
  | declaration {path : Path} {kind : EntityKind} {descriptor : Message} {number : OptionNumber}
      (resolves : resolveDeclaration file path = some (kind, descriptor))
      (numbered : ids.forKind kind = some number)
      (described : readOwned kind descriptor number.value ≠ []) :
      Describes file ids path (path ++ [(kind.optionsTag : Int), (number.value : Int)])
  | file {number : OptionNumber} (numbered : ids.forKind .file = some number)
      (described : readOwned .file file number.value ≠ []) :
      Describes file ids [] [(EntityKind.file.optionsTag : Int), (number.value : Int)]

/-! ### The groups below a path -/

section Elements

variable {locations : List Location} {path : Path}

/-- The group of the locations that take one step below a path. -/
def elementGroup (locations : List Location) (path : Path) (step : Int) : Path × List Location :=
  (path ++ [step], locations.filter (·.path == path ++ [step]))

/-- The step that the locations of a group take. -/
def lastStep (group : Path × List Location) : Int :=
  group.1.getLast?.getD 0

@[simp] theorem lastStep_elementGroup (step : Int) :
    lastStep (elementGroup locations path step) = step := by
  simp [lastStep, elementGroup]

theorem mem_elements {group : Path × List Location} :
    group ∈ (LocationIndex.ofLocations locations).elements path ↔
      ∃ step, path ++ [step] ∈ distinctPaths locations ∧
        group = elementGroup locations path step := by
  rw [LocationIndex.elements, List.mem_mergeSort, List.mem_filter, isElement_iff, ofLocations_eq,
    List.mem_map]
  constructor
  · rintro ⟨⟨_, listed, rfl⟩, step, rfl⟩
    exact ⟨step, listed, rfl⟩
  · rintro ⟨step, listed, rfl⟩
    exact ⟨⟨_, listed, rfl⟩, step, rfl⟩

theorem elementGroup_lastStep {group : Path × List Location}
    (member : group ∈ (LocationIndex.ofLocations locations).elements path) :
    elementGroup locations path (lastStep group) = group := by
  obtain ⟨step, _, rfl⟩ := mem_elements.mp member
  rw [lastStep_elementGroup]

theorem elements_ascending (locations : List Location) (path : Path) :
    ((LocationIndex.ofLocations locations).elements path).Pairwise fun one two =>
      lastStep one < lastStep two := by
  have sorted : ((LocationIndex.ofLocations locations).elements path).Pairwise fun one two =>
      lastStep one ≤ lastStep two := by
    apply (List.pairwise_mergeSort (by grind) (by grind) _).imp
    intro one two ordered
    simpa [lastStep] using ordered
  have apart : ((LocationIndex.ofLocations locations).elements path).Pairwise fun one two =>
      one.1 ≠ two.1 := by
    rw [← List.pairwise_map]
    apply ((List.mergeSort_perm _ _).map _).nodup_iff.mpr
    exact (nodup_paths_ofLocations locations).sublist (List.filter_sublist.map _)
  apply (sorted.and apart).imp_of_mem
  intro one two here there both
  apply lt_of_le_of_ne both.1
  -- Groups of one step would have one path.
  intro same
  apply both.2
  rw [← elementGroup_lastStep here, ← elementGroup_lastStep there, same]

/-- Below a path there is one group for each step that is taken there, in order of the steps. -/
theorem elements_ofLocations (locations : List Location) (path : Path) :
    ∃ steps : List Int, steps.Pairwise (· < ·) ∧
      (∀ step, step ∈ steps ↔ path ++ [step] ∈ distinctPaths locations) ∧
      (LocationIndex.ofLocations locations).elements path =
        steps.map (elementGroup locations path) := by
  -- A group is told by its step, so the steps of the groups are all there is to list.
  refine ⟨((LocationIndex.ofLocations locations).elements path).map lastStep, ?_, ?_, ?_⟩
  · rw [List.pairwise_map]
    exact elements_ascending locations path
  · intro step
    rw [List.mem_map]
    constructor
    · rintro ⟨group, member, rfl⟩
      obtain ⟨step, known, rfl⟩ := mem_elements.mp member
      rwa [lastStep_elementGroup]
    · intro known
      exact ⟨_, mem_elements.mpr ⟨step, known, rfl⟩, lastStep_elementGroup step⟩
  · rw [List.map_map]
    have same : ∀ group ∈ (LocationIndex.ofLocations locations).elements path,
        (elementGroup locations path ∘ lastStep) group = id group :=
      fun _ member => elementGroup_lastStep member
    rw [List.map_congr_left same, List.map_id]

/-! ### The places of annotations -/

/-- The places of the locations with a path. -/
def placesAt (locations : List Location) (path : Path) : List (Fin locations.length) :=
  (List.finRange locations.length).filter fun place => locations[place].path == path

theorem mem_placesAt {place : Fin locations.length} :
    place ∈ placesAt locations path ↔ locations[place].path = path := by
  rw [placesAt, List.mem_filter, beq_iff_eq]
  exact and_iff_right (List.mem_finRange place)

theorem map_placesAt (locations : List Location) (path : Path) :
    (placesAt locations path).map (locations[·]) = locations.filter (·.path == path) := by
  have all : (List.finRange locations.length).map (locations[·]) = locations :=
    List.map_get_finRange locations
  conv_rhs => rw [← all, List.filter_map]
  rfl

theorem listsElements_flatMap {steps : List Int} (ordered : steps.Pairwise (· < ·))
    (exact : ∀ step, step ∈ steps ↔ path ++ [step] ∈ distinctPaths locations) :
    ListsElements locations path
      (steps.flatMap fun step => placesAt locations (path ++ [step])) := by
  have sorted : (steps.flatMap fun step => placesAt locations (path ++ [step])).Pairwise
      (ElementPrecedes locations path) := by
    rw [List.pairwise_flatMap]
    constructor
    · -- For one step the places come as the locations are listed.
      intro step _
      apply ((List.pairwise_lt_finRange _).filter _).imp_of_mem
      intro one two here there earlier
      exact ⟨step, step, mem_placesAt.mp here, mem_placesAt.mp there, Or.inr ⟨rfl, earlier⟩⟩
    · -- Of two steps the lesser one comes first, wherever its locations are listed.
      apply ordered.imp
      intro step step' less one here two there
      exact ⟨step, step', mem_placesAt.mp here, mem_placesAt.mp there, Or.inl less⟩
  refine ⟨fun place => ?_, sorted, sorted.imp ?_⟩
  · rw [List.mem_flatMap]
    constructor
    · rintro ⟨step, _, inside⟩
      exact ⟨step, mem_placesAt.mp inside⟩
    · rintro ⟨step, goes⟩
      have known := mem_distinctPaths.mpr ⟨_, List.getElem_mem place.isLt, goes⟩
      exact ⟨step, (exact step).mpr known, mem_placesAt.mpr goes⟩
  · -- No place precedes itself, so none is listed twice.
    rintro one _ ⟨step, step', goes, goes', before⟩ rfl
    have same := List.append_cancel_left (goes.symm.trans goes')
    simp only [List.cons.injEq, and_true] at same
    omega

theorem annotations_ofLocations (locations : List Location) (path : Path) :
    ∃ places, ListsElements locations path places ∧
      (LocationIndex.ofLocations locations).annotations path =
        locations.filter (·.path == path) ++ places.map (locations[·]) := by
  obtain ⟨steps, ordered, exact, groups⟩ := elements_ofLocations locations path
  refine ⟨_, listsElements_flatMap ordered exact, ?_⟩
  rw [LocationIndex.annotations, at?_ofLocations, groups, List.flatMap_map, List.map_flatMap]
  simp only [map_placesAt, elementGroup]

theorem path_of_mem_annotations {location : Location}
    (member : location ∈ (LocationIndex.ofLocations locations).annotations path) :
    location.path = path ∨ ∃ step, location.path = path ++ [step] := by
  obtain ⟨places, lists, same⟩ := annotations_ofLocations locations path
  rw [same, List.mem_append, List.mem_filter, List.mem_map, beq_iff_eq] at member
  rcases member with ⟨_, own⟩ | ⟨place, listed, rfl⟩
  · exact Or.inl own
  · exact Or.inr ((lists.exact place).mp listed)

end Elements

/-! ### The annotations of different entities -/

section Entities

variable {buffer : Bytes} {file : Message} {ids : Ids}

theorem Describes.option_eq {path option : Path} (describes : Describes file ids path option) :
    path.length % 2 = 0 ∧ ∃ tag number, option = path ++ [tag, number] := by
  cases describes with
  | declaration resolves _ _ =>
    rw [resolveDeclaration_eq] at resolves
    exact ⟨even_length_of_declarationFrom resolves, _, _, rfl⟩
  | file _ _ => exact ⟨rfl, _, _, rfl⟩

/-- The path of an annotation says which option it belongs to. -/
theorem Describes.take_of_mem {locations : List Location} {location : Location}
    {path option : Path} (describes : Describes file ids path option)
    (member : location ∈ (LocationIndex.ofLocations locations).annotations option) :
    location.path.take (location.path.length / 2 * 2) = option := by
  obtain ⟨even, tag, number, same⟩ := describes.option_eq
  have size : option.length = path.length + 2 := by rw [same, List.length_append]; rfl
  rcases path_of_mem_annotations member with own | ⟨step, own⟩
  · have whole : option.length / 2 * 2 = option.length := by omega
    rw [own, whole, List.take_length]
  · -- The step to an element is the odd one out.
    have whole : (option ++ [step]).length / 2 * 2 = option.length := by
      rw [List.length_append, List.length_singleton]
      omega
    rw [own, whole, List.take_left]

theorem Describes.eq_of_mem {locations : List Location} {location : Location}
    {path option path' option' : Path} (one : Describes file ids path option)
    (two : Describes file ids path' option')
    (here : location ∈ (LocationIndex.ofLocations locations).annotations option)
    (there : location ∈ (LocationIndex.ofLocations locations).annotations option') :
    path = path' := by
  have same := (one.take_of_mem here).symm.trans (two.take_of_mem there)
  obtain ⟨_, tag, number, rfl⟩ := one.option_eq
  obtain ⟨_, tag', number', rfl⟩ := two.option_eq
  exact List.append_inj_left' same rfl

theorem Restores.describes {key : Option Path} {entity : Described}
    (restores : Restores buffer file ids key entity) :
    Describes file ids (key.getD []) entity.optionPath ∧
      entity.annotations = (indexOf file).annotations entity.optionPath := by
  cases restores with
  | declaration resolves numbered described _ _ =>
    exact ⟨.declaration resolves numbered described, rfl⟩
  | file numbered described => exact ⟨.file numbered described, rfl⟩

theorem Restores.path_ne_nil {path : Path} {entity : Described}
    (restores : Restores buffer file ids (some path) entity) : path ≠ [] := by
  rintro rfl
  cases restores with
  | declaration resolves _ _ _ _ =>
    rw [resolveDeclaration_eq, declarationFrom_nil] at resolves
    cases resolves

theorem Restores.key_inj {key key' : Option Path} {entity entity' : Described}
    (one : Restores buffer file ids key entity) (two : Restores buffer file ids key' entity')
    (same : key.getD [] = key'.getD []) : key = key' := by
  -- The file is at the empty path, where no declaration is.
  cases key with
  | none =>
    cases key' with
    | none => rfl
    | some path' => exact absurd same.symm two.path_ne_nil
  | some path =>
    cases key' with
    | none => exact absurd same one.path_ne_nil
    | some path' => exact congrArg some same

theorem entities_plan_apart (buffer : Bytes) (file : Message) (ids : Ids) :
    (Restoration.plan buffer file ids).entities.Pairwise fun one two =>
      one.annotations.Disjoint two.annotations := by
  have distinct := ownersOf_distinct buffer file ids
  rw [List.Nodup, List.pairwise_map] at distinct
  rw [entities_plan, List.pairwise_map]
  apply distinct.imp_of_mem
  intro one two here there apart location inside inside'
  -- A location in both lists would make the two entities one, against their different keys.
  obtain ⟨describes, found⟩ := (mem_ownersOf.mp here).describes
  obtain ⟨describes', found'⟩ := (mem_ownersOf.mp there).describes
  apply apart
  apply (mem_ownersOf.mp here).key_inj (mem_ownersOf.mp there)
  exact describes.eq_of_mem describes' (found ▸ inside) (found' ▸ inside')

end Entities

/-- For all locations and every path, the annotations are the locations at the path, as they are
listed, and then those one step below, each once and in order of the step and the list. And in
every file, different described entities, of which the file may be one, have no annotation in
common, so those that descriptions are put back to have none. -/
theorem annotations_ordered_apart :
    (∀ (locations : List Location) (path : Path), ∃ places,
      ListsElements locations path places ∧
      (LocationIndex.ofLocations locations).annotations path =
        locations.filter (·.path == path) ++ places.map (locations[·])) ∧
    (∀ (file : Message) (ids : Ids) (path option path' option' : Path),
      Describes file ids path option → Describes file ids path' option' → path ≠ path' →
        ((indexOf file).annotations option).Disjoint ((indexOf file).annotations option')) ∧
    ∀ (buffer : Bytes) (file : Message) (ids : Ids),
      (Restoration.plan buffer file ids).entities.Pairwise fun one two =>
        one.annotations.Disjoint two.annotations := by
  refine ⟨annotations_ofLocations, ?_, entities_plan_apart⟩
  intro file ids path option path' option' one two apart location here there
  exact apart (one.eq_of_mem two here there)

/-- A message with a repeated option and a message inside it, both described. The locations of the
elements are listed out of order, and one of them twice. -/
def repeatedOptionFile : Message :=
  [.message 4
    [.message 3 [.message 7 [.unknown (Wire.delimitedRecord standardNumber.value [0x79])]],
     .message 7 [.unknown (Wire.delimitedRecord standardNumber.value [0x78])]],
   .message 9
    [.message 1 [.packed 1 [4, 0, 7, 1000, 1], .packed 2 [0, 0, 1]],
     .message 1 [.packed 1 [4, 0, 7, 1000, 0], .packed 2 [1, 0, 1]],
     .message 1 [.packed 1 [4, 0, 3, 0, 7, 1000], .packed 2 [2, 0, 1]],
     .message 1 [.packed 1 [4, 0, 7, 1000], .packed 2 [3, 0, 1]],
     .message 1 [.packed 1 [4, 0, 7, 1000, 0], .packed 2 [4, 0, 1]]]]

/-- The annotations of the one message are put in order, and that of the other is none of them. -/
theorem annotations_ordered_apart_repeated :
    Describes repeatedOptionFile (.uniform standardNumber) [4, 0] [4, 0, 7, 1000] ∧
    Describes repeatedOptionFile (.uniform standardNumber) [4, 0, 3, 0] [4, 0, 3, 0, 7, 1000] ∧
    ((indexOf repeatedOptionFile).annotations [4, 0, 7, 1000]).map (·.span) =
      [[3, 0, 1], [1, 0, 1], [4, 0, 1], [0, 0, 1]] ∧
    ((indexOf repeatedOptionFile).annotations [4, 0, 7, 1000]).Disjoint
      ((indexOf repeatedOptionFile).annotations [4, 0, 3, 0, 7, 1000]) := by
  have outer : Describes repeatedOptionFile (.uniform standardNumber) [4, 0] [4, 0, 7, 1000] :=
    @Describes.declaration _ _ [4, 0] .message _ standardNumber rfl rfl (by decide)
  have inner : Describes repeatedOptionFile (.uniform standardNumber) [4, 0, 3, 0]
      [4, 0, 3, 0, 7, 1000] :=
    @Describes.declaration _ _ [4, 0, 3, 0] .message _ standardNumber rfl rfl (by decide)
  refine ⟨outer, inner, by cbv, ?_⟩
  exact annotations_ordered_apart.2.1 _ _ _ _ _ _ outer inner (by decide)

end SchemaDoc.Description
