import Mathlib.Data.List.Induction
import Mathlib.Data.List.Nodup
import SchemaDoc.Proofs.Descriptor.Declarations
import SchemaDoc.Proofs.Descriptor.Schema

/-!
# What stands where in a file

A file is a tree. Here everything that a path can lead to is listed by walking that tree: from a
descriptor through each of its fields that holds declarations, ranges or names, and at each
element further down. The fields are given by their names, and their numbers are looked up in the
schema, so the listing does not depend on the table that resolving uses.

Main statement: resolving a path finds what is listed at it, or the option that the path points
into, and nothing else.
-/
namespace SchemaDoc.Descriptor

open Text (Bytes)

/-! ### The listing -/

/-- The number of the field with a name; zero is the number of none. -/
def MessageType.numberOf (type : MessageType) (name : String) : Nat :=
  ((type.fields.find? (·.name == name)).map (·.number)).getD 0

/-- The fields of a descriptor through which paths lead, by name. -/
def EntityKind.members : EntityKind → List (String × Member)
  | .file =>
    [("message_type", .declarations .message),
     ("enum_type", .declarations .enum),
     ("service", .declarations .service),
     ("extension", .declarations .extension),
     ("options", .options .fileOptions)]
  | .message =>
    [("field", .declarations .field),
     ("nested_type", .declarations .message),
     ("enum_type", .declarations .enum),
     ("extension_range", .ranges .extension),
     ("extension", .declarations .extension),
     ("options", .options .messageOptions),
     ("oneof_decl", .declarations .oneof),
     ("reserved_range", .ranges .reserved),
     ("reserved_name", .reservedNames)]
  | .enum =>
    [("value", .declarations .enumValue),
     ("options", .options .enumOptions),
     ("reserved_range", .ranges .enumReserved),
     ("reserved_name", .reservedNames)]
  | .service =>
    [("method", .declarations .method),
     ("options", .options .serviceOptions)]
  | .method | .field | .enumValue | .extension | .oneof => []

/-- The same fields with their numbers in the schema. -/
def EntityKind.numbered (kind : EntityKind) : List (Nat × Member) :=
  kind.members.map fun member => (kind.descriptorType.numberOf member.1, member.2)

/-- The type of the descriptor of a range. -/
def RangeKind.descriptorType : RangeKind → MessageType
  | .enumReserved => .enumReservedRange
  | .reserved => .reservedRange
  | .extension => .extensionRange

/-- The first number of a range and the first one after it. -/
def RangeKind.bounds (kind : RangeKind) (range : Message) : Int × Int :=
  let start := range.scalar (kind.descriptorType.numberOf "start")
  let stop := range.scalar (kind.descriptorType.numberOf "end")
  match kind with
  | .enumReserved => (start, stop + 1)
  | .reserved | .extension => (start, stop)

/-- A range as paths lead to it. -/
def RangeKind.listed (kind : RangeKind) (range : Message) : Resolution :=
  .range kind (kind.bounds range).1 (kind.bounds range).2

/-- Everything inside a descriptor that has a path of its own, with the path. An element of a
field stands at the number of the field and its index. -/
def enumeration (kind : EntityKind) (descriptor : Message) : List (Path × Resolution) :=
  kind.numbered.flatMap fun (number, member) =>
    let elements : List (List (Path × Resolution)) :=
      match member with
      | .declarations child =>
        (descriptor.children number).attach.map fun inner =>
          ([], .declaration child inner.1) :: enumeration child inner.1
      | .ranges range =>
        (descriptor.children number).map fun inner => [([], range.listed inner)]
      | .reservedNames => (descriptor.texts number).map fun name => [([], .reservedName name)]
      | .options _ => []
    elements.zipIdx.flatMap fun (element, index) =>
      element.map fun (rest, found) => ((number : Int) :: (index : Int) :: rest, found)
termination_by sizeOf descriptor
decreasing_by exact sizeOf_lt_of_mem_children inner.2

/-- Everything inside a descriptor that has a path of its own, in the order of the tree. -/
def contents (kind : EntityKind) (descriptor : Message) : List Resolution :=
  kind.numbered.flatMap fun (number, member) =>
    match member with
    | .declarations child =>
      (descriptor.children number).attach.flatMap fun inner =>
        .declaration child inner.1 :: contents child inner.1
    | .ranges range => (descriptor.children number).map range.listed
    | .reservedNames => (descriptor.texts number).map .reservedName
    | .options _ => []
termination_by sizeOf descriptor
decreasing_by exact sizeOf_lt_of_mem_children inner.2

/-- A descriptor itself, at the empty path, or a declaration inside it. -/
def Stands (kind : EntityKind) (descriptor : Message) (place : Path) (owner : EntityKind)
    (inner : Message) : Prop :=
  (place = [] ∧ owner = kind ∧ inner = descriptor) ∨
    (place, .declaration owner inner) ∈ enumeration kind descriptor

/-- A path points into an option: it starts with the path of what owns the option, the number of
the field that holds options, and the number of one that is set and that the schema declares. -/
def PointsInto (kind : EntityKind) (descriptor : Message) (path : Path) (found : Resolution) :
    Prop :=
  ∃ place owner inner tag type options spec rest,
    Stands kind descriptor place owner inner ∧ (tag, .options type) ∈ owner.numbered ∧
    inner.child? tag = some options ∧ spec ∈ type.fields ∧ options.entries spec.number ≠ [] ∧
    path = place ++ (tag : Int) :: (spec.number : Int) :: rest ∧
    found = .option spec (options.entries spec.number)

/-! ### Fields by number -/

theorem EntityKind.numbered_distinct (kind : EntityKind) :
    kind.numbered.Pairwise fun first second => first.1 ≠ second.1 := by
  cases kind <;> decide

/-- Resolving goes by the numbers that the schema gives the named fields. -/
theorem EntityKind.member?_eq_some {kind : EntityKind} {tag : Int} {member : Member} :
    kind.member? tag = some member ↔
      ∃ number : Nat, tag = number ∧ (number, member) ∈ kind.numbered := by
  constructor
  · intro leads
    refine ⟨tag.toNat, ?_, ?_⟩
    all_goals
      simp only [member?] at leads
      split at leads <;> cases leads <;> decide
  · rintro ⟨number, rfl, listed⟩
    have table : ∀ field ∈ kind.numbered, kind.member? field.1 = some field.2 := by
      cases kind <;> decide
    exact table _ listed

theorem nth?_eq_some {Item : Type} {items : List Item} {index : Int} {item : Item} :
    nth? items index = some item ↔ ∃ place : Nat, index = place ∧ items[place]? = some item := by
  constructor
  · intro found
    have positive := nth?_nonneg found
    rw [nth?, if_neg (by omega)] at found
    exact ⟨index.toNat, by omega, found⟩
  · rintro ⟨place, rfl, stands⟩
    rw [nth?, if_neg (by omega), Int.toNat_natCast]
    exact stands

/-! ### One step down the tree -/

/-- The elements of a field, each with everything inside it. -/
def elementsOf (descriptor : Message) (number : Nat) : Member → List (List (Path × Resolution))
  | .declarations child =>
    (descriptor.children number).map fun inner =>
      ([], .declaration child inner) :: enumeration child inner
  | .ranges range => (descriptor.children number).map fun inner => [([], range.listed inner)]
  | .reservedNames => (descriptor.texts number).map fun name => [([], .reservedName name)]
  | .options _ => []

theorem enumeration_eq (kind : EntityKind) (descriptor : Message) :
    enumeration kind descriptor = kind.numbered.flatMap fun field =>
      (elementsOf descriptor field.1 field.2).zipIdx.flatMap fun element =>
        element.1.map fun entry => ((field.1 : Int) :: (element.2 : Int) :: entry.1, entry.2) := by
  rw [enumeration]
  congr 1
  funext ⟨number, member⟩
  cases member with
  | declarations child =>
    simp only [elementsOf, List.map_subtype, List.unattach_attach]
  | ranges range => rfl
  | reservedNames => rfl
  | options type => rfl

theorem mem_enumeration {kind : EntityKind} {descriptor : Message} {path : Path}
    {found : Resolution} :
    (path, found) ∈ enumeration kind descriptor ↔
      ∃ (number : Nat) (member : Member) (index : Nat) (rest : Path)
        (element : List (Path × Resolution)), (number, member) ∈ kind.numbered ∧
        (elementsOf descriptor number member)[index]? = some element ∧ (rest, found) ∈ element ∧
        path = (number : Int) :: (index : Int) :: rest := by
  rw [enumeration_eq]
  simp only [List.mem_flatMap, List.mem_map, Prod.exists, Prod.mk.injEq,
    List.mem_zipIdx_iff_getElem?]
  constructor
  · rintro ⟨number, member, listed, element, index, stands, rest, _, inside, rfl, rfl⟩
    exact ⟨number, member, index, rest, element, listed, stands, inside, rfl⟩
  · rintro ⟨number, member, index, rest, element, listed, stands, inside, rfl⟩
    exact ⟨number, member, listed, element, index, stands, rest, found, inside, rfl, rfl⟩

/-- An entry at a path of two steps and more is one of an element of the field that the first two
name. -/
theorem mem_enumeration_cons {kind : EntityKind} {descriptor : Message} {tag index : Int}
    {rest : Path} {found : Resolution} :
    (tag :: index :: rest, found) ∈ enumeration kind descriptor ↔
      ∃ member element, kind.member? tag = some member ∧
        nth? (elementsOf descriptor tag.toNat member) index = some element ∧
        (rest, found) ∈ element := by
  rw [mem_enumeration]
  constructor
  · rintro ⟨number, member, place, _, element, listed, stands, inside, same⟩
    cases same
    refine ⟨member, element, EntityKind.member?_eq_some.mpr ⟨number, rfl, listed⟩, ?_, inside⟩
    exact nth?_eq_some.mpr ⟨place, rfl, stands⟩
  · rintro ⟨member, element, leads, stands, inside⟩
    obtain ⟨number, rfl, listed⟩ := EntityKind.member?_eq_some.mp leads
    obtain ⟨place, rfl, stands⟩ := nth?_eq_some.mp stands
    exact ⟨number, member, place, rest, element, listed, stands, inside, rfl⟩

theorem nth?_map {Item Image : Type} (change : Item → Image) (items : List Item) (index : Int) :
    nth? (items.map change) index = (nth? items index).map change := by
  simp only [nth?]
  split
  · rfl
  · rw [List.getElem?_map]

theorem two_steps_of_mem_enumeration {kind : EntityKind} {descriptor : Message} {path : Path}
    {found : Resolution} (listed : (path, found) ∈ enumeration kind descriptor) :
    ∃ tag index rest, path = tag :: index :: rest := by
  obtain ⟨number, _, place, rest, _, _, _, _, same⟩ := mem_enumeration.mp listed
  exact ⟨number, place, rest, same⟩

/-! ### Options that paths point into -/

theorem stands_cons {kind : EntityKind} {descriptor : Message} {tag index : Int} {rest : Path}
    {owner : EntityKind} {inner : Message} :
    Stands kind descriptor (tag :: index :: rest) owner inner ↔
      ∃ child middle, kind.member? tag = some (.declarations child) ∧
        nth? (descriptor.children tag.toNat) index = some middle ∧
        Stands child middle rest owner inner := by
  have apart : ¬ (tag :: index :: rest = [] ∧ owner = kind ∧ inner = descriptor) := by simp
  rw [Stands, or_iff_right apart, mem_enumeration_cons]
  constructor
  · rintro ⟨member, element, leads, stands, inside⟩
    -- Only elements that are declarations have declarations at them.
    cases member with
    | declarations child =>
      rw [elementsOf, nth?_map] at stands
      obtain ⟨middle, held, rfl⟩ := Option.map_eq_some_iff.mp stands
      refine ⟨child, middle, leads, held, ?_⟩
      rw [Stands]
      simpa using inside
    | ranges range =>
      rw [elementsOf, nth?_map] at stands
      obtain ⟨middle, _, rfl⟩ := Option.map_eq_some_iff.mp stands
      simp [RangeKind.listed] at inside
    | reservedNames =>
      rw [elementsOf, nth?_map] at stands
      obtain ⟨name, _, rfl⟩ := Option.map_eq_some_iff.mp stands
      simp at inside
    | options type => simp [elementsOf, nth?] at stands
  · rintro ⟨child, middle, leads, stands, inside⟩
    refine ⟨.declarations child, ([], .declaration child middle) :: enumeration child middle,
      leads, ?_, ?_⟩
    · rw [elementsOf, nth?_map, stands, Option.map_some]
    · rw [Stands] at inside
      simpa using inside

theorem two_steps_of_pointsInto {kind : EntityKind} {descriptor : Message} {path : Path}
    {found : Resolution} (points : PointsInto kind descriptor path found) :
    ∃ tag index rest, path = tag :: index :: rest := by
  obtain ⟨place, owner, inner, tag, type, options, spec, rest, stands, _, _, _, _, rfl, _⟩ := points
  match place with
  | [] => exact ⟨_, _, _, rfl⟩
  | [first] => exact ⟨_, _, _, rfl⟩
  | first :: second :: more => exact ⟨_, _, _, rfl⟩

/-- The option is one of the descriptor itself, or one of something inside the declaration that
the first two steps lead to. -/
theorem pointsInto_cons {kind : EntityKind} {descriptor : Message} {tag index : Int} {rest : Path}
    {found : Resolution} :
    PointsInto kind descriptor (tag :: index :: rest) found ↔
      (∃ type options spec, kind.member? tag = some (.options type) ∧
        descriptor.child? tag.toNat = some options ∧ spec ∈ type.fields ∧
        options.entries spec.number ≠ [] ∧ index = spec.number ∧
        found = .option spec (options.entries spec.number)) ∨
      (∃ child middle, kind.member? tag = some (.declarations child) ∧
        nth? (descriptor.children tag.toNat) index = some middle ∧
        PointsInto child middle rest found) := by
  constructor
  · rintro ⟨place, owner, inner, number, type, options, spec, more, stands, holds, owned, known,
      set, same, rfl⟩
    match place with
    | [] =>
      left
      cases same
      rcases stands with ⟨_, rfl, rfl⟩ | listed
      · exact ⟨type, options, spec, EntityKind.member?_eq_some.mpr ⟨number, rfl, holds⟩, owned,
          known, set, rfl, rfl⟩
      · obtain ⟨_, _, _, empty⟩ := two_steps_of_mem_enumeration listed
        cases empty
    | [first] =>
      -- Nothing stands at a path of one step.
      rcases stands with ⟨empty, _, _⟩ | listed
      · cases empty
      · obtain ⟨_, _, _, short⟩ := two_steps_of_mem_enumeration listed
        cases short
    | first :: second :: further =>
      right
      cases same
      obtain ⟨child, middle, leads, found, inside⟩ := stands_cons.mp stands
      exact ⟨child, middle, leads, found, further, owner, inner, number, type, options, spec, more,
        inside, holds, owned, known, set, rfl, rfl⟩
  · rintro (⟨type, options, spec, leads, owned, known, set, rfl, rfl⟩ |
      ⟨child, middle, leads, found, further, owner, inner, number, type, options, spec, more,
        inside, holds, owned, known, set, rfl, rfl⟩)
    · obtain ⟨number, rfl, holds⟩ := EntityKind.member?_eq_some.mp leads
      exact ⟨[], kind, descriptor, number, type, options, spec, rest, Or.inl ⟨rfl, rfl, rfl⟩,
        holds, owned, known, set, rfl, rfl⟩
    · exact ⟨tag :: index :: further, owner, inner, number, type, options, spec, more,
        stands_cons.mpr ⟨child, middle, leads, found, inside⟩, holds, owned, known, set, rfl, rfl⟩

theorem resolveOption_eq_some {type : MessageType} {options : Message} {index : Int}
    {found : Resolution} :
    resolveOption type options index = some found ↔
      ∃ spec ∈ type.fields, options.entries spec.number ≠ [] ∧ index = spec.number ∧
        found = .option spec (options.entries spec.number) := by
  rw [resolveOption]
  constructor
  · intro given
    split at given
    · cases given
    next positive =>
      obtain ⟨spec, known, given⟩ := Option.bind_eq_some_iff.mp given
      obtain ⟨listed, number⟩ := MessageType.field?_eq_some.mp known
      by_cases unset : options.entries spec.number = []
      · simp [unset] at given
      · refine ⟨spec, listed, unset, by omega, ?_⟩
        simp only [List.isEmpty_iff, if_neg unset] at given
        cases given
        rfl
  · rintro ⟨spec, listed, set, rfl, rfl⟩
    have known : type.field? (spec.number : Int).toNat = some spec :=
      MessageType.field?_eq_some.mpr ⟨listed, rfl⟩
    rw [if_neg (by omega), known]
    simp [set]

/-! ### Resolving finds what is listed -/

theorem RangeKind.listed_eq (kind : RangeKind) (range : Message) :
    kind.listed range = Resolution.ofRange kind range := by
  cases kind <;> rfl

theorem not_leads_short {kind : EntityKind} {descriptor : Message} {path : Path}
    {found : Resolution} (short : path.length < 2) :
    ¬ ((path, found) ∈ enumeration kind descriptor ∨ PointsInto kind descriptor path found) := by
  rintro (listed | points)
  · obtain ⟨_, _, _, rfl⟩ := two_steps_of_mem_enumeration listed
    simp only [List.length_cons] at short
    omega
  · obtain ⟨_, _, _, rfl⟩ := two_steps_of_pointsInto points
    simp only [List.length_cons] at short
    omega

theorem resolveFrom_eq_some {kind : EntityKind} {descriptor : Message} {path : Path}
    {found : Resolution} :
    resolveFrom kind descriptor path = some found ↔
      (path, found) ∈ enumeration kind descriptor ∨ PointsInto kind descriptor path found := by
  -- Along the path, two steps at a time, from whatever descriptor has been reached.
  induction path using List.twoStepInduction generalizing kind descriptor with
  | nil => exact iff_of_false (by simp [resolveFrom]) (not_leads_short (by simp))
  | singleton tag => exact iff_of_false (by simp [resolveFrom]) (not_leads_short (by simp))
  | cons_cons tag index rest ih =>
    rw [resolveFrom, mem_enumeration_cons, pointsInto_cons]
    cases leads : kind.member? tag with
    | none => simp
    | some member =>
      -- What the first two steps lead to depends on what the field holds.
      simp only [Option.some.injEq, exists_eq_left', exists_and_left]
      cases member with
      | declarations child =>
        cases stands : nth? (descriptor.children tag.toNat) index with
        | none => simp [elementsOf, nth?_map, stands]
        | some inner =>
          have inside := @ih child inner
          cases rest with
          | nil =>
            have nothing := not_or.mp (@not_leads_short child inner [] found (by simp))
            have last : some (Resolution.declaration child inner) = some found ↔
                found = .declaration child inner := by rw [Option.some.injEq, eq_comm]
            simpa [elementsOf, nth?_map, stands, nothing] using last
          | cons next more => simp [elementsOf, nth?_map, stands, inside]
      | ranges range =>
        cases stands : nth? (descriptor.children tag.toNat) index with
        | none => simp [elementsOf, nth?_map, stands]
        | some inner =>
          have last : some (Resolution.ofRange range inner) = some found ↔
              found = range.listed inner := by rw [range.listed_eq, Option.some.injEq, eq_comm]
          cases rest <;> simp [elementsOf, nth?_map, stands, last]
      | reservedNames =>
        cases stands : nth? (descriptor.texts tag.toNat) index with
        | none => simp [elementsOf, nth?_map, stands]
        | some name =>
          have last : some (Resolution.reservedName name) = some found ↔
              found = .reservedName name := by rw [Option.some.injEq, eq_comm]
          cases rest <;> simp [elementsOf, nth?_map, stands, last]
      | options type =>
        simp [elementsOf, nth?, Option.bind_eq_some_iff, resolveOption_eq_some]

/-! ### Each thing is listed once -/

theorem enumeration_paths_nodup (kind : EntityKind) (descriptor : Message) :
    ((enumeration kind descriptor).map (·.1)).Nodup := by
  induction kind, descriptor using enumeration.induct with
  | case1 kind descriptor ih =>
    have paths : (enumeration kind descriptor).map (·.1) =
        kind.numbered.flatMap fun field =>
          ((elementsOf descriptor field.1 field.2).map (List.map (·.1))).zipIdx.flatMap
            fun element => element.1.map fun rest =>
              (field.1 : Int) :: (element.2 : Int) :: rest := by
      rw [enumeration_eq]
      simp only [List.map_flatMap, List.map_map, List.zipIdx_map, List.flatMap_map, Prod.map_fst,
        Prod.map_snd]
      rfl
    rw [paths]
    apply nodup_steps kind.numbered_distinct
    rintro ⟨number, member⟩ _ element inside
    obtain ⟨entries, stands, rfl⟩ := List.mem_map.mp inside
    cases member with
    | declarations child =>
      obtain ⟨inner, held, rfl⟩ := List.mem_map.mp stands
      rw [List.map_cons, List.nodup_cons]
      refine ⟨fun listed => ?_, ih number child ⟨inner, held⟩⟩
      -- Nothing inside a declaration stands at the place of the declaration itself.
      obtain ⟨⟨_, found⟩, entry, rfl⟩ := List.mem_map.mp listed
      exact not_leads_short (by simp) (Or.inl entry)
    | ranges range =>
      obtain ⟨inner, _, rfl⟩ := List.mem_map.mp stands
      simp
    | reservedNames =>
      obtain ⟨name, _, rfl⟩ := List.mem_map.mp stands
      simp
    | options type => cases stands

theorem enumeration_contents (kind : EntityKind) (descriptor : Message) :
    (enumeration kind descriptor).map (·.2) = contents kind descriptor := by
  induction kind, descriptor using enumeration.induct with
  | case1 kind descriptor ih =>
    rw [enumeration_eq, contents, List.map_flatMap]
    congr 1
    funext ⟨number, member⟩
    have flat : ∀ elements : List (List (Path × Resolution)),
        (elements.zipIdx.flatMap fun element => element.1.map fun entry =>
          ((number : Int) :: (element.2 : Int) :: entry.1, entry.2)).map (·.2) =
          elements.flatMap (List.map (·.2)) := by
      intro elements
      have plain := congrArg (List.flatMap (List.map (·.2))) (List.zipIdx_map_fst 0 elements)
      rw [List.flatMap_map] at plain
      simpa [List.map_flatMap, Function.comp_def] using plain
    rw [flat]
    cases member with
    | declarations child =>
      have each : ∀ inner : { inner // inner ∈ descriptor.children number },
          (([], Resolution.declaration child inner.1) :: enumeration child inner.1).map (·.2) =
            .declaration child inner.1 :: contents child inner.1 := by
        intro inner
        rw [List.map_cons, ih number child inner]
      rw [elementsOf, List.flatMap_map, ← List.attach_map_subtype_val (descriptor.children number),
        List.flatMap_map]
      simp only [each]
    | ranges range =>
      rw [elementsOf, List.flatMap_map]
      exact List.map_eq_flatMap.symm
    | reservedNames =>
      rw [elementsOf, List.flatMap_map]
      exact List.map_eq_flatMap.symm
    | options type => rfl

/-! ### Resolving -/

/-- Resolving a path agrees with the walk over the tree of the file. -/
structure AgreesWithTree (file : Message) : Prop where
  /-- A path leads to what is listed at it, or to the set option that it points into. -/
  finds : ∀ path found, resolve file path = some found ↔
    (path, found) ∈ enumeration .file file ∨ PointsInto .file file path found
  /-- Any other path leads nowhere. -/
  misses : ∀ path, resolve file path = none ↔
    ∀ found, (path, found) ∉ enumeration .file file ∧ ¬ PointsInto .file file path found
  /-- No path is listed twice. -/
  distinct : ((enumeration .file file).map (·.1)).Nodup
  /-- The listing has each thing in the tree once, so each has one path. -/
  complete : (enumeration .file file).map (·.2) = contents .file file

theorem resolve_agreesWithTree (file : Message) : AgreesWithTree file := by
  have finds : ∀ path found, resolve file path = some found ↔
      (path, found) ∈ enumeration .file file ∨ PointsInto .file file path found :=
    fun path found => resolveFrom_eq_some
  refine ⟨finds, fun path => ?_, enumeration_paths_nodup .file file,
    enumeration_contents .file file⟩
  rw [Option.eq_none_iff_forall_ne_some]
  exact forall_congr' fun found => by rw [ne_eq, finds, not_or]

/-- The end of a range that an enum sets aside belongs to the range. -/
example :
    resolve [.message 5 [.message 4 [.scalar 1 2, .scalar 2 5]]] [5, 0, 4, 0] =
      some (.range .enumReserved 2 6) := rfl

end SchemaDoc.Descriptor
