import Mathlib.Data.List.Induction
import SchemaDoc.Description.Annotation
import SchemaDoc.Proofs.Distinct

/-!
# What the index of locations holds

Filing locations one by one groups them by path: the paths are the distinct ones in the order in
which they first occur, and with each stand its locations in their own order.
-/
namespace SchemaDoc.Description

open Descriptor (Location Path)

/-- The paths of locations, each once, in the order in which they first occur. -/
def distinctPaths (locations : List Location) : List Path :=
  addAllNew [] (locations.map (·.path))

theorem mem_distinctPaths {locations : List Location} {path : Path} :
    path ∈ distinctPaths locations ↔ ∃ location ∈ locations, location.path = path := by
  rw [distinctPaths, mem_addAllNew, List.mem_map]
  simp only [List.not_mem_nil, false_or]

theorem nodup_distinctPaths (locations : List Location) : (distinctPaths locations).Nodup :=
  nodup_addAllNew List.nodup_nil _

/-- Filing one more location into groups. -/
theorem add_groups (groups : Path → List Location) (paths : List Path) (location : Location)
    (distinct : paths.Nodup) (fresh : location.path ∉ paths → groups location.path = []) :
    LocationIndex.add (paths.map fun path => (path, groups path)) location =
      (addNew paths location.path).map fun path =>
        (path, if path = location.path then groups path ++ [location] else groups path) := by
  induction paths with
  | nil => simp [LocationIndex.add, addNew, fresh]
  | cons first rest ih =>
    obtain ⟨absent, distinct⟩ := List.nodup_cons.mp distinct
    rw [List.map_cons, LocationIndex.add]
    by_cases here : first = location.path
    · -- The location joins this group, and its path occurs in no later one.
      rw [if_pos here, addNew_of_mem (by simp [here]), List.map_cons, if_pos here]
      congr 1
      apply List.map_congr_left
      intro path member
      have other : path ≠ location.path := by
        rintro rfl
        exact absent (here ▸ member)
      rw [if_neg other]
    · rw [if_neg here, ih distinct fun missing => fresh (by simp [Ne.symm here, missing])]
      by_cases member : location.path ∈ rest
      · rw [addNew_of_mem member, addNew_of_mem (List.mem_cons_of_mem first member),
          List.map_cons, if_neg here]
      · rw [addNew_of_notMem member, addNew_of_notMem (by simp [Ne.symm here, member]),
          List.cons_append, List.map_cons, if_neg here]

theorem ofLocations_eq (locations : List Location) :
    LocationIndex.ofLocations locations = (distinctPaths locations).map fun path =>
      (path, locations.filter (·.path == path)) := by
  -- Filing goes from the front, so what changes last is what the last location does.
  induction locations using List.reverseRecOn with
  | nil => rfl
  | append_singleton filed location ih =>
    have split : LocationIndex.ofLocations (filed ++ [location]) =
        LocationIndex.add (LocationIndex.ofLocations filed) location := by
      rw [LocationIndex.ofLocations, List.foldl_append]
      rfl
    have grown : distinctPaths (filed ++ [location]) =
        addNew (distinctPaths filed) location.path := by
      rw [distinctPaths, List.map_append, addAllNew_append]
      rfl
    rw [split, ih, grown, add_groups _ _ _ (nodup_distinctPaths filed)]
    · apply List.map_congr_left
      intro path _
      by_cases here : path = location.path
      · simp [here]
      · simp [here, Ne.symm here]
    · intro missing
      rw [List.filter_eq_nil_iff]
      intro other member same
      exact missing (mem_distinctPaths.mpr ⟨other, member, by simpa using same⟩)

theorem nodup_paths_ofLocations (locations : List Location) :
    ((LocationIndex.ofLocations locations).map (·.1)).Nodup := by
  rw [ofLocations_eq, List.map_map]
  exact (List.map_id _).symm ▸ nodup_distinctPaths locations

/-- The locations at a path are those that have it, in their order. -/
theorem at?_ofLocations (locations : List Location) (path : Path) :
    (LocationIndex.ofLocations locations).at? path = locations.filter (·.path == path) := by
  rw [LocationIndex.at?, ofLocations_eq, List.find?_map]
  split
  next filed found =>
    obtain ⟨other, listed, same⟩ := Option.map_eq_some_iff.mp found
    have here : other = path := by simpa using List.find?_some listed
    cases same
    rw [here]
  next absent =>
    symm
    rw [List.filter_eq_nil_iff]
    intro location member same
    have listed := mem_distinctPaths.mpr ⟨location, member, rfl⟩
    have missing := List.find?_eq_none.mp (Option.map_eq_none_iff.mp absent) _ listed
    exact missing same

/-- What lies below a path is at paths of one step more. -/
theorem isElement_iff {path longer : Path} :
    (longer.length == path.length + 1 && longer.dropLast == path) = true ↔
      ∃ step, longer = path ++ [step] := by
  rw [Bool.and_eq_true, beq_iff_eq, beq_iff_eq]
  constructor
  · rintro ⟨size, rfl⟩
    have long : longer ≠ [] := List.ne_nil_of_length_pos (by omega)
    exact ⟨longer.getLast long, (List.dropLast_append_getLast long).symm⟩
  · rintro ⟨step, rfl⟩
    simp

/-! ### Locations in another order -/

/-- The same locations in another order in which those of one path keep theirs. -/
structure SameScan (first second : List Location) : Prop where
  perm : first.Perm second
  stable : ∀ path, first.filter (·.path == path) = second.filter (·.path == path)

theorem SameScan.distinctPaths_perm {first second : List Location}
    (same : SameScan first second) : (distinctPaths first).Perm (distinctPaths second) := by
  rw [List.perm_ext_iff_of_nodup (nodup_distinctPaths first) (nodup_distinctPaths second)]
  intro path
  simp only [mem_distinctPaths, same.perm.mem_iff]

/-- The index has the same groups. -/
theorem SameScan.ofLocations_perm {first second : List Location} (same : SameScan first second) :
    (LocationIndex.ofLocations first).Perm (LocationIndex.ofLocations second) := by
  rw [ofLocations_eq, ofLocations_eq]
  simp only [same.stable]
  exact same.distinctPaths_perm.map _

/-- Items that are all alike come in one order only. -/
theorem eq_of_perm_of_alike {Item : Type} {first second : List Item} (perm : first.Perm second)
    (alike : ∀ one ∈ first, ∀ two ∈ first, one = two) : first = second := by
  have ordered : ∀ items : List Item, items.Pairwise fun _ _ => True :=
    fun _ => List.pairwise_of_forall fun _ _ => trivial
  refine perm.eq_of_pairwise (fun one two here there _ _ => ?_) (ordered first) (ordered second)
  exact alike one here two (perm.mem_iff.mpr there)

/-- Where every path has one location, the locations may be put in any order. -/
theorem SameScan.of_nodup {first second : List Location} (perm : first.Perm second)
    (distinct : (first.map (·.path)).Nodup) : SameScan first second := by
  refine ⟨perm, fun path => eq_of_perm_of_alike (perm.filter _) ?_⟩
  intro one here two there
  obtain ⟨listed, found⟩ := List.mem_filter.mp here
  obtain ⟨listed', found'⟩ := List.mem_filter.mp there
  apply List.inj_on_of_nodup_map distinct listed listed'
  rw [beq_iff_eq.mp found, beq_iff_eq.mp found']

/-- Sorting forgets the order that items came in, if the sorting order tells them apart. -/
theorem mergeSort_eq_of_perm {Item : Type} {precedes : Item → Item → Bool} {first second : List Item}
    (trans : ∀ one two three, precedes one two = true → precedes two three = true →
      precedes one three = true)
    (total : ∀ one two, (precedes one two || precedes two one) = true)
    (apart : ∀ one ∈ first, ∀ two ∈ first, precedes one two = true → precedes two one = true →
      one = two)
    (perm : first.Perm second) : first.mergeSort precedes = second.mergeSort precedes := by
  have moved := ((List.mergeSort_perm first precedes).trans perm).trans
    (List.mergeSort_perm second precedes).symm
  refine moved.eq_of_pairwise ?_ (List.pairwise_mergeSort trans total first)
    (List.pairwise_mergeSort trans total second)
  intro one two here there
  exact apart one (List.mem_mergeSort.mp here) two
    (perm.mem_iff.mpr (List.mem_mergeSort.mp there))

/-- The groups below a path come in one order, since their last steps tell them apart. -/
theorem elements_perm {first second : LocationIndex} (perm : first.Perm second)
    (distinct : (first.map (·.1)).Nodup) (path : Path) :
    first.elements path = second.elements path := by
  refine mergeSort_eq_of_perm (by grind) (by grind) ?_ (perm.filter _)
  intro one here two there low high
  obtain ⟨listed, under⟩ := List.mem_filter.mp here
  obtain ⟨listed', under'⟩ := List.mem_filter.mp there
  apply List.inj_on_of_nodup_map distinct listed listed'
  -- Both paths are the path above and one step, and that step is the same.
  obtain ⟨step, goes⟩ := isElement_iff.mp under
  obtain ⟨step', goes'⟩ := isElement_iff.mp under'
  simp only [goes, goes', List.getLast?_append_cons, List.getLast?_singleton, Option.getD_some,
    decide_eq_true_eq] at low high
  rw [goes, goes', Int.le_antisymm low high]

theorem SameScan.annotations_eq {first second : List Location} (same : SameScan first second)
    (path : Path) :
    (LocationIndex.ofLocations first).annotations path =
      (LocationIndex.ofLocations second).annotations path := by
  rw [LocationIndex.annotations, LocationIndex.annotations, at?_ofLocations, at?_ofLocations,
    same.stable, elements_perm same.ofLocations_perm (nodup_paths_ofLocations first)]

end SchemaDoc.Description
