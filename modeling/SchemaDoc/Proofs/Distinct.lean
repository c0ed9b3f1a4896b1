import Mathlib.Data.List.Nodup
import Mathlib.Tactic.Common

/-!
# Lists that grow by new items only

Descriptions and paths are collected in the order in which they first occur. A list takes an item
at its end unless it has the item already, so what it holds keeps its place. Dropping repeats
leaves every item once.
-/
namespace SchemaDoc

variable {Item : Type} [DecidableEq Item]

/-- A list after one more item: behind the others, unless it is there already. -/
def addNew (known : List Item) (item : Item) : List Item :=
  if item ∈ known then known else known ++ [item]

/-- A list after more items, one after another. -/
def addAllNew (known items : List Item) : List Item :=
  items.foldl addNew known

/-- The items that are not known, each where it first occurs. -/
def newItems (known items : List Item) : List Item :=
  (items.filter (· ∉ known)).eraseDups

theorem addNew_of_mem {known : List Item} {item : Item} (member : item ∈ known) :
    addNew known item = known :=
  if_pos member

theorem addNew_of_notMem {known : List Item} {item : Item} (absent : item ∉ known) :
    addNew known item = known ++ [item] :=
  if_neg absent

@[simp] theorem mem_addNew {known : List Item} {item other : Item} :
    other ∈ addNew known item ↔ other ∈ known ∨ other = item := by
  by_cases member : item ∈ known
  · rw [addNew_of_mem member]
    refine ⟨Or.inl, ?_⟩
    rintro (old | rfl)
    · exact old
    · exact member
  · rw [addNew_of_notMem member, List.mem_append, List.mem_singleton]

theorem nodup_addNew {known : List Item} (distinct : known.Nodup) (item : Item) :
    (addNew known item).Nodup := by
  by_cases member : item ∈ known
  · rw [addNew_of_mem member]
    exact distinct
  · rw [addNew_of_notMem member]
    exact List.nodup_append_comm.mp (List.nodup_cons.mpr ⟨member, distinct⟩)

@[simp] theorem addAllNew_nil (known : List Item) : addAllNew known [] = known := rfl

@[simp] theorem addAllNew_cons (known : List Item) (item : Item) (items : List Item) :
    addAllNew known (item :: items) = addAllNew (addNew known item) items := rfl

theorem addAllNew_append (known first second : List Item) :
    addAllNew known (first ++ second) = addAllNew (addAllNew known first) second :=
  List.foldl_append

/-- What is new stands behind what was known, in the order in which it first occurs. -/
theorem addAllNew_eq (known items : List Item) :
    addAllNew known items = known ++ newItems known items := by
  induction items generalizing known with
  | nil => simp [newItems]
  | cons item rest ih =>
    rw [addAllNew_cons, ih, newItems, newItems, List.filter_cons]
    by_cases member : item ∈ known
    · rw [addNew_of_mem member, if_neg (by simpa using member)]
    · have later : (rest.filter (· ∉ known)).filter (fun other => !other == item) =
          rest.filter (· ∉ known ++ [item]) := by
        rw [List.filter_filter]
        refine List.filter_congr fun other _ => ?_
        by_cases same : other = item <;> simp [same]
      rw [addNew_of_notMem member, if_pos (by simpa using member), List.eraseDups_cons, later]
      simp

theorem mem_addAllNew {known items : List Item} {item : Item} :
    item ∈ addAllNew known items ↔ item ∈ known ∨ item ∈ items := by
  induction items generalizing known with
  | nil => simp
  | cons first rest ih => rw [addAllNew_cons, ih, mem_addNew, List.mem_cons, or_assoc]

theorem addAllNew_ne_nil {known items : List Item} (nonempty : items ≠ []) :
    addAllNew known items ≠ [] := by
  obtain ⟨item, member⟩ := List.exists_mem_of_ne_nil items nonempty
  exact List.ne_nil_of_mem (mem_addAllNew.mpr (Or.inr member))

theorem nodup_addAllNew {known : List Item} (distinct : known.Nodup) (items : List Item) :
    (addAllNew known items).Nodup := by
  induction items generalizing known with
  | nil => exact distinct
  | cons first rest ih => exact ih (nodup_addNew distinct first)

theorem nodup_eraseDups (items : List Item) : items.eraseDups.Nodup := by
  match items with
  | [] => simp
  | item :: rest =>
    rw [List.eraseDups_cons, List.nodup_cons, List.mem_eraseDups]
    exact ⟨by simp, nodup_eraseDups _⟩
termination_by items.length
decreasing_by
  have shorter := List.length_filter_le (fun other => !other == item) rest
  simp only [List.length_cons]
  omega

end SchemaDoc
