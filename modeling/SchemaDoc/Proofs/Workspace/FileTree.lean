import SchemaDoc.Workspace.Home

/-!
# What operations do to the files

Going along a path takes no turn of its own: where it leads is the place that the path names, if it
leads anywhere. So a read is a look at one place, a write changes one place, and making directories
changes no file at all.
-/
namespace SchemaDoc.Workspace

open Text (Bytes)

variable {tree between after : FileTree} {path : Path} {place other : Place} {content : Bytes}

namespace FileTree

/-- The working directory and the home directories are the same. -/
structure SameSurroundings (tree after : FileTree) : Prop where
  current : after.current = tree.current
  home : after.home = tree.home
  homes : after.homes = tree.homes

theorem SameSurroundings.refl (tree : FileTree) : tree.SameSurroundings tree :=
  ⟨rfl, rfl, rfl⟩

theorem SameSurroundings.trans (first : tree.SameSurroundings between)
    (second : between.SameSurroundings after) : tree.SameSurroundings after :=
  ⟨second.current.trans first.current, second.home.trans first.home,
    second.homes.trans first.homes⟩

theorem SameSurroundings.resolve (same : tree.SameSurroundings after) :
    after.resolve = tree.resolve := by
  funext path
  rw [FileTree.resolve, FileTree.resolve, same.current]

theorem SameSurroundings.settle (same : tree.SameSurroundings after) :
    settle after = settle tree := by
  have homeOf : after.homeOf = tree.homeOf := by
    funext user
    rw [FileTree.homeOf, FileTree.homeOf, same.home, same.homes]
  funext path
  simp only [Workspace.settle, expandHome, homeOf, same.resolve]

/-- The surroundings and all files are the same, so that only directories may differ. -/
structure SameFiles (tree after : FileTree) : Prop extends SameSurroundings tree after where
  content? : ∀ place, after.content? place = tree.content? place

theorem SameFiles.refl (tree : FileTree) : tree.SameFiles tree :=
  ⟨.refl tree, fun _ => rfl⟩

theorem SameFiles.trans (first : tree.SameFiles between) (second : between.SameFiles after) :
    tree.SameFiles after :=
  ⟨first.toSameSurroundings.trans second.toSameSurroundings,
    fun place => (second.content? place).trans (first.content? place)⟩

theorem not_sameFiles_of_new (absent : tree.content? place = none)
    (there : after.content? place = some content) : ¬ tree.SameFiles after := by
  intro same
  rw [same.content?, absent] at there
  cases there

/-- The file at one place has this content, and everything else about files is the same. -/
structure Wrote (tree : FileTree) (place : Place) (content : Bytes) (after : FileTree) : Prop
    extends SameSurroundings tree after where
  content?_same : after.content? place = some content
  content?_ne : ∀ other, other ≠ place → after.content? other = tree.content? other

theorem SameFiles.wrote (first : tree.SameFiles between)
    (second : between.Wrote place content after) : tree.Wrote place content after where
  toSameSurroundings := first.toSameSurroundings.trans second.toSameSurroundings
  content?_same := second.content?_same
  content?_ne other apart := (second.content?_ne other apart).trans (first.content? other)

theorem wrote_setFile (tree : FileTree) (place : Place) (content : Bytes) :
    tree.Wrote place content (tree.setFile place content) where
  current := rfl
  home := rfl
  homes := rfl
  content?_same := content?_setFile tree place content
  content?_ne _ apart := content?_setFile_ne tree content apart

/-! ### Where paths lead -/

theorem eq_of_resolve (named : tree.resolve path = .ok place) :
    place = path.resolve tree.current := by
  rw [FileTree.resolve] at named
  split at named
  · cases named
  · cases named
    rfl

theorem follow_eq_foldl {parts : List Part} {found : Place}
    (led : tree.follow place parts = .ok found) : found = parts.foldl Path.step place := by
  -- Every part that is followed takes the step that resolving takes, and no other.
  induction parts generalizing place with
  | nil =>
    cases led
    rfl
  | cons part rest ih =>
    rw [follow] at led
    split at led
    · split at led
      · cases led
      · exact ih led
    · cases led
    · cases led

/-- A path that leads anywhere leads to the place that it names. -/
theorem locate_eq_resolve (led : tree.locate path = .ok place) :
    place = path.resolve tree.current := by
  have followed := mapError_eq_ok_iff.mp led
  split at followed
  · cases followed
  · split at followed
    · cases followed
    · exact follow_eq_foldl followed

theorem content?_of_node? (found : tree.node? place = some (.file content)) :
    tree.content? place = some content := by
  rw [node?] at found
  split at found
  next held =>
    cases found
    exact held
  · split at found <;> cases found

/-- What is read is the content at the place that the path names. -/
theorem content?_of_read (read : tree.read path = .ok content) :
    tree.content? (path.resolve tree.current) = some content := by
  obtain ⟨place, led, found⟩ := bind_eq_ok_iff.mp read
  rw [← locate_eq_resolve led]
  split at found
  next held =>
    cases found
    exact content?_of_node? held
  · cases found
  · cases found

/-- What is written is at the place that the path names. -/
theorem wrote_of_write (written : tree.write path content = .ok after) :
    tree.Wrote (path.resolve tree.current) content after := by
  obtain ⟨place, led, set⟩ := bind_eq_ok_iff.mp written
  rw [← locate_eq_resolve led]
  -- It does not matter whether there was a file, as long as there was no directory.
  split at set
  · cases set
  · cases set
    exact wrote_setFile tree place content

/-! ### Making directories -/

theorem sameFiles_addDirectory (tree : FileTree) (place : Place) :
    tree.SameFiles (tree.addDirectory place) := by
  rw [addDirectory]
  split
  · exact .refl tree
  · exact ⟨⟨rfl, rfl, rfl⟩, fun _ => rfl⟩

theorem sameFiles_of_makeDirectory (made : tree.makeDirectory path = .ok after) :
    tree.SameFiles after := by
  obtain ⟨place, _, added⟩ := bind_eq_ok_iff.mp made
  split at added
  · cases added
  · cases added
    exact sameFiles_addDirectory tree place

theorem sameFiles_of_ensureDirectory (made : tree.ensureDirectory path = .ok after) :
    tree.SameFiles after := by
  rw [ensureDirectory] at made
  split at made
  next found =>
    cases made
    exact sameFiles_of_makeDirectory found
  · split at made
    · cases made
      exact .refl tree
    · cases made

/-- Making directories changes no file, also where it ends with a failure. -/
theorem sameFiles_ensureDirectories (tree : FileTree) (path : Path) :
    tree.SameFiles (tree.ensureDirectories path).1 := by
  -- The induction goes up the path, as far as there is nothing.
  fun_induction ensureDirectories tree path with
  | case1 path made found => exact sameFiles_of_makeDirectory found
  | case2 path failure _ _ above stopped run ih =>
    rw [run] at ih
    exact ih
  | case3 path failure _ _ above run made ensured ih =>
    rw [run] at ih
    exact ih.trans (sameFiles_of_ensureDirectory ensured)
  | case4 path failure _ _ above run stopped _ ih =>
    rw [run] at ih
    exact ih
  | case5 | case6 => exact .refl tree

end FileTree

end SchemaDoc.Workspace
