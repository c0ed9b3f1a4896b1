import SchemaDoc.Proofs.Text.Boundary
import SchemaDoc.Proofs.Workspace.FileTree

/-!
# A file beside another

A path with a longer last part goes through the same directories. So once a file could be written
beside a target, the path of the target leads somewhere, too, and moving the file there is refused
for one of two reasons only: the target is written as a step up, or it is a directory.
-/
namespace SchemaDoc.Workspace

open Text (Bytes)

theorem joinWith_append_last (separator : List Char) (front : List (List Char))
    (name suffix : List Char) :
    joinWith separator (front ++ [name ++ suffix]) =
      joinWith separator (front ++ [name]) ++ suffix := by
  induction front with
  | nil => simp [joinWith]
  | cons part rest ih => cases rest <;> simp_all [joinWith]

namespace Path

variable {path : Path} {name : Part}

theorem withName_name (named : path.name? = some name) : path.withName name = path := by
  obtain ⟨anchor, parts⟩ := path
  obtain ⟨front, rfl⟩ := List.getLast?_eq_some_iff.mp named
  simp [withName]

theorem resolve_withName (current : Place) (path : Path) (name : Part) :
    (path.withName name).resolve current = step (path.parent.resolve current) name := by
  simp [resolve, withName, parent, isAbsolute]

/-- A longer name makes a longer text. -/
theorem toText_withName_append (path : Path) (name suffix : Part) :
    (path.withName (name ++ suffix)).toText = (path.withName name).toText ++ suffix := by
  simp [toText, withName, joinWith_append_last]

/-- Two names in one directory, neither of them a step up, are two places. -/
theorem resolve_append_ne (current : Place) (path : Path) {name suffix : Part}
    (longer : suffix ≠ []) (proper : name ++ suffix ≠ stepUp) :
    (path.withName (name ++ suffix)).resolve current ≠ (path.withName name).resolve current := by
  rw [resolve_withName, resolve_withName]
  intro same
  have length := congrArg List.length same
  simp only [step, beq_iff_eq] at same length
  rw [if_neg proper] at same length
  split at same
  next up =>
    rw [if_pos up] at length
    simp only [List.length_append, List.length_dropLast, List.length_singleton] at length
    omega
  · exact longer (by simpa using same)

end Path

namespace FileTree

variable {tree : FileTree} {path : Path} {place found : Place} {content : Bytes}

/-! ### The last part of a path -/

theorem follow_append_iff {front : List Part} {part : Part} :
    tree.follow place (front ++ [part]) = .ok found ↔
      ∃ above, tree.follow place front = .ok above ∧ tree.node? above = some .directory ∧
        byteCount part ≤ nameLimit ∧ found = Path.step above part := by
  induction front generalizing place with
  | nil =>
    simp only [List.nil_append, follow, Except.ok.injEq, exists_eq_left']
    split
    next inside =>
      split
      next long => simp [inside, Nat.not_le.mpr long]
      next short => simp [inside, Nat.not_lt.mp short, eq_comm]
    all_goals simp_all
  | cons first rest ih =>
    simp only [List.cons_append, follow]
    split
    · split
      · simp
      · exact ih
    all_goals simp

theorem locate_withName_iff {name : Part} :
    tree.locate (path.withName name) = .ok place ↔
      (path.withName name).hasNull = false ∧
        byteCount (path.withName name).toText ≤ pathLimit ∧
          ∃ above, tree.follow (if path.isAbsolute then [] else tree.current)
            path.parts.dropLast = .ok above ∧ tree.node? above = some .directory ∧
              byteCount name ≤ nameLimit ∧ place = Path.step above name := by
  have absolute : (path.withName name).isAbsolute = path.isAbsolute := rfl
  have parts : (path.withName name).parts = path.parts.dropLast ++ [name] := rfl
  rw [locate, mapError_eq_ok_iff, absolute, parts]
  by_cases null : (path.withName name).hasNull
  · simp [null]
  · by_cases long : byteCount (path.withName name).toText > pathLimit
    · simp [null, long, Nat.not_le.mpr long]
    · simp [null, long, follow_append_iff, Nat.not_lt.mp long]

theorem byteCount_append (first second : List Char) :
    byteCount (first ++ second) = byteCount first + byteCount second := by
  rw [byteCount, Text.encode_append, List.length_append, byteCount, byteCount]

/-- Where a longer name leads, the name itself leads to the same directory. -/
theorem locate_of_longer {name suffix : Part}
    (led : tree.locate (path.withName (name ++ suffix)) = .ok place) :
    ∃ found, tree.locate (path.withName name) = .ok found := by
  obtain ⟨clean, bounded, above, followed, inside, short, _⟩ := locate_withName_iff.mp led
  refine ⟨Path.step above name, locate_withName_iff.mpr
    ⟨?_, ?_, above, followed, inside, ?_, rfl⟩⟩
  · simp only [Path.hasNull, Path.toText_withName_append] at clean
    simp only [List.contains_eq_mem, List.mem_append, decide_eq_false_iff_not] at clean
    simpa [Path.hasNull] using fun null => clean (Or.inl null)
  · rw [Path.toText_withName_append, byteCount_append] at bounded
    exact Nat.le_trans (Nat.le_add_right _ _) bounded
  · rw [byteCount_append] at short
    exact Nat.le_trans (Nat.le_add_right _ _) short

/-! ### Files that come and go -/

theorem node?_setFile_ne {other : Place} (apart : other ≠ place) :
    (tree.setFile place content).node? other = tree.node? other := by
  rw [node?, node?, content?_setFile_ne tree content apart]
  rfl

theorem follow_setFile {parts : List Part} {start : Place}
    (led : tree.follow start parts = .ok found) (closed : tree.node? place ≠ some .directory) :
    (tree.setFile place content).follow start parts = .ok found := by
  -- All that is gone through are directories, and no directory has become a file.
  induction parts generalizing start with
  | nil => exact led
  | cons part rest ih =>
    rw [follow] at led ⊢
    split at led
    next inside =>
      have apart : start ≠ place := fun same => closed (same ▸ inside)
      rw [node?_setFile_ne apart, inside]
      split at led
      · cases led
      next short =>
        simp only [if_neg short]
        exact ih led
    · cases led
    · cases led

/-- A new file is in no way, unless it is where a directory was. -/
theorem locate_setFile (led : tree.locate path = .ok found)
    (closed : tree.node? place ≠ some .directory) :
    (tree.setFile place content).locate path = .ok found := by
  rw [locate, mapError_eq_ok_iff] at led ⊢
  split at led
  · cases led
  next clean =>
    split at led
    · cases led
    next bounded =>
      rw [if_neg clean, if_neg bounded]
      exact follow_setFile led closed

theorem content?_removeFile (tree : FileTree) (place : Place) :
    (tree.removeFile place).content? place = none := by
  simp [content?, removeFile]

theorem content?_removeFile_ne (tree : FileTree) {place other : Place} (apart : other ≠ place) :
    (tree.removeFile place).content? other = tree.content? other := by
  simp only [content?, removeFile, List.find?_filter]
  congr 1
  congr 1
  funext file
  by_cases same : file.1 = other
  · simp [same, apart]
  · simp [same]

/-! ### Moving a file onto another -/

/-- The file at one place has this content, the one at another place is gone, and everything else
about files is the same. -/
structure Replaced (tree : FileTree) (place gone : Place) (content : Bytes) (after : FileTree) :
    Prop extends SameSurroundings tree after where
  content?_same : after.content? place = some content
  content?_gone : after.content? gone = none
  content?_ne : ∀ other, other ≠ place → other ≠ gone → after.content? other = tree.content? other

theorem SameFiles.replaced {between after : FileTree} {gone : Place}
    (first : tree.SameFiles between) (second : between.Replaced place gone content after) :
    tree.Replaced place gone content after where
  toSameSurroundings := first.toSameSurroundings.trans second.toSameSurroundings
  content?_same := second.content?_same
  content?_gone := second.content?_gone
  content?_ne other apart apart' :=
    (second.content?_ne other apart apart').trans (first.content? other)

/-- What a move does where both paths lead somewhere and there is a file to be moved. -/
theorem moveFile_eq {source target : Path} {fromPlace toPlace : Place} {name : Part}
    (start : tree.locate source = .ok fromPlace) (stop : tree.locate target = .ok toPlace)
    (held : tree.content? fromPlace = some content) (named : target.name? = some name) :
    tree.moveFile source target =
      if name = stepUp then
        .error { fault := .busy, path := source, target := some target }
      else if tree.node? toPlace = some .directory then
        .error { fault := .isDirectory, path := source, target := some target }
      else .ok ((tree.removeFile fromPlace).setFile toPlace content) := by
  have filled : target.parts ≠ [] := by
    rintro empty
    simp [Path.name?, empty] at named
  have last : target.parts.getLast? = some name := named
  simp only [moveFile, start, stop, Except.mapError, bind, Except.bind, held, last]
  simp [filled]

/-- A file that could be written beside a target is moved onto it, unless the target is written as
a step up or is a directory. -/
theorem move_longer {name suffix : Part} {between : FileTree} (longer : suffix ≠ [])
    (proper : name ++ suffix ≠ stepUp) (named : path.name? = some name)
    (written : tree.write (path.withName (name ++ suffix)) content = .ok between) :
    (∃ after, between.moveFile (path.withName (name ++ suffix)) path = .ok after ∧
      tree.Replaced (path.resolve tree.current)
        ((path.withName (name ++ suffix)).resolve tree.current) content after) ∨
    (∃ failure, between.moveFile (path.withName (name ++ suffix)) path = .error failure) ∧
      (name = stepUp ∨ between.isDirectory path = true) := by
  obtain ⟨place, led, set⟩ := bind_eq_ok_iff.mp written
  have here := locate_eq_resolve led
  have apart := Path.resolve_append_ne tree.current path longer proper
  rw [Path.withName_name named] at apart
  split at set
  · cases set
  next closed =>
    cases set
    obtain ⟨found, stop⟩ := locate_of_longer led
    rw [Path.withName_name named] at stop
    have there := locate_eq_resolve stop
    have stop' : (tree.setFile place content).locate path = .ok found :=
      locate_setFile stop closed
    rw [moveFile_eq (locate_setFile led closed) stop' (content?_setFile tree place content) named]
    subst here there
    split
    next up => exact Or.inr ⟨⟨_, rfl⟩, Or.inl up⟩
    · split
      next directory =>
        refine Or.inr ⟨⟨_, rfl⟩, Or.inr ?_⟩
        simp [isDirectory, find?, stop', directory]
      · refine Or.inl ⟨_, rfl, ⟨rfl, rfl, rfl⟩, content?_setFile _ _ _, ?_, ?_⟩
        · rw [content?_setFile_ne _ _ apart, content?_removeFile]
        · intro other target sibling
          rw [content?_setFile_ne _ _ target, content?_removeFile_ne _ sibling,
            content?_setFile_ne _ _ sibling]

end FileTree

end SchemaDoc.Workspace
