import Mathlib
import SchemaDoc.Proofs.Description.Store
import SchemaDoc.Proofs.Descriptor.Declarations

/-!
# What embedding does to a file

Each declaration takes in the comments at its own path, in their order and each once, and nothing
else changes in the options of any declaration. The walk over the locations resolves every path
against the file as it has become so far; since storing a comment moves no declaration and leaves
all other options alone, this is as good as resolving against the file as it was.

`Carries` is what the walk keeps up: it holds of one location, and of two stretches of locations
together if it holds of each.
-/
namespace SchemaDoc.Description

open Descriptor
open Text (Bytes)

/-! ### Comments by path -/

/-- The comment that a computation gives, if it ends with one. -/
def given (result : Except EmbedError (Option Bytes)) : Option Bytes :=
  match result with
  | .ok content => content
  | .error _ => none

/-- The comments of the locations at a path, in the order of the locations. -/
def commentsAt (join : Bool) (locations : List Location) (path : Path) : List Bytes :=
  (locations.filter (·.path == path)).filterMap fun location =>
    given (locationComment join location)

/-- The leading comment of the last location at a path. -/
def leadingAt (join : Bool) (locations : List Location) (path : Path) : Option Bytes :=
  ((locations.filter (·.path == path)).getLast?.bind (·.leading)).bind fun comment =>
    given (normalize join comment)

/-- The comment about a file: that on its package statement, else that on its syntax statement. -/
def fileText (join : Bool) (locations : List Location) : Option Bytes :=
  (leadingAt join locations [2]).or (leadingAt join locations [12])

theorem commentsAt_append (join : Bool) (first second : List Location) (path : Path) :
    commentsAt join (first ++ second) path =
      commentsAt join first path ++ commentsAt join second path := by
  rw [commentsAt, List.filter_append, List.filterMap_append]
  rfl

theorem commentsAt_single (join : Bool) (location : Location) (path : Path) :
    commentsAt join [location] path =
      if location.path = path then (given (locationComment join location)).toList else [] := by
  by_cases here : location.path = path
  · have kept : (location.path == path) = true := by simpa using here
    rw [if_pos here, commentsAt, List.filter_singleton, kept, cond_true, List.filterMap_cons]
    cases given (locationComment join location) <;> rfl
  · have dropped : (location.path == path) = false := by simpa using here
    rw [if_neg here, commentsAt, List.filter_singleton, dropped, cond_false, List.filterMap_nil]

theorem mem_commentsAt_single {join : Bool} {location : Location} {path : Path}
    {comment : Bytes} :
    comment ∈ commentsAt join [location] path ↔
      location.path = path ∧ given (locationComment join location) = some comment := by
  rw [commentsAt_single]
  by_cases here : location.path = path
  · rw [if_pos here, Option.mem_toList]
    exact (and_iff_right here).symm
  · rw [if_neg here]
    exact iff_of_false List.not_mem_nil fun both => here both.1

/-- One more place to look for the comment about a file, unless there is one already. -/
theorem or_given_of_ok {join : Bool} {found leading content : Option Bytes}
    (looked : (match found, leading with
      | none, some comment => normalize join comment
      | found, _ => .ok found) = .ok content) :
    (found.or (leading.bind fun comment => given (normalize join comment))) = content := by
  cases found with
  | some text =>
    cases looked
    rfl
  | none =>
    cases leading with
    | none =>
      cases looked
      rfl
    | some comment =>
      simp only at looked
      simp only [Option.none_or, Option.bind_some, looked, given]

theorem fileText_of_fileComment {join : Bool} {locations : List Location}
    {content : Option Bytes} (found : fileComment join locations = .ok content) :
    fileText join locations = content := by
  simp only [fileComment, fileCommentPaths, List.foldlM_cons, List.foldlM_nil] at found
  obtain ⟨first, package, found⟩ := bind_eq_ok_iff.mp found
  obtain ⟨second, statement, found⟩ := bind_eq_ok_iff.mp found
  cases found
  rw [fileText, leadingAt, leadingAt, ← or_given_of_ok statement, ← or_given_of_ok package,
    Option.none_or]

/-! ### Options that take comments in -/

/-- The options of a declaration after comments; those of a kind without a number stay. -/
def receiveAll (ids : Ids) (kind : EntityKind) (options : Option Message)
    (comments : List Bytes) : Option Message :=
  match ids.forKind kind with
  | none => options
  | some number => comments.foldl (receive number) options

theorem receiveAll_nil (ids : Ids) (kind : EntityKind) (options : Option Message) :
    receiveAll ids kind options [] = options := by
  rw [receiveAll]
  cases ids.forKind kind <;> rfl

theorem receiveAll_append (ids : Ids) (kind : EntityKind) (options : Option Message)
    (first second : List Bytes) :
    receiveAll ids kind options (first ++ second) =
      receiveAll ids kind (receiveAll ids kind options first) second := by
  simp only [receiveAll]
  cases ids.forKind kind with
  | none => rfl
  | some number => exact List.foldl_append

theorem stored_receiveAll {ids : Ids} {kind : EntityKind} {number : OptionNumber}
    (numbered : ids.forKind kind = some number) (options : Option Message)
    (comments : List Bytes) :
    stored number (receiveAll ids kind options comments) =
      addAllNew (stored number options) comments := by
  rw [receiveAll, numbered]
  exact stored_foldl_receive number options comments

theorem receiveAll_known {ids : Ids} {kind : EntityKind} {options : Option Message}
    {comments : List Bytes} (known : ∀ number, ids.forKind kind = some number →
      ∀ comment ∈ comments, comment ∈ stored number options) :
    receiveAll ids kind options comments = options := by
  cases numbered : ids.forKind kind with
  | none => rw [receiveAll, numbered]
  | some number =>
    rw [receiveAll, numbered]
    exact foldl_receive_known (known number numbered)

/-- The descriptions of the declaration at a path, as far as its kind has a number. -/
def descriptionsAt (ids : Ids) (file : Message) (path : Path) : List Bytes :=
  match optionsAt file path with
  | none => []
  | some (kind, options) =>
    match ids.forKind kind with
    | none => []
    | some number => stored number options

/-- How many descriptions the declarations of a file have. -/
def declaredCount (ids : Ids) (file : Message) : Nat :=
  ((declarationPaths file).map fun path => (descriptionsAt ids file path).length).sum

/-- `changed` is `file` with the comments of some locations stored at their declarations; `count`
of them were new. -/
structure Carries (ids : Ids) (join : Bool) (file : Message) (locations : List Location)
    (count : Nat) (changed : Message) : Prop where
  sources : Descriptor.locations changed = Descriptor.locations file
  own : changed.child? EntityKind.file.optionsTag = file.child? EntityKind.file.optionsTag
  options : ∀ path, optionsAt changed path = (optionsAt file path).map fun found =>
    (found.1, receiveAll ids found.1 found.2 (commentsAt join locations path))
  texts : ∀ path kind options number, optionsAt file path = some (kind, options) →
    ids.forKind kind = some number → ∀ comment ∈ commentsAt join locations path,
      comment ∈ stored number options ∨ (Text.decode comment).isSome
  total : declaredCount ids changed = declaredCount ids file + count

theorem Carries.trans {ids : Ids} {join : Bool} {file middle changed : Message}
    {first second : List Location} {count more : Nat}
    (one : Carries ids join file first count middle)
    (two : Carries ids join middle second more changed) :
    Carries ids join file (first ++ second) (count + more) changed where
  sources := two.sources.trans one.sources
  own := two.own.trans one.own
  options := by
    intro path
    rw [two.options, one.options, Option.map_map]
    congr 1
    funext found
    rw [Function.comp_apply, commentsAt_append, receiveAll_append]
  texts := by
    intro path kind options number found numbered comment member
    rw [commentsAt_append] at member
    rcases List.mem_append.mp member with early | late
    · exact one.texts path kind options number found numbered comment early
    · -- What the middle file has is from before or among the first comments.
      have between := one.options path
      rw [found] at between
      rcases two.texts path kind _ number between numbered comment late with known | text
      · rw [stored_receiveAll numbered, mem_addAllNew] at known
        rcases known with old | early
        · exact Or.inl old
        · exact one.texts path kind options number found numbered comment early
      · exact Or.inr text
  total := by rw [two.total, one.total, Nat.add_assoc]

/-- Locations carry nothing where every declaration has their comments already. -/
theorem Carries.unchanged {ids : Ids} {join : Bool} {file : Message} {locations : List Location}
    (known : ∀ path kind options number, optionsAt file path = some (kind, options) →
      ids.forKind kind = some number →
        ∀ comment ∈ commentsAt join locations path, comment ∈ stored number options) :
    Carries ids join file locations 0 file where
  sources := rfl
  own := rfl
  options := by
    intro path
    cases found : optionsAt file path with
    | none => rfl
    | some pair =>
      rw [Option.map_some, receiveAll_known fun number => known path pair.1 pair.2 number found]
  texts := fun path kind options number found numbered comment member =>
    Or.inl (known path kind options number found numbered comment member)
  total := rfl

/-! ### One location -/

theorem optionsAt_of_resolves {file entity : Message} {path : Path} {kind : EntityKind}
    (resolves : resolveDeclaration file path = some (kind, entity)) :
    optionsAt file path = some (kind, entity.child? kind.optionsTag) := by
  rw [resolveDeclaration_eq] at resolves
  rw [optionsAt, optionsFrom, resolves]
  rfl

theorem optionsAt_isSome (file : Message) (path : Path) :
    (optionsAt file path).isSome = (resolveDeclaration file path).isSome := by
  rw [optionsAt, optionsFrom, Option.isSome_map, resolveDeclaration_eq]

/-- Files whose declarations stand at the same paths list the same paths, each once. -/
theorem declarationPaths_perm {first second : Message}
    (same : ∀ path, (optionsAt first path).isSome = (optionsAt second path).isSome) :
    (declarationPaths first).Perm (declarationPaths second) := by
  rw [List.perm_ext_iff_of_nodup (declarationPaths_nodup first) (declarationPaths_nodup second)]
  intro path
  rw [mem_declarationPaths, mem_declarationPaths, ← optionsAt_isSome, ← optionsAt_isSome, same]

/-- A sum over distinct paths goes up by one when its part at one of them does. -/
theorem sum_map_raise {paths : List Path} (distinct : paths.Nodup) {path : Path}
    (member : path ∈ paths) {before after : Path → Nat}
    (raised : ∀ other, after other = before other + if other = path then 1 else 0) :
    (paths.map after).sum = (paths.map before).sum + 1 := by
  rw [← List.sum_toFinset _ distinct, ← List.sum_toFinset _ distinct]
  simp only [raised, Finset.sum_add_distrib, Finset.sum_ite_eq', List.mem_toFinset, member, if_true]

/-- One more description at one declaration is one more in all. -/
theorem declaredCount_receive {ids : Ids} {file changed : Message} {path : Path}
    {kind : EntityKind} {options : Option Message} {number : OptionNumber} {comment : Bytes}
    (here : optionsAt file path = some (kind, options)) (numbered : ids.forKind kind = some number)
    (absent : comment ∉ stored number options)
    (views : ∀ other, optionsAt changed other =
      if other = path then some (kind, receive number options comment)
      else optionsAt file other) :
    declaredCount ids changed = declaredCount ids file + 1 := by
  have perm : (declarationPaths changed).Perm (declarationPaths file) := by
    apply declarationPaths_perm
    intro other
    rw [views]
    by_cases same : other = path
    · rw [if_pos same, same, here, Option.isSome_some, Option.isSome_some]
    · rw [if_neg same]
  have listed : path ∈ declarationPaths file := by
    rw [mem_declarationPaths, ← optionsAt_isSome]
    exact Option.isSome_of_eq_some here
  rw [declaredCount, (perm.map _).sum_eq]
  refine sum_map_raise (declarationPaths_nodup file) listed fun other => ?_
  rw [descriptionsAt, descriptionsAt, views]
  by_cases same : other = path
  · subst same
    simp [here, numbered, stored_receive, addNew_of_notMem absent]
  · simp [same]

/-- Storing a new description at a declaration. -/
theorem Carries.added {ids : Ids} {join : Bool} {file entity : Message} {location : Location}
    {kind : EntityKind} {number : OptionNumber} {comment : Bytes}
    (holds : locationComment join location = .ok (some comment))
    (resolves : resolveDeclaration file location.path = some (kind, entity))
    (numbered : ids.forKind kind = some number) (text : (Text.decode comment).isSome)
    (absent : comment ∉ stored number (entity.child? kind.optionsTag)) :
    Carries ids join file [location] 1 (modifyAt (fun _ => entity.setChild kind.optionsTag
      ((entity.child? kind.optionsTag).getD [] ++ [entryOf number comment])) location.path file) := by
  generalize changes : modifyAt _ location.path file = changed
  have here := optionsAt_of_resolves resolves
  have views : ∀ path, optionsAt changed path =
      if path = location.path then
        some (kind, receive number (entity.child? kind.optionsTag) comment)
      else optionsAt file path := by
    intro path
    rw [← changes, optionsAt_modifyAt resolves, receive_of_notMem absent]
  have found : (declarationFrom .file file location.path).isSome :=
    Option.isSome_of_eq_some resolves
  constructor
  · -- The source information is a field of its own, through which no path leads.
    have kept := child?_modifyAt 9 found fun _ _ nested => (nested?_apart nested).2.2 rfl
    rw [locations, locations, ← changes, kept]
  · -- Nor does one lead through the options of the file.
    have kept := child?_modifyAt EntityKind.file.optionsTag found
      fun _ _ nested => (nested?_apart nested).2.1
    rw [← changes, kept]
  · intro path
    rw [views, commentsAt_single, holds, given]
    by_cases same : path = location.path
    · subst same
      simp [here, receiveAll, numbered]
    · rw [if_neg same, if_neg (Ne.symm same)]
      simp only [receiveAll_nil, Prod.mk.eta, Option.map_id']
  · intro path _ _ _ _ _ other member
    obtain ⟨_, same⟩ := mem_commentsAt_single.mp member
    rw [holds, given] at same
    cases same
    exact Or.inr text
  · exact declaredCount_receive here numbered absent views

theorem embedLocation_carries {ids : Ids} (undeclared : ids.AreUndeclared) {join : Bool}
    {file changed : Message} {location : Location} {outcome : Outcome}
    (done : embedLocation ids join file location = .ok (outcome, changed)) :
    Carries ids join file [location] (if outcome = .added then 1 else 0) changed := by
  rw [embedLocation] at done
  obtain ⟨content, holds, done⟩ := bind_eq_ok_iff.mp done
  cases content with
  | none =>
    cases done
    refine .unchanged fun path _ _ _ _ _ comment member => ?_
    obtain ⟨_, same⟩ := mem_commentsAt_single.mp member
    rw [holds, given] at same
    cases same
  | some comment =>
    simp only at done
    split at done
    next astray =>
      -- The path leads nowhere, so no declaration stands there.
      cases done
      refine .unchanged fun path _ _ _ found _ comment member => ?_
      obtain ⟨rfl, _⟩ := mem_commentsAt_single.mp member
      have stands := optionsAt_isSome file location.path
      rw [found, astray] at stands
      cases stands
    next kind entity resolves =>
      have here := optionsAt_of_resolves resolves
      split at done
      next disabled =>
        -- The declaration is of a kind without a number.
        cases done
        refine .unchanged fun path _ _ _ found numbered comment member => ?_
        obtain ⟨rfl, _⟩ := mem_commentsAt_single.mp member
        rw [here] at found
        cases found
        rw [disabled] at numbered
        cases numbered
      next number numbered =>
        obtain ⟨⟨grown, after⟩, stores, told⟩ := bind_eq_ok_iff.mp done
        rcases describe_eq_ok (undeclared kind number numbered) stores with
          ⟨present, rfl, rfl⟩ | ⟨absent, text, _, rfl, rfl⟩
        · cases told
          refine .unchanged fun path _ _ _ found numbered' comment' member => ?_
          obtain ⟨rfl, same⟩ := mem_commentsAt_single.mp member
          rw [here] at found
          cases found
          rw [numbered] at numbered'
          cases numbered'
          rw [holds, given] at same
          cases same
          exact present
        · cases told
          exact .added holds resolves numbered text absent

/-! ### All locations -/

/-- A walk ends well if its first step does and the rest of it does from there. -/
theorem embedLocations_cons_ok_iff {ids : Ids} {join : Bool} {file final : Message}
    {location : Location} {rest : List Location} {count : Nat} :
    (embedLocations ids join file (location :: rest)).result = .ok (count, final) ↔
      ∃ outcome changed more, embedLocation ids join file location = .ok (outcome, changed) ∧
        (embedLocations ids join changed rest).result = .ok (more, final) ∧
          count = more + if outcome = .added then 1 else 0 := by
  have walked : ∀ (outcome : Outcome) (changed : Message),
      ((embedLocations ids join changed rest).bind fun told =>
        Logged.pure (if outcome = .added then told.1 + 1 else told.1, told.2)).result =
          .ok (count, final) ↔
        ∃ more, (embedLocations ids join changed rest).result = .ok (more, final) ∧
          count = more + if outcome = .added then 1 else 0 := by
    intro outcome changed
    rw [Logged.bind_result_ok_iff]
    constructor
    · rintro ⟨⟨more, last⟩, walk, told⟩
      cases told
      exact ⟨more, walk, by split <;> rfl⟩
    · rintro ⟨more, walk, rfl⟩
      exact ⟨(more, final), walk, by simp only [Logged.pure]; split <;> rfl⟩
  -- Whether a note is made on the way or not, the rest is embedded next.
  rw [embedLocations]
  constructor
  · intro done
    obtain ⟨⟨outcome, changed⟩, step, walk⟩ := (Logged.bind_result_ok_iff _ _ _).mp done
    have told : ∃ more, (embedLocations ids join changed rest).result = .ok (more, final) ∧
        count = more + if outcome = .added then 1 else 0 := by
      rw [← walked]
      simp only at walk
      split at walk
      · exact ((Logged.bind_result_ok_iff _ _ _).mp walk).choose_spec.2
      · exact walk
    obtain ⟨more, run, counted⟩ := told
    exact ⟨outcome, changed, more, step, run, counted⟩
  · rintro ⟨outcome, changed, more, step, run⟩
    refine (Logged.bind_result_ok_iff _ _ _).mpr ⟨(outcome, changed), step, ?_⟩
    have walk := (walked outcome changed).mpr ⟨more, run⟩
    simp only
    by_cases noted : outcome = .unowned
    · rw [if_pos noted]
      exact (Logged.bind_result_ok_iff _ _ _).mpr ⟨(), rfl, walk⟩
    · rw [if_neg noted]
      exact walk

theorem embedLocations_carries {ids : Ids} (undeclared : ids.AreUndeclared) {join : Bool}
    {file final : Message} {locations : List Location} {count : Nat}
    (done : (embedLocations ids join file locations).result = .ok (count, final)) :
    Carries ids join file locations count final := by
  -- Along the locations, from whatever file the ones before have left.
  induction locations generalizing file count final with
  | nil =>
    cases done
    exact .unchanged fun _ _ _ _ _ _ _ member => by cases member
  | cons location rest ih =>
    obtain ⟨outcome, changed, more, step, run, rfl⟩ := embedLocations_cons_ok_iff.mp done
    rw [Nat.add_comm]
    exact (embedLocation_carries undeclared step).trans (ih run)

/-! ### The whole file -/

theorem embedFile_ok_iff {ids : Ids} {join : Bool} {file final : Message} {count : Nat} :
    (embedFile ids join file).result = .ok (count, final) ↔
      ∃ declared more described,
        (embedLocations ids join file (locations file)).result = .ok (declared, described) ∧
          embedFileComment ids join described = .ok (more, final) ∧ count = declared + more := by
  rw [embedFile]
  refine (Logged.bind_result_ok_iff _ _ _).trans ?_
  constructor
  · rintro ⟨⟨declared, described⟩, walk, rest⟩
    obtain ⟨⟨more, last⟩, own, told⟩ := (Logged.bind_result_ok_iff _ _ _).mp rest
    cases told
    exact ⟨declared, more, described, walk, own, rfl⟩
  · rintro ⟨declared, more, described, walk, own, rfl⟩
    exact ⟨(declared, described), walk,
      (Logged.bind_result_ok_iff _ _ _).mpr ⟨(more, final), own, rfl⟩⟩

/-- The descriptions of a file itself, if files have a number. -/
def ownDescriptions (ids : Ids) (file : Message) : List Bytes :=
  match ids.forKind .file with
  | none => []
  | some number => readOwned .file file number.value

/-- How many descriptions a file and its declarations have. -/
def storedCount (ids : Ids) (file : Message) : Nat :=
  declaredCount ids file + (ownDescriptions ids file).length

/-- `final` is `file` with the comment about it stored in its own options; `more` is one if that
is new. -/
structure FillsOwn (ids : Ids) (join : Bool) (file : Message) (more : Nat) (final : Message) :
    Prop where
  sources : locations final = locations file
  options : ∀ path, optionsAt final path = optionsAt file path
  own : final.child? EntityKind.file.optionsTag =
    receiveAll ids .file (file.child? EntityKind.file.optionsTag)
      (fileText join (locations file)).toList
  text : ∀ number, ids.forKind .file = some number →
    ∀ comment ∈ (fileText join (locations file)).toList,
      comment ∈ stored number (file.child? EntityKind.file.optionsTag) ∨
        (Text.decode comment).isSome
  total : (ownDescriptions ids final).length = (ownDescriptions ids file).length + more

/-- A file keeps its options where it has the comment about it already, or no number for it. -/
theorem FillsOwn.unchanged {ids : Ids} {join : Bool} {file : Message}
    (known : ∀ number, ids.forKind .file = some number →
      ∀ comment ∈ (fileText join (locations file)).toList,
        comment ∈ stored number (file.child? EntityKind.file.optionsTag)) :
    FillsOwn ids join file 0 file where
  sources := rfl
  options := fun _ => rfl
  own := (receiveAll_known known).symm
  text := fun number numbered comment member => Or.inl (known number numbered comment member)
  total := rfl

theorem embedFileComment_fills {ids : Ids} (undeclared : ids.AreUndeclared) {join : Bool}
    {file final : Message} {more : Nat}
    (done : embedFileComment ids join file = .ok (more, final)) :
    FillsOwn ids join file more final := by
  simp only [embedFileComment] at done
  split at done
  next disabled =>
    cases done
    refine .unchanged fun number numbered => ?_
    rw [disabled] at numbered
    cases numbered
  next number numbered =>
    obtain ⟨content, found, told⟩ := bind_eq_ok_iff.mp done
    have text := fileText_of_fileComment found
    cases content with
    | none =>
      cases told
      exact .unchanged fun _ _ comment member => by simp [text] at member
    | some comment =>
      obtain ⟨⟨grown, after⟩, stores, ended⟩ := bind_eq_ok_iff.mp told
      rcases describe_eq_ok (undeclared .file number numbered) stores with
        ⟨present, rfl, rfl⟩ | ⟨absent, readable, _, rfl, rfl⟩
      · cases ended
        refine .unchanged fun number' numbered' other member => ?_
        rw [numbered] at numbered'
        cases numbered'
        rw [text, Option.toList_some, List.mem_singleton] at member
        exact member ▸ present
      · cases ended
        have grown := stored_receive number (file.child? EntityKind.file.optionsTag) comment
        rw [receive_of_notMem absent, addNew_of_notMem absent] at grown
        constructor
        · rw [locations, locations, Message.child?_setChild_ne _ _ (by decide)]
        · exact optionsFrom_setChild .file file _
        · rw [text, receiveAll, numbered]
          simp [Message.child?_setChild, receive_of_notMem absent]
        · intro _ _ other member
          rw [text, Option.toList_some, List.mem_singleton] at member
          exact Or.inr (member ▸ readable)
        · simp only [ownDescriptions, numbered, readOwned_eq_stored]
          rw [Message.child?_setChild, grown, List.length_append]
          rfl

/-- `final` is `file` with all options grown by the comments that belong to them. -/
structure Fills (ids : Ids) (join : Bool) (file : Message) (count : Nat) (final : Message) :
    Prop where
  sources : locations final = locations file
  options : ∀ path, optionsAt final path = (optionsAt file path).map fun found =>
    (found.1, receiveAll ids found.1 found.2 (commentsAt join (locations file) path))
  own : final.child? EntityKind.file.optionsTag =
    receiveAll ids .file (file.child? EntityKind.file.optionsTag)
      (fileText join (locations file)).toList
  texts : ∀ path kind options number, optionsAt file path = some (kind, options) →
    ids.forKind kind = some number → ∀ comment ∈ commentsAt join (locations file) path,
      comment ∈ stored number options ∨ (Text.decode comment).isSome
  ownText : ∀ number, ids.forKind .file = some number →
    ∀ comment ∈ (fileText join (locations file)).toList,
      comment ∈ stored number (file.child? EntityKind.file.optionsTag) ∨
        (Text.decode comment).isSome
  total : storedCount ids final = storedCount ids file + count

theorem declaredCount_congr {ids : Ids} {first second : Message}
    (same : ∀ path, optionsAt first path = optionsAt second path) :
    declaredCount ids first = declaredCount ids second := by
  have perm : (declarationPaths first).Perm (declarationPaths second) :=
    declarationPaths_perm fun path => by rw [same]
  rw [declaredCount, declaredCount, (perm.map _).sum_eq]
  simp only [descriptionsAt, same]

theorem embedFile_fills {ids : Ids} (undeclared : ids.AreUndeclared) {join : Bool}
    {file final : Message} {count : Nat}
    (returned : (embedFile ids join file).result = .ok (count, final)) :
    Fills ids join file count final := by
  obtain ⟨declared, more, described, walk, own, rfl⟩ := embedFile_ok_iff.mp returned
  have carried := embedLocations_carries undeclared walk
  have filled := embedFileComment_fills undeclared own
  have before : ownDescriptions ids described = ownDescriptions ids file := by
    simp only [ownDescriptions, readOwned_eq_stored, carried.own]
  refine ⟨filled.sources.trans carried.sources, fun path => ?_, ?_, carried.texts, ?_, ?_⟩
  · rw [filled.options, carried.options]
  · rw [filled.own, carried.own, carried.sources]
  · have text := filled.text
    rw [carried.own, carried.sources] at text
    exact text
  · rw [storedCount, storedCount, declaredCount_congr filled.options, carried.total, filled.total,
      before]
    omega

/-- `final` is `file` with its comments embedded, and `count` of them are new. -/
structure Embeds (ids : Ids) (join : Bool) (file : Message) (count : Nat) (final : Message) :
    Prop where
  /-- A path leads to a declaration of the same kind as before, if it leads to one. -/
  resolves : ∀ path, (resolveDeclaration final path).map (·.1) =
    (resolveDeclaration file path).map (·.1)
  /-- A declaration of a kind with a number has the descriptions from before and behind them, each
  once, the comments of the locations at its path. -/
  declared : ∀ path kind before after number, resolveDeclaration file path = some (kind, before) →
    resolveDeclaration final path = some (kind, after) → ids.forKind kind = some number →
      readOwned kind after number.value =
        addAllNew (readOwned kind before number.value) (commentsAt join (locations file) path)
  /-- Without a number or a comment the options stay as they are. -/
  spared : ∀ path kind before after, resolveDeclaration file path = some (kind, before) →
    resolveDeclaration final path = some (kind, after) →
      ids.forKind kind = none ∨ commentsAt join (locations file) path = [] →
        after.child? kind.optionsTag = before.child? kind.optionsTag
  /-- The file has the comment about it, unless it had that before. -/
  own : ∀ number, ids.forKind .file = some number →
    readOwned .file final number.value =
      addAllNew (readOwned .file file number.value) (fileText join (locations file)).toList
  /-- Without a number or a comment the options of the file stay as they are. -/
  ownSpared : ids.forKind .file = none ∨ fileText join (locations file) = none →
    final.child? EntityKind.file.optionsTag = file.child? EntityKind.file.optionsTag
  /-- The count is that of all the descriptions that came to it. -/
  total : storedCount ids final = storedCount ids file + count

/-- Whenever embedding returns, every entity of a kind with a number has taken in its comments,
each once and in the order of the locations, and no other has taken in anything. -/
theorem embedFile_embeds {ids : Ids} (undeclared : ids.AreUndeclared) {join : Bool}
    {file final : Message} {count : Nat}
    (returned : (embedFile ids join file).result = .ok (count, final)) :
    Embeds ids join file count final := by
  have fills := embedFile_fills undeclared returned
  have options : ∀ path kind before after, resolveDeclaration file path = some (kind, before) →
      resolveDeclaration final path = some (kind, after) →
        after.child? kind.optionsTag = receiveAll ids kind (before.child? kind.optionsTag)
          (commentsAt join (locations file) path) := by
    intro path kind before after old new
    have grown := fills.options path
    rw [optionsAt_of_resolves old, optionsAt_of_resolves new] at grown
    simpa using grown
  refine ⟨fun path => ?_, ?_, ?_, ?_, ?_, fills.total⟩
  · have kinds := congrArg (Option.map (·.1)) (fills.options path)
    simp only [optionsAt, optionsFrom, Option.map_map] at kinds
    exact kinds
  · intro path kind before after number old new numbered
    rw [readOwned_eq_stored, readOwned_eq_stored, options path kind before after old new,
      stored_receiveAll numbered]
  · intro path kind before after old new nothing
    rw [options path kind before after old new]
    rcases nothing with disabled | silent
    · rw [receiveAll, disabled]
    · rw [silent, receiveAll_nil]
  · intro number numbered
    rw [readOwned_eq_stored, readOwned_eq_stored, fills.own, stored_receiveAll numbered]
  · intro nothing
    rw [fills.own]
    rcases nothing with disabled | silent
    · rw [receiveAll, disabled]
    · rw [silent, Option.toList_none, receiveAll_nil]

/-- A file with a comment on its package, and two locations for its only message. -/
def commentedFile : Message :=
  [.message 4 [.text 1 [0x41]],
   .message 9
    [.message 1 [.packed 1 [2], .packed 2 [0, 0, 9], .text 3 [0x70]],
     .message 1 [.packed 1 [4, 0], .packed 2 [1, 0, 12], .text 3 [0x61, 0x0A]],
     .message 1 [.packed 1 [4, 0], .packed 2 [1, 0, 12], .text 4 [0x62]]]]

/-- What becomes of `commentedFile`. -/
def embeddedFile : Message :=
  [.message 4
    [.text 1 [0x41],
     .message 7 [entryOf standardNumber [0x61], entryOf standardNumber [0x62]]],
   .message 8 [entryOf standardNumber [0x70]],
   .message 9
    [.message 1 [.packed 1 [2], .packed 2 [0, 0, 9], .text 3 [0x70]],
     .message 1 [.packed 1 [4, 0], .packed 2 [1, 0, 12], .text 3 [0x61, 0x0A]],
     .message 1 [.packed 1 [4, 0], .packed 2 [1, 0, 12], .text 4 [0x62]]]]

theorem standardNumber_undeclared : (Ids.uniform standardNumber).AreUndeclared := by
  intro kind number numbered
  cases numbered
  cases kind <;> decide

/-- Both comments on the message and the one on the package are stored. -/
theorem embedFile_embeds_commented :
    (Ids.uniform standardNumber).AreUndeclared ∧
    (embedFile (.uniform standardNumber) true commentedFile).result = .ok (3, embeddedFile) ∧
    Embeds (.uniform standardNumber) true commentedFile 3 embeddedFile := by
  have returned : (embedFile (.uniform standardNumber) true commentedFile).result =
      .ok (3, embeddedFile) := by
    cbv
  exact ⟨standardNumber_undeclared, returned, embedFile_embeds standardNumber_undeclared returned⟩

end SchemaDoc.Description
