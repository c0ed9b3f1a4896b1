import SchemaDoc.Proofs.Description.Completeness

/-!
# Errors of embedding a sound set

Two errors come of bytes that are worked on as text and are none: the name of a file, and a comment
whose lines are joined. A file is legible if these are text. A third comes of required fields that
are missing where something is written. Embedding the comments of a complete set of legible files
may still end with an error, but with none of the three. Storing a comment is not among them: that
asks for text, too, but says what is wrong with it.
-/
namespace SchemaDoc.Description

open Descriptor
open Relation (ReflTransGen)
open Text (Bytes)

/-- The errors of bytes that were taken for text and of required fields that are missing. -/
inductive EmbedError.Unforeseen : EmbedError → Prop
  | name : Unforeseen .nameNotText
  | comment : Unforeseen .commentNotJoinable
  | missing (error : EncodeError) : Unforeseen (.unwritable error)

/-- Whatever the result is, it is no unforeseen error. -/
def Foreseen {Value : Type} (result : Except EmbedError Value) : Prop :=
  ∀ error, result = .error error → ¬ error.Unforeseen

/-- A location whose comment is text, if its lines are to be joined. -/
def LegibleAt (join : Bool) (location : Location) : Prop :=
  join = true → ∀ comment, location.leading.or location.trailing = some comment →
    (Text.decode comment).isSome

/-- A file whose name is text, and whose comments are, too, if their lines are to be joined. In
files of the standard library no comment is looked at. -/
structure Legible (join : Bool) (file : Message) : Prop where
  name : (Text.decode (file.text 1)).isSome
  comments : isStandard file = false → ∀ location ∈ locations file, LegibleAt join location

/-- A set that nothing is missing from, with legible files. -/
structure IsSound (join : Bool) (set : Message) : Prop where
  complete : set.IsComplete .fileSet
  legible : ∀ file ∈ files set, Legible join file

variable {Value Next : Type} {ids : Ids} {flags : EmbedFlags} {join : Bool} {file : Message}

namespace Foreseen

theorem ok (value : Value) : Foreseen (.ok value) :=
  nofun

theorem error {error : EmbedError} (harmless : ¬ error.Unforeseen) :
    Foreseen (.error error : Except EmbedError Value) := by
  rintro _ ⟨⟩
  exact harmless

theorem bind {first : Except EmbedError Value} {next : Value → Except EmbedError Next}
    (start : Foreseen first) (rest : ∀ value, first = .ok value → Foreseen (next value)) :
    Foreseen (first >>= next) := by
  cases first with
  | error fault => exact .error (start fault rfl)
  | ok value => exact rest value rfl

theorem foldlM {Item : Type} {step : Value → Item → Except EmbedError Value}
    (steps : ∀ found item, Foreseen (step found item)) (items : List Item) (found : Value) :
    Foreseen (items.foldlM step found) := by
  induction items generalizing found with
  | nil => exact .ok found
  | cons item rest ih =>
    rw [List.foldlM_cons]
    exact (steps found item).bind fun next _ => ih next

theorem logged_bind {first : Logged EmbedError Value} {next : Value → Logged EmbedError Next}
    (start : Foreseen first.result)
    (rest : ∀ value, first.result = .ok value → Foreseen (next value).result) :
    Foreseen (first >>= next).result := by
  show Foreseen (first.bind next).result
  rw [Logged.bind]
  cases ended : first.result with
  | error fault => exact .error (start fault ended)
  | ok value => exact rest value ended

end Foreseen

/-! ### One comment -/

theorem normalize_foreseen {comment : Bytes}
    (legible : join = true → (Text.decode comment).isSome) :
    Foreseen (normalize join comment) := by
  rw [normalize]
  split
  · exact .ok _
  next illegible =>
    split
    next joins =>
      have text := legible joins
      rw [illegible] at text
      cases text
    · exact .ok _

theorem locationComment_foreseen {location : Location} (legible : LegibleAt join location) :
    Foreseen (locationComment join location) := by
  rw [locationComment]
  cases leading : location.leading with
  | some comment =>
    exact normalize_foreseen fun joins => legible joins comment (by rw [leading]; rfl)
  | none =>
    cases trailing : location.trailing with
    | some comment =>
      exact normalize_foreseen fun joins =>
        legible joins comment (by rw [leading, trailing]; rfl)
    | none => exact .ok _

/-- Storing a comment that is not text says what is wrong with it. -/
theorem describe_foreseen (kind : EntityKind) {entity : Message}
    (complete : entity.IsComplete kind.descriptorType) (number : OptionNumber) (comment : Bytes) :
    Foreseen (describe kind entity number comment) := by
  rw [describe]
  split
  · exact .ok _
  · exact .ok _
  next error failed =>
    -- The options of a complete entity can be read.
    exact absurd failed (append_ne_unwritable complete.options number.value comment error)
  · exact .error (by rintro ⟨⟩)
  · exact .error (by rintro ⟨⟩)

/-! ### The comments of a file -/

theorem embedLocation_foreseen {location : Location} (legible : LegibleAt join location)
    (complete : file.IsComplete .file) : Foreseen (embedLocation ids join file location) := by
  refine (locationComment_foreseen legible).bind fun content _ => ?_
  cases content with
  | none => exact .ok _
  | some comment =>
    dsimp only
    split
    · exact .ok _
    next kind entity resolves =>
      split
      · exact .ok _
      · have whole : entity.IsComplete kind.descriptorType :=
          complete.resolveDeclaration resolves
        refine (describe_foreseen kind whole _ comment).bind fun described _ => ?_
        split <;> exact .ok _

theorem embedLocations_foreseen (spare : ids.SpareUninterpreted) {locations : List Location}
    (legible : ∀ location ∈ locations, LegibleAt join location)
    (complete : file.IsComplete .file) :
    Foreseen (embedLocations ids join file locations).result := by
  induction locations generalizing file with
  | nil => exact .ok _
  | cons location rest ih =>
    have first : Foreseen (embedLocation ids join file location) :=
      embedLocation_foreseen (legible location List.mem_cons_self) complete
    refine Foreseen.logged_bind first fun changed step => ?_
    have whole : changed.2.IsComplete .file :=
      Stores.run_complete spare (embedLocation_stores step) complete
    -- Whether a note is made on the way or not, the rest is embedded next.
    have later : Foreseen (embedLocations ids join changed.2 rest).result :=
      ih (fun other member => legible other (List.mem_cons_of_mem location member)) whole
    dsimp only
    split
    · exact Foreseen.logged_bind (.ok _) fun _ _ =>
        Foreseen.logged_bind later fun _ _ => .ok _
    · exact Foreseen.logged_bind later fun _ _ => .ok _

theorem fileComment_foreseen {locations : List Location}
    (legible : ∀ location ∈ locations, LegibleAt join location) :
    Foreseen (fileComment join locations) := by
  refine Foreseen.foldlM (fun found path => ?_) fileCommentPaths none
  split
  next comment there =>
    obtain ⟨location, last, leading⟩ := Option.bind_eq_some_iff.mp there
    have member := (List.mem_filter.mp (List.mem_of_getLast? last)).1
    exact normalize_foreseen fun joins =>
      legible location member joins comment (by rw [leading]; rfl)
  · exact .ok _

/-- No description is stored in the source information. -/
theorem Stores.locations_eq {before after : Message} (stores : Stores ids .file before after) :
    locations after = locations before := by
  have same : after.children 9 = before.children 9 := by
    cases stores with
    | own entity numbered appended =>
      exact Message.children_setChild_ne before _ (by decide : 9 ≠ EntityKind.file.optionsTag)
    | inside front back nested stores =>
      exact Message.children_replace_ne front back ((nested?_apart nested).2.2 rfl).symm _ _
  rw [locations, locations, Message.child?, Message.child?, same]

theorem Stores.run_locations_eq {before after : Message}
    (run : ReflTransGen (Stores ids .file) before after) : locations after = locations before := by
  induction run with
  | refl => rfl
  | tail _ last ih => exact last.locations_eq.trans ih

theorem embedFileComment_foreseen
    (legible : ∀ location ∈ locations file, LegibleAt join location)
    (complete : file.IsComplete .file) :
    Foreseen (embedFileComment ids join file) := by
  rw [embedFileComment]
  split
  · exact .ok _
  next number _ =>
    refine (fileComment_foreseen legible).bind fun content _ => ?_
    cases content with
    | none => exact .ok _
    | some comment =>
      have described : Foreseen (describe .file file number comment) :=
        describe_foreseen .file complete number comment
      exact described.bind fun _ _ => .ok _

theorem embedFile_foreseen (spare : ids.SpareUninterpreted)
    (legible : ∀ location ∈ locations file, LegibleAt join location)
    (complete : file.IsComplete .file) : Foreseen (embedFile ids join file).result := by
  refine Foreseen.logged_bind (embedLocations_foreseen spare legible complete) fun walked walk => ?_
  have run := embedLocations_stores walk
  have same := Stores.run_locations_eq run
  have whole : walked.2.IsComplete .file :=
    Stores.run_complete spare run complete
  exact Foreseen.logged_bind (embedFileComment_foreseen (same ▸ legible) whole) fun _ _ => .ok _

/-! ### The files of a set -/

theorem embedMember_foreseen (spare : ids.SpareUninterpreted)
    (legible : Legible flags.joinLines file) (complete : file.IsComplete .file) :
    Foreseen (embedMember ids flags file).result := by
  obtain ⟨name, text⟩ := Option.isSome_iff_exists.mp legible.name
  have comments := legible.comments
  rw [isStandard, text, Option.any_some] at comments
  rw [embedMember, text]
  dsimp only
  split
  · exact .ok _
  next apart =>
    refine Foreseen.logged_bind
      (embedFile_foreseen spare (comments (Bool.eq_false_iff.mpr apart)) complete)
      fun described _ => ?_
    exact Foreseen.logged_bind (.ok _) fun _ _ => .ok _

theorem embedEntries_foreseen (spare : ids.SpareUninterpreted) {entries : List Entry}
    (legible : ∀ file ∈ files entries, Legible flags.joinLines file)
    (complete : ∀ entry ∈ entries, entry.IsComplete .fileSet) :
    Foreseen (embedEntries ids flags entries).result := by
  induction entries with
  | nil => exact .ok _
  | cons entry rest ih =>
    rw [files, Message.children_cons] at legible
    have later : Foreseen (embedEntries ids flags rest).result :=
      ih (fun file member => legible file (List.mem_append_right _ member))
        fun other member => complete other (List.mem_cons_of_mem entry member)
    have others : ∀ changed : Entry, Foreseen (do
        let others ← embedEntries ids flags rest
        pure (changed :: others) : Logged EmbedError (List Entry)).result :=
      fun changed => Foreseen.logged_bind later fun _ _ => .ok _
    rw [embedEntries]
    cases held : Message.childOf? 1 entry with
    | none => exact Foreseen.logged_bind (.ok entry) fun changed _ => others changed
    | some file =>
      have member : file ∈ (Message.childOf? 1 entry).toList := by rw [held]; exact .head _
      have whole : file.IsComplete .file := by
        have own := complete entry List.mem_cons_self
        rw [Message.eq_of_childOf? held] at own
        exact own .file rfl
      have first : Foreseen ((Entry.message 1 ·) <$> embedMember ids flags file).result :=
        Foreseen.logged_bind
          (embedMember_foreseen spare (legible file (List.mem_append_left _ member)) whole)
          fun _ _ => .ok _
      exact Foreseen.logged_bind first fun changed _ => others changed

/-- A sound set never ends with an unforeseen error, and bytes that are no set never do either. -/
theorem embedSet_foreseen (spare : ids.SpareUninterpreted) {data : Bytes}
    (sound : ∀ set, decode .fileSet data = .ok set → IsSound flags.joinLines set) :
    Foreseen (embedSet ids flags data).result := by
  have reading : Foreseen ((Logged.ofExcept (decode .fileSet data)).mapError
      EmbedError.decode).result := by
    cases read : decode .fileSet data with
    | ok set => exact .ok set
    | error fault => exact .error (by rintro ⟨⟩)
  refine Foreseen.logged_bind reading fun set read => ?_
  obtain ⟨complete, legible⟩ := sound set ((Logged.mapError_result_ok_iff _ _ _).mp read)
  refine Foreseen.logged_bind (embedEntries_foreseen spare legible
    ((Message.isComplete_iff_nested (by decide)).mp complete)) fun settled run => ?_
  -- What is written in the end is complete like the set that was read.
  have whole := settled_complete spare (embedEntries_ok_iff.mp run) complete
  rw [Message.serialize_eq, if_pos whole]
  exact .ok _

/-- The name of the first file is the first that is taken for text. -/
theorem embedEntries_nameNotText {entries : List Entry} {rest : List Message}
    (first : files entries = file :: rest) (illegible : Text.decode (file.text 1) = none) :
    (embedEntries ids flags entries).result = .error .nameNotText := by
  induction entries with
  | nil => cases first
  | cons entry others ih =>
    rw [files, Message.children_cons] at first
    rw [embedEntries]
    cases held : Message.childOf? 1 entry with
    | none =>
      rw [held] at first
      simp only [bind, Logged.bind, pure, Logged.pure, ih first]
    | some other =>
      rw [held] at first
      cases first
      have failed : embedMember ids flags file = Logged.fail .nameNotText := by
        rw [embedMember, illegible]
      simp only [failed, Functor.map, bind, Logged.bind, Logged.fail]

theorem embedSet_nameNotText {data : Bytes} {set : Message} {rest : List Message}
    (decoded : decode .fileSet data = .ok set) (first : files set = file :: rest)
    (illegible : Text.decode (file.text 1) = none) :
    (embedSet ids flags data).result = .error .nameNotText := by
  have failed : (embedEntries ids flags set).result = .error .nameNotText :=
    embedEntries_nameNotText first illegible
  simp only [embedSet, decoded, Logged.ofExcept, Logged.mapError, Except.mapError, bind,
    Logged.bind, failed]

end SchemaDoc.Description
