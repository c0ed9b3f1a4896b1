import SchemaDoc.Workspace.Action

/-!
# How actions end

What an action yields is read off its parts: a chain yields what its second part does on the files
that the first part left behind. Where it fails it leaves the files of the part that failed.
-/
namespace SchemaDoc.Workspace.Action

variable {Note Error Value Next : Type} {tree after : FileTree} {value : Value} {last : Next}

/-- Started on some files, an action ends with a value and leaves these files behind. -/
structure Yields (action : Action Note Error Value) (tree : FileTree) (value : Value)
    (after : FileTree) : Prop where
  result : (action tree).result = .ok value
  left : (action tree).tree = after

theorem yields_bind_iff {first : Action Note Error Value}
    {next : Value → Action Note Error Next} :
    (first >>= next).Yields tree last after ↔
      ∃ value between, first.Yields tree value between ∧ (next value).Yields between last after := by
  constructor
  · rintro ⟨result, left⟩
    obtain ⟨value, ended, rest⟩ := (bind_result_ok_iff first next tree last).mp result
    -- The files in between are those that the first part left.
    refine ⟨value, (first tree).tree, ⟨ended, rfl⟩, rest, ?_⟩
    simpa only [bind, Action.bind, ended] using left
  · rintro ⟨value, between, ⟨ended, rfl⟩, rest, left⟩
    refine ⟨(bind_result_ok_iff first next tree last).mpr ⟨value, ended, rest⟩, ?_⟩
    simpa only [bind, Action.bind, ended] using left

theorem yields_pure_iff {given : Value} :
    (pure given : Action Note Error Value).Yields tree value after ↔
      given = value ∧ tree = after := by
  constructor
  · rintro ⟨result, left⟩
    cases result
    exact ⟨rfl, left⟩
  · rintro ⟨rfl, rfl⟩
    exact ⟨rfl, rfl⟩

theorem not_yields_fail {error : Error} :
    ¬ (fail error : Action Note Error Value).Yields tree value after := by
  rintro ⟨result, _⟩
  cases result

theorem yields_inspect_iff {look : FileTree → Except Error Value} :
    (inspect look : Action Note Error Value).Yields tree value after ↔
      look tree = .ok value ∧ tree = after :=
  ⟨fun ⟨result, left⟩ => ⟨result, left⟩, fun ⟨result, left⟩ => ⟨result, left⟩⟩

theorem yields_change_iff {step : FileTree → Except Error FileTree} :
    (change step : Action Note Error Unit).Yields tree () after ↔ step tree = .ok after := by
  constructor
  · rintro ⟨result, left⟩
    cases stepped : step tree <;> simp_all [change]
  · intro stepped
    constructor <;> simp [change, stepped]

theorem yields_note_iff {entry : Note} :
    (note entry : Action Note Error Unit).Yields tree () after ↔ tree = after :=
  ⟨fun ⟨_, left⟩ => left, fun left => ⟨rfl, left⟩⟩

theorem yields_ofLogged_iff {computation : Logged Error Value} :
    (ofLogged computation).Yields tree value after ↔
      computation.result = .ok value ∧ tree = after :=
  ⟨fun ⟨result, left⟩ => ⟨result, left⟩, fun ⟨result, left⟩ => ⟨result, left⟩⟩

/-! ### Errors -/

variable {error : Error}

/-- Started on some files, an action ends with an error and leaves these files behind. -/
structure Fails (action : Action Note Error Value) (tree : FileTree) (error : Error)
    (after : FileTree) : Prop where
  result : (action tree).result = .error error
  left : (action tree).tree = after

/-- An action ends in one of the two ways. -/
theorem yields_or_fails (action : Action Note Error Value) (tree : FileTree) :
    (∃ value, action.Yields tree value (action tree).tree) ∨
      ∃ error, action.Fails tree error (action tree).tree := by
  cases ended : (action tree).result with
  | ok value => exact Or.inl ⟨value, ended, rfl⟩
  | error error => exact Or.inr ⟨error, ended, rfl⟩

theorem fails_bind_iff {first : Action Note Error Value} {next : Value → Action Note Error Next} :
    (first >>= next).Fails tree error after ↔
      first.Fails tree error after ∨
        ∃ value between, first.Yields tree value between ∧
          (next value).Fails between error after := by
  constructor
  · rintro ⟨result, left⟩
    simp only [bind, Action.bind] at result left
    cases ended : (first tree).result with
    | error early =>
      rw [ended] at result left
      cases result
      exact Or.inl ⟨ended, left⟩
    | ok value =>
      rw [ended] at result left
      exact Or.inr ⟨value, (first tree).tree, ⟨ended, rfl⟩, result, left⟩
  · rintro (⟨result, left⟩ | ⟨value, between, ⟨ended, rfl⟩, result, left⟩)
    · constructor <;> simp [bind, Action.bind, result, left]
    · constructor <;> simp [bind, Action.bind, ended, result, left]

theorem not_fails_pure {given : Value} :
    ¬ (pure given : Action Note Error Value).Fails tree error after := by
  rintro ⟨result, _⟩
  cases result

theorem fails_fail_iff {given : Error} :
    (fail given : Action Note Error Value).Fails tree error after ↔
      given = error ∧ tree = after := by
  constructor
  · rintro ⟨result, left⟩
    cases result
    exact ⟨rfl, left⟩
  · rintro ⟨rfl, rfl⟩
    exact ⟨rfl, rfl⟩

/-- A change that is refused leaves the files alone. -/
theorem fails_change_iff {step : FileTree → Except Error FileTree} :
    (change step : Action Note Error Unit).Fails tree error after ↔
      step tree = .error error ∧ tree = after := by
  constructor
  · rintro ⟨result, left⟩
    cases stepped : step tree <;> simp_all [change]
  · rintro ⟨stepped, rfl⟩
    constructor <;> simp [change, stepped]

theorem not_fails_note {entry : Note} :
    ¬ (note entry : Action Note Error Unit).Fails tree error after := by
  rintro ⟨result, _⟩
  cases result

/-! ### Actions that only look -/

/-- Whatever the files are, an action leaves them as they are. -/
def IsReadOnly (action : Action Note Error Value) : Prop :=
  ∀ tree, (action tree).tree = tree

theorem isReadOnly_inspect (look : FileTree → Except Error Value) :
    (inspect look : Action Note Error Value).IsReadOnly :=
  fun _ => rfl

theorem isReadOnly_fail (error : Error) : (fail error : Action Note Error Value).IsReadOnly :=
  fun _ => rfl

theorem isReadOnly_note (entry : Note) : (note entry : Action Note Error Unit).IsReadOnly :=
  fun _ => rfl

theorem isReadOnly_ofLogged (computation : Logged Error Value) :
    (ofLogged computation).IsReadOnly :=
  fun _ => rfl

/-- A chain leaves what its first part leaves, if that fails, and else what its second part
leaves. -/
theorem tree_bind (first : Action Note Error Value) (next : Value → Action Note Error Next)
    (tree : FileTree) :
    (∃ error, first.Fails tree error ((first >>= next) tree).tree) ∨
      ∃ value, first.Yields tree value (first tree).tree ∧
        ((first >>= next) tree).tree = (next value (first tree).tree).tree := by
  cases ended : (first tree).result with
  | error error => exact Or.inl ⟨error, ended, by simp only [bind, Action.bind, ended]⟩
  | ok value => exact Or.inr ⟨value, ⟨ended, rfl⟩, by simp only [bind, Action.bind, ended]⟩

theorem Yields.tree_bind {first : Action Note Error Value} {between : FileTree}
    (run : first.Yields tree value between) (next : Value → Action Note Error Next) :
    ((first >>= next) tree).tree = (next value between).tree := by
  obtain ⟨result, rfl⟩ := run
  simp only [bind, Action.bind, result]

theorem Yields.notes_bind {first : Action Note Error Value} {between : FileTree}
    (run : first.Yields tree value between) (next : Value → Action Note Error Next) :
    ((first >>= next) tree).notes = (first tree).notes ++ (next value between).notes := by
  obtain ⟨result, rfl⟩ := run
  simp only [bind, Action.bind, result]

theorem Fails.tree_bind {first : Action Note Error Value} (run : first.Fails tree error after)
    (next : Value → Action Note Error Next) : ((first >>= next) tree).tree = after := by
  obtain ⟨result, rfl⟩ := run
  simp only [bind, Action.bind, result]

/-- Looking afterwards changes nothing, however that ends. -/
theorem tree_bind_of_looks {first : Action Note Error Value}
    {next : Value → Action Note Error Next} (looks : ∀ value, (next value).IsReadOnly)
    (tree : FileTree) : ((first >>= next) tree).tree = (first tree).tree := by
  rcases tree_bind first next tree with ⟨_, _, stopped⟩ | ⟨value, _, went⟩
  · exact stopped.symm
  · rw [went, looks]

namespace IsReadOnly

variable {first : Action Note Error Value} {next : Value → Action Note Error Next}

theorem bind (looks : first.IsReadOnly) (more : ∀ value, (next value).IsReadOnly) :
    (first >>= next).IsReadOnly :=
  fun tree => (tree_bind_of_looks more tree).trans (looks tree)

/-- After a look the rest starts on the same files. -/
theorem yields_bind_iff (looks : first.IsReadOnly) :
    (first >>= next).Yields tree last after ↔
      ∃ value, (first tree).result = .ok value ∧ (next value).Yields tree last after := by
  refine Action.yields_bind_iff.trans (exists_congr fun value => ?_)
  constructor
  · rintro ⟨between, ⟨result, here⟩, run⟩
    rw [looks] at here
    exact ⟨result, here ▸ run⟩
  · rintro ⟨result, run⟩
    exact ⟨tree, ⟨result, looks tree⟩, run⟩

theorem fails_bind (looks : first.IsReadOnly) (run : (first >>= next).Fails tree error after) :
    (first tree).result = .error error ∧ tree = after ∨
      ∃ value, (first tree).result = .ok value ∧ (next value).Fails tree error after := by
  rcases fails_bind_iff.mp run with ⟨result, here⟩ | ⟨value, between, ⟨result, here⟩, run⟩
  · rw [looks] at here
    exact Or.inl ⟨result, here⟩
  · rw [looks] at here
    exact Or.inr ⟨value, result, here ▸ run⟩

theorem fails_rest (looks : first.IsReadOnly) (result : (first tree).result = .ok value)
    (run : (next value).Fails tree error after) : (first >>= next).Fails tree error after :=
  fails_bind_iff.mpr (Or.inr ⟨value, tree, ⟨result, looks tree⟩, run⟩)

end IsReadOnly

end SchemaDoc.Workspace.Action
