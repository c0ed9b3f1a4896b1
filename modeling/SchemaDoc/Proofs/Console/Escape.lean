import Mathlib.Data.List.TakeWhile
import Mathlib.Tactic.Common
import SchemaDoc.Console.Rendering

/-!
# Escaped text

Escaping leaves no tag that takes effect: every tag of the text gets an odd number of backslashes
in front, and nothing that was no tag becomes one. So text that is escaped can always be shown.
-/
namespace SchemaDoc.Console

/-- How a piece of a text is written so that it stands for itself. -/
def Piece.escaped : Piece → List Char
  | .plain content => content
  | .tag backslashes content => List.replicate (2 * backslashes + 1) '\\' ++ writeTag content

/-- Whether a piece is shown as text. -/
def Piece.IsText : Piece → Prop
  | .plain _ => True
  | .tag backslashes _ => backslashes % 2 = 1

/-- What may come behind an escaped text. -/
def IsTail (tail : List Char) : Prop :=
  tail = [] ∨ tail = ['\\']

theorem escape_eq (text : List Char) :
    ∃ tail, IsTail tail ∧ escape text = (pieces text).flatMap Piece.escaped ++ tail := by
  have alike : ∀ write : Piece → List Char, (∀ piece, write piece = piece.escaped) →
      (pieces text).flatMap write = (pieces text).flatMap Piece.escaped :=
    fun write same => congrArg ((pieces text).flatMap ·) (funext same)
  rw [escape]
  split
  · refine ⟨[], Or.inl rfl, ?_⟩
    rw [List.append_nil]
    exact alike _ fun piece => by cases piece <;> rfl
  · exact ⟨['\\'], Or.inr rfl, congrArg (· ++ ['\\']) (alike _ fun piece => by cases piece <;> rfl)⟩
  · refine ⟨[], Or.inl rfl, ?_⟩
    rw [List.append_nil]
    exact alike _ fun piece => by cases piece <;> rfl

/-! ### Tags and brackets -/

section Tags

variable {backslashes : Nat} {char : Char} {text content rest after : List Char}

/-- A tag starts with a letter of its own kind, and the next bracket closes it. -/
theorem readTag_isSome_iff :
    (readTag ('[' :: char :: rest)).isSome ↔
      isTagStart char = true ∧ rest.find? isBracket = some ']' := by
  rw [List.find?_eq_head?_dropWhile_not, readTag]
  cases isTagStart char with
  | false => simp
  | true =>
    simp only [if_true, true_and]
    split
    next same => simp [same]
    next other =>
      simp only [Option.isSome_none, Bool.false_eq_true, false_iff]
      intro closed
      obtain ⟨more, found⟩ := List.head?_eq_some_iff.mp closed
      exact other more found

theorem readTag_of_ne (apart : char ≠ '[') : readTag (char :: rest) = none := by
  rw [readTag]
  intro _ _ same
  cases same
  exact apart rfl

/-- A tag that was read is read again, whatever follows. -/
theorem readTag_writeTag (found : readTag text = some (content, after)) :
    text = writeTag content ++ after ∧
      ∀ other, readTag (writeTag content ++ other) = some (content, other) := by
  unfold readTag at found
  split at found
  next first rest =>
    split at found
    next starts =>
      split at found
      next tail same =>
        simp only [Option.some.injEq, Prod.mk.injEq] at found
        obtain ⟨rfl, rfl⟩ := found
        -- What is taken has no bracket, and the next one closes the tag.
        have split : rest = rest.takeWhile (!isBracket ·) ++ ']' :: tail := by
          rw [← same, List.takeWhile_append_dropWhile]
        refine ⟨by rw [writeTag]; simpa using split, fun other => ?_⟩
        have clean : ∀ char ∈ rest.takeWhile (!isBracket ·), (!isBracket char) = true :=
          fun char member => by simpa using List.mem_takeWhile_imp member
        have closes : (!isBracket ']') = false := by decide
        simp [writeTag, readTag, starts, List.takeWhile_append_of_pos clean,
          List.dropWhile_append_of_pos clean, closes]
      · cases found
    · cases found
  · cases found

/-! ### The pieces of a text -/

theorem piecesAfter_backslash (backslashes : Nat) (rest : List Char) :
    piecesAfter backslashes ('\\' :: rest) = piecesAfter (backslashes + 1) rest := by
  rw [piecesAfter]

theorem piecesAfter_replicate (backslashes count : Nat) (rest : List Char) :
    piecesAfter backslashes (List.replicate count '\\' ++ rest) =
      piecesAfter (backslashes + count) rest := by
  induction count generalizing backslashes with
  | zero => rfl
  | succ count ih =>
    rw [List.replicate_succ, List.cons_append, piecesAfter_backslash, ih]
    congr 1
    omega

theorem piecesAfter_tag (backslashes : Nat) (found : readTag text = some (content, after)) :
    piecesAfter backslashes text = .tag backslashes content :: piecesAfter 0 after := by
  obtain ⟨rfl, _⟩ := readTag_writeTag found
  rw [writeTag, List.cons_append, List.cons_append] at found ⊢
  rw [piecesAfter]
  · split
    next same =>
      rw [found] at same
      cases same
      rfl
    next same =>
      rw [found] at same
      cases same
  · decide

theorem piecesAfter_plain (backslashes : Nat) (apart : char ≠ '\\')
    (plain : readTag (char :: rest) = none) :
    piecesAfter backslashes (char :: rest) =
      pushPlain (List.replicate backslashes '\\' ++ [char]) (piecesAfter 0 rest) := by
  rw [piecesAfter]
  · split
    next same =>
      rw [plain] at same
      cases same
    · rfl
  · exact apart

end Tags

/-! ### The pieces of escaped text -/

theorem flatMap_pushPlain (text : List Char) (pieces : List Piece) :
    (pushPlain text pieces).flatMap Piece.escaped = text ++ pieces.flatMap Piece.escaped := by
  cases pieces with
  | nil => rfl
  | cons piece rest =>
    cases piece <;> simp [pushPlain, Piece.escaped]

theorem isText_pushPlain {text : List Char} {pieces : List Piece}
    (all : ∀ piece ∈ pieces, piece.IsText) : ∀ piece ∈ pushPlain text pieces, piece.IsText := by
  intro piece member
  cases pieces with
  | nil =>
    rw [List.mem_singleton.mp member]
    trivial
  | cons first rest =>
    cases first with
    | plain content =>
      rcases List.mem_cons.mp member with rfl | behind
      · trivial
      · exact all piece (List.mem_cons_of_mem _ behind)
    | tag backslashes content =>
      rcases List.mem_cons.mp member with rfl | behind
      · trivial
      · exact all piece behind

/-- What escaping makes of a text in which so many backslashes were just passed, with what may
come behind. -/
def escapedAfter (backslashes : Nat) (text tail : List Char) : List Char :=
  (piecesAfter backslashes text).flatMap Piece.escaped ++ tail

/-- A text is cut from its start: there is nothing left, or a backslash, or a tag, or a character
that is neither. -/
theorem piecesAfter_induction {motive : Nat → List Char → Prop}
    (nil : ∀ backslashes, motive backslashes [])
    (backslash : ∀ backslashes rest, motive (backslashes + 1) rest →
      motive backslashes ('\\' :: rest))
    (tag : ∀ backslashes content after,
      (∀ other, readTag (writeTag content ++ other) = some (content, other)) →
        motive 0 after → motive backslashes (writeTag content ++ after))
    (plain : ∀ backslashes char rest, char ≠ '\\' → readTag (char :: rest) = none →
      motive 0 rest → motive backslashes (char :: rest))
    (backslashes : Nat) (text : List Char) : motive backslashes text := by
  induction backslashes, text using piecesAfter.induct with
  | case1 | case2 => exact nil _
  | case3 backslashes rest ih => exact backslash backslashes rest ih
  | case4 backslashes char rest _ content after found ih =>
    obtain ⟨same, again⟩ := readTag_writeTag found
    rw [same]
    exact tag backslashes content after again ih
  | case5 backslashes char rest apart missing ih =>
    exact plain backslashes char rest apart missing ih

section Escaped

variable {tail : List Char} {backslashes : Nat} {char : Char} {rest content after : List Char}

theorem escapedAfter_nil :
    escapedAfter backslashes [] tail = List.replicate backslashes '\\' ++ tail := by
  rw [escapedAfter, piecesAfter]
  split
  next none => simp [none]
  · simp [Piece.escaped]

theorem escapedAfter_backslash :
    escapedAfter backslashes ('\\' :: rest) tail = escapedAfter (backslashes + 1) rest tail := by
  rw [escapedAfter, piecesAfter_backslash, escapedAfter]

theorem escapedAfter_tag
    (read : ∀ other, readTag (writeTag content ++ other) = some (content, other)) :
    escapedAfter backslashes (writeTag content ++ after) tail =
      List.replicate (2 * backslashes + 1) '\\' ++
        (writeTag content ++ escapedAfter 0 after tail) := by
  rw [escapedAfter, piecesAfter_tag backslashes (read after), List.flatMap_cons, escapedAfter,
    Piece.escaped, List.append_assoc, List.append_assoc]

theorem escapedAfter_plain (apart : char ≠ '\\') (plain : readTag (char :: rest) = none) :
    escapedAfter backslashes (char :: rest) tail =
      List.replicate backslashes '\\' ++ char :: escapedAfter 0 rest tail := by
  rw [escapedAfter, piecesAfter_plain backslashes apart plain, flatMap_pushPlain, escapedAfter]
  simp

theorem find?_replicate_backslash (count : Nat) (rest : List Char) :
    (List.replicate count '\\' ++ rest).find? isBracket = rest.find? isBracket := by
  induction count with
  | zero => rfl
  | succ count ih =>
    rw [List.replicate_succ, List.cons_append, List.find?_cons_of_neg (by decide), ih]

/-- Backslashes are no brackets, so the first bracket is the same. -/
theorem find?_escapedAfter (ends : IsTail tail) (backslashes : Nat) (text : List Char) :
    (escapedAfter backslashes text tail).find? isBracket = text.find? isBracket := by
  induction backslashes, text using piecesAfter_induction with
  | nil backslashes =>
    rw [escapedAfter_nil, find?_replicate_backslash]
    rcases ends with rfl | rfl <;> decide
  | backslash backslashes rest ih =>
    rw [escapedAfter_backslash, ih, List.find?_cons_of_neg (by decide)]
  | tag backslashes content after read ih =>
    rw [escapedAfter_tag read, find?_replicate_backslash, writeTag]
    simp [isBracket]
  | plain backslashes char rest apart missing ih =>
    rw [escapedAfter_plain apart missing, find?_replicate_backslash, List.find?_cons,
      List.find?_cons, ih]

/-- Escaped text starts as the text does, or with a backslash. -/
theorem head?_escapedAfter (ends : IsTail tail) (backslashes : Nat) (text : List Char)
    {first : Char} (starts : (escapedAfter backslashes text tail).head? = some first)
    (other : first ≠ '\\') : backslashes = 0 ∧ text.head? = some first := by
  -- Backslashes that were passed come first.
  have passed : ∀ {count : Nat} {rest : List Char},
      (List.replicate count '\\' ++ rest).head? = some first →
        count = 0 ∧ rest.head? = some first := by
    intro count rest found
    cases count with
    | zero => exact ⟨rfl, found⟩
    | succ count =>
      rw [List.replicate_succ] at found
      cases found
      exact absurd rfl other
  induction backslashes, text using piecesAfter_induction with
  | nil backslashes =>
    rw [escapedAfter_nil] at starts
    obtain ⟨_, found⟩ := passed starts
    rcases ends with rfl | rfl
    · cases found
    · cases found
      exact absurd rfl other
  | backslash backslashes rest ih =>
    rw [escapedAfter_backslash] at starts
    exact absurd (ih starts).1 (Nat.succ_ne_zero _)
  | tag backslashes content after read ih =>
    rw [escapedAfter_tag read] at starts
    exact absurd (passed starts).1 (Nat.succ_ne_zero _)
  | plain backslashes char rest apart missing ih =>
    rw [escapedAfter_plain apart missing] at starts
    obtain ⟨none, found⟩ := passed starts
    exact ⟨none, found⟩

/-- What is no tag does not become one. -/
theorem readTag_escapedAfter (ends : IsTail tail) (plain : readTag (char :: rest) = none) :
    readTag (char :: escapedAfter 0 rest tail) = none := by
  by_cases opens : char = '['
  · subst opens
    by_contra found
    obtain ⟨first, more, split⟩ : ∃ first more, escapedAfter 0 rest tail = first :: more := by
      cases same : escapedAfter 0 rest tail with
      | nil => simp [same, readTag] at found
      | cons first more => exact ⟨first, more, rfl⟩
    rw [split] at found
    obtain ⟨starts, closed⟩ := readTag_isSome_iff.mp (Option.isSome_iff_ne_none.mpr found)
    -- A character that starts a tag is there already, and so is the bracket that would close it.
    have letter : isBracket first = false ∧ first ≠ '\\' := by
      constructor
      · by_contra bracket
        simp only [isBracket, Bool.not_eq_false, Bool.or_eq_true, beq_iff_eq] at bracket
        rcases bracket with rfl | rfl <;> cases starts
      · rintro rfl
        cases starts
    have bracket := find?_escapedAfter ends 0 rest
    have head := (head?_escapedAfter ends 0 rest (by rw [split]; rfl) letter.2).2
    obtain ⟨others, rfl⟩ := List.head?_eq_some_iff.mp head
    rw [split, List.find?_cons_of_neg (by simp [letter.1]),
      List.find?_cons_of_neg (by simp [letter.1]), closed] at bracket
    have again := readTag_isSome_iff.mpr ⟨starts, bracket.symm⟩
    rw [plain] at again
    cases again
  · exact readTag_of_ne opens

/-- Escaped text has no tag that takes effect. -/
theorem isText_escapedAfter (ends : IsTail tail) (backslashes : Nat) (text : List Char) :
    ∀ piece ∈ piecesAfter 0 (escapedAfter backslashes text tail), piece.IsText := by
  induction backslashes, text using piecesAfter_induction with
  | nil backslashes =>
    obtain ⟨count, only⟩ : ∃ count, escapedAfter backslashes [] tail =
        List.replicate count '\\' ++ [] := by
      rw [escapedAfter_nil]
      rcases ends with rfl | rfl
      · exact ⟨backslashes, rfl⟩
      · exact ⟨backslashes + 1, by simp [List.replicate_succ']⟩
    rw [only, piecesAfter_replicate, piecesAfter]
    intro piece member
    split at member
    · cases member
    · rw [List.mem_singleton.mp member]
      trivial
  | backslash backslashes rest ih =>
    rw [escapedAfter_backslash]
    exact ih
  | tag backslashes content after read ih =>
    rw [escapedAfter_tag read, piecesAfter_replicate, piecesAfter_tag _ (read _)]
    intro piece member
    rcases List.mem_cons.mp member with rfl | behind
    · simp [Piece.IsText]
    · exact ih piece behind
  | plain backslashes char rest apart missing ih =>
    rw [escapedAfter_plain apart missing, piecesAfter_replicate,
      piecesAfter_plain _ apart (readTag_escapedAfter ends missing)]
    exact isText_pushPlain ih

end Escaped

theorem isText_escape (text : List Char) : ∀ piece ∈ pieces (escape text), piece.IsText := by
  obtain ⟨tail, ends, same⟩ := escape_eq text
  rw [same]
  exact isText_escapedAfter ends 0 text

/-! ### Showing escaped text -/

theorem addPiece_isText {piece : Piece} (text : piece.IsText) (rendering : Rendering) :
    ∃ after, rendering.addPiece piece = .ok after ∧ after.opened = rendering.opened ∧
      after.spans = rendering.spans := by
  cases piece with
  | plain content => exact ⟨_, rfl, rfl, rfl⟩
  | tag backslashes content => exact ⟨_, if_pos text, rfl, rfl⟩

/-- Pieces that are text are added behind what is there, and open or close nothing. -/
theorem foldlM_isText {pieces : List Piece} (all : ∀ piece ∈ pieces, piece.IsText)
    (rendering : Rendering) :
    ∃ after, pieces.foldlM Rendering.addPiece rendering = .ok after ∧
      after.opened = rendering.opened ∧ after.spans = rendering.spans := by
  induction pieces generalizing rendering with
  | nil => exact ⟨rendering, rfl, rfl, rfl⟩
  | cons piece rest ih =>
    obtain ⟨middle, added, opened, spans⟩ := addPiece_isText (all piece (by simp)) rendering
    obtain ⟨after, shown, opened', spans'⟩ :=
      ih (fun other later => all other (by simp [later])) middle
    refine ⟨after, ?_, opened'.trans opened, spans'.trans spans⟩
    rw [List.foldlM_cons, added]
    exact shown

/-- A text can be shown if the styles of all its parts can be read. -/
theorem show?_of_render {text : List Char} {rendering : Rendering}
    (rendered : render text = .ok rendering)
    (readable : ∀ span ∈ rendering.allSpans, Rendering.checkSpan span = .ok ()) :
    ∃ line, show? text = .ok line := by
  have checked : ∀ spans : List Span, (∀ span ∈ spans, Rendering.checkSpan span = .ok ()) →
      spans.forM Rendering.checkSpan = .ok () := by
    intro spans all
    induction spans with
    | nil => rfl
    | cons span rest ih =>
      rw [List.forM, all span (by simp)]
      exact ih fun other later => all other (by simp [later])
  have shown := checked (rendering.allSpans.filter rendering.shows) fun span member =>
    readable span (List.mem_filter.mp member).1
  rw [show?, rendered]
  exact ⟨_, by simp only [bind, Except.bind, shown]; rfl⟩

end SchemaDoc.Console
