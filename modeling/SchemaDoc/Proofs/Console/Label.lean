import Mathlib.Data.List.Basic
import SchemaDoc.Proofs.Console.Escape

/-!
# Labelled lines

Lines for the user start with a word in color. What follows can be shown whenever it has no tag
that takes effect, and so it can if it is escaped, as it is in complaints.
-/
namespace SchemaDoc.Console

/-- What all characters of a text pass can be computed along the text. -/
theorem forall_mem_of_all {Passes : Char → Prop} [DecidablePred Passes] {text : List Char}
    (all : (text.all fun char => decide (Passes char)) = true) : ∀ char ∈ text, Passes char :=
  fun char member => of_decide_eq_true (List.all_eq_true.mp all char member)

/-! ### Colors -/

theorem lowerAfter_eq_self {text : List Char}
    (small : ∀ char ∈ text, Text.smallLetter? char = none ∧ char ≠ '\u03A3' ∧ char ≠ '\u0130')
    (letters : Bool) : Text.lowerAfter letters text = text := by
  induction text generalizing letters with
  | nil => rfl
  | cons char rest ih =>
    obtain ⟨kept, sigma, dotted⟩ := small char (by simp)
    rw [Text.lowerAfter, if_neg sigma, if_neg dotted, kept, Option.getD_none,
      ih fun other later => small other (by simp [later])]

/-- What is read as one tag when it stands in brackets. -/
structure IsTag (content : List Char) : Prop where
  starts : content.head?.any isTagStart = true
  clean : ∀ char ∈ content, isBracket char = false

/-- A word that is written in small letters and is the name of a color. -/
structure IsColor (color : List Char) : Prop where
  small : ∀ char ∈ color, Text.smallLetter? char = none ∧ char ≠ '\u03A3' ∧ char ≠ '\u0130'
  word : Text.words color = [color]
  special : Text.strip color ≠ "none".toList ∧ color ≠ "on".toList ∧ color ≠ "not".toList ∧
    color ≠ "link".toList
  unswitched : Switch.ofWord? color = none
  listed : (colorNames.any fun line => (Text.words line.toList).contains color) = true
  unhashed : color.head? ≠ some '#'
  /-- As a tag it goes by its own text, and opens no action. -/
  tag : tagName color = color ∧ tagParameters color = none ∧ color.head? ≠ some '/' ∧
    color.head? ≠ some '@'
  closing : Text.strip ((tagName ('/' :: color)).drop 1) = color
  opened : IsTag color
  closed : IsTag ('/' :: color)

theorem listed_of_first {color : List Char}
    (first : (Text.words ("black red green yellow blue magenta cyan white bright_black " ++
      "bright_red bright_green").toList).contains color = true) :
    (colorNames.any fun line => (Text.words line.toList).contains color) = true := by
  rw [colorNames, List.any_cons, Bool.or_eq_true]
  exact Or.inl first

theorem isColor_red : IsColor "red".toList where
  small := forall_mem_of_all (by decide)
  word := by decide
  special := by decide
  unswitched := by decide
  listed := listed_of_first (by cbv)
  unhashed := by decide
  tag := by decide
  closing := by decide
  opened := ⟨by decide, forall_mem_of_all (by decide)⟩
  closed := ⟨by decide, forall_mem_of_all (by decide)⟩

theorem isColor_green : IsColor "green".toList where
  small := forall_mem_of_all (by decide)
  word := by decide
  special := by decide
  unswitched := by decide
  listed := listed_of_first (by cbv)
  unhashed := by decide
  tag := by decide
  closing := by decide
  opened := ⟨by decide, forall_mem_of_all (by decide)⟩
  closed := ⟨by decide, forall_mem_of_all (by decide)⟩

section Color

variable {color : List Char}

theorem IsColor.ofText (known : IsColor color) :
    Style.ofText color = .ok { color := some color } := by
  obtain ⟨none, on, not, link⟩ := known.special
  have lower : Text.lower color = color := lowerAfter_eq_self known.small false
  have checked : checkColor color = .ok () := by
    rw [checkColor, known.listed, Bool.or_true, if_pos rfl]
    rintro digits rfl
    exact known.unhashed rfl
  rw [Style.ofText, if_neg (by simpa using none), known.word, readStyle, lower]
  simp only [beq_iff_eq, on, not, link, if_false, known.unswitched, checked]
  rfl

theorem IsColor.styleName (known : IsColor color) : styleName color = .ok color := by
  have text : ({ color := some color } : Style).text = color := by
    simp [Style.text, Style.words, Switch.all, Workspace.joinWith]
  have normal : normalStyle color = .ok color := by
    rw [normalStyle, known.ofText]
    exact congrArg Except.ok text
  rw [Console.styleName, normal]

/-- A tag without backslashes takes effect. -/
theorem addPiece_tag (rendering : Rendering) (content : List Char) :
    rendering.addPiece (.tag 0 content) = rendering.follow content := by
  have same : rendering.append [] = rendering := by simp [Rendering.append]
  rw [Rendering.addPiece, if_neg (by decide), Nat.zero_div, List.replicate_zero, same]

theorem IsColor.opens (known : IsColor color) (rendering : Rendering) :
    rendering.addPiece (.tag 0 color) = .ok
      { rendering with opened := ⟨color, none, rendering.text.length⟩ :: rendering.opened } := by
  obtain ⟨name, passes, slash, _⟩ := known.tag
  rw [addPiece_tag, Rendering.follow, if_neg (by simpa using slash), Rendering.openTag, name,
    passes, known.styleName]
  rfl

theorem IsColor.closes (known : IsColor color) (rendering : Rendering) {start : Nat}
    (opened : rendering.opened = [⟨color, none, start⟩]) :
    rendering.addPiece (.tag 0 ('/' :: color)) = .ok
      { rendering with
        opened := []
        spans := ⟨color, start, rendering.text.length⟩ :: rendering.spans } := by
  have filled : color.isEmpty = false := by
    cases color with
    | nil => cases known.word
    | cons char rest => rfl
  have plain : (OpenTag.mk color none start).isAction = false := by
    simpa [OpenTag.isAction] using known.tag.2.2.2
  rw [addPiece_tag, Rendering.follow, if_pos (by simp), Rendering.closeNamed, known.closing,
    known.styleName, opened]
  simp [filled, Rendering.closeTag, plain, OpenTag.style, bind, Except.bind, pure, Except.pure]

end Color

/-! ### The pieces of a labelled line -/

/-- A word in color, as it is written in front of a line. -/
def labelOf (color word : List Char) : List Char :=
  writeTag color ++ (word ++ (writeTag ('/' :: color) ++ [' ']))

/-- A word that is shown as it is written. -/
structure IsPlainWord (word : List Char) : Prop where
  filled : word ≠ []
  solid : ∀ char ∈ word, char ≠ '\\' ∧ char ≠ '['
  shown : readPlain word = word
  kept : ∀ char ∈ word, isDropped char = false

theorem IsTag.readTag {content : List Char} (tag : IsTag content) (rest : List Char) :
    readTag (writeTag content ++ rest) = some (content, rest) := by
  obtain ⟨starts, clean⟩ := tag
  cases content with
  | nil => cases starts
  | cons first more =>
    have open' : ∀ char ∈ more, (!isBracket char) = true := fun char member => by
      rw [clean char (List.mem_cons_of_mem first member)]
      rfl
    have closes : (!isBracket ']') = false := by decide
    have letter : isTagStart first = true := starts
    simp [writeTag, Console.readTag, letter, List.takeWhile_append_of_pos open',
      List.dropWhile_append_of_pos open', closes]

/-- A word without backslashes and opening brackets is one piece with what is plain behind it. -/
theorem piecesAfter_solid {word : List Char} (filled : word ≠ [])
    (solid : ∀ char ∈ word, char ≠ '\\' ∧ char ≠ '[') (rest : List Char) :
    piecesAfter 0 (word ++ rest) = pushPlain word (piecesAfter 0 rest) := by
  induction word with
  | nil => exact absurd rfl filled
  | cons char more ih =>
    obtain ⟨apart, closed⟩ := solid char (by simp)
    have first : piecesAfter 0 (char :: (more ++ rest)) =
        pushPlain [char] (piecesAfter 0 (more ++ rest)) :=
      piecesAfter_plain 0 apart (readTag_of_ne closed)
    rw [List.cons_append, first]
    cases more with
    | nil => rfl
    | cons next others =>
      rw [ih (by simp) fun other member => solid other (List.mem_cons_of_mem char member)]
      cases piecesAfter 0 rest with
      | nil => rfl
      | cons piece _ => cases piece <;> rfl

theorem pieces_labelOf {color word : List Char} (known : IsColor color)
    (plain : IsPlainWord word) (rest : List Char) :
    pieces (labelOf color word ++ rest) =
      .tag 0 color :: .plain word :: .tag 0 ('/' :: color) :: pushPlain [' '] (pieces rest) := by
  have blank : piecesAfter 0 (' ' :: rest) = pushPlain [' '] (piecesAfter 0 rest) :=
    piecesAfter_plain 0 (by decide) (readTag_of_ne (by decide))
  rw [labelOf, List.append_assoc, List.append_assoc, List.append_assoc, pieces,
    piecesAfter_tag 0 (known.opened.readTag _), piecesAfter_solid plain.filled plain.solid,
    piecesAfter_tag 0 (known.closed.readTag _), List.singleton_append, blank]
  rfl

/-! ### Showing a labelled line -/

/-- What is rendered of a label: its word, with the color. -/
def renderedLabel (color word : List Char) : Rendering where
  text := word
  spans := [⟨color, 0, word.length⟩]

/-- A line behind a label is rendered like any other, with no tag open when it starts. -/
theorem render_labelOf {color word : List Char} (known : IsColor color)
    (plain : IsPlainWord word) (rest : List Char) :
    render (labelOf color word ++ rest) =
      (pushPlain [' '] (pieces rest)).foldlM Rendering.addPiece (renderedLabel color word) := by
  have opening : Rendering.addPiece {} (.tag 0 color) = .ok { opened := [⟨color, none, 0⟩] } :=
    known.opens {}
  have adding : Rendering.addPiece { opened := [⟨color, none, 0⟩] } (.plain word) =
      .ok { text := word, opened := [⟨color, none, 0⟩] } := by
    have all : word.filter (!isDropped ·) = word :=
      List.filter_eq_self.mpr fun char member => by rw [plain.kept char member]; rfl
    rw [Rendering.addPiece, plain.shown]
    simp [Rendering.append, all]
  have closing : Rendering.addPiece { text := word, opened := [⟨color, none, 0⟩] }
      (.tag 0 ('/' :: color)) = .ok (renderedLabel color word) :=
    known.closes _ rfl
  rw [render, pieces_labelOf known plain]
  simp only [List.foldlM_cons, opening, adding, closing, bind, Except.bind]

/-- A line behind a label can be shown if it has no tag that takes effect. -/
theorem show?_labelOf {color word rest : List Char} (known : IsColor color)
    (plain : IsPlainWord word) (inert : ∀ piece ∈ pieces rest, piece.IsText) :
    ∃ line, show? (labelOf color word ++ rest) = .ok line := by
  obtain ⟨rendering, shown, opened, spans⟩ := foldlM_isText
    (isText_pushPlain inert : ∀ piece ∈ pushPlain [' '] (pieces rest), piece.IsText)
    (renderedLabel color word)
  have rendered := (render_labelOf known plain rest).trans shown
  refine show?_of_render rendered fun span member => ?_
  -- Only the label has a style.
  have only : rendering.allSpans = [⟨color, 0, word.length⟩] := by
    rw [Rendering.allSpans, opened, spans]
    rfl
  rw [only, List.mem_singleton] at member
  rw [member, Rendering.checkSpan, known.ofText]

/-- What is said of a failure can be shown, whatever it is. -/
theorem show?_complaint (message : List Char) :
    ∃ line, show? ("[red]error:[/red] ".toList ++ escape message) = .ok line := by
  have word : IsPlainWord "error:".toList :=
    ⟨by decide, forall_mem_of_all (by decide), by cbv, forall_mem_of_all (by decide)⟩
  exact show?_labelOf isColor_red word (isText_escape message)

theorem isPlainWord_wrote : IsPlainWord "Wrote".toList :=
  ⟨by decide, forall_mem_of_all (by decide), by cbv, forall_mem_of_all (by decide)⟩

/-- That a file was written can be said if its path has no tag that takes effect. -/
theorem show?_wrote {text : List Char} (inert : ∀ piece ∈ pieces text, piece.IsText) :
    ∃ line, show? ("[green]Wrote[/green] ".toList ++ text) = .ok line :=
  show?_labelOf isColor_green isPlainWord_wrote inert

/-- What cannot be rendered behind the label cannot be said. -/
theorem show?_wrote_error {text : List Char} {fault : MarkupFault}
    (stuck : (pushPlain [' '] (pieces text)).foldlM Rendering.addPiece
      (renderedLabel "green".toList "Wrote".toList) = .error fault) :
    show? ("[green]Wrote[/green] ".toList ++ text) = .error fault := by
  have rendered := render_labelOf isColor_green isPlainWord_wrote text
  rw [stuck] at rendered
  have written : "[green]Wrote[/green] ".toList = labelOf "green".toList "Wrote".toList := by
    decide
  rw [show?, written, rendered]
  rfl

end SchemaDoc.Console
