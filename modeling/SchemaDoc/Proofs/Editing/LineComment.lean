import Mathlib.Data.List.DropRight
import SchemaDoc.Proofs.Editing.EntryRemoval

/-!
# Line comments beside removed entries

Two slashes turn the rest of their line into a comment. When an entry is removed, what stood behind
it moves up to the last byte that is kept before it. If that byte is in a line comment, then the
newline that ended the comment is among the blanks that went with the entry, and the code behind
the entry becomes part of the comment. This is the only way in which removing an entry that is
itself outside of comments hides code, but for a slash that meets another one.
-/
namespace SchemaDoc.Editing

open Text (Bytes isBlankByte)

/-- Two of these open a line comment. -/
def slash : UInt8 := 0x2F

/-- The bytes behind the last newline. -/
def lastLine (bytes : Bytes) : Bytes :=
  bytes.rtakeWhile (· != newline)

/-- Two slashes stand before a place on its line. -/
def Commented (buffer : Bytes) (place : Nat) : Prop :=
  [slash, slash] <:+: lastLine (buffer.take place)

/-- A byte belongs to a line comment: two slashes stand before it on its line, or end or start
with it. -/
def InComment (buffer : Bytes) (place : Nat) : Prop :=
  Commented buffer (place + 1) ∨ [slash, slash] <+: buffer.drop place

/-- What is left of a buffer when a region is deleted. -/
def without (buffer : Bytes) (region : Region) : Bytes :=
  (Editor.apply { buffer, pending := [region.deletion] }).buffer

/-- Deleting a region hides code: some byte is left that had no two slashes before it on its line,
and has them now. -/
def HidesCode (buffer : Bytes) (region : Region) : Prop :=
  ∃ place < buffer.length, ¬ region.Covers place ∧ ¬ Commented buffer place ∧
    Commented (without buffer region)
      (if (place : Int) < region.start then place else place - region.length.toNat)

instance (buffer : Bytes) (place : Nat) : Decidable (Commented buffer place) :=
  inferInstanceAs (Decidable (_ <:+: _))

instance (buffer : Bytes) (place : Nat) : Decidable (InComment buffer place) :=
  inferInstanceAs (Decidable (_ ∨ _))

variable {buffer : Bytes}

/-! ### Last lines -/

theorem lastLine_suffix (bytes : Bytes) : lastLine bytes <:+ bytes :=
  List.rtakeWhile_suffix _ _

theorem lastLine_append_of_notMem {front back : Bytes} (plain : newline ∉ back) :
    lastLine (front ++ back) = lastLine front ++ back := by
  have passes : ∀ byte ∈ back.reverse, (byte != newline) = true := by
    intro byte member
    have other : byte ≠ newline := fun same => plain (same ▸ List.mem_reverse.mp member)
    simpa using other
  rw [lastLine, lastLine, List.rtakeWhile, List.rtakeWhile, List.reverse_append,
    List.takeWhile_append_of_pos passes, List.reverse_append, List.reverse_reverse]

theorem lastLine_append_of_mem {front back : Bytes} (ended : newline ∈ back) :
    lastLine (front ++ back) = lastLine back := by
  have stopped : (back.reverse.takeWhile (· != newline)).length ≠ back.reverse.length := by
    intro same
    have all := List.takeWhile_prefix (· != newline) (l := back.reverse) |>.eq_of_length same
    rw [List.takeWhile_eq_self_iff] at all
    simpa using all newline (List.mem_reverse.mpr ended)
  rw [lastLine, lastLine, List.rtakeWhile, List.rtakeWhile, List.reverse_append,
    List.takeWhile_append, if_neg stopped]

theorem lastLine_endsSlash_iff {bytes : Bytes} : [slash] <:+ lastLine bytes ↔ [slash] <:+ bytes := by
  refine ⟨fun ends => ends.trans (lastLine_suffix bytes), ?_⟩
  rintro ⟨rest, rfl⟩
  rw [lastLine_append_of_notMem (by decide)]
  exact List.suffix_append _ _

/-- Two slashes stand in one of two parts, or one at the end of the first and one at the start of
the second. -/
theorem slashes_append_iff {front back : Bytes} :
    [slash, slash] <:+: front ++ back ↔
      [slash, slash] <:+: front ∨ [slash, slash] <:+: back ∨
        [slash] <:+ front ∧ [slash] <+: back := by
  rw [List.infix_append_iff_ne_nil]
  refine or_congr_right (or_congr_right ⟨?_, fun ⟨one, two⟩ => ⟨_, _, by simp, by simp, rfl, one, two⟩⟩)
  rintro ⟨first, second, filled, more, parts, ends, starts⟩
  -- Two bytes that fall in two parts fall into one and one.
  match first, second with
  | [one], [two] =>
    simp only [List.singleton_append, List.cons.injEq, and_true] at parts
    obtain ⟨rfl, rfl⟩ := parts
    exact ⟨ends, starts⟩
  | [], _ => exact absurd rfl filled
  | _, [] => exact absurd rfl more
  | [_], _ :: _ :: _ => simp at parts
  | _ :: _ :: _, _ :: _ => simp at parts

/-! ### What is behind a cut -/

/-- Bytes move from behind `inner` to behind `front`. If they were code before, then some of them
are hidden just when `front` ends inside a comment, or with a slash that meets another one. -/
theorem hides_iff {front inner back : Bytes} (code : ¬ [slash, slash] <:+: lastLine inner)
    (apart : ¬ ([slash] <:+ lastLine inner ∧ [slash] <+: back)) :
    (∃ count < back.length, ¬ [slash, slash] <:+: lastLine (inner ++ back.take count) ∧
        [slash, slash] <:+: lastLine (front ++ back.take count)) ↔
      [slash, slash] <:+: lastLine front ∧ back ≠ [] ∨
        [slash] <:+ lastLine front ∧ [slash] <+: back ∧ 2 ≤ back.length := by
  constructor
  · rintro ⟨count, inside, was, now⟩
    by_cases ended : newline ∈ back.take count
    · -- Behind a newline the line is the same as before.
      rw [lastLine_append_of_mem ended] at was now
      exact absurd now was
    · rw [lastLine_append_of_notMem ended] at was now
      have nonempty : back ≠ [] := List.length_pos_iff.mp (by omega)
      rcases slashes_append_iff.mp now with before | behind | ⟨ends, starts⟩
      · exact Or.inl ⟨before, nonempty⟩
      · exact absurd (slashes_append_iff.mpr (Or.inr (Or.inl behind))) was
      · have first := starts.length_le
        rw [List.length_take, List.length_singleton] at first
        exact Or.inr ⟨ends, starts.trans (List.take_prefix _ _), by omega⟩
  · rintro (⟨before, nonempty⟩ | ⟨ends, starts, more⟩)
    · exact ⟨0, List.length_pos_iff.mpr nonempty, by simpa using code, by simpa using before⟩
    · -- The slash behind the cut is still code, and the byte behind it is the first to be hidden.
      obtain ⟨rest, rfl⟩ := starts
      have plain : newline ∉ [slash] := by decide
      refine ⟨1, by omega, ?_, ?_⟩
      · rw [List.singleton_append, List.take_succ_cons, List.take_zero,
          lastLine_append_of_notMem plain, slashes_append_iff]
        rintro (before | behind | ⟨ends, _⟩)
        · exact code before
        · exact absurd behind (by decide)
        · exact apart ⟨ends, List.prefix_append _ _⟩
      · rw [List.singleton_append, List.take_succ_cons, List.take_zero,
          lastLine_append_of_notMem plain, slashes_append_iff]
        exact Or.inr (Or.inr ⟨ends, List.prefix_rfl⟩)

/-! ### Cutting out a region -/

variable {first last : Nat}

theorem without_between (forward : first ≤ last) (inside : last ≤ buffer.length) :
    without buffer (.between first last) = buffer.take first ++ buffer.drop last := by
  have behind : Splits buffer (buffer.take last) (buffer.drop last) last :=
    ⟨(List.take_append_drop _ _).symm, by rw [List.length_take, Nat.min_eq_left inside]⟩
  have leaves := (Leaves.nothing behind).cut forward
  have whole : Leaves buffer 0 [.between first last] (buffer.take first ++ buffer.drop last) := by
    apply Leaves.whole (List.take_append_drop first buffer).symm
    rwa [List.length_take, Nat.min_eq_left (by omega)]
  exact whole.apply_eq

/-- What is before a cut keeps its line up to there, so only bytes behind it can be hidden. -/
theorem hidesCode_between_iff (forward : first ≤ last) (inside : last ≤ buffer.length) :
    HidesCode buffer (.between first last) ↔
      ∃ count < (buffer.drop last).length,
        ¬ [slash, slash] <:+: lastLine (buffer.take last ++ (buffer.drop last).take count) ∧
          [slash, slash] <:+: lastLine (buffer.take first ++ (buffer.drop last).take count) := by
  have size : (Region.between first last).length.toNat = last - first := by
    simp only [Region.between]
    omega
  have before (count : Nat) : Commented buffer (last + count) ↔
      [slash, slash] <:+: lastLine (buffer.take last ++ (buffer.drop last).take count) := by
    rw [Commented, List.take_add]
  have after (count : Nat) : Commented (without buffer (.between first last)) (first + count) ↔
      [slash, slash] <:+: lastLine (buffer.take first ++ (buffer.drop last).take count) := by
    have front : (buffer.take first).length = first := by
      rw [List.length_take, Nat.min_eq_left (by omega)]
    rw [Commented, without_between forward inside, List.take_append, front,
      Nat.add_sub_cancel_left, List.take_of_length_le (by omega)]
  simp only [HidesCode, Region.Covers, Region.between_start, Region.between_stop, size]
  constructor
  · rintro ⟨place, there, left, was, now⟩
    by_cases early : place < first
    · -- Up to the cut the bytes are the same ones.
      rw [if_pos (by omega), Commented, without_between forward inside, List.take_append,
        List.take_take, Nat.min_eq_left (by omega), List.length_take,
        Nat.min_eq_left (by omega), Nat.sub_eq_zero_of_le (by omega), List.take_zero,
        List.append_nil] at now
      exact absurd now was
    · -- It is not in the cut, so it is behind it and moves up by the size of the cut.
      obtain ⟨count, rfl⟩ := Nat.exists_eq_add_of_le (by omega : last ≤ place)
      have moved : last + count - (last - first) = first + count := by omega
      rw [if_neg (by omega), moved, after] at now
      exact ⟨count, by rw [List.length_drop]; omega, mt (before count).mpr was, now⟩
  · rintro ⟨count, there, was, now⟩
    rw [List.length_drop] at there
    have moved : last + count - (last - first) = first + count := by omega
    refine ⟨last + count, by omega, by omega, mt (before count).mp was, ?_⟩
    rw [if_neg (by omega), moved]
    exact (after count).mpr now

/-! ### Removing an entry -/

theorem isListSyntax_slash : isListSyntax slash = false := by decide

/-- A slash at the end of some bytes is the first of those from there on. -/
theorem slashes_meet {stop : Nat} (later : 0 < stop) (inside : stop ≤ buffer.length)
    (ends : [slash] <:+ buffer.take stop) :
    [slash] ++ buffer.drop stop = buffer.drop (stop - 1) := by
  obtain ⟨rest, same⟩ := ends
  have size := congrArg List.length same
  rw [List.length_append, List.length_singleton, List.length_take, Nat.min_eq_left inside] at size
  have whole := List.take_append_drop stop buffer
  rw [← same, List.append_assoc] at whole
  have here : stop - 1 = rest.length := by omega
  calc [slash] ++ buffer.drop stop
      = (rest ++ ([slash] ++ buffer.drop stop)).drop rest.length := List.drop_left.symm
    _ = buffer.drop (stop - 1) := by rw [whole, here]

/-- An entry outside of comments has no comment behind it, either, before the next code. -/
theorem code_behind_entry {start stop : Nat} (filled : start < stop)
    (outside : ∀ place, start ≤ place → place < stop → ¬ InComment buffer place)
    (grows : Grows isListSyntax buffer start stop first last) :
    ¬ [slash, slash] <:+: lastLine (buffer.take last) ∧
      ¬ ([slash] <:+ lastLine (buffer.take last) ∧ [slash] <+: buffer.drop last) := by
  have forward := grows.after
  have inside := grows.inside
  have before : stop - 1 + 1 = stop := by omega
  have final := outside (stop - 1) (by omega) (by omega)
  simp only [InComment, not_or, Commented, before] at final
  obtain ⟨code, unopened⟩ := final
  -- On the way to the next code there is no slash.
  have solid : slash ∉ (buffer.take last).drop stop := by
    intro member
    have syntax' := grows.back slash member
    rw [isListSyntax_slash] at syntax'
    cases syntax'
  have split := take_split buffer forward
  constructor
  · intro opened
    rw [← split] at opened
    by_cases ended : newline ∈ (buffer.take last).drop stop
    · rw [lastLine_append_of_mem ended] at opened
      exact solid ((lastLine_suffix _).subset (opened.subset (List.mem_cons_self)))
    · rw [lastLine_append_of_notMem ended] at opened
      rcases slashes_append_iff.mp opened with front | behind | ⟨_, starts⟩
      · exact code front
      · exact solid (behind.subset List.mem_cons_self)
      · exact solid (starts.subset List.mem_cons_self)
  · rintro ⟨ends, starts⟩
    replace ends := ends.trans (lastLine_suffix _)
    by_cases adjacent : last = stop
    · -- The last byte of the entry and the one behind it would open a comment.
      subst adjacent
      apply unopened
      rw [← slashes_meet (by omega) inside ends]
      exact (List.prefix_append_right_inj [slash]).mpr starts
    · have between : 1 ≤ ((buffer.take last).drop stop).length := by
        rw [List.length_drop, List.length_take]
        omega
      have ends' := List.suffix_of_suffix_length_le ends (List.drop_suffix stop _) between
      exact solid (ends'.subset List.mem_cons_self)

/-- Removing an entry that is outside of comments hides code just when the last byte that is kept
before it is in a line comment, or is a slash that meets another one, and code is behind it. -/
theorem widenEntry_hidesCode_iff {start stop : Nat} (filled : start < stop)
    (inside : stop ≤ buffer.length)
    (outside : ∀ place, start ≤ place → place < stop → ¬ InComment buffer place) :
    ∃ first last, widenEntry buffer (.between start stop) = .between first last ∧
      first ≤ start ∧ stop ≤ last ∧
      (HidesCode buffer (widenEntry buffer (.between start stop)) ↔
        Commented buffer first ∧ last < buffer.length ∨
          [slash] <:+ buffer.take first ∧ [slash] <+: buffer.drop last ∧
            last + 1 < buffer.length) := by
  have low : start ≤ buffer.length := by omega
  obtain ⟨first, last, wide, grows⟩ := widenEntry_grows low inside
  obtain ⟨code, apart⟩ := code_behind_entry filled outside grows
  have forward := grows.before
  have backward := grows.after
  refine ⟨first, last, wide, forward, backward, ?_⟩
  rw [wide, hidesCode_between_iff (by omega) grows.inside, hides_iff code apart,
    lastLine_endsSlash_iff, Ne, List.drop_eq_nil_iff, List.length_drop, Commented]
  have behind : (¬ buffer.length ≤ last) ↔ last < buffer.length := Nat.not_le
  have further : 2 ≤ buffer.length - last ↔ last + 1 < buffer.length := by omega
  rw [behind, further]

/-- A list with a comment behind its opening bracket. -/
def notedList : Bytes :=
  Text.encode ['[', '/', '/', '\n', 'a', ',', 'b', ']']

/-- Removing the first entry of a list with a comment before it hides the second. -/
theorem widenEntry_hidesCode_noted :
    (4 < 5 ∧ 5 ≤ notedList.length ∧
      ∀ place, 4 ≤ place → place < 5 → ¬ InComment notedList place) ∧
    HidesCode notedList (widenEntry notedList (.between 4 5)) := by
  have inside : 5 ≤ notedList.length := by decide
  have outside : ∀ place, 4 ≤ place → place < 5 → ¬ InComment notedList place := by
    intro place low high
    obtain rfl : place = 4 := by omega
    decide
  refine ⟨⟨by decide, inside, outside⟩, ?_⟩
  obtain ⟨first, last, wide, _, _, hides⟩ := widenEntry_hidesCode_iff (by decide) inside outside
  have found : widenEntry notedList (.between 4 5) = .between 3 5 := by decide
  rw [found] at wide
  obtain ⟨rfl, rfl⟩ : first = 3 ∧ last = 5 := by
    simp only [Region.between, Region.mk.injEq] at wide
    omega
  exact hides.mpr (Or.inl (by decide))

end SchemaDoc.Editing
