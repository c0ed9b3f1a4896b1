import SchemaDoc.Proofs.Text.Utf8

/-!
# Places between characters

A text may be cut at a place of its bytes without breaking a character if the bytes before the
place write a text. The bytes between two such places then write a text, too. A byte of ASCII is
always a character of its own, so such a place lies on both sides of it.
-/
namespace SchemaDoc.Text

open String (utf8EncodeChar)

/-- A place in the bytes of a text at which no character is broken. -/
def IsBoundary (text : List Char) (place : Nat) : Prop :=
  ∃ before after, before ++ after = text ∧ (encode before).length = place

theorem encode_append (first second : List Char) :
    encode (first ++ second) = encode first ++ encode second :=
  List.flatMap_append

theorem isBoundary_zero (text : List Char) : IsBoundary text 0 :=
  ⟨[], text, rfl, rfl⟩

theorem isBoundary_length (text : List Char) : IsBoundary text (encode text).length :=
  ⟨text, [], List.append_nil text, rfl⟩

theorem IsBoundary.le {text : List Char} {place : Nat} (boundary : IsBoundary text place) :
    place ≤ (encode text).length := by
  obtain ⟨before, after, rfl, rfl⟩ := boundary
  rw [encode_append, List.length_append]
  exact Nat.le_add_right _ _

theorem IsBoundary.max {text : List Char} {first second : Nat} (one : IsBoundary text first)
    (two : IsBoundary text second) : IsBoundary text (max first second) := by
  rcases Nat.le_total first second with order | order
  · rw [Nat.max_eq_right order]
    exact two
  · rw [Nat.max_eq_left order]
    exact one

theorem IsBoundary.cons {text : List Char} {place : Nat} (boundary : IsBoundary text place)
    (char : Char) : IsBoundary (char :: text) ((utf8EncodeChar char).length + place) := by
  obtain ⟨before, after, rfl, rfl⟩ := boundary
  exact ⟨char :: before, after, rfl, by rw [encode_cons, List.length_append]⟩

/-- The bytes between two boundaries write a text. -/
theorem IsBoundary.between {text : List Char} {low high : Nat} (first : IsBoundary text low)
    (second : IsBoundary text high) :
    ∃ piece, ((encode text).take high).drop low = encode piece := by
  obtain ⟨before, after, rfl, rfl⟩ := first
  obtain ⟨before', after', same, rfl⟩ := second
  rcases List.append_eq_append_iff.mp same with ⟨piece, rfl, rfl⟩ | ⟨piece, rfl, rfl⟩
  · -- The second boundary comes first, so there is nothing between.
    refine ⟨[], List.drop_eq_nil_of_le (Nat.le_trans (List.length_take_le _ _) ?_)⟩
    rw [encode_append, List.length_append]
    exact Nat.le_add_right _ _
  · refine ⟨piece, ?_⟩
    rw [← List.append_assoc, encode_append _ after', List.take_left, encode_append, List.drop_left]

/-- The bytes behind a boundary write a text. -/
theorem IsBoundary.behind {text : List Char} {place : Nat} (boundary : IsBoundary text place) :
    ∃ piece, (encode text).drop place = encode piece := by
  obtain ⟨piece, same⟩ := boundary.between (isBoundary_length text)
  rw [List.take_length] at same
  exact ⟨piece, same⟩

/-! ### Bytes of ASCII -/

/-- A byte of ASCII is no part of a longer character. -/
theorem encodeChar_of_ascii {char : Char} {byte : UInt8} (member : byte ∈ utf8EncodeChar char)
    (ascii : byte < 0x80) : utf8EncodeChar char = [byte] := by
  have valid : char.toNat < 0x110000 := by
    rcases isValidChar_toNat char with low | ⟨_, high⟩ <;> omega
  have marked {number : Nat} (high : 0x80 ≤ number) (small : number < 256) :
      byte ≠ UInt8.ofNat number := by
    rintro rfl
    simp only [UInt8.lt_iff_toNat_lt, toNat_ofNat_byte small, UInt8.reduceToNat] at ascii
    omega
  rw [utf8EncodeChar] at member ⊢
  simp only [Char.toNat_val] at member ⊢
  split at member
  next single =>
    rw [if_pos single, List.mem_singleton.mp member]
  · -- All bytes of a longer character are marked.
    exfalso
    split at member
    · simp only [List.mem_cons, List.not_mem_nil, or_false] at member
      rcases member with same | same <;> exact marked (by omega) (by omega) same
    split at member
    · simp only [List.mem_cons, List.not_mem_nil, or_false] at member
      rcases member with same | same | same <;> exact marked (by omega) (by omega) same
    · simp only [List.mem_cons, List.not_mem_nil, or_false] at member
      rcases member with same | same | same | same <;> exact marked (by omega) (by omega) same

/-- No character is broken on either side of a byte of ASCII. -/
theorem isBoundary_of_ascii {text : List Char} {place : Nat} {byte : UInt8}
    (found : (encode text)[place]? = some byte) (ascii : byte < 0x80) :
    IsBoundary text place ∧ IsBoundary text (place + 1) := by
  -- The place is in the first character, or counted from behind it in the rest.
  induction text generalizing place with
  | nil => simp at found
  | cons char rest ih =>
    rw [encode_cons] at found
    by_cases here : place < (utf8EncodeChar char).length
    · rw [List.getElem?_append_left here] at found
      have alone := encodeChar_of_ascii (List.mem_of_getElem? found) ascii
      have first : place = 0 := by simpa [alone] using here
      have next := (isBoundary_zero rest).cons char
      rw [alone] at next
      subst first
      exact ⟨isBoundary_zero _, next⟩
    · rw [List.getElem?_append_right (Nat.le_of_not_lt here)] at found
      obtain ⟨before, behind⟩ := ih found
      have low := before.cons char
      have high := behind.cons char
      rw [← Nat.add_assoc] at high
      rw [Nat.add_sub_cancel' (Nat.le_of_not_lt here)] at low high
      exact ⟨low, high⟩

end SchemaDoc.Text
