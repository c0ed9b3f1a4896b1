import Mathlib.Tactic.Common
import SchemaDoc.Text.Utf8

/-!
# Reading text back from its bytes

Reading and writing UTF-8 are inverse to each other: the bytes of a text read as that text, and
bytes that read as a text are the bytes of that text. So a text has one written form only.

Both directions come from one character. A character is read by its first byte and then by a run
of continuation bytes, each of which adds six bits to the code point read so far.
-/
namespace SchemaDoc.Text

open String (utf8EncodeChar)

theorem toNat_ofNat_of_valid {code : Nat} (valid : code.isValidChar) :
    (Char.ofNat code).toNat = code := by
  rw [Char.ofNat, dif_pos valid]
  rfl

theorem isValidChar_toNat (char : Char) : char.toNat.isValidChar :=
  char.valid

theorem toNat_ofNat_byte {number : Nat} (small : number < 256) :
    (UInt8.ofNat number).toNat = number :=
  UInt8.toNat_ofNat_of_lt' small

theorem continues_iff (byte : UInt8) :
    (0x80 ≤ byte && byte < 0xC0) = true ↔ 0x80 ≤ byte.toNat ∧ byte.toNat < 0xC0 := by
  simp [UInt8.le_iff_toNat_le, UInt8.lt_iff_toNat_lt]

/-! ### What is written is read -/

/-- A continuation byte adds its six low bits. -/
theorem continueChar_cons {least owed code bits : Nat} (rest : Bytes) (small : bits < 64) :
    continueChar least (owed + 1) code (UInt8.ofNat (bits + 0x80) :: rest) =
      continueChar least owed (code * 64 + bits) rest := by
  have value : (UInt8.ofNat (bits + 0x80)).toNat = bits + 0x80 :=
    toNat_ofNat_byte (by omega)
  rw [continueChar, if_pos ((continues_iff _).mpr (by omega)), value, Nat.add_sub_cancel]

/-- The end of the continuation bytes of a character. -/
theorem continueChar_done {least code : Nat} (char : Char) (rest : Bytes)
    (same : code = char.toNat) (enough : least ≤ char.toNat) :
    continueChar least 0 code rest = some (char, rest) := by
  subst same
  rw [continueChar, if_pos ⟨enough, isValidChar_toNat char⟩, Char.ofNat_toNat]

theorem nextChar_two {bits : Nat} (rest : Bytes) (small : bits < 0x20) :
    nextChar (UInt8.ofNat (bits + 0xC0) :: rest) = continueChar 0x80 1 bits rest := by
  have value : (UInt8.ofNat (bits + 0xC0)).toNat = bits + 0xC0 :=
    toNat_ofNat_byte (by omega)
  simp only [nextChar, UInt8.lt_iff_toNat_lt, value, UInt8.reduceToNat]
  rw [if_neg (by omega), if_neg (by omega), if_pos (by omega), Nat.add_sub_cancel]

theorem nextChar_three {bits : Nat} (rest : Bytes) (small : bits < 0x10) :
    nextChar (UInt8.ofNat (bits + 0xE0) :: rest) = continueChar 0x800 2 bits rest := by
  have value : (UInt8.ofNat (bits + 0xE0)).toNat = bits + 0xE0 :=
    toNat_ofNat_byte (by omega)
  simp only [nextChar, UInt8.lt_iff_toNat_lt, value, UInt8.reduceToNat]
  rw [if_neg (by omega), if_neg (by omega), if_neg (by omega), if_pos (by omega),
    Nat.add_sub_cancel]

theorem nextChar_four {bits : Nat} (rest : Bytes) (small : bits < 0x08) :
    nextChar (UInt8.ofNat (bits + 0xF0) :: rest) = continueChar 0x10000 3 bits rest := by
  have value : (UInt8.ofNat (bits + 0xF0)).toNat = bits + 0xF0 :=
    toNat_ofNat_byte (by omega)
  simp only [nextChar, UInt8.lt_iff_toNat_lt, value, UInt8.reduceToNat]
  rw [if_neg (by omega), if_neg (by omega), if_neg (by omega), if_neg (by omega),
    if_pos (by omega), Nat.add_sub_cancel]

theorem nextChar_encodeChar (char : Char) (rest : Bytes) :
    nextChar (utf8EncodeChar char ++ rest) = some (char, rest) := by
  have valid : char.toNat < 0x110000 := by
    rcases isValidChar_toNat char with low | ⟨_, high⟩ <;> omega
  rw [utf8EncodeChar]
  simp only [Char.toNat_val]
  -- One case for each number of bytes; what they add up to is the code point again.
  split
  · have value : (UInt8.ofNat char.toNat).toNat = char.toNat :=
      toNat_ofNat_byte (by omega)
    simp only [List.cons_append, List.nil_append, nextChar, UInt8.lt_iff_toNat_lt, value,
      UInt8.reduceToNat]
    rw [if_pos (by omega), Char.ofNat_toNat]
  split
  · simp only [List.cons_append, List.nil_append]
    rw [nextChar_two _ (by omega), continueChar_cons _ (by omega),
      continueChar_done char _ (by omega) (by omega)]
  split
  · simp only [List.cons_append, List.nil_append]
    rw [nextChar_three _ (by omega), continueChar_cons _ (by omega),
      continueChar_cons _ (by omega), continueChar_done char _ (by omega) (by omega)]
  · simp only [List.cons_append, List.nil_append]
    rw [nextChar_four _ (by omega), continueChar_cons _ (by omega),
      continueChar_cons _ (by omega), continueChar_cons _ (by omega),
      continueChar_done char _ (by omega) (by omega)]

/-! ### What is read was written -/

theorem continueChar_zero {least code : Nat} {bytes rest : Bytes} {char : Char}
    (read : continueChar least 0 code bytes = some (char, rest)) :
    bytes = rest ∧ char.toNat = code ∧ least ≤ code := by
  rw [continueChar] at read
  split at read
  next enough =>
    simp only [Option.some.injEq, Prod.mk.injEq] at read
    refine ⟨read.2, ?_, enough.1⟩
    rw [← read.1, toNat_ofNat_of_valid enough.2]
  next => simp at read

theorem continueChar_succ {least owed code : Nat} {bytes rest : Bytes} {char : Char}
    (read : continueChar least (owed + 1) code bytes = some (char, rest)) :
    ∃ bits tail, bits < 64 ∧ bytes = UInt8.ofNat (bits + 0x80) :: tail ∧
      continueChar least owed (code * 64 + bits) tail = some (char, rest) := by
  cases bytes with
  | nil => simp [continueChar] at read
  | cons byte tail =>
    rw [continueChar] at read
    split at read
    next continues =>
      have bound := (continues_iff byte).mp continues
      refine ⟨byte.toNat - 0x80, tail, by omega, ?_, read⟩
      rw [Nat.sub_add_cancel bound.1, UInt8.ofNat_toNat]
    next => simp at read

theorem encodeChar_of_nextChar {bytes rest : Bytes} {char : Char}
    (read : nextChar bytes = some (char, rest)) : bytes = utf8EncodeChar char ++ rest := by
  cases bytes with
  | nil => simp [nextChar] at read
  | cons first tail =>
    have bound := first.toNat_lt
    have refold (number : Nat) (same : number = first.toNat) : UInt8.ofNat number = first := by
      rw [same, UInt8.ofNat_toNat]
    rw [utf8EncodeChar]
    simp only [Char.toNat_val]
    -- The first byte tells how many follow; the bound for that many rules out the shorter forms.
    simp only [nextChar, UInt8.lt_iff_toNat_lt, UInt8.reduceToNat] at read
    split at read
    next ascii =>
      simp only [Option.some.injEq, Prod.mk.injEq] at read
      have code : char.toNat = first.toNat := by
        rw [← read.1, toNat_ofNat_of_valid (Or.inl (by omega))]
      rw [if_pos (by omega), refold _ code, read.2]
      rfl
    split at read
    next => simp at read
    split at read
    next =>
      -- Two bytes.
      obtain ⟨last, tail, small, rfl, ended⟩ := continueChar_succ read
      obtain ⟨rfl, code, enough⟩ := continueChar_zero ended
      rw [if_neg (by omega), if_pos (by omega), refold (char.toNat / 64 % 0x20 + 0xC0) (by omega)]
      have digit : char.toNat % 0x40 = last := by omega
      rw [digit]
      rfl
    split at read
    next =>
      -- Three bytes.
      obtain ⟨middle, tail, small, rfl, more⟩ := continueChar_succ read
      obtain ⟨last, tail, small', rfl, ended⟩ := continueChar_succ more
      obtain ⟨rfl, code, enough⟩ := continueChar_zero ended
      rw [if_neg (by omega), if_neg (by omega), if_pos (by omega),
        refold (char.toNat / 4096 % 0x10 + 0xE0) (by omega)]
      have digits : char.toNat / 64 % 0x40 = middle ∧ char.toNat % 0x40 = last := by omega
      rw [digits.1, digits.2]
      rfl
    split at read
    next =>
      -- Four bytes.
      obtain ⟨second, tail, small, rfl, more⟩ := continueChar_succ read
      obtain ⟨third, tail, small', rfl, more'⟩ := continueChar_succ more
      obtain ⟨last, tail, small'', rfl, ended⟩ := continueChar_succ more'
      obtain ⟨rfl, code, enough⟩ := continueChar_zero ended
      rw [if_neg (by omega), if_neg (by omega), if_neg (by omega),
        refold (char.toNat / 262144 % 0x08 + 0xF0) (by omega)]
      have digits : char.toNat / 4096 % 0x40 = second ∧ char.toNat / 64 % 0x40 = third ∧
          char.toNat % 0x40 = last := by omega
      rw [digits.1, digits.2.1, digits.2.2]
      rfl
    next => simp at read

/-! ### Whole texts -/

@[simp] theorem encode_nil : encode [] = [] := rfl

@[simp] theorem encode_cons (char : Char) (text : List Char) :
    encode (char :: text) = utf8EncodeChar char ++ encode text := rfl

theorem decode_of_nextChar {bytes rest : Bytes} {char : Char}
    (read : nextChar bytes = some (char, rest)) :
    decode bytes = (decode rest).map (char :: ·) := by
  cases bytes with
  | nil => simp [nextChar] at read
  | cons first tail =>
    rw [decode]
    split
    next failed => rw [read] at failed; simp at failed
    next found =>
      rw [read] at found
      simp only [Option.some.injEq, Prod.mk.injEq] at found
      rw [found.1, found.2]

/-- The bytes of a text read as that text. -/
theorem decode_encode (text : List Char) : decode (encode text) = some text := by
  induction text with
  | nil => simp [decode]
  | cons char text ih =>
    rw [encode_cons, decode_of_nextChar (nextChar_encodeChar char (encode text)), ih]
    rfl

/-- Bytes that read as a text are the bytes of that text. -/
theorem encode_of_decode {bytes : Bytes} {text : List Char} (read : decode bytes = some text) :
    encode text = bytes := by
  fun_induction decode bytes generalizing text with
  | case1 =>
    simp only [Option.some.injEq] at read
    rw [← read, encode_nil]
  | case2 first tail failed => simp at read
  | case3 first tail char rest found ih =>
    obtain ⟨inner, inside, rfl⟩ := Option.map_eq_some_iff.mp read
    rw [encode_cons, ih inside, ← encodeChar_of_nextChar found]

theorem decode_eq_some_iff {bytes : Bytes} {text : List Char} :
    decode bytes = some text ↔ bytes = encode text :=
  ⟨fun read => (encode_of_decode read).symm, fun same => same ▸ decode_encode text⟩

theorem encode_inj {first second : List Char} (same : encode first = encode second) :
    first = second :=
  Option.some.inj ((decode_encode first).symm.trans (decode_eq_some_iff.mpr same))

/-! ### Blanks at the start -/

/-- The blanks at the start and the bytes after them are all the bytes. -/
theorem encode_leadingBlanks (bytes : Bytes) :
    encode (leadingBlanks bytes).1 ++ (leadingBlanks bytes).2 = bytes := by
  fun_induction leadingBlanks bytes with
  | case1 => rfl
  | case2 => rfl
  | case3 first rest char after found blank more ih =>
    rw [encodeChar_of_nextChar found, encode_cons, List.append_assoc]
    exact congrArg _ ih
  | case4 => rfl

theorem isBlank_of_mem_leadingBlanks {bytes : Bytes} {char : Char}
    (member : char ∈ (leadingBlanks bytes).1) : isBlank char = true := by
  fun_induction leadingBlanks bytes with
  | case1 => cases member
  | case2 => cases member
  | case3 first rest head after found blank more ih =>
    rcases List.mem_cons.mp member with rfl | later
    · exact blank
    · exact ih later
  | case4 => cases member

/-- What is behind the blanks at the start does not start with one. -/
theorem not_isBlank_of_nextChar_leadingBlanks {bytes rest : Bytes} {char : Char}
    (next : nextChar (leadingBlanks bytes).2 = some (char, rest)) : isBlank char = false := by
  fun_induction leadingBlanks bytes with
  | case1 => cases next
  | case2 first tail broken =>
    rw [broken] at next
    cases next
  | case3 first tail head after found blank more ih => exact ih next
  | case4 first tail head after found solid =>
    rw [found] at next
    cases next
    simpa using solid

/-- A blank of ASCII is a blank of Unicode. -/
theorem isBlank_of_isBlankByte : ∀ number < 256, isBlankByte (UInt8.ofNat number) = true →
    number < 0x80 ∧ isBlank (Char.ofNat number) = true := by
  decide +kernel

/-- Bytes that are all blank are blanks at the start. -/
theorem leadingBlanks_of_blank {bytes : Bytes} (blank : ∀ byte ∈ bytes, isBlankByte byte = true) :
    (leadingBlanks bytes).2 = [] := by
  cases behind : (leadingBlanks bytes).2 with
  | nil => rfl
  | cons byte rest =>
    -- The first byte behind the blanks would be one more of them.
    exfalso
    have member : byte ∈ bytes := by
      rw [← encode_leadingBlanks bytes, behind]
      simp
    have passes := blank byte member
    rw [← UInt8.ofNat_toNat (x := byte)] at passes
    obtain ⟨ascii, space⟩ := isBlank_of_isBlankByte byte.toNat byte.toNat_lt passes
    have next : nextChar (leadingBlanks bytes).2 = some (Char.ofNat byte.toNat, rest) := by
      rw [behind, nextChar, if_pos (UInt8.lt_iff_toNat_lt.mpr ascii)]
    rw [not_isBlank_of_nextChar_leadingBlanks next] at space
    cases space

end SchemaDoc.Text
