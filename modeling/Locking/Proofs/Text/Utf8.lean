import Locking.Text.Cut
import Locking.Text.Utf8
import Mathlib.Data.List.Forall2

namespace Locking.Text.Utf8

/-!
Reading undoes writing, and writing undoes reading: bytes are read as a text if and only if they are
the bytes of that text. Both go sequence by sequence, and a sequence is well formed if its bytes are
in the ranges that the first one calls for.
-/

open List (Forall₂)

/-- What may stand after the first of three bytes: no longer form than needed, and no surrogate. -/
def secondOfThree (lead : UInt8) : ByteRange :=
  ⟨if lead.toNat = 0xE0 then 0xA0 else 0x80, if lead.toNat = 0xED then 0x9F else 0xBF⟩

/-- What may stand after the first of four bytes: no longer form than needed, and no code past the
last one. -/
def secondOfFour (lead : UInt8) : ByteRange :=
  ⟨if lead.toNat = 0xF0 then 0x90 else 0x80, if lead.toNat = 0xF4 then 0x8F else 0xBF⟩

/-- The first bytes of sequences, with what they call for. -/
inductive Calls (lead : UInt8) : List ByteRange → Prop where
  | one (below : lead.toNat < 0x80) : Calls lead []
  | two (low : 0xC2 ≤ lead.toNat) (high : lead.toNat < 0xE0) : Calls lead [.tail]
  | three (low : 0xE0 ≤ lead.toNat) (high : lead.toNat < 0xF0) :
      Calls lead [secondOfThree lead, .tail]
  | four (low : 0xF0 ≤ lead.toNat) (high : lead.toNat < 0xF5) :
      Calls lead [secondOfFour lead, .tail, .tail]

/-- How the first character is read, by what the first byte calls for and how far that is met. -/
inductive Reads (lead : UInt8) (rest : List UInt8) : Reading → Prop where
  | uncalled (none : expected lead = none) : Reads lead rest (.broken 1)
  | filled {ranges : List ByteRange} (calls : Calls lead ranges)
      (filled : agreement ranges rest = ranges.length) :
      Reads lead rest (.character (Char.ofNat (assemble lead (rest.take (agreement ranges rest))))
        (rest.drop (agreement ranges rest)))
  | ended {ranges : List ByteRange} (calls : Calls lead ranges)
      (ended : agreement ranges rest = rest.length) : Reads lead rest .unfinished
  | stopped {ranges : List ByteRange} (calls : Calls lead ranges)
      (unfilled : agreement ranges rest ≠ ranges.length)
      (stopped : agreement ranges rest ≠ rest.length) :
      Reads lead rest (.broken (agreement ranges rest + 1))

variable {ranges : List ByteRange} {lead byte : UInt8} {bytes tail rest : List UInt8} {c : Char}
  {text : List Char} {index : Nat}

theorem tail_contains_iff : ByteRange.tail.Contains byte ↔ 0x80 ≤ byte.toNat ∧ byte.toNat ≤ 0xBF :=
  Iff.rfl

theorem secondOfThree_contains_iff :
    (secondOfThree lead).Contains byte ↔
      ByteRange.tail.Contains byte ∧ (lead.toNat = 0xE0 → 0xA0 ≤ byte.toNat) ∧
        (lead.toNat = 0xED → byte.toNat ≤ 0x9F) := by
  simp only [ByteRange.Contains, secondOfThree, ByteRange.tail]
  split <;> split <;> omega

theorem secondOfFour_contains_iff :
    (secondOfFour lead).Contains byte ↔
      ByteRange.tail.Contains byte ∧ (lead.toNat = 0xF0 → 0x90 ≤ byte.toNat) ∧
        (lead.toNat = 0xF4 → byte.toNat ≤ 0x8F) := by
  simp only [ByteRange.Contains, secondOfFour, ByteRange.tail]
  split <;> split <;> omega

theorem Calls.expected (calls : Calls lead ranges) : expected lead = some ranges := by
  unfold Utf8.expected
  cases calls with
  | one below => grind
  | two low high => grind
  | three low high => grind [secondOfThree, ByteRange.tail]
  | four low high => grind [secondOfFour, ByteRange.tail]

theorem expected_eq_none (no : 0x80 ≤ lead.toNat ∧ lead.toNat < 0xC2 ∨ 0xF5 ≤ lead.toNat) :
    expected lead = none := by
  unfold expected
  grind

theorem expected_eq_some_iff : expected lead = some ranges ↔ Calls lead ranges := by
  refine ⟨fun called => ?_, Calls.expected⟩
  -- Every first byte has a row, but for those that start nothing.
  have row : (∃ row, Calls lead row) ∨
      (0x80 ≤ lead.toNat ∧ lead.toNat < 0xC2 ∨ 0xF5 ≤ lead.toNat) := by
    by_cases one : lead.toNat < 0x80
    · exact .inl ⟨_, .one one⟩
    by_cases nothing : lead.toNat < 0xC2
    · exact .inr (by omega)
    by_cases two : lead.toNat < 0xE0
    · exact .inl ⟨_, .two (by omega) two⟩
    by_cases three : lead.toNat < 0xF0
    · exact .inl ⟨_, .three (by omega) three⟩
    by_cases four : lead.toNat < 0xF5
    · exact .inl ⟨_, .four (by omega) four⟩
    · exact .inr (by omega)
  rcases row with ⟨row, calls⟩ | nothing
  · obtain rfl := Option.some.inj (called.symm.trans calls.expected)
    exact calls
  · rw [expected_eq_none nothing] at called
    contradiction

/-! What is read as a character. -/

theorem agreement_append (fits : Forall₂ ByteRange.Contains ranges tail) (rest : List UInt8) :
    agreement ranges (tail ++ rest) = ranges.length := by
  induction fits with
  | nil => rfl
  | cons inside _ ih =>
      simp only [List.cons_append, agreement, if_pos inside, ih, List.length_cons]

theorem fits_of_agreement (agreed : agreement ranges bytes = ranges.length) :
    Forall₂ ByteRange.Contains ranges (bytes.take ranges.length) := by
  induction ranges generalizing bytes with
  | nil => simp
  | cons range ranges ih =>
      cases bytes with
      | nil => simp [agreement] at agreed
      | cons byte bytes =>
          simp only [agreement] at agreed
          split at agreed
          case isTrue inside => exact .cons inside (ih (Nat.succ.inj agreed))
          case isFalse => simp at agreed

theorem readChar_reads (lead : UInt8) (rest : List UInt8) :
    Reads lead rest (readChar lead rest) := by
  cases called : expected lead with
  | none => simpa only [readChar, called] using .uncalled called
  | some ranges =>
      have calls := expected_eq_some_iff.mp called
      simp only [readChar, called]
      split
      · exact .filled calls ‹_›
      split
      · exact .ended calls ‹_›
      · exact .stopped calls ‹_› ‹_›

/-- A character is read from a well-formed sequence, and whatever follows is left alone. -/
theorem readChar_eq_character_iff :
    readChar lead bytes = .character c rest ↔
      ∃ ranges tail, Calls lead ranges ∧ Forall₂ ByteRange.Contains ranges tail ∧
        Char.ofNat (assemble lead tail) = c ∧ bytes = tail ++ rest := by
  constructor
  · intro read
    have reads := readChar_reads lead bytes
    rw [read] at reads
    cases reads with
    | @filled ranges calls filled =>
        rw [filled]
        exact ⟨ranges, bytes.take ranges.length, calls, fits_of_agreement filled, rfl,
          (List.take_append_drop _ _).symm⟩
  · rintro ⟨ranges, tail, calls, fits, rfl, rfl⟩
    have length := fits.length_eq
    simp only [readChar, calls.expected, agreement_append fits, if_true]
    rw [length, List.take_left, List.drop_left]

/-! What is written for a character. -/

theorem toNat_ofNat_of_lt {code : Nat} (small : code < 0x100) :
    (UInt8.ofNat code).toNat = code := by
  rw [UInt8.toNat_ofNat', Nat.mod_eq_of_lt small]

theorem ofNat_eq_of_toNat (byte : UInt8) {code : Nat} (same : code = byte.toNat) :
    UInt8.ofNat code = byte := by
  rw [same, UInt8.ofNat_toNat]

theorem toNat_tailByte (code : Nat) : (tailByte code).toNat = 0x80 + code % 0x40 :=
  toNat_ofNat_of_lt (by omega)

theorem tail_contains_tailByte (code : Nat) : ByteRange.tail.Contains (tailByte code) := by
  rw [tail_contains_iff, toNat_tailByte]
  omega

theorem assemble_one (lead : UInt8) : assemble lead [] = lead.toNat % 0x80 := rfl

theorem assemble_two (lead second : UInt8) :
    assemble lead [second] = lead.toNat % 0x20 * 0x40 + second.toNat % 0x40 := rfl

theorem assemble_three (lead second third : UInt8) :
    assemble lead [second, third] =
      (lead.toNat % 0x10 * 0x40 + second.toNat % 0x40) * 0x40 + third.toNat % 0x40 := rfl

theorem assemble_four (lead second third fourth : UInt8) :
    assemble lead [second, third, fourth] =
      ((lead.toNat % 0x08 * 0x40 + second.toNat % 0x40) * 0x40 + third.toNat % 0x40) * 0x40 +
        fourth.toNat % 0x40 := rfl

/-- What is written for a character is a well-formed sequence with the code of the character. -/
theorem encodeChar_wellFormed (c : Char) :
    ∃ lead tail ranges, encodeChar c = lead :: tail ∧ Calls lead ranges ∧
      Forall₂ ByteRange.Contains ranges tail ∧ assemble lead tail = c.toNat := by
  have valid : c.toNat < 0xD800 ∨ 0xDFFF < c.toNat ∧ c.toNat < 0x110000 := c.valid
  unfold encodeChar
  generalize c.toNat = code at valid
  dsimp only
  split
  case isTrue one =>
    have first : (UInt8.ofNat code).toNat = code := toNat_ofNat_of_lt (by omega)
    refine ⟨_, _, _, rfl, .one (by omega), .nil, ?_⟩
    rw [assemble_one, first]
    omega
  split
  case isTrue two =>
    have first : (UInt8.ofNat (0xC0 + code / 0x40)).toNat = 0xC0 + code / 0x40 :=
      toNat_ofNat_of_lt (by omega)
    refine ⟨_, _, _, rfl, .two (by omega) (by omega), .cons (tail_contains_tailByte _) .nil, ?_⟩
    rw [assemble_two, first, toNat_tailByte]
    omega
  split
  case isTrue three =>
    have first : (UInt8.ofNat (0xE0 + code / 0x1000)).toNat = 0xE0 + code / 0x1000 :=
      toNat_ofNat_of_lt (by omega)
    refine ⟨_, _, _, rfl, .three (by omega) (by omega),
      .cons ?_ (.cons (tail_contains_tailByte _) .nil), ?_⟩
    · rw [secondOfThree_contains_iff, first, toNat_tailByte]
      exact ⟨tail_contains_tailByte _, by omega, by omega⟩
    · rw [assemble_three, first, toNat_tailByte, toNat_tailByte]
      omega
  case isFalse four =>
    have first : (UInt8.ofNat (0xF0 + code / 0x40000)).toNat = 0xF0 + code / 0x40000 :=
      toNat_ofNat_of_lt (by omega)
    refine ⟨_, _, _, rfl, .four (by omega) (by omega),
      .cons ?_ (.cons (tail_contains_tailByte _) (.cons (tail_contains_tailByte _) .nil)), ?_⟩
    · rw [secondOfFour_contains_iff, first, toNat_tailByte]
      exact ⟨tail_contains_tailByte _, by omega, by omega⟩
    · rw [assemble_four, first, toNat_tailByte, toNat_tailByte, toNat_tailByte]
      omega

/-- A well-formed sequence is what is written for the character with its code. -/
theorem encodeChar_assemble (calls : Calls lead ranges)
    (fits : Forall₂ ByteRange.Contains ranges tail) :
    encodeChar (Char.ofNat (assemble lead tail)) = lead :: tail := by
  have toNat {code : Nat} (valid : code < 0xD800 ∨ 0xDFFF < code ∧ code < 0x110000) :
      (Char.ofNat code).toNat = code := by
    rw [Char.ofNat, dif_pos valid]
    rfl
  unfold encodeChar
  dsimp only
  cases calls with
  | one below =>
      obtain rfl := List.length_eq_zero_iff.mp fits.length_eq.symm
      rw [assemble_one, toNat (by omega), if_pos (by omega), ofNat_eq_of_toNat lead]
      omega
  | two low high =>
      obtain ⟨second, rfl⟩ := List.length_eq_one_iff.mp fits.length_eq.symm
      simp only [List.forall₂_cons, tail_contains_iff] at fits
      rw [assemble_two, toNat (by omega), if_neg (by omega), if_pos (by omega), tailByte,
        ofNat_eq_of_toNat lead (by omega), ofNat_eq_of_toNat second (by omega)]
  | three low high =>
      obtain ⟨second, third, rfl⟩ := List.length_eq_two.mp fits.length_eq.symm
      simp only [List.forall₂_cons, tail_contains_iff, secondOfThree_contains_iff] at fits
      rw [assemble_three, toNat (by omega), if_neg (by omega), if_neg (by omega),
        if_pos (by omega), tailByte, tailByte, ofNat_eq_of_toNat lead (by omega),
        ofNat_eq_of_toNat second (by omega), ofNat_eq_of_toNat third (by omega)]
  | four low high =>
      obtain ⟨second, third, fourth, rfl⟩ := List.length_eq_three.mp fits.length_eq.symm
      simp only [List.forall₂_cons, tail_contains_iff, secondOfFour_contains_iff] at fits
      rw [assemble_four, toNat (by omega), if_neg (by omega), if_neg (by omega),
        if_neg (by omega), tailByte, tailByte, tailByte, ofNat_eq_of_toNat lead (by omega),
        ofNat_eq_of_toNat second (by omega), ofNat_eq_of_toNat third (by omega),
        ofNat_eq_of_toNat fourth (by omega)]

/-- The bytes of a character are those that the standard library gives for it. -/
theorem encodeChar_eq_utf8EncodeChar (c : Char) : encodeChar c = String.utf8EncodeChar c := by
  have valid : c.val.toNat < 0xD800 ∨ 0xDFFF < c.val.toNat ∧ c.val.toNat < 0x110000 := c.valid
  simp only [encodeChar, tailByte, String.utf8EncodeChar, Char.toNat]
  -- the library keeps the low bits before it adds the mark of the first byte
  split
  · rw [if_pos (by omega)]
  split
  · have lead : 0xC0 + c.val.toNat / 0x40 = c.val.toNat / 0x40 % 0x20 + 0xC0 := by omega
    rw [if_neg (by omega), if_pos (by omega), lead, Nat.add_comm 0x80]
  split
  · have lead : 0xE0 + c.val.toNat / 0x1000 = c.val.toNat / 0x1000 % 0x10 + 0xE0 := by omega
    rw [if_neg (by omega), if_neg (by omega), if_pos (by omega), lead, Nat.add_comm 0x80,
      Nat.add_comm 0x80]
  · have lead : 0xF0 + c.val.toNat / 0x40000 = c.val.toNat / 0x40000 % 0x08 + 0xF0 := by omega
    rw [if_neg (by omega), if_neg (by omega), if_neg (by omega), lead, Nat.add_comm 0x80,
      Nat.add_comm 0x80, Nat.add_comm 0x80]

theorem length_encodeChar (c : Char) : (encodeChar c).length = c.utf8Size := by
  rw [encodeChar_eq_utf8EncodeChar, String.length_utf8EncodeChar]

/-- The bytes of a text are as many as are counted when it is cut. -/
theorem length_encode (text : List Char) : (encode text).length = byteLength text := by
  induction text with
  | nil => rfl
  | cons c rest ih => rw [encode_cons, List.length_append, length_encodeChar, ih, byteLength_cons]

/-! Characters, and texts. -/

/-- Reading a character takes off exactly the bytes that are written for it. -/
theorem readChar_iff :
    readChar lead bytes = .character c rest ↔ lead :: bytes = encodeChar c ++ rest := by
  rw [readChar_eq_character_iff]
  constructor
  · rintro ⟨ranges, tail, calls, fits, rfl, rfl⟩
    rw [encodeChar_assemble calls fits, List.cons_append]
  · intro written
    obtain ⟨first, tail, ranges, encoded, calls, fits, code⟩ := encodeChar_wellFormed c
    rw [encoded, List.cons_append] at written
    obtain ⟨rfl, rfl⟩ := List.cons.inj written
    exact ⟨ranges, tail, calls, fits, by rw [code, Char.ofNat_toNat], rfl⟩

theorem decodeFrom_encodeChar_append (index : Nat) (c : Char) (rest : List UInt8) :
    decodeFrom index (encodeChar c ++ rest) =
      (decodeFrom (index + c.utf8Size) rest).map (c :: ·) := by
  obtain ⟨lead, tail, _, encoded, _⟩ := encodeChar_wellFormed c
  have read : readChar lead (tail ++ rest) = .character c rest := by
    rw [readChar_iff, encoded, List.cons_append]
  rw [encoded, List.cons_append, decodeFrom]
  split
  · rename_i same
    obtain ⟨rfl, rfl⟩ := Reading.character.inj (read.symm.trans same)
    rfl
  · rename_i same
    cases read.symm.trans same
  · rename_i same
    cases read.symm.trans same

/-- The bytes of a text are read as this text, whatever follows them. -/
theorem decodeFrom_encode_append (index : Nat) (text : List Char) (rest : List UInt8) :
    decodeFrom index (encode text ++ rest) =
      (decodeFrom (index + byteLength text) rest).map (text ++ ·) := by
  induction text generalizing index with
  | nil => cases read : decodeFrom index rest <;> simp [read, Except.map]
  | cons c text ih =>
      rw [encode_cons, List.append_assoc, decodeFrom_encodeChar_append, ih, byteLength_cons,
        Nat.add_assoc]
      cases decodeFrom (index + (c.utf8Size + byteLength text)) rest <;> rfl

theorem decodeFrom_encode (index : Nat) (text : List Char) :
    decodeFrom index (encode text) = .ok text := by
  have read := decodeFrom_encode_append index text []
  simpa [decodeFrom, Except.map] using read

theorem eq_encode_of_decodeFrom (read : decodeFrom index bytes = .ok text) :
    bytes = encode text := by
  fun_induction decodeFrom index bytes generalizing text with
  | case1 =>
      obtain rfl := Except.ok.inj read
      rfl
  | case2 index lead bytes c rest taken ih =>
      cases later : decodeFrom (index + c.utf8Size) rest with
      | error fault => simp [later, Except.map] at read
      | ok remaining =>
          rw [later] at read
          obtain rfl := Except.ok.inj read
          rw [encode_cons, ← ih later]
          exact readChar_iff.mp taken
  | case3 => contradiction
  | case4 => contradiction

/-- Bytes are read as a text if and only if they are the bytes of that text. -/
theorem decode_eq_ok_iff : decode bytes = .ok text ↔ bytes = encode text :=
  ⟨eq_encode_of_decodeFrom, fun written => written ▸ decodeFrom_encode 0 text⟩

theorem encode_inj {other : List Char} (same : encode text = encode other) : text = other :=
  Except.ok.inj ((decode_eq_ok_iff.mpr rfl).symm.trans (decode_eq_ok_iff.mpr same))

end Locking.Text.Utf8
