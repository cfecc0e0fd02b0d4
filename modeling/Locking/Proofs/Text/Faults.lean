import Locking.Proofs.Text.Utf8

namespace Locking.Text.Utf8

/-!
What is reported of bytes that are no text. The fault lies behind the longest beginning that is a
text. It is told whether more bytes could make a text of the whole; and where they could not, how
far the bytes from there on agree with those of a character.
-/

open List (Forall₂)

/-- The longest beginning of a list that has some property. -/
structure LongestFront {α : Type} (property : List α → Prop) (list front : List α) : Prop where
  isPrefix : front <+: list
  holds : property front
  longest : ∀ other, other <+: list → property other → other.length ≤ front.length

def WellFormed (bytes : List UInt8) : Prop :=
  ∃ text, bytes = encode text

/-- The bytes are the first ones of a character, or all of them. -/
def Begins (bytes : List UInt8) : Prop :=
  ∃ c, bytes <+: encodeChar c

/-- What is wrong with bytes, said without reading them. -/
inductive Flawed (bytes : List UInt8) : Fault → Prop where
  | incomplete {valid : List UInt8} (longest : LongestFront WellFormed bytes valid)
      (illFormed : ¬WellFormed bytes) (completable : ∃ more, WellFormed (bytes ++ more)) :
      Flawed bytes (.incomplete valid.length)
  | broken {valid rest start : List UInt8} (longest : LongestFront WellFormed bytes valid)
      (hopeless : ∀ more, ¬WellFormed (bytes ++ more)) (split : bytes = valid ++ rest)
      (agrees : LongestFront Begins rest start) :
      Flawed bytes (.broken valid.length (max 1 start.length))

def Fault.index : Fault → Nat
  | .broken index _ => index
  | .incomplete index => index

/-- The fault at `index`, if nothing is read there as a character. -/
def Reading.fault? (index : Nat) : Reading → Option Fault
  | .character _ _ => none
  | .broken good => some (.broken index good)
  | .unfinished => some (.incomplete index)

variable {α : Type} {property : List α → Prop} {list one other : List α} {ranges : List ByteRange}
  {lead : UInt8} {bytes tail full front rest : List UInt8} {text : List Char} {index good : Nat}
  {fault otherFault : Fault}

theorem LongestFront.unique (first : LongestFront property list one)
    (second : LongestFront property list other) : one = other := by
  have atMost := second.longest one first.isPrefix first.holds
  have atLeast := first.longest other second.isPrefix second.holds
  rcases List.prefix_or_prefix_of_prefix first.isPrefix second.isPrefix with before | after
  · exact before.eq_of_length_le atLeast
  · exact (after.eq_of_length_le atMost).symm

/-- The texts are those of the standard library. -/
theorem wellFormed_iff_isValidUTF8 : WellFormed bytes ↔ bytes.toByteArray.IsValidUTF8 := by
  have each : encodeChar = String.utf8EncodeChar := funext encodeChar_eq_utf8EncodeChar
  constructor
  · rintro ⟨text, rfl⟩
    exact ⟨text, by rw [encode, each, List.utf8Encode]⟩
  · rintro ⟨text, same⟩
    refine ⟨text, ?_⟩
    rw [List.utf8Encode, ← each] at same
    simpa [encode] using congrArg (fun array => array.data.toList) same

/-! How far bytes fall into the ranges that a first byte calls for. -/

theorem agreement_le_length (ranges : List ByteRange) (bytes : List UInt8) :
    agreement ranges bytes ≤ bytes.length := by
  fun_induction agreement ranges bytes with
  | case1 range ranges byte bytes inside ih => exact Nat.succ_le_succ ih
  | case2 => exact Nat.zero_le _
  | case3 => exact Nat.zero_le _

/-- Once a byte has fallen out of its range, it does not matter what follows. -/
theorem agreement_append_of_stopped (unfilled : agreement ranges bytes ≠ ranges.length)
    (stopped : agreement ranges bytes ≠ bytes.length) (more : List UInt8) :
    agreement ranges (bytes ++ more) = agreement ranges bytes := by
  fun_induction agreement ranges bytes with
  | case1 range ranges byte bytes inside ih =>
      simp only [List.length_cons, ne_eq, Nat.add_right_cancel_iff] at unfilled stopped
      rw [List.cons_append, agreement, if_pos inside, ih unfilled stopped]
  | case2 range ranges byte bytes outside => rw [List.cons_append, agreement, if_neg outside]
  | case3 ranges bytes short =>
      cases ranges with
      | nil => simp at unfilled
      | cons range ranges =>
          cases bytes with
          | nil => simp at stopped
          | cons byte bytes => exact (short _ _ _ _ rfl rfl).elim

theorem length_le_agreement (fits : Forall₂ ByteRange.Contains ranges full)
    (start : front <+: full) (within : front <+: bytes) :
    front.length ≤ agreement ranges bytes := by
  induction fits generalizing front bytes with
  | nil =>
      obtain rfl := List.prefix_nil.mp start
      exact Nat.zero_le _
  | cons inside _ ih =>
      cases front with
      | nil => exact Nat.zero_le _
      | cons byte front =>
          obtain ⟨rfl, startLater⟩ := List.cons_prefix_cons.mp start
          obtain ⟨more, rfl⟩ := within
          have later := ih startLater (List.prefix_append front more)
          simp only [List.cons_append, agreement, if_pos inside, List.length_cons]
          omega

/-- Every range that is called for has a byte in it. -/
theorem Calls.inhabited (calls : Calls lead ranges) :
    ∀ range ∈ ranges, ∃ byte, range.Contains byte := by
  have tail : ∃ byte, ByteRange.tail.Contains byte := ⟨0x80, by decide⟩
  cases calls with
  | one => simp
  | two => simpa using tail
  | three low high =>
      have second : ∃ byte, (secondOfThree lead).Contains byte := by
        by_cases least : lead.toNat = 0xE0
        · exact ⟨0xA0, secondOfThree_contains_iff.mpr ⟨by decide, fun _ => by decide, by omega⟩⟩
        · exact ⟨0x80, secondOfThree_contains_iff.mpr ⟨by decide, by omega, fun _ => by decide⟩⟩
      simpa using ⟨second, tail⟩
  | four low high =>
      have second : ∃ byte, (secondOfFour lead).Contains byte := by
        by_cases least : lead.toNat = 0xF0
        · exact ⟨0x90, secondOfFour_contains_iff.mpr ⟨by decide, fun _ => by decide, by omega⟩⟩
        · exact ⟨0x80, secondOfFour_contains_iff.mpr ⟨by decide, by omega, fun _ => by decide⟩⟩
      simpa using ⟨second, tail⟩

/-- The bytes that agree can be gone on with until all ranges are filled. -/
theorem exists_filling (inhabited : ∀ range ∈ ranges, ∃ byte, range.Contains byte)
    (bytes : List UInt8) :
    ∃ full, Forall₂ ByteRange.Contains ranges full ∧
      bytes.take (agreement ranges bytes) <+: full := by
  induction ranges generalizing bytes with
  | nil => exact ⟨[], .nil, by simp [agreement]⟩
  | cons range ranges ih =>
      obtain ⟨some, inside⟩ := inhabited range List.mem_cons_self
      have others : ∀ range ∈ ranges, ∃ byte, range.Contains byte :=
        fun range member => inhabited range (List.mem_cons_of_mem _ member)
      cases bytes with
      | nil =>
          obtain ⟨full, fits, _⟩ := ih others []
          exact ⟨some :: full, .cons inside fits, by simp⟩
      | cons byte bytes =>
          obtain ⟨full, fits, start⟩ := ih others bytes
          by_cases agreed : range.Contains byte
          · refine ⟨byte :: full, .cons agreed fits, ?_⟩
            simpa only [agreement, if_pos agreed, List.take_succ_cons, List.cons_prefix_cons,
              true_and] using start
          · refine ⟨some :: full, .cons inside fits, ?_⟩
            simp only [agreement, if_neg agreed, List.take_zero, List.nil_prefix]

theorem begins_cons_iff :
    Begins (lead :: tail) ↔
      ∃ ranges full, Calls lead ranges ∧ Forall₂ ByteRange.Contains ranges full ∧
        tail <+: full := by
  constructor
  · rintro ⟨c, start⟩
    obtain ⟨first, full, ranges, encoded, calls, fits, _⟩ := encodeChar_wellFormed c
    rw [encoded, List.cons_prefix_cons] at start
    obtain ⟨rfl, start⟩ := start
    exact ⟨ranges, full, calls, fits, start⟩
  · rintro ⟨ranges, full, calls, fits, start⟩
    refine ⟨Char.ofNat (assemble lead full), ?_⟩
    rw [encodeChar_assemble calls fits, List.cons_prefix_cons]
    exact ⟨rfl, start⟩

/-! Where no character is read. -/

theorem begins_of_unfinished (read : readChar lead rest = .unfinished) :
    Begins (lead :: rest) := by
  have reads := readChar_reads lead rest
  rw [read] at reads
  cases reads with
  | ended calls ended =>
      obtain ⟨full, fits, start⟩ := exists_filling calls.inhabited rest
      rw [ended, List.take_length] at start
      exact begins_cons_iff.mpr ⟨_, full, calls, fits, start⟩

theorem readChar_append_of_broken (read : readChar lead rest = .broken good)
    (more : List UInt8) : readChar lead (rest ++ more) = .broken good := by
  have reads := readChar_reads lead rest
  rw [read] at reads
  cases reads with
  | uncalled none => simp only [readChar, none]
  | @stopped ranges calls unfilled stopped =>
      have within := agreement_le_length ranges rest
      simp only [readChar, calls.expected, agreement_append_of_stopped unfilled stopped,
        if_neg unfilled, List.length_append]
      rw [if_neg (by omega)]

theorem longestFront_begins_of_uncalled (none : expected lead = none) :
    LongestFront Begins (lead :: rest) [] where
  isPrefix := List.nil_prefix
  holds := ⟨'a', List.nil_prefix⟩
  longest := by
    intro other start begins
    cases other with
    | nil => exact Nat.le_refl _
    | cons first tail =>
        obtain ⟨rfl, _⟩ := List.cons_prefix_cons.mp start
        obtain ⟨ranges, _, calls, _⟩ := begins_cons_iff.mp begins
        rw [calls.expected] at none
        contradiction

theorem longestFront_begins_of_calls (calls : Calls lead ranges) (rest : List UInt8) :
    LongestFront Begins (lead :: rest) (lead :: rest.take (agreement ranges rest)) where
  isPrefix := List.cons_prefix_cons.mpr ⟨rfl, List.take_prefix _ _⟩
  holds := by
    obtain ⟨full, fits, agreed⟩ := exists_filling calls.inhabited rest
    exact begins_cons_iff.mpr ⟨ranges, full, calls, fits, agreed⟩
  longest := by
    intro other start begins
    have within := agreement_le_length ranges rest
    cases other with
    | nil => exact Nat.zero_le _
    | cons first tail =>
        obtain ⟨rfl, tailStart⟩ := List.cons_prefix_cons.mp start
        obtain ⟨_, _, otherCalls, fits, agreed⟩ := begins_cons_iff.mp begins
        obtain rfl := Option.some.inj (calls.expected.symm.trans otherCalls.expected)
        have longest := length_le_agreement fits agreed tailStart
        simp only [List.length_cons, List.length_take]
        omega

/-- The number of good bytes is that of the longest agreement with a character, but at least one. -/
theorem exists_agreement_of_broken (read : readChar lead rest = .broken good) :
    ∃ start, LongestFront Begins (lead :: rest) start ∧ good = max 1 start.length := by
  have reads := readChar_reads lead rest
  rw [read] at reads
  cases reads with
  | uncalled none => exact ⟨[], longestFront_begins_of_uncalled none, rfl⟩
  | @stopped ranges calls unfilled stopped =>
      refine ⟨_, longestFront_begins_of_calls calls rest, ?_⟩
      have within := agreement_le_length ranges rest
      simp only [List.length_cons, List.length_take]
      omega

/-! Where reading stops. -/

theorem decodeFrom_of_fault (stops : (readChar lead rest).fault? index = some fault) :
    decodeFrom index (lead :: rest) = .error fault := by
  rw [decodeFrom]
  split
  · rename_i read
    simp [read, Reading.fault?] at stops
  · rename_i read
    simpa [read, Reading.fault?] using stops
  · rename_i read
    simpa [read, Reading.fault?] using stops

theorem exists_stop (failed : decodeFrom index bytes = .error fault) :
    ∃ text lead rest, bytes = encode text ++ lead :: rest ∧
      (readChar lead rest).fault? (index + byteLength text) = some fault := by
  fun_induction decodeFrom index bytes with
  | case1 => contradiction
  | case2 index lead bytes c rest taken ih =>
      cases later : decodeFrom (index + c.utf8Size) rest with
      | ok remaining => simp [later, Except.map] at failed
      | error laterFault =>
          simp only [later, Except.map, Except.error.injEq] at failed
          subst failed
          obtain ⟨text, next, remaining, split, stops⟩ := ih later
          refine ⟨c :: text, next, remaining, ?_, ?_⟩
          · rw [readChar_iff.mp taken, split, encode_cons, List.append_assoc]
          · rwa [byteLength_cons, ← Nat.add_assoc]
  | case3 index lead bytes good read =>
      exact ⟨[], lead, bytes, rfl, by simpa [read, Reading.fault?] using failed⟩
  | case4 index lead bytes read =>
      exact ⟨[], lead, bytes, rfl, by simpa [read, Reading.fault?] using failed⟩

theorem index_of_fault? (stops : (readChar lead rest).fault? index = some fault) :
    fault.index = index := by
  cases read : readChar lead rest with
  | character c rest => simp [read, Reading.fault?] at stops
  | broken good =>
      simp only [read, Reading.fault?, Option.some.injEq] at stops
      rw [← stops, Fault.index]
  | unfinished =>
      simp only [read, Reading.fault?, Option.some.injEq] at stops
      rw [← stops, Fault.index]

theorem index_le_of_error (failed : decodeFrom index bytes = .error fault) :
    index ≤ fault.index := by
  obtain ⟨text, lead, rest, _, stops⟩ := exists_stop failed
  rw [index_of_fault? stops]
  exact Nat.le_add_right _ _

theorem not_wellFormed_of_error (failed : decode bytes = .error fault) : ¬WellFormed bytes := by
  rintro ⟨text, written⟩
  rw [decode_eq_ok_iff.mpr written] at failed
  contradiction

theorem decode_of_stop (stops : (readChar lead rest).fault? (byteLength text) = some fault) :
    decode (encode text ++ lead :: rest) = .error fault := by
  rw [← Nat.zero_add (byteLength text)] at stops
  rw [decode, decodeFrom_encode_append, decodeFrom_of_fault stops, Except.map]

/-- The bytes in front of the stop are the longest text that there is. -/
theorem longestFront_of_stop (stops : (readChar lead rest).fault? (byteLength text) = some fault) :
    LongestFront WellFormed (encode text ++ lead :: rest) (encode text) where
  isPrefix := List.prefix_append _ _
  holds := ⟨text, rfl⟩
  longest := by
    rintro _ ⟨more, split⟩ ⟨other, rfl⟩
    have failed := decode_of_stop stops
    rw [← split, decode, decodeFrom_encode_append, Nat.zero_add] at failed
    cases later : decodeFrom (byteLength other) more with
    | ok remaining => simp [later, Except.map] at failed
    | error laterFault =>
        simp only [later, Except.map, Except.error.injEq] at failed
        subst failed
        have behind := index_le_of_error later
        rw [index_of_fault? stops] at behind
        rw [length_encode, length_encode]
        omega

theorem flawed_of_error (failed : decode bytes = .error fault) : Flawed bytes fault := by
  obtain ⟨text, lead, rest, rfl, stops⟩ := exists_stop failed
  rw [Nat.zero_add] at stops
  have longest := longestFront_of_stop stops
  cases read : readChar lead rest with
  | character c rest => simp [read, Reading.fault?] at stops
  | unfinished =>
      simp only [read, Reading.fault?, Option.some.injEq] at stops
      obtain ⟨c, more, completed⟩ := begins_of_unfinished read
      rw [← stops, ← length_encode]
      refine .incomplete longest (not_wellFormed_of_error failed) ⟨more, text ++ [c], ?_⟩
      rw [List.append_assoc, completed]
      simp
  | broken good =>
      simp only [read, Reading.fault?, Option.some.injEq] at stops
      obtain ⟨start, agrees, rfl⟩ := exists_agreement_of_broken read
      rw [← stops, ← length_encode]
      refine .broken longest (fun more => ?_) rfl agrees
      have still : (readChar lead (rest ++ more)).fault? (byteLength text) = some fault := by
        rw [readChar_append_of_broken read, ← stops, Reading.fault?]
      rw [List.append_assoc, List.cons_append]
      exact not_wellFormed_of_error (decode_of_stop still)

theorem Flawed.not_wellFormed (flawed : Flawed bytes fault) : ¬WellFormed bytes := by
  cases flawed with
  | incomplete _ illFormed _ => exact illFormed
  | broken _ hopeless _ _ => simpa using hopeless []

theorem Flawed.unique (one : Flawed bytes fault) (two : Flawed bytes otherFault) :
    fault = otherFault := by
  cases one with
  | incomplete longest illFormed completable =>
      cases two with
      | incomplete otherLongest _ _ => rw [longest.unique otherLongest]
      | broken _ hopeless _ _ =>
          obtain ⟨more, wellFormed⟩ := completable
          exact absurd wellFormed (hopeless more)
  | broken longest hopeless split agrees =>
      cases two with
      | incomplete _ _ completable =>
          obtain ⟨more, wellFormed⟩ := completable
          exact absurd wellFormed (hopeless more)
      | broken otherLongest _ otherSplit otherAgrees =>
          obtain rfl := longest.unique otherLongest
          obtain rfl := List.append_cancel_left (split.symm.trans otherSplit)
          rw [agrees.unique otherAgrees]

/-- Reading reports the flaw that the bytes have. -/
theorem decode_eq_error_iff : decode bytes = .error fault ↔ Flawed bytes fault := by
  refine ⟨flawed_of_error, fun flawed => ?_⟩
  cases read : decode bytes with
  | ok text => exact absurd ⟨text, decode_eq_ok_iff.mp read⟩ flawed.not_wellFormed
  | error other => rw [(flawed_of_error read).unique flawed]

/-- The second byte of a surrogate is out of its range already. -/
example : decode [0x61, 0xED, 0xA0, 0x80] = .error (.broken 1 1) := by cbv

end Locking.Text.Utf8
