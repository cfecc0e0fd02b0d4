namespace Locking.Text.Utf8

/-!
UTF-8: the bytes of a text, and reading them back. Reading names the first fault, by the place
where its sequence starts and by how much of the sequence was still good.
-/

def tailByte (code : Nat) : UInt8 :=
  UInt8.ofNat (0x80 + code % 0x40)

/-- The bytes of one character: the more significant digits in base 64 first. -/
def encodeChar (c : Char) : List UInt8 :=
  let code := c.toNat
  if code < 0x80 then [UInt8.ofNat code]
  else if code < 0x800 then [UInt8.ofNat (0xC0 + code / 0x40), tailByte code]
  else if code < 0x10000 then
    [UInt8.ofNat (0xE0 + code / 0x1000), tailByte (code / 0x40), tailByte code]
  else
    [UInt8.ofNat (0xF0 + code / 0x40000), tailByte (code / 0x1000), tailByte (code / 0x40),
      tailByte code]

def encode (text : List Char) : List UInt8 :=
  text.flatMap encodeChar

/-- The bytes from `first` to `last`, which may stand at one place of a sequence. -/
structure ByteRange where
  first : Nat
  last : Nat
deriving DecidableEq, Repr

namespace ByteRange

def Contains (range : ByteRange) (byte : UInt8) : Prop :=
  range.first ≤ byte.toNat ∧ byte.toNat ≤ range.last

instance (range : ByteRange) (byte : UInt8) : Decidable (range.Contains byte) :=
  inferInstanceAs (Decidable (_ ∧ _))

def tail : ByteRange := ⟨0x80, 0xBF⟩

end ByteRange

/-- What a first byte calls for after it, or `none` if no sequence starts with it. The narrowed
ranges keep out longer forms than needed, surrogates and codes past the last one. -/
def expected (lead : UInt8) : Option (List ByteRange) :=
  let lead := lead.toNat
  if lead < 0x80 then some []
  else if lead < 0xC2 then none
  else if lead < 0xE0 then some [.tail]
  else if lead = 0xE0 then some [⟨0xA0, 0xBF⟩, .tail]
  else if lead = 0xED then some [⟨0x80, 0x9F⟩, .tail]
  else if lead < 0xF0 then some [.tail, .tail]
  else if lead = 0xF0 then some [⟨0x90, 0xBF⟩, .tail, .tail]
  else if lead < 0xF4 then some [.tail, .tail, .tail]
  else if lead = 0xF4 then some [⟨0x80, 0x8F⟩, .tail, .tail]
  else none

/-- How many of the first bytes fall into the ranges at their places. -/
def agreement : List ByteRange → List UInt8 → Nat
  | range :: ranges, byte :: bytes =>
      if range.Contains byte then agreement ranges bytes + 1 else 0
  | _, _ => 0

/-- How many values the first byte of a sequence can carry, by the number of bytes after it. -/
def leadSpan : Nat → Nat
  | 0 => 0x80
  | 1 => 0x20
  | 2 => 0x10
  | _ => 0x08

/-- The code of a sequence, from its first byte and those after it. -/
def assemble (lead : UInt8) (tail : List UInt8) : Nat :=
  tail.foldl (fun code byte => code * 0x40 + byte.toNat % 0x40)
    (lead.toNat % leadSpan tail.length)

inductive Reading where
  | character (c : Char) (rest : List UInt8)
  /-- The first `good` bytes could start a sequence, the next one does not go on with it. A byte
  that starts no sequence counts as one. -/
  | broken (good : Nat)
  | unfinished
deriving DecidableEq, Repr

def readChar (lead : UInt8) (rest : List UInt8) : Reading :=
  match expected lead with
  | none => .broken 1
  | some ranges =>
      let agreed := agreement ranges rest
      if agreed = ranges.length then
        .character (Char.ofNat (assemble lead (rest.take agreed))) (rest.drop agreed)
      else if agreed = rest.length then .unfinished
      else .broken (agreed + 1)

theorem readChar_shortens {lead : UInt8} {bytes rest : List UInt8} {c : Char}
    (read : readChar lead bytes = .character c rest) : rest.length < (lead :: bytes).length := by
  unfold readChar at read
  split at read
  · cases read
  · simp only at read
    split at read
    · injection read with _ restEq
      subst restEq
      simp only [List.length_drop, List.length_cons]
      omega
    · split at read <;> cases read

/-- Why bytes are no text. `index` counts the bytes before the faulty sequence. -/
inductive Fault where
  | broken (index good : Nat)
  | incomplete (index : Nat)
deriving DecidableEq, Repr

def Fault.message : Fault → String
  | .broken index good =>
      "invalid utf-8 sequence of " ++ toString good ++ " bytes from index " ++ toString index
  | .incomplete index => "incomplete utf-8 byte sequence from index " ++ toString index

def decodeFrom (index : Nat) : List UInt8 → Except Fault (List Char)
  | [] => .ok []
  | lead :: bytes =>
      match _ : readChar lead bytes with
      | .character c rest =>
          (decodeFrom (index + c.utf8Size) rest).map (c :: ·)
      | .broken good => .error (.broken index good)
      | .unfinished => .error (.incomplete index)
termination_by bytes => bytes.length
decreasing_by exact readChar_shortens ‹_›

def decode (bytes : List UInt8) : Except Fault (List Char) :=
  decodeFrom 0 bytes

@[simp] theorem encode_nil : encode [] = [] := rfl

@[simp] theorem encode_cons (c : Char) (rest : List Char) :
    encode (c :: rest) = encodeChar c ++ encode rest := rfl

@[simp] theorem encode_append (left right : List Char) :
    encode (left ++ right) = encode left ++ encode right := by
  simp [encode]

@[simp] theorem decode_nil : decode [] = .ok [] := by
  simp [decode, decodeFrom]

end Locking.Text.Utf8
