namespace Locking.Text

/-!
Cutting a text to a number of UTF-8 bytes without splitting a character.
-/

def byteLength : List Char → Nat
  | [] => 0
  | c :: rest => c.utf8Size + byteLength rest

/-- Whether no character of the text reaches across `offset`, and the text has that many bytes. -/
def isBoundary : List Char → Nat → Bool
  | _, 0 => true
  | [], _ + 1 => false
  | c :: rest, offset => decide (c.utf8Size ≤ offset) && isBoundary rest (offset - c.utf8Size)

/-- The last boundary at or before `offset`, found by stepping back. -/
def floorBoundary (text : List Char) : Nat → Nat
  | 0 => 0
  | offset + 1 => if isBoundary text (offset + 1) then offset + 1 else floorBoundary text offset

/-- The leading characters that fit into `budget` bytes. -/
def takeBytes : List Char → Nat → List Char
  | [], _ => []
  | c :: rest, budget =>
      if c.utf8Size ≤ budget then c :: takeBytes rest (budget - c.utf8Size) else []

/-- A text longer than `limit` bytes, cut at the last boundary that the limit allows. -/
def cut (limit : Nat) (text : List Char) : List Char :=
  if byteLength text ≤ limit then text else takeBytes text (floorBoundary text limit)

@[simp] theorem byteLength_nil : byteLength [] = 0 := rfl

@[simp] theorem byteLength_cons (c : Char) (rest : List Char) :
    byteLength (c :: rest) = c.utf8Size + byteLength rest := rfl

@[simp] theorem byteLength_append (left right : List Char) :
    byteLength (left ++ right) = byteLength left + byteLength right := by
  induction left with
  | nil => simp
  | cons c rest ih => simp [ih, Nat.add_assoc]

theorem takeBytes_isPrefix (text : List Char) (budget : Nat) :
    takeBytes text budget <+: text := by
  induction text generalizing budget with
  | nil => simp [takeBytes]
  | cons c rest ih =>
      unfold takeBytes
      split
      · exact List.cons_prefix_cons.mpr ⟨rfl, ih _⟩
      · exact List.nil_prefix

theorem byteLength_takeBytes_le (text : List Char) (budget : Nat) :
    byteLength (takeBytes text budget) ≤ budget := by
  induction text generalizing budget with
  | nil => simp [takeBytes]
  | cons c rest ih =>
      unfold takeBytes
      split
      case isTrue fits =>
        have tail := ih (budget - c.utf8Size)
        simp only [byteLength_cons]
        omega
      case isFalse => simp

theorem floorBoundary_le (text : List Char) (offset : Nat) :
    floorBoundary text offset ≤ offset := by
  induction offset with
  | zero => exact Nat.le_refl 0
  | succ offset ih =>
      unfold floorBoundary
      split
      · exact Nat.le_refl _
      · exact Nat.le_succ_of_le ih

theorem byteLength_cut_le (limit : Nat) (text : List Char) :
    byteLength (cut limit text) ≤ limit := by
  unfold cut
  split
  case isTrue short => exact short
  case isFalse =>
    exact Nat.le_trans (byteLength_takeBytes_le text _) (floorBoundary_le text limit)

theorem cut_isPrefix (limit : Nat) (text : List Char) : cut limit text <+: text := by
  unfold cut
  split
  · exact List.prefix_refl text
  · exact takeBytes_isPrefix text _

end Locking.Text
