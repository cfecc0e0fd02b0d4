import Locking.Text.Cut

namespace Locking.Text

/-!
A cut text is the longest beginning, in whole characters, that stays within the limit.
-/

/-- The text that is kept is the longest beginning of the text with at most `limit` bytes. -/
structure LongestWithin (limit : Nat) (text kept : List Char) : Prop where
  isPrefix : kept <+: text
  fits : byteLength kept ≤ limit
  longest : ∀ front, front <+: text → byteLength front ≤ limit → front <+: kept

variable {text kept front other : List Char} {limit offset boundary : Nat}

theorem utf8Size_ne_zero (c : Char) : c.utf8Size ≠ 0 :=
  Nat.ne_of_gt c.utf8Size_pos

theorem isBoundary_iff :
    isBoundary text offset = true ↔ ∃ front, front <+: text ∧ byteLength front = offset := by
  induction text generalizing offset with
  | nil =>
      cases offset with
      | zero => simp [isBoundary]
      | succ offset => simp [isBoundary]
  | cons c rest ih =>
      cases offset with
      | zero => exact ⟨fun _ => ⟨[], List.nil_prefix, rfl⟩, fun _ => by simp [isBoundary]⟩
      | succ offset =>
          simp only [isBoundary, Bool.and_eq_true, decide_eq_true_eq, ih]
          constructor
          · rintro ⟨fits, front, start, length⟩
            exact ⟨c :: front, List.cons_prefix_cons.mpr ⟨rfl, start⟩, by
              rw [byteLength_cons]; omega⟩
          · rintro ⟨front, start, length⟩
            cases front with
            | nil => simp at length
            | cons first front =>
                obtain ⟨rfl, within⟩ := List.cons_prefix_cons.mp start
                rw [byteLength_cons] at length
                exact ⟨by omega, front, within, by omega⟩

/-- As many bytes as a beginning has take that beginning off the text. -/
theorem takeBytes_byteLength (start : front <+: text) :
    takeBytes text (byteLength front) = front := by
  induction front generalizing text with
  | nil =>
      cases text with
      | nil => rfl
      | cons c rest => simp [takeBytes, utf8Size_ne_zero]
  | cons first front ih =>
      obtain ⟨rest, rfl⟩ := start
      simp [takeBytes, ih (List.prefix_append front rest)]

theorem isBoundary_floorBoundary (text : List Char) (offset : Nat) :
    isBoundary text (floorBoundary text offset) = true := by
  induction offset with
  | zero => exact isBoundary_iff.mpr ⟨[], List.nil_prefix, rfl⟩
  | succ offset ih =>
      unfold floorBoundary
      split
      · assumption
      · exact ih

theorem le_floorBoundary (reached : isBoundary text boundary = true) (before : boundary ≤ offset) :
    boundary ≤ floorBoundary text offset := by
  induction offset with
  | zero => exact before
  | succ offset ih =>
      unfold floorBoundary
      split
      · exact before
      · rename_i crossed
        have other : boundary ≠ offset + 1 := fun same => crossed (same ▸ reached)
        exact ih (by omega)

/-- Of two beginnings of a text, that with fewer bytes is a beginning of the other. -/
theorem isPrefix_of_byteLength_le (one : front <+: text) (two : other <+: text)
    (fewer : byteLength front ≤ byteLength other) : front <+: other := by
  rcases List.prefix_or_prefix_of_prefix one two with before | after
  · exact before
  · obtain ⟨rest, rfl⟩ := after
    cases rest with
    | nil => simp
    | cons c rest =>
        have := utf8Size_ne_zero c
        simp only [byteLength_append, byteLength_cons] at fewer
        omega

theorem cut_longestWithin (limit : Nat) (text : List Char) :
    LongestWithin limit text (cut limit text) where
  isPrefix := cut_isPrefix limit text
  fits := byteLength_cut_le limit text
  longest front start fits := by
    unfold cut
    split
    · exact start
    · obtain ⟨kept, beginning, length⟩ := isBoundary_iff.mp (isBoundary_floorBoundary text limit)
      rw [← length, takeBytes_byteLength beginning]
      refine isPrefix_of_byteLength_le start beginning ?_
      rw [length]
      exact le_floorBoundary (isBoundary_iff.mpr ⟨front, start, rfl⟩) fits

theorem longestWithin_iff : LongestWithin limit text kept ↔ cut limit text = kept := by
  constructor
  · intro longest
    have cutText := cut_longestWithin limit text
    have one := longest.longest _ cutText.isPrefix cutText.fits
    have other := cutText.longest _ longest.isPrefix longest.fits
    exact one.eq_of_length_le other.length_le
  · rintro rfl
    exact cut_longestWithin limit text

theorem cut_eq_self_iff : cut limit text = text ↔ byteLength text ≤ limit := by
  constructor
  · intro same
    rw [← same]
    exact byteLength_cut_le limit text
  · exact fun short => if_pos short

theorem cut_cut (limit : Nat) (text : List Char) : cut limit (cut limit text) = cut limit text :=
  cut_eq_self_iff.mpr (byteLength_cut_le limit text)

/-- A beginning of a text is cut to a beginning of what is kept of the text. -/
theorem cut_isPrefix_cut (start : front <+: text) : cut limit front <+: cut limit text :=
  (cut_longestWithin limit text).longest _ ((cut_isPrefix limit front).trans start)
    (byteLength_cut_le limit front)

/-! How far back the last boundary is. -/

/-- No character has more than four bytes, so that the last beginning of the text that fits ends
less than four bytes before the limit. -/
theorem exists_prefix_near (within : limit ≤ byteLength text) :
    ∃ front, front <+: text ∧ byteLength front ≤ limit ∧ limit < byteLength front + 4 := by
  induction text generalizing limit with
  | nil =>
      rw [byteLength_nil] at within
      exact ⟨[], List.nil_prefix, Nat.zero_le limit, by omega⟩
  | cons c rest ih =>
      have size := c.utf8Size_le_four
      rw [byteLength_cons] at within
      by_cases fits : c.utf8Size ≤ limit
      · have withinRest : limit - c.utf8Size ≤ byteLength rest := by omega
        obtain ⟨front, start, below, near⟩ := ih withinRest
        refine ⟨c :: front, List.cons_prefix_cons.mpr ⟨rfl, start⟩, ?_⟩
        rw [byteLength_cons]
        omega
      · exact ⟨[], List.nil_prefix, Nat.zero_le limit, by rw [byteLength_nil]; omega⟩

theorem le_floorBoundary_add_three (within : offset ≤ byteLength text) :
    offset ≤ floorBoundary text offset + 3 := by
  obtain ⟨front, start, below, near⟩ := exists_prefix_near within
  have reached := le_floorBoundary (isBoundary_iff.mpr ⟨front, start, rfl⟩) below
  omega

theorem byteLength_cut (long : limit < byteLength text) :
    byteLength (cut limit text) = floorBoundary text limit := by
  obtain ⟨kept, beginning, length⟩ := isBoundary_iff.mp (isBoundary_floorBoundary text limit)
  rw [cut, if_neg (Nat.not_le.mpr long), ← length, takeBytes_byteLength beginning]

/-- Behind a beginning that is as long as the limit, nothing has any influence on what is kept. -/
theorem cut_append (enough : limit ≤ byteLength front) (rest : List Char) :
    cut limit (front ++ rest) = cut limit front := by
  have kept := cut_longestWithin limit front
  apply longestWithin_iff.mp
  constructor
  case isPrefix => exact kept.isPrefix.trans (List.prefix_append front rest)
  case fits => exact kept.fits
  case longest =>
    intro beginning start fits
    have within : beginning <+: front :=
      isPrefix_of_byteLength_le start (List.prefix_append front rest) (Nat.le_trans fits enough)
    exact kept.longest beginning within fits

end Locking.Text
