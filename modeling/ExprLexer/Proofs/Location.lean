-- SUMMARY: Where a text ends, computed from the text as a whole, and places moved behind a text.
import ExprLexer.Location
import Mathlib.Data.List.DropRight

/-!
# Locations in a text

Reading a text moves a location char by char. What it comes to is a matter of
three counts: the bytes of the text, its line feeds, and the chars behind the
last of them (`Location.advance_eq`). What is read behind a text is moved as a
whole: columns only on its first line, offsets and lines throughout
(`Location.moved_advance`).
-/

namespace ExprLexer

theorem byteLength_pos {text : List Char} (h : text ≠ []) : 0 < byteLength text := by
  cases text with
  | nil => exact absurd rfl h
  | cons c text =>
    have hc := c.utf8Size_pos
    rw [byteLength_cons]
    omega

theorem byteLength_eq_zero_iff {text : List Char} : byteLength text = 0 ↔ text = [] := by
  constructor
  · intro h
    by_contra hne
    exact Nat.ne_of_gt (byteLength_pos hne) h
  · rintro rfl
    rfl

/-- There are no more chars than bytes. -/
theorem length_le_byteLength (text : List Char) : text.length ≤ byteLength text := by
  induction text with
  | nil => exact Nat.le_refl 0
  | cons c text ih =>
    have hc := c.utf8Size_pos
    rw [List.length_cons, byteLength_cons]
    omega

/-! ## Lines and columns -/

/-- The chars behind the last line feed of a text. -/
def lastLine (text : List Char) : List Char := text.rtakeWhile (· ≠ '\n')

@[simp] theorem lastLine_nil : lastLine [] = [] := rfl

theorem lastLine_concat (text : List Char) (c : Char) :
    lastLine (text ++ [c]) = if c = '\n' then [] else lastLine text ++ [c] := by
  by_cases h : c = '\n' <;> simp [lastLine, h]

namespace Location

theorem advance_line (l : Location) (text : List Char) :
    (l.advance text).line = l.line + text.count '\n' := by
  induction text generalizing l with
  | nil => simp
  | cons c text ih =>
    rw [advance_cons, ih]
    by_cases h : c = '\n'
    · simp [step, h]
      omega
    · simp [step, h]

theorem advance_column {l : Location} (hl : l.column = 1) (text : List Char) :
    (l.advance text).column = (lastLine text).length + 1 := by
  induction text using List.reverseRecOn with
  | nil => simpa using hl
  | append_singleton text c ih =>
    rw [advance_append, advance_cons, advance_nil, lastLine_concat]
    by_cases h : c = '\n'
    · simp [step, h]
    · simp [step, h, ih]

/-- Where a text ends that starts a line, in three counts. -/
theorem advance_eq {l : Location} (hl : l.column = 1) (text : List Char) :
    l.advance text =
      ⟨l.offset + byteLength text, l.line + text.count '\n', (lastLine text).length + 1⟩ := by
  rw [← advance_offset, ← advance_line, ← advance_column hl]

/-- A text leads to no more lines and to no more columns than it has bytes. -/
theorem advance_le (l : Location) (text : List Char) :
    (l.advance text).line ≤ l.line + byteLength text ∧
      (l.advance text).column ≤ l.column + byteLength text := by
  induction text generalizing l with
  | nil => exact ⟨Nat.le_refl _, Nat.le_refl _⟩
  | cons c text ih =>
    have hc := c.utf8Size_pos
    have hstep : (l.step c).line ≤ l.line + 1 ∧ (l.step c).column ≤ l.column + 1 := by
      unfold step
      split <;> simp
    obtain ⟨hline, hcolumn⟩ := ih (l.step c)
    rw [advance_cons, byteLength_cons]
    omega

/-! ## Moving locations -/

/-- Lines and columns count from one. -/
def Counted (l : Location) : Prop := 0 < l.line ∧ 0 < l.column

theorem counted_start : start.Counted := ⟨Nat.one_pos, Nat.one_pos⟩

theorem Counted.step {l : Location} (h : l.Counted) (c : Char) : (l.step c).Counted := by
  unfold Location.step
  split
  · exact ⟨Nat.succ_pos _, Nat.one_pos⟩
  · exact ⟨h.1, Nat.succ_pos _⟩

theorem Counted.advance {l : Location} (h : l.Counted) (text : List Char) :
    (l.advance text).Counted := by
  induction text generalizing l with
  | nil => exact h
  | cons c text ih => exact ih (h.step c)

/-- A location in a text, seen from where `base` is the location of the first char of the text.
    Only the first line of the text is moved to the right. -/
def moved (base l : Location) : Location where
  offset := base.offset + l.offset
  line := base.line + (l.line - 1)
  column := if l.line = 1 then base.column + (l.column - 1) else l.column

@[simp] theorem moved_start (base : Location) : base.moved start = base := rfl

theorem moved_step (base : Location) {l : Location} (hl : l.Counted) (c : Char) :
    base.moved (l.step c) = (base.moved l).step c := by
  obtain ⟨hline, hcolumn⟩ := hl
  by_cases h : c = '\n'
  · have hne : l.line + 1 ≠ 1 := by omega
    simp only [moved, step, h, if_true, if_neg hne, mk.injEq, and_true]
    omega
  · simp only [moved, step, h, if_false, mk.injEq, true_and]
    refine ⟨by omega, ?_⟩
    split <;> omega

/-- Reading behind a text moves a location as reading without the text does. -/
theorem moved_advance (base : Location) {l : Location} (hl : l.Counted) (text : List Char) :
    base.moved (l.advance text) = (base.moved l).advance text := by
  induction text generalizing l with
  | nil => rfl
  | cons c text ih => rw [advance_cons, ih (hl.step c), moved_step base hl, advance_cons]

end Location

end ExprLexer
