-- SUMMARY: The moves that a reader makes inside the pending token, and what they leave alone.
import ExprLexer.Cursor.Basic

/-!
# Moves

A `Move` is one of the four operations that read or give back chars without
closing the pending token. Moves are data, so that a grammar can be a program
over them. Main statements: the text, the start of the pending token and its
location are the same after any move (`Move.apply_text`, `Move.apply_boundary`).
-/

namespace ExprLexer.Cursor

/-! ## No operation changes the text -/

theorem next_text (c : Cursor) : c.next.2.text = c.text := by
  unfold next text
  split <;> simp_all

theorem rewind_text {c c' : Cursor} (h : c.rewind = .ok c') : c'.text = c.text := by
  unfold rewind at h
  split at h
  · cases h
  · rename_i hp
    cases h
    simp [text, hp]
  · cases h
    rfl

theorem rewind_boundary {c c' : Cursor} (h : c.rewind = .ok c') :
    c'.before = c.before ∧ c'.location = c.location := by
  unfold rewind at h
  split at h
  · cases h
  · cases h; exact ⟨rfl, rfl⟩
  · cases h; exact ⟨rfl, rfl⟩

theorem accept_text (x : Char) (c : Cursor) : (c.accept x).2.text = c.text := by
  unfold accept
  split
  · exact c.next_text
  · rfl

theorem advance_text (n : Nat) (c : Cursor) : (c.advance n).text = c.text := by
  simp only [text, advance, List.reverse_append, List.reverse_reverse, List.append_assoc,
    List.take_append_drop]

theorem skip_text (c : Cursor) : c.skip.text = c.text := by
  simp [text, skip]

theorem skipMark_text (c : Cursor) : c.skipMark.text = c.text := by
  unfold skipMark
  split
  · split <;> simp_all [text]
  · rfl

/-! ## Reading and giving back -/

/-- What has just been read can be given back, also at the end of the text. -/
theorem rewind_next (c : Cursor) : c.next.2.rewind = .ok { c with lastRead := .nothing } := by
  unfold next
  split
  · rfl
  · rename_i x after h
    simp [rewind, h]

/-! ## Where the pieces end -/

theorem tokenStart_eq (c : Cursor) : c.tokenStart = byteLength c.before := c.offset_eq

theorem tokenStart_le_position (c : Cursor) : c.tokenStart ≤ c.position := by
  simp [c.tokenStart_eq, c.position_eq]

theorem position_le (c : Cursor) : c.position ≤ byteLength c.text := by
  simp only [c.position_eq, text, byteLength_append, byteLength_reverse]
  omega

/-! ## Moves -/

/-- An operation inside the pending token. The index is the type of its answer. -/
inductive Move : Type → Type 1 where
  /-- Read the next char. -/
  | next : Move (Option Char)
  /-- Give back what the latest read returned. -/
  | rewind : Move Unit
  /-- Read the next char if it is the expected one. -/
  | accept (expected : Char) : Move Bool
  /-- Read the longest run that a predicate with a state of its own accepts. -/
  | takeWhile {τ : Type} (ask : τ → Char → Bool × τ) (t : τ) : Move (Nat × τ)

/-- Makes a move. Only giving back can go wrong. -/
def Move.apply {β : Type} : Move β → Cursor → Except Fault (β × Cursor)
  | .next, c => .ok c.next
  | .rewind, c => c.rewind.map fun c => ((), c)
  | .accept expected, c => .ok (c.accept expected)
  | .takeWhile ask t, c => .ok (c.takeWhileState ask t)

namespace Move

variable {β : Type} {m : Move β} {c : Cursor} {r : β × Cursor}

theorem apply_rewind {r : Unit × Cursor} (h : Move.rewind.apply c = .ok r) :
    c.rewind = .ok r.2 := by
  obtain ⟨c', hc, rfl⟩ := Except.map_eq_ok_iff.1 h
  exact hc

theorem apply_text (h : m.apply c = .ok r) : r.2.text = c.text := by
  cases m with
  | next => cases h; exact c.next_text
  | rewind => exact rewind_text (apply_rewind h)
  | accept x => cases h; exact c.accept_text x
  | takeWhile ask t => cases h; exact c.advance_text _

/-- A move leaves the start of the pending token and its location alone. -/
theorem apply_boundary (h : m.apply c = .ok r) :
    r.2.before = c.before ∧ r.2.location = c.location := by
  cases m with
  | next =>
    cases h
    unfold Cursor.next
    split <;> exact ⟨rfl, rfl⟩
  | rewind =>
    exact rewind_boundary (apply_rewind h)
  | accept x =>
    cases h
    unfold Cursor.accept Cursor.next
    split
    · split <;> exact ⟨rfl, rfl⟩
    · exact ⟨rfl, rfl⟩
  | takeWhile ask t => cases h; exact ⟨rfl, rfl⟩

end Move

end ExprLexer.Cursor
