-- SUMMARY: What holds of the offsets of a cursor, whatever has been done with it.
import ExprLexer.Proofs.ByteCursor

/-!
# Offsets

Whatever is done with a byte cursor, the offsets that it keeps bound pieces of
the text, and what it can give back is the char before the position or the end
of the text (`ByteCursor.Valid`). So it never cuts a char, never steps back
in front of the pending token, and never counts further than a machine word
does.

Main statement: this holds of every cursor of a session over a text of less
than 2^63 bytes, copies included, and an operation fails only if it gives back
what is not there (`ByteCursor.Session.run_valid`).
-/

namespace ExprLexer

/-- A result that is seen in other terms is an error where it was one. -/
theorem mapError_map_eq_error_iff {α β : Type} {f : α → β} {x : Except Fault α} {e : Trouble} :
    (x.map f).mapError .fault = .error e ↔ ∃ fault, x = .error fault ∧ e = .fault fault := by
  cases x <;> simp [Except.map, Except.mapError, eq_comm]

theorem mapError_map_eq_ok_iff {α β : Type} {f : α → β} {x : Except Fault α} {b : β} :
    (x.map f).mapError Trouble.fault = .ok b ↔ ∃ a, x = .ok a ∧ f a = b := by
  cases x <;> simp [Except.map, Except.mapError]

/-! ## Consistent cursors -/

namespace Cursor

variable {text : List Char} {c c' : Cursor}

theorem next_holds (c : Cursor) : c.next.2.Holds := by
  unfold next
  split
  · assumption
  · exact List.cons_ne_nil _ _

theorem rewind_holds (h : c.rewind = .ok c') : c'.Holds := by
  unfold rewind at h
  split at h
  · cases h
  · cases h
    trivial
  · cases h
    trivial

theorem accept_holds (expected : Char) (c : Cursor) : (c.accept expected).2.Holds := by
  unfold accept
  split
  · exact c.next_holds
  · trivial

theorem Holds.advance (h : c.Holds) (n : Nat) : (c.advance n).Holds := by
  by_cases hn : n = 0 ∨ c.after = []
  · rw [advance_eq_self hn]
    exact h
  · obtain ⟨hzero, hafter⟩ := not_or.1 hn
    simp [Holds, Cursor.advance, hzero, hafter]

theorem skipMark_lastRead (c : Cursor) : c.skipMark.lastRead = c.lastRead := by
  unfold skipMark
  split
  · split <;> rfl
  · rfl

/-- In front of the text nothing has been read that could be given back. -/
theorem Holds.lastRead_of_atMark (h : c.Holds) (hc : c.atMark) : c.lastRead = .nothing := by
  obtain ⟨-, hpending, hafter⟩ := atMark_iff.1 hc
  unfold Holds at h
  split at h
  · assumption
  · rw [h] at hafter
    cases hafter
  · exact absurd hpending h

namespace Consistent

theorem ofList (text : List Char) : (Cursor.ofList text).Consistent text :=
  ⟨rfl, trivial, Nat.le_refl 1, Nat.le_refl 1⟩

theorem move {β : Type} {m : Move β} {r : β × Cursor} (h : c.Consistent text)
    (hm : m.apply c = .ok r) : r.2.Consistent text := by
  obtain ⟨hbefore, hlocation⟩ := Move.apply_boundary hm
  refine ⟨(Move.apply_text hm).trans h.text_eq, ?_, ?_, ?_⟩
  · cases m with
    | next =>
      cases hm
      exact c.next_holds
    | rewind => exact rewind_holds (Move.apply_rewind hm)
    | accept expected =>
      cases hm
      exact c.accept_holds expected
    | takeWhile ask t =>
      cases hm
      exact h.holds.advance _
  · rw [hbefore, hlocation]
    exact h.line_le
  · rw [hbefore, hlocation]
    exact h.column_le

theorem skip (h : c.Consistent text) : c.skip.Consistent text := by
  obtain ⟨hline, hcolumn⟩ := c.location.advance_le c.current
  have hbefore : byteLength c.skip.before = byteLength c.current + byteLength c.before := by
    rw [Cursor.skip, byteLength_append, current, byteLength_reverse]
  have hlocation : c.skip.location = c.location.advance c.current := rfl
  have hl := h.line_le
  have hc := h.column_le
  refine ⟨c.skip_text.trans h.text_eq, trivial, ?_, ?_⟩
  · rw [hbefore, hlocation]
    omega
  · rw [hbefore, hlocation]
    omega

theorem skipMark (h : c.Consistent text) : c.skipMark.Consistent text := by
  by_cases hc : c.atMark
  · obtain ⟨hbefore, hlocation⟩ := Cursor.skipMark_of_atMark hc
    have hlast : c.skipMark.lastRead = .nothing :=
      c.skipMark_lastRead.trans (h.holds.lastRead_of_atMark hc)
    have hl := h.line_le
    have hcolumn := h.column_le
    rw [(atMark_iff.1 hc).1, byteLength_nil] at hl hcolumn
    refine ⟨c.skipMark_text.trans h.text_eq, ?_, ?_, ?_⟩
    · rw [Holds, hlast]
      trivial
    · rw [hbefore, hlocation]
      exact Nat.le_trans hl (Nat.le_add_left _ _)
    · rw [hbefore, hlocation]
      exact Nat.le_trans hcolumn (Nat.le_add_left _ _)
  · rw [Cursor.skipMark_of_not_atMark hc]
    exact h

/-- Every operation leaves a consistent cursor behind. -/
theorem apply {t t' : Tracked} {operation : Operation} (h : t.cursor.Consistent text)
    (ht : t.apply operation = .ok t') : t'.cursor.Consistent text :=
  Tracked.apply_preserves (P := fun t => t.cursor.Consistent text) (fun h hm => h.move hm)
    (fun h => h.skip) (fun h => h.skipMark) h ht

end Consistent

/-! ## Where an operation fails -/

/-- What is not there can not be given back, and nothing else fails. -/
theorem Tracked.apply_eq_error_iff {t : Tracked} {operation : Operation} {fault : Fault} :
    t.apply operation = .error fault ↔
      operation = .move .rewind ∧ t.cursor.width? = none ∧
        fault = .nothingToRewind t.cursor.position := by
  by_cases hop : operation = .move .rewind
  · subst hop
    rw [apply, Move.apply]
    cases hwidth : t.cursor.width? with
    | none =>
      rw [rewind_of_width?_eq_none hwidth]
      simp [Except.map, eq_comm]
    | some width =>
      obtain ⟨c', hc', -⟩ := exists_rewind hwidth
      simp [hc', Except.map]
  · have hok : ∃ t', t.apply operation = .ok t' := by
      cases operation with
      | move m =>
        cases m with
        | rewind => exact absurd rfl hop
        | _ => exact ⟨_, rfl⟩
      | _ => exact ⟨_, rfl⟩
    obtain ⟨t', ht'⟩ := hok
    simp [ht', hop]

end Cursor

/-! ## Byte cursors that make sense -/

/-- An offset lies between two chars of a text. -/
def IsBoundary (text : List Char) (i : Nat) : Prop := ∃ u v, text = u ++ v ∧ byteLength u = i

namespace ByteCursor

/-- The offsets of a byte cursor bound pieces of the text, and its counts fit machine words. -/
structure Valid (text : List Char) (c : ByteCursor) : Prop where
  text_eq : c.text = text
  offset_eq : c.location.offset = c.start
  start_le : c.start ≤ c.position
  position_le : c.position ≤ byteLength text
  start_boundary : IsBoundary text c.start
  position_boundary : IsBoundary text c.position
  /-- What can be given back is one char of the pending token. -/
  slot_char : ∀ width, c.slot = some width → 0 < width →
    width ≤ c.position ∧ c.start ≤ c.position - width ∧ IsBoundary text (c.position - width) ∧
      ∃ x, slice? text (c.position - width) c.position = some [x]
  /-- Or it is the end of the text. -/
  slot_end : c.slot = some 0 → c.position = byteLength text
  line_lt : c.location.line < wordSize
  column_lt : c.location.column < wordSize
  position_lt : c.position < wordSize
  position_add_start_lt : c.position + c.start < wordSize

/-- Looking at the text never fails, and an operation fails only if it gives back what is not
    there. -/
structure Safe (c : ByteCursor) : Prop where
  peek : ∃ next, c.peek = .ok next
  current : ∃ piece, c.current = .ok piece
  apply_eq_error_iff {operation : Cursor.Operation} {trouble : Trouble} :
    c.apply operation = .error trouble ↔
      operation = .move .rewind ∧ c.slot = none ∧
        trouble = .fault (.nothingToRewind c.position)

end ByteCursor

namespace Cursor

variable {text : List Char} {c : Cursor}

theorem start_boundary (c : Cursor) : IsBoundary c.text c.tokenStart := by
  refine ⟨_, _, rfl, ?_⟩
  rw [byteLength_reverse, c.tokenStart_eq]

theorem position_boundary (c : Cursor) : IsBoundary c.text c.position := by
  refine ⟨c.before.reverse ++ c.current, c.after, ?_, ?_⟩
  · rw [text, current, List.append_assoc]
  · rw [byteLength_append, byteLength_reverse, current, byteLength_reverse, c.position_eq]

/-- A width that is not 0 is the one of the latest char of the pending token. -/
theorem exists_pending_of_width? {width : Nat} (h : c.width? = some width) (hpos : 0 < width) :
    ∃ x pending, c.pending = x :: pending ∧ width = x.utf8Size := by
  unfold width? at h
  split at h
  · cases h
  · cases h
    exact absurd hpos (Nat.lt_irrefl 0)
  · cases h
    cases hp : c.pending with
    | nil =>
      rw [hp] at hpos
      exact absurd hpos (Nat.lt_irrefl 0)
    | cons x pending => exact ⟨x, pending, rfl, rfl⟩

theorem Holds.after_eq_nil_of_width? (h : c.Holds) (hwidth : c.width? = some 0) : c.after = [] := by
  unfold Holds at h
  unfold width? at hwidth
  split at h
  · rename_i hlast
    rw [hlast] at hwidth
    cases hwidth
  · exact h
  · rename_i hlast
    obtain ⟨x, pending, hp⟩ := List.exists_cons_of_ne_nil h
    rw [hlast, hp] at hwidth
    exact absurd (Option.some.inj hwidth) (Nat.ne_of_gt x.utf8Size_pos)

/-- The latest char of the pending token is the piece of the text before the position. -/
theorem slice?_latest {x : Char} {pending : List Char} (h : c.pending = x :: pending) :
    x.utf8Size ≤ c.position ∧ c.tokenStart ≤ c.position - x.utf8Size ∧
      IsBoundary c.text (c.position - x.utf8Size) ∧
      slice? c.text (c.position - x.utf8Size) c.position = some [x] := by
  have hstart := c.tokenStart_eq
  have hposition := c.position_eq
  rw [h, byteLength_cons] at hposition
  have htext : c.text = (c.before.reverse ++ pending.reverse) ++ ([x] ++ c.after) := by
    simp [text, h]
  have hlength : byteLength (c.before.reverse ++ pending.reverse) = c.position - x.utf8Size := by
    rw [byteLength_append, byteLength_reverse, byteLength_reverse]
    omega
  refine ⟨by omega, by omega, ⟨_, _, htext, hlength⟩, ?_⟩
  refine slice?_eq_some_iff.2 ⟨_, _, htext, hlength, ?_⟩
  rw [byteLength_cons, byteLength_nil]
  omega

theorem Consistent.valid (h : c.Consistent text) (htext : byteLength text < 2 ^ 63) :
    c.bytes.Valid text := by
  have hstart := c.tokenStart_eq
  have hstart_le := c.tokenStart_le_position
  have hposition_le := h.text_eq ▸ c.position_le
  have hline := h.line_le
  have hcolumn := h.column_le
  have hword : wordSize = 2 ^ 64 := rfl
  refine
    { text_eq := h.text_eq
      offset_eq := rfl
      start_le := hstart_le
      position_le := hposition_le
      start_boundary := h.text_eq ▸ c.start_boundary
      position_boundary := h.text_eq ▸ c.position_boundary
      slot_char := ?_
      slot_end := ?_
      line_lt := ?_
      column_lt := ?_
      position_lt := ?_
      position_add_start_lt := ?_ }
  · intro width hwidth hpos
    obtain ⟨x, pending, hp, rfl⟩ := exists_pending_of_width? hwidth hpos
    obtain ⟨hle, hstart, hboundary, hslice⟩ := slice?_latest hp
    rw [h.text_eq] at hboundary hslice
    exact ⟨hle, hstart, hboundary, x, hslice⟩
  · intro hwidth
    have hafter := h.holds.after_eq_nil_of_width? hwidth
    have hposition : c.position = byteLength c.text := by
      rw [Cursor.text, hafter, List.append_nil, byteLength_append, byteLength_reverse, byteLength_reverse,
        c.position_eq]
    rw [← h.text_eq]
    exact hposition
  · change c.location.line < wordSize
    omega
  · change c.location.column < wordSize
    omega
  · change c.position < wordSize
    omega
  · change c.position + c.tokenStart < wordSize
    omega

theorem Consistent.safe (h : c.Consistent text) (htext : byteLength text < 2 ^ 63) :
    c.bytes.Safe where
  peek := ⟨_, c.peek_bytes⟩
  current := ⟨_, c.current_bytes⟩
  apply_eq_error_iff {operation trouble} := by
    rw [apply_bytes (t := ⟨c, false⟩) h htext operation, mapError_map_eq_error_iff]
    constructor
    · rintro ⟨fault, hfault, rfl⟩
      obtain ⟨hop, hwidth, rfl⟩ := Tracked.apply_eq_error_iff.1 hfault
      exact ⟨hop, hwidth, rfl⟩
    · rintro ⟨hop, hwidth, rfl⟩
      exact ⟨_, Tracked.apply_eq_error_iff.2 ⟨hop, hwidth, rfl⟩, rfl⟩

end Cursor

/-! ## Sessions -/

namespace ByteCursor

/-- A byte cursor in use, with the copies that have been kept, oldest first. -/
structure Session where
  current : ByteCursor
  kept : List ByteCursor
deriving DecidableEq, Repr

namespace Session

/-- A session with a byte cursor at the start of a text. -/
def start (text : List Char) : Session := ⟨ofList text, []⟩

def apply (s : Session) : Cursor.Request → Except Trouble Session
  | .use operation => (s.current.apply operation).map fun c => { s with current := c }
  | .keep => .ok { s with kept := s.kept ++ [s.current] }
  | .restore i => .ok { s with current := s.kept[i]?.getD s.current }

/-- Serves requests one after the other. -/
def run (s : Session) : List Cursor.Request → Except Trouble Session
  | [] => .ok s
  | request :: requests =>
    match s.apply request with
    | .error trouble => .error trouble
    | .ok s' => s'.run requests

end Session

end ByteCursor

namespace Cursor.Session

variable {text : List Char} {s : Session}

/-- The offsets of all cursors of a session. -/
def bytes (s : Session) : ByteCursor.Session :=
  ⟨s.current.cursor.bytes, s.kept.map fun t => t.cursor.bytes⟩

theorem apply_bytes (h : s.All fun t => t.cursor.Consistent text)
    (htext : byteLength text < 2 ^ 63) (request : Request) :
    s.bytes.apply request = ((s.apply request).map bytes).mapError .fault := by
  cases request with
  | use operation =>
    rw [ByteCursor.Session.apply, apply]
    have happly : s.bytes.current.apply operation = _ := Cursor.apply_bytes h.1 htext operation
    rw [happly]
    cases s.current.apply operation <;> rfl
  | keep =>
    rw [ByteCursor.Session.apply, apply]
    simp [bytes, Except.map, Except.mapError]
  | restore i =>
    rw [ByteCursor.Session.apply, apply]
    cases hi : s.kept[i]? <;> simp [bytes, hi, Except.map, Except.mapError]

/-- A session with byte cursors goes as the one with cursors. -/
theorem run_bytes (h : s.All fun t => t.cursor.Consistent text)
    (htext : byteLength text < 2 ^ 63) (requests : List Request) :
    s.bytes.run requests = ((s.run requests).map bytes).mapError .fault := by
  induction requests generalizing s with
  | nil => rfl
  | cons request requests ih =>
    rw [ByteCursor.Session.run, run, apply_bytes h htext]
    cases happly : s.apply request with
    | error fault => rfl
    | ok s' => exact ih (apply_preserves (fun _ _ _ ht ha => ht.apply ha) h happly)

end Cursor.Session

/-- Whatever is asked of a byte cursor and its copies over a text of less than 2^63 bytes, it is
    served as by cursors that keep pieces of the text. All byte cursors stay valid, and each of them
    fails only where it is to give back what is not there. -/
theorem ByteCursor.Session.run_valid {text : List Char} (htext : byteLength text < 2 ^ 63)
    (requests : List Cursor.Request) :
    (start text).run requests =
        (((Cursor.Session.start text).run requests).map Cursor.Session.bytes).mapError .fault ∧
      ∀ s, (start text).run requests = .ok s →
        ∀ c ∈ s.current :: s.kept, c.Valid text ∧ c.Safe := by
  have hstart : (Cursor.Session.start text).All fun t => t.cursor.Consistent text :=
    ⟨.ofList text, List.forall_mem_nil _⟩
  have hrun : (start text).run requests = _ := Cursor.Session.run_bytes hstart htext requests
  refine ⟨hrun, ?_⟩
  intro s hs
  rw [hrun] at hs
  obtain ⟨s', hs', rfl⟩ := mapError_map_eq_ok_iff.1 hs
  have hall := Cursor.Session.run_preserves (fun _ _ _ ht ha => ht.apply ha) hstart hs'
  intro c hc
  rcases List.mem_cons.1 hc with rfl | hc
  · exact ⟨hall.1.valid htext, hall.1.safe htext⟩
  · obtain ⟨t, ht, rfl⟩ := List.mem_map.1 hc
    exact ⟨(hall.2 t ht).valid htext, (hall.2 t ht).safe htext⟩

/-- Chars of one, two and three bytes: two are read, a copy is kept, the second is given back, and
    the rest is read from the copy. -/
theorem ByteCursor.Session.run_valid_mixedWidths :
    byteLength ['a', 'é', '€'] < 2 ^ 63 ∧ ∃ s,
      (start ['a', 'é', '€']).run
        [.use (.move .next), .use .commit, .use (.move .next), .keep, .use (.move .rewind),
          .restore 0, .use (.move .next)] = .ok s ∧
      s.current.position = 6 ∧ s.current.slot = some 3 ∧
      ∀ c ∈ s.current :: s.kept, c.Valid ['a', 'é', '€'] ∧ c.Safe := by
  have hlength : byteLength ['a', 'é', '€'] < 2 ^ 63 := by decide
  have hrun : (start ['a', 'é', '€']).run
      [.use (.move .next), .use .commit, .use (.move .next), .keep, .use (.move .rewind),
        .restore 0, .use (.move .next)] =
      .ok ⟨⟨['a', 'é', '€'], 6, 1, ⟨1, 1, 2⟩, some 3⟩,
        [⟨['a', 'é', '€'], 3, 1, ⟨1, 1, 2⟩, some 2⟩]⟩ := rfl
  exact ⟨hlength, _, hrun, rfl, rfl, (run_valid hlength _).2 _ hrun⟩

end ExprLexer
