-- SUMMARY: Cursors in use: their operations in any order, and copies to go back to.
import ExprLexer.Cursor.Move
import ExprLexer.Proofs.Location

/-!
# Sessions

An `Operation` is anything that changes a cursor. A cursor is `Tracked` along
with what its past says about byte order marks, since where lines and columns
start depends on that. A `Session` applies operations in any order; a cursor can
be copied at any time and gone back to later, and a copy has the past of the
cursor it was taken from.

Main statement: what every operation preserves is true of any cursor of a
session, copies included (`Session.run_preserves`).
-/

namespace ExprLexer.Cursor

/-! ## Byte order marks -/

/-- Whether a byte order mark that opens the text is the next char. -/
def atMark (c : Cursor) : Bool := c.position == 0 && c.text.head? == some byteOrderMark

theorem atMark_iff {c : Cursor} :
    c.atMark ↔ c.before = [] ∧ c.pending = [] ∧ c.after.head? = some byteOrderMark := by
  have hposition : c.position = 0 ↔ c.before = [] ∧ c.pending = [] := by
    rw [c.position_eq, Nat.add_eq_zero_iff, byteLength_eq_zero_iff, byteLength_eq_zero_iff]
  simp only [atMark, Bool.and_eq_true, beq_iff_eq, hposition, and_assoc]
  refine and_congr_right fun hbefore => and_congr_right fun hpending => ?_
  simp [text, hbefore, hpending]

theorem skipMark_of_atMark {c : Cursor} (h : c.atMark) :
    c.skipMark.before = [byteOrderMark] ∧
      c.skipMark.location = { c.location with offset := 3 } := by
  obtain ⟨hbefore, hpending, hafter⟩ := atMark_iff.1 h
  obtain ⟨after, hafter⟩ := List.head?_eq_some_iff.1 hafter
  unfold skipMark
  split
  · rename_i hx
    cases hafter.symm.trans hx
    exact ⟨rfl, rfl⟩
  · rename_i hne
    exact (hne _ _ hbefore hpending hafter).elim

theorem skipMark_of_not_atMark {c : Cursor} (h : ¬ c.atMark) : c.skipMark = c := by
  unfold skipMark
  split
  · rename_i x after hbefore hpending hafter
    refine if_neg ?_
    rintro rfl
    exact h (atMark_iff.2 ⟨hbefore, hpending, by rw [hafter]; rfl⟩)
  · rfl

/-! ## Operations -/

/-- Something that is done with a cursor. -/
inductive Operation : Type 1 where
  /-- Move inside the pending token. -/
  | move {β : Type} (m : Move β)
  /-- Read the longest run of chars of `charset`. -/
  | take (charset : List Char)
  /-- Close the pending token. -/
  | commit
  /-- Drop the pending token. -/
  | skip
  /-- Pass a byte order mark that opens the text. -/
  | skipMark

/-- A cursor, and whether a byte order mark has been passed on the way to it. -/
structure Tracked where
  cursor : Cursor
  marked : Bool

namespace Tracked

/-- The number of bytes at the front of the text that are no part of any line. -/
def markLength (t : Tracked) : Nat := if t.marked then 3 else 0

/-- Does the operation. Only a move can go wrong. -/
def apply (t : Tracked) : Operation → Except Fault Tracked
  | .move m => (m.apply t.cursor).map fun r => { t with cursor := r.2 }
  | .take charset => .ok { t with cursor := (t.cursor.take charset).2 }
  | .commit => .ok { t with cursor := t.cursor.commit.2 }
  | .skip => .ok { t with cursor := t.cursor.skip }
  | .skipMark => .ok ⟨t.cursor.skipMark, t.marked || t.cursor.atMark⟩

/-- What is true behind moves, behind a dropped token and behind a byte order mark is true behind
    every operation. -/
theorem apply_preserves {P : Tracked → Prop}
    (hmove : ∀ {t : Tracked} {β : Type} {m : Move β} {r : β × Cursor}, P t →
      m.apply t.cursor = .ok r → P { t with cursor := r.2 })
    (hskip : ∀ {t : Tracked}, P t → P { t with cursor := t.cursor.skip })
    (hmark : ∀ {t : Tracked}, P t → P ⟨t.cursor.skipMark, t.marked || t.cursor.atMark⟩)
    {t t' : Tracked} {operation : Operation} (h : P t) (ht : t.apply operation = .ok t') :
    P t' := by
  cases operation with
  | move m =>
    obtain ⟨r, hm, rfl⟩ := Except.map_eq_ok_iff.1 ht
    exact hmove h hm
  | take charset =>
    cases ht
    exact hmove h (m := .takeWhile (fun _ x => (charset.contains x, ())) ()) rfl
  | commit =>
    cases ht
    exact hskip h
  | skip =>
    cases ht
    exact hskip h
  | skipMark =>
    cases ht
    exact hmark h

end Tracked

/-! ## Sessions -/

/-- A cursor in use, with the copies that have been kept, oldest first. -/
structure Session where
  current : Tracked
  kept : List Tracked

/-- What can be asked for in a session. -/
inductive Request : Type 1 where
  | use (operation : Operation)
  /-- Keep a copy of the cursor. -/
  | keep
  /-- Go back to a copy, if there are that many. -/
  | restore (i : Nat)

namespace Session

/-- A session with a cursor at the start of a text. -/
def start (text : List Char) : Session := ⟨⟨ofList text, false⟩, []⟩

def apply (s : Session) : Request → Except Fault Session
  | .use operation => (s.current.apply operation).map fun t => { s with current := t }
  | .keep => .ok { s with kept := s.kept ++ [s.current] }
  | .restore i => .ok { s with current := s.kept[i]?.getD s.current }

/-- Serves requests one after the other. -/
def run (s : Session) : List Request → Except Fault Session
  | [] => .ok s
  | request :: requests =>
    match s.apply request with
    | .error fault => .error fault
    | .ok s' => s'.run requests

/-- The cursor and all copies have a property. -/
def All (P : Tracked → Prop) (s : Session) : Prop := P s.current ∧ ∀ t ∈ s.kept, P t

variable {P : Tracked → Prop} {s s' : Session}

theorem apply_preserves (hP : ∀ t operation t', P t → t.apply operation = .ok t' → P t')
    {request : Request} (hs : s.All P) (h : s.apply request = .ok s') : s'.All P := by
  cases request with
  | use operation =>
    obtain ⟨t, ht, rfl⟩ := Except.map_eq_ok_iff.1 h
    exact ⟨hP _ _ _ hs.1 ht, hs.2⟩
  | keep =>
    cases h
    refine ⟨hs.1, ?_⟩
    intro t ht
    rcases List.mem_append.1 ht with ht | ht
    · exact hs.2 t ht
    · exact List.mem_singleton.1 ht ▸ hs.1
  | restore i =>
    cases h
    refine ⟨?_, hs.2⟩
    cases hi : s.kept[i]? with
    | none => simpa [hi] using hs.1
    | some t => simpa [hi] using hs.2 t (List.mem_of_getElem? hi)

/-- What every operation preserves is true of the cursor and of all copies. -/
theorem run_preserves (hP : ∀ t operation t', P t → t.apply operation = .ok t' → P t')
    {requests : List Request} (hs : s.All P) (h : s.run requests = .ok s') : s'.All P := by
  induction requests generalizing s with
  | nil =>
    cases h
    exact hs
  | cons request requests ih =>
    rw [run] at h
    split at h
    · cases h
    · rename_i s₁ h₁
      exact ih (apply_preserves hP hs h₁) h

end Session

end ExprLexer.Cursor
