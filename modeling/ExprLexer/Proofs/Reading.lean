-- SUMMARY: What each action of a script does to the place where a token is being read.
import ExprLexer.Proofs.Location
import ExprLexer.Scanner.Script

/-!
# Reading a token

A state of a grammar sees three things: where the pending token starts, what has
been read of it, and what has not been read. `Workspace.At` says what they are
while nothing is queued and nothing has failed. Each action of a script has one
rule that says how it moves them; `Script.run_bind_ok` puts the rules in a row.
-/

namespace ExprLexer

/-- The pending token starts at `l`, `pending` has been read of it, and `after` is left. Nothing
    is queued and nothing has failed. -/
structure Workspace.At {κ ε : Type} (w : Workspace κ ε) (l : Location) (pending after : List Char) :
    Prop where
  location : w.cursor.location = l
  current : w.cursor.current = pending
  after : w.cursor.after = after
  queue : w.queue = []
  failure : w.failure = none

/-! ## What the cursor sees -/

namespace Cursor

variable {c : Cursor} {x : Char} {rest : List Char}

theorem next_spec (h : c.after = x :: rest) :
    c.next.1 = some x ∧ c.next.2.current = c.current ++ [x] ∧ c.next.2.after = rest ∧
      c.next.2.location = c.location := by
  unfold next
  split <;> simp_all [current]

theorem next_end_spec (h : c.after = []) :
    c.next.1 = none ∧ c.next.2.current = c.current ∧ c.next.2.after = [] ∧
      c.next.2.location = c.location := by
  unfold next
  split <;> simp_all [current]

theorem advance_current (n : Nat) (c : Cursor) :
    (c.advance n).current = c.current ++ c.after.take n := by
  simp [advance, current]

/-- A run of chars that satisfy `p`, up to a char that does not, is what `takeWhile` reads. -/
theorem acceptedRun_append {p : Char → Bool} {run rest : List Char} (n : Nat)
    (hrun : ∀ c ∈ run, p c) (hrest : ∀ c ∈ rest.head?, p c = false) :
    acceptedRun (fun _ x => (p x, ())) n () (run ++ rest) = (n + run.length, ()) := by
  induction run generalizing n with
  | nil =>
    cases rest with
    | nil => rfl
    | cons c rest => simp [acceptedRun, hrest c rfl]
  | cons c run ih =>
    have hc := hrun c List.mem_cons_self
    have hr : ∀ x ∈ run, p x := fun x hx => hrun x (List.mem_cons_of_mem c hx)
    simp only [List.cons_append, acceptedRun, hc, ih (n + 1) hr, List.length_cons]
    congr 1
    omega

end Cursor

/-! ## Scripts in a row -/

namespace Script

variable {κ ε α β : Type} [Vocabulary κ ε]

theorem run_bind_ok {s : Script κ ε α} {f : α → Script κ ε β} {w w' : Workspace κ ε} {a : α}
    (h : s.run w = .ok (a, w')) : (s >>= f).run w = (f a).run w' := by
  change (s.bind f).run w = _
  induction s generalizing w with
  | done b =>
    cases h
    rfl
  | exec action k ih =>
    simp only [run] at h
    split at h
    · cases h
    · rename_i b w₁ hp
      simp only [bind, run, hp]
      exact ih b h

/-- A move changes the cursor and nothing else. -/
theorem run_move {m : Cursor.Move β} {k : β → Script κ ε α} {w : Workspace κ ε} {r : β × Cursor}
    (h : m.apply w.cursor = .ok r) :
    (.exec (.move m) k : Script κ ε α).run w = (k r.1).run { w with cursor := r.2 } := by
  simp only [run, Action.perform, h, Except.map]

end Script

/-! ## The rules of the actions -/

namespace Workspace.At

variable {κ ε : Type} {w : Workspace κ ε} {l : Location} {p after rest : List Char}

theorem progress_eq (h : w.At l p after) :
    w.progress = 2 * l.offset + byteLength p := by
  have hp := w.cursor.position_eq
  have ho := w.cursor.offset_eq
  have hc : byteLength p = byteLength w.cursor.pending := by
    rw [← h.current, Cursor.current, byteLength_reverse]
  rw [Workspace.progress, Cursor.tokenStart, hp, hc, ← h.location, ho]
  omega

theorem progress_lt {w' : Workspace κ ε} {run after' : List Char} (h : w.At l p after)
    (h' : w'.At l (p ++ run) after') (hne : run ≠ []) : w.progress < w'.progress := by
  have hpos := byteLength_pos hne
  rw [h.progress_eq, h'.progress_eq, byteLength_append]
  omega

/-- Only the cursor has moved. -/
theorem moveTo (h : w.At l p after) {c : Cursor} {l' : Location} {p' after' : List Char}
    (hl : c.location = l') (hp : c.current = p') (ha : c.after = after') :
    At { w with cursor := c } l' p' after' :=
  ⟨hl, hp, ha, h.queue, h.failure⟩

theorem advance_take (h : w.At l p after) (n : Nat) :
    At { w with cursor := w.cursor.advance n } l (p ++ after.take n) (after.drop n) := by
  refine h.moveTo h.location ?_ ?_
  · rw [Cursor.advance_current, h.current, h.after]
  · exact congrArg (List.drop n) h.after

theorem advance {run : List Char} (h : w.At l p (run ++ rest)) :
    At { w with cursor := w.cursor.advance run.length } l (p ++ run) rest := by
  simpa using h.advance_take run.length

variable [Vocabulary κ ε]

theorem peek (h : w.At l p after) : Script.peek.run w = .ok (after.head?, w) := by
  simp [Script.peek, Script.run, Action.perform, Cursor.peek, h.after]

theorem next {x : Char} (h : w.At l p (x :: rest)) :
    ∃ w', Script.next.run w = .ok (some x, w') ∧ w'.At l (p ++ [x]) rest := by
  obtain ⟨hx, hp, ha, hl⟩ := Cursor.next_spec h.after
  refine ⟨{ w with cursor := w.cursor.next.2 }, ?_, ?_⟩
  · exact hx ▸ Script.run_move rfl
  · exact h.moveTo (hl.trans h.location) (by rw [hp, h.current]) ha

theorem next_end (h : w.At l p []) :
    ∃ w', Script.next.run w = .ok (none, w') ∧ w'.At l p [] := by
  obtain ⟨hx, hp, ha, hl⟩ := Cursor.next_end_spec h.after
  refine ⟨{ w with cursor := w.cursor.next.2 }, ?_, ?_⟩
  · exact hx ▸ Script.run_move rfl
  · exact h.moveTo (hl.trans h.location) (hp.trans h.current) ha

/-- Whether there is a next char or not, it is read. -/
theorem next_head (h : w.At l p after) :
    ∃ w', Script.next.run w = .ok (after.head?, w') ∧
      w'.At l (p ++ after.head?.toList) after.tail := by
  cases after with
  | nil =>
    obtain ⟨w', hn, hw'⟩ := h.next_end
    exact ⟨w', hn, by simpa using hw'⟩
  | cons x rest => exact h.next

/-- What has just been read is given back. -/
theorem rewind {w' : Workspace κ ε} {x : Option Char} (h : w.At l p after)
    (hn : Script.next.run w = .ok (x, w')) :
    ∃ w'', Script.rewind.run w' = .ok ((), w'') ∧ w''.At l p after := by
  cases hn
  refine ⟨{ w with cursor := { w.cursor with lastRead := .nothing } }, ?_, ?_⟩
  · refine Script.run_move (r := ((), _)) ?_
    rw [Cursor.Move.apply, Cursor.rewind_next]
    rfl
  · exact h.moveTo h.location h.current h.after

theorem accept {x : Char} (h : w.At l p (x :: rest)) :
    ∃ w', (Script.accept x).run w = .ok (true, w') ∧ w'.At l (p ++ [x]) rest := by
  obtain ⟨hx, hp, ha, hl⟩ := Cursor.next_spec h.after
  refine ⟨{ w with cursor := w.cursor.next.2 }, ?_, ?_⟩
  · refine Script.run_move (r := (true, _)) ?_
    simp [Cursor.Move.apply, Cursor.accept, Cursor.peek, h.after]
  · exact h.moveTo (hl.trans h.location) (by rw [hp, h.current]) ha

theorem accept_refused {x : Char} (h : w.At l p after) (hx : after.head? ≠ some x) :
    ∃ w', (Script.accept x).run w = .ok (false, w') ∧ w'.At l p after := by
  refine ⟨{ w with cursor := { w.cursor with lastRead := .nothing } }, ?_, ?_⟩
  · refine Script.run_move (r := (false, _)) ?_
    simp [Cursor.Move.apply, Cursor.accept, Cursor.peek, h.after, hx]
  · exact h.moveTo h.location h.current h.after

/-- Reads a run that a predicate with a state of its own accepts. -/
theorem takeWhileState {τ : Type} {ask : τ → Char → Bool × τ} {t t' : τ} {run : List Char}
    (h : w.At l p (run ++ rest))
    (hr : Cursor.acceptedRun ask 0 t (run ++ rest) = (run.length, t')) :
    ∃ w', (Script.takeWhileState ask t).run w = .ok ((run.length, t'), w') ∧
      w'.At l (p ++ run) rest := by
  refine ⟨{ w with cursor := w.cursor.advance run.length }, ?_, ?_⟩
  · refine Script.run_move (r := ((run.length, t'), w.cursor.advance run.length)) ?_
    simp only [Cursor.Move.apply, Cursor.takeWhileState, h.after, hr]
  · exact h.advance

theorem takeWhile {f : Char → Bool} {run : List Char} (h : w.At l p (run ++ rest))
    (hrun : ∀ c ∈ run, f c) (hrest : ∀ c ∈ rest.head?, f c = false) :
    ∃ w', (Script.takeWhile f).run w = .ok (run.length, w') ∧ w'.At l (p ++ run) rest := by
  have hr := Cursor.acceptedRun_append 0 hrun hrest
  rw [Nat.zero_add] at hr
  refine ⟨{ w with cursor := w.cursor.advance run.length }, ?_, ?_⟩
  · refine Script.run_move (r := ((run.length, ()), w.cursor.advance run.length)) ?_
    simp only [Cursor.Move.apply, Cursor.takeWhileState, h.after, hr]
  · exact h.advance

/-- Whatever a predicate accepts is read, a piece of what is left. -/
theorem takeWhileState_run {τ : Type} (h : w.At l p after) (ask : τ → Char → Bool × τ) (t : τ) :
    ∃ r w' run rest, (Script.takeWhileState ask t).run w = .ok (r, w') ∧ after = run ++ rest ∧
      w'.At l (p ++ run) rest :=
  ⟨_, _, _, _, rfl, (List.take_append_drop _ after).symm, h.advance_take _⟩

theorem takeWhile_run (h : w.At l p after) (f : Char → Bool) :
    ∃ n w' run rest, (Script.takeWhile f).run w = .ok (n, w') ∧ after = run ++ rest ∧
      w'.At l (p ++ run) rest :=
  ⟨_, _, _, _, rfl, (List.take_append_drop _ after).symm, h.advance_take _⟩

theorem ignore (h : w.At l p after) :
    ∃ w', Script.ignore.run w = .ok ((), w') ∧ w'.At (l.advance p) [] after := by
  refine ⟨w.ignore, rfl, ?_⟩
  exact h.moveTo (by simp [Cursor.skip, h.location, h.current]) rfl h.after

/-- Emitting queues the pending text and starts the next token behind it. -/
theorem emit (h : w.At l p after) (kind : κ) :
    ∃ w', (Script.emit kind).run w = .ok ((), w') ∧
      w'.queue = [⟨kind, String.ofList p, l⟩] ∧
      w'.takeToken.2.At (l.advance p) [] after := by
  refine ⟨w.emit kind, rfl, ?_, ?_⟩
  · simp [Workspace.emit, Cursor.commit, h.queue, h.current, h.location]
  · have hl : w.cursor.skip.location = l.advance p := by
      simp [Cursor.skip, h.location, h.current]
    exact ⟨hl, rfl, h.after, by simp [Workspace.emit, takeToken, h.queue], h.failure⟩

end Workspace.At

end ExprLexer
