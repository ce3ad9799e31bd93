-- SUMMARY: What a running state works on, and the actions it can take there.
import ExprLexer.Cursor.Move
import ExprLexer.Token

/-!
# Workspaces

A state of a grammar works on a cursor, a queue of finished tokens and a slot
for a failure. An `Action` is one thing that it can do there, `Action.perform`
does it. Main statement: no action changes the text (`Action.perform_text`).
-/

namespace ExprLexer

/-- The part of a scanner that a running state works on. -/
structure Workspace (κ ε : Type) where
  cursor : Cursor
  /-- The finished tokens that nobody has taken yet, oldest first. -/
  queue : List (Token κ)
  /-- The latest failure. -/
  failure : Option (Failure ε)

namespace Workspace

variable {κ ε : Type}

/-- A workspace over a cursor, with nothing finished and nothing failed. -/
def ofCursor (cursor : Cursor) : Workspace κ ε := ⟨cursor, [], none⟩

/-- Drops the pending text. -/
def ignore (w : Workspace κ ε) : Workspace κ ε := { w with cursor := w.cursor.skip }

/-- Queues the pending text as a token. -/
def emit (kind : κ) (w : Workspace κ ε) : Workspace κ ε :=
  let ((value, location), cursor) := w.cursor.commit
  { w with cursor := cursor, queue := w.queue ++ [⟨kind, String.ofList value, location⟩] }

/-- Records a failure of the pending token, drops its text and queues the report in its place. -/
def fail [Vocabulary κ ε] (cause : ε) (w : Workspace κ ε) : Workspace κ ε :=
  let failure : Failure ε := ⟨cause, w.cursor.location⟩
  { cursor := w.cursor.skip, queue := w.queue ++ [failure.toToken], failure := some failure }

/-- Takes the oldest token from the queue. -/
def takeToken (w : Workspace κ ε) : Option (Token κ) × Workspace κ ε :=
  (w.queue.head?, { w with queue := w.queue.tail })

/-- How far the work has got. It grows by what is read and by what is passed. -/
def progress (w : Workspace κ ε) : Nat := w.cursor.position + w.cursor.tokenStart

/-- Progress ends at twice the length of the text. -/
theorem progress_le (w : Workspace κ ε) : w.progress ≤ 2 * byteLength w.cursor.text := by
  have hs := w.cursor.tokenStart_le_position
  have hp := w.cursor.position_le
  unfold progress
  omega

end Workspace

/-- One thing that a running state can do. The index is the type of its answer. -/
inductive Action (κ ε : Type) : Type → Type 1 where
  /-- Look at the cursor. -/
  | cursor : Action κ ε Cursor
  /-- Look at the latest failure. -/
  | failure : Action κ ε (Option (Failure ε))
  /-- Move inside the pending token. -/
  | move {β : Type} (m : Cursor.Move β) : Action κ ε β
  /-- Drop the pending text. -/
  | ignore : Action κ ε Unit
  /-- Queue the pending text as a token. -/
  | emit (kind : κ) : Action κ ε Unit
  /-- Record a failure of the pending token. -/
  | fail (cause : ε) : Action κ ε Unit
  /-- Take the oldest token from the queue. -/
  | takeToken : Action κ ε (Option (Token κ))

namespace Action

variable {κ ε β : Type} [Vocabulary κ ε]

/-- Does the action. Only a move can go wrong. -/
def perform : Action κ ε β → Workspace κ ε → Except Fault (β × Workspace κ ε)
  | .cursor, w => .ok (w.cursor, w)
  | .failure, w => .ok (w.failure, w)
  | .move m, w => (m.apply w.cursor).map fun r => (r.1, { w with cursor := r.2 })
  | .ignore, w => .ok ((), w.ignore)
  | .emit kind, w => .ok ((), w.emit kind)
  | .fail cause, w => .ok ((), w.fail cause)
  | .takeToken, w => .ok w.takeToken

/-- No action changes the text. -/
theorem perform_text {a : Action κ ε β} {w : Workspace κ ε} {r : β × Workspace κ ε}
    (h : a.perform w = .ok r) : r.2.cursor.text = w.cursor.text := by
  cases a with
  | cursor => cases h; rfl
  | failure => cases h; rfl
  | move m =>
    obtain ⟨r', hm, rfl⟩ := Except.map_eq_ok_iff.1 h
    exact Cursor.Move.apply_text hm
  | ignore => cases h; exact w.cursor.skip_text
  | emit kind => cases h; exact w.cursor.skip_text
  | fail cause => cases h; exact w.cursor.skip_text
  | takeToken => cases h; rfl

end Action

end ExprLexer
