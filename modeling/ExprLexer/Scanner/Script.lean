-- SUMMARY: Programs over the actions of a scanner: what one state of a grammar does.
import ExprLexer.Scanner.Workspace

/-!
# Scripts

A script is an interaction tree: each node takes an action and branches on the
answer, each leaf holds a result. The branches are well founded, so a script
always comes to an end. It sees the workspace through its actions only, and so
it can neither change the text nor undo what was finished.

A grammar gives one script to each of its states. The result of that script is
the state to go on with, or `none` when the scan is over.
-/

namespace ExprLexer

/-- A program over the actions of a scanner. -/
inductive Script (κ ε α : Type) : Type 1 where
  | done (result : α)
  | exec {β : Type} (action : Action κ ε β) (k : β → Script κ ε α)

/-- A script for each state. -/
abbrev Grammar (κ ε σ : Type) : Type 1 := σ → Script κ ε (Option σ)

namespace Script

variable {κ ε α β : Type}

/-! ## Sequencing -/

/-- Runs `s`, then what `f` makes of its result. -/
def bind (s : Script κ ε α) (f : α → Script κ ε β) : Script κ ε β :=
  match s with
  | .done a => f a
  | .exec action k => .exec action fun b => (k b).bind f

instance : Monad (Script κ ε) where
  pure := .done
  bind := .bind

/-- The script that takes one action and answers as it does. -/
def ofAction (action : Action κ ε β) : Script κ ε β := .exec action .done

/-! ## The actions as scripts -/

/-- The next char, which stays unread. -/
def peek : Script κ ε (Option Char) := .exec .cursor fun c => .done c.peek

/-- The pending text. -/
def current : Script κ ε String := .exec .cursor fun c => .done (String.ofList c.current)

/-- Reads the next char. -/
def next : Script κ ε (Option Char) := ofAction (.move .next)

/-- Gives back what the latest read returned. -/
def rewind : Script κ ε Unit := ofAction (.move .rewind)

/-- Reads the next char if it is the expected one. -/
def accept (expected : Char) : Script κ ε Bool := ofAction (.move (.accept expected))

/-- Reads the longest run that a predicate with a state of its own accepts. -/
def takeWhileState {τ : Type} (ask : τ → Char → Bool × τ) (t : τ) : Script κ ε (Nat × τ) :=
  ofAction (.move (.takeWhile ask t))

/-- Reads the longest run of chars that satisfy `p`. -/
def takeWhile (p : Char → Bool) : Script κ ε Nat :=
  .exec (.move (.takeWhile (fun _ x => (p x, ())) ())) fun run => .done run.1

/-- Drops the pending text. -/
def ignore : Script κ ε Unit := ofAction .ignore

/-- Queues the pending text as a token. -/
def emit (kind : κ) : Script κ ε Unit := ofAction (.emit kind)

/-- Records a failure of the pending token and ends the scan. -/
def fail {σ : Type} (cause : ε) : Script κ ε (Option σ) := .exec (.fail cause) fun _ => .done none

/-- Takes the oldest token from the queue. While a state runs no other state can, so this is all
    that pulling a token means there. -/
def takeToken : Script κ ε (Option (Token κ)) := ofAction .takeToken

/-! ## Running -/

variable [Vocabulary κ ε]

/-- Takes the actions of a script one after the other. -/
def run : Script κ ε α → Workspace κ ε → Except Fault (α × Workspace κ ε)
  | .done a, w => .ok (a, w)
  | .exec action k, w =>
    match action.perform w with
    | .error fault => .error fault
    | .ok (b, w) => (k b).run w

/-- No script changes the text. -/
theorem run_text {s : Script κ ε α} {w : Workspace κ ε} {r : α × Workspace κ ε}
    (h : s.run w = .ok r) : r.2.cursor.text = w.cursor.text := by
  induction s generalizing w with
  | done a => cases h; rfl
  | exec action k ih =>
    simp only [run] at h
    split at h
    · cases h
    · rename_i b w' hp
      exact (ih b h).trans (Action.perform_text hp)

end Script

end ExprLexer
