-- SUMMARY: Misuse of the scanner by a grammar, as values.

/-!
# Faults

A fault stops a scan because the grammar itself is wrong, whatever the text: a
state gives back a char that it does not hold, or hands over to another state
without getting any further. A text can not be blamed for a fault, so it is no
lexical error and never becomes a token.
-/

theorem Except.map_eq_ok_iff {ε α β : Type} {f : α → β} {x : Except ε α} {b : β} :
    x.map f = .ok b ↔ ∃ a, x = .ok a ∧ f a = b := by
  cases x <;> simp [Except.map]

namespace ExprLexer

/-- What a grammar can do wrong, with the position in the text at that moment. -/
inductive Fault where
  /-- A char was to be given back, and none had been read since the last boundary. -/
  | nothingToRewind (position : Nat)
  /-- A state handed over with no token queued and nothing read or passed. -/
  | noProgress (position : Nat)
deriving DecidableEq, Repr

/-- The report of a fault. -/
def Fault.message : Fault → String
  | .nothingToRewind position => s!"rewind without a preceding next_char at offset {position}"
  | .noProgress position => s!"scanner state made no progress at offset {position}"

end ExprLexer
