-- SUMMARY: The scanner: a grammar run state by state, as far as the next token needs.
import ExprLexer.Scanner.Script

/-!
# Pulling tokens

A scanner hands out queued tokens and runs states only when the queue is empty,
one after the other, until a token is queued or no state is left. While a state
runs the scanner has no state to go on with; afterwards it has the one that the
script returned, or none once a failure is recorded.

A grammar can run in circles. A state that queues nothing and does not end the
scan must therefore have got further than before, else the pull is a fault.
Since progress ends at twice the length of the text, every pull ends: `rank`
bounds the number of states that it can still enter, and is the measure by which
`pullFrom` recurses.
-/

namespace ExprLexer

/-- A workspace and the state to go on with. -/
structure Scanner (κ ε σ : Type) where
  workspace : Workspace κ ε
  /-- The state to run next. The scan is over when there is none. -/
  state : Option σ

/-- What a pull comes to. -/
structure Pull (κ ε σ : Type) where
  /-- The states that were entered, in order. -/
  entered : List σ
  /-- The token, if one was left, and the scanner after it. -/
  outcome : Except Fault (Option (Token κ) × Scanner κ ε σ)

namespace Scanner

variable {κ ε σ : Type}

/-- A scanner over a cursor that starts in a given state. -/
def ofCursor (cursor : Cursor) (start : σ) : Scanner κ ε σ := ⟨.ofCursor cursor, some start⟩

/-- Whether no state is left to run. Queued tokens may still be handed out. -/
def isTerminated (s : Scanner κ ε σ) : Bool := s.state.isNone

/-- The failure that ended the scan. -/
def failure (s : Scanner κ ε σ) : Option (Failure ε) := s.workspace.failure

/-- A bound on the states that a pull can still enter. -/
def rank (s : Scanner κ ε σ) : Nat :=
  if s.workspace.queue = [] ∧ s.state.isSome then
    2 * byteLength s.workspace.cursor.text - s.workspace.progress + 1
  else 0

/-- Whether a state that took the workspace from `w` to `w'` may hand over to `state`. -/
def mayGoOn (w w' : Workspace κ ε) (state : Option σ) : Bool :=
  state.isNone || !w'.queue.isEmpty || w.progress < w'.progress

/-- The state that is kept: a recorded failure ends the scan whatever the script returned. -/
def successor (w : Workspace κ ε) (next : Option σ) : Option σ :=
  if w.failure.isSome then none else next

@[simp] theorem successor_none (w : Workspace κ ε) : successor w (none : Option σ) = none :=
  ite_self none

theorem successor_eq {w : Workspace κ ε} (h : w.failure = none) (next : Option σ) :
    successor w next = next := by
  simp [successor, h]

variable [Vocabulary κ ε]

/-- Runs state `q`. -/
def enter (grammar : Grammar κ ε σ) (q : σ) (w : Workspace κ ε) :
    Except Fault (Scanner κ ε σ) :=
  match (grammar q).run w with
  | .error fault => .error fault
  | .ok (next, w') =>
    if mayGoOn w w' (successor w' next) then .ok ⟨w', successor w' next⟩
    else .error (.noProgress w'.cursor.position)

/-- What a scanner does in one turn. -/
inductive Turn (κ ε σ : Type) where
  /-- It hands out a token. -/
  | token (token : Token κ) (s : Scanner κ ε σ)
  /-- It has nothing left to do. -/
  | over
  /-- It runs a state. -/
  | entered (q : σ) (outcome : Except Fault (Scanner κ ε σ))

/-- The next turn. Queued tokens go first. -/
def turn (grammar : Grammar κ ε σ) (s : Scanner κ ε σ) : Turn κ ε σ :=
  match s.workspace.queue, s.state with
  | token :: queue, _ => .token token { s with workspace.queue := queue }
  | [], none => .over
  | [], some q => .entered q (enter grammar q s.workspace)

section Turns

variable {grammar : Grammar κ ε σ} {q : σ} {w : Workspace κ ε} {s s' : Scanner κ ε σ}

theorem enter_eq_ok_iff :
    enter grammar q w = .ok s ↔ ∃ next w', (grammar q).run w = .ok (next, w') ∧
      mayGoOn w w' (successor w' next) ∧ ⟨w', successor w' next⟩ = s := by
  constructor
  · intro h
    unfold enter at h
    split at h
    · cases h
    · rename_i next w' hr
      split at h
      · rename_i hm
        cases h
        exact ⟨next, w', hr, hm, rfl⟩
      · cases h
  · rintro ⟨next, w', hr, hm, rfl⟩
    simp [enter, hr, hm]

theorem turn_eq_token_iff {token : Token κ} :
    s.turn grammar = .token token s' ↔ ∃ queue, s.workspace.queue = token :: queue ∧
      { s with workspace.queue := queue } = s' := by
  unfold turn
  cases s.workspace.queue with
  | nil => cases s.state <;> simp
  | cons token' queue => simp [and_assoc]

theorem turn_eq_over_iff :
    s.turn grammar = .over ↔ s.workspace.queue = [] ∧ s.state = none := by
  unfold turn
  cases s.workspace.queue with
  | nil => cases s.state <;> simp
  | cons token queue => simp

theorem turn_eq_entered_iff {outcome : Except Fault (Scanner κ ε σ)} :
    s.turn grammar = .entered q outcome ↔
      s.workspace.queue = [] ∧ s.state = some q ∧ enter grammar q s.workspace = outcome := by
  unfold turn
  cases s.workspace.queue with
  | nil => cases s.state <;> grind
  | cons token queue => simp

theorem enter_rank_lt (hq : w.queue = []) (h : enter grammar q w = .ok s) :
    s.rank < rank ⟨w, some q⟩ := by
  obtain ⟨next, w', hr, hm, rfl⟩ := enter_eq_ok_iff.1 h
  have ht : w'.cursor.text = w.cursor.text := Script.run_text hr
  have hp := w'.progress_le
  simp only [rank, hq, Option.isSome_some, and_self, if_true]
  split
  · rename_i hs
    have hlt : w.progress < w'.progress := by
      simpa [mayGoOn, hs.1, ← Option.not_isSome, hs.2] using hm
    rw [ht] at hp ⊢
    omega
  · omega

/-- A turn that runs a state brings the end of the pull closer. -/
theorem turn_rank_lt (h : s.turn grammar = .entered q (.ok s')) : s'.rank < s.rank := by
  obtain ⟨w, state⟩ := s
  obtain ⟨hqueue, rfl, henter⟩ := turn_eq_entered_iff.1 h
  exact enter_rank_lt hqueue henter

end Turns

/-- Pulls a token after the states `entered`, latest first. -/
def pullFrom (grammar : Grammar κ ε σ) (entered : List σ) (s : Scanner κ ε σ) : Pull κ ε σ :=
  match _h : s.turn grammar with
  | .token token s' => ⟨entered.reverse, .ok (some token, s')⟩
  | .over => ⟨entered.reverse, .ok (none, s)⟩
  | .entered q (.error fault) => ⟨(q :: entered).reverse, .error fault⟩
  | .entered q (.ok s') => pullFrom grammar (q :: entered) s'
termination_by s.rank
decreasing_by exact turn_rank_lt _h

/-- Pulls the next token. There is none once no state and no queued token are left. -/
def pull (grammar : Grammar κ ε σ) (s : Scanner κ ε σ) : Pull κ ε σ := pullFrom grammar [] s

/-- The next token, and the scanner after it. -/
def nextToken (grammar : Grammar κ ε σ) (s : Scanner κ ε σ) :
    Except Fault (Option (Token κ) × Scanner κ ε σ) :=
  (s.pull grammar).outcome

/-- Pulls up to `n` more tokens after `taken`, latest first. -/
def collectFrom (grammar : Grammar κ ε σ) (taken : List (Token κ)) :
    Nat → Scanner κ ε σ → Except Fault (List (Token κ) × Scanner κ ε σ)
  | 0, s => .ok (taken.reverse, s)
  | n + 1, s =>
    match s.nextToken grammar with
    | .error fault => .error fault
    | .ok (none, s) => .ok (taken.reverse, s)
    | .ok (some token, s) => collectFrom grammar (token :: taken) n s

/-- The next `n` tokens, or all that are left, and the scanner after them. -/
def collect (grammar : Grammar κ ε σ) (n : Nat) (s : Scanner κ ε σ) :
    Except Fault (List (Token κ) × Scanner κ ε σ) :=
  collectFrom grammar [] n s

end Scanner

end ExprLexer
