-- SUMMARY: How a pull goes on state by state, for a scanner that stands at a known place.
import ExprLexer.Proofs.Reading
import ExprLexer.Scanner.Pull

/-!
# Pulls, state by state

A pull runs one state after the other, and what it comes to does not depend on
the states that it has entered before (`pullFrom_outcome`). For a scanner at a
known place (`Scanner.At`) a state can do four things, each with a rule of its
own: go on with another state, queue a token, record a failure, or end the scan.
-/

namespace ExprLexer.Scanner

variable {κ ε σ : Type}

/-- The scanner goes on with `state`, and its workspace stands at a known place. -/
structure At (s : Scanner κ ε σ) (state : Option σ) (l : Location) (pending after : List Char) :
    Prop where
  state : s.state = state
  workspace : s.workspace.At l pending after

/-- No state is left to run and no token to hand out. -/
structure Over (s : Scanner κ ε σ) (failure : Option (Failure ε)) : Prop where
  state : s.state = none
  queue : s.workspace.queue = []
  failure : s.failure = failure

theorem At.over {s : Scanner κ ε σ} {l : Location} {p after : List Char}
    (h : s.At none l p after) : s.Over none :=
  ⟨h.state, h.workspace.queue, h.workspace.failure⟩

variable [Vocabulary κ ε] {grammar : Grammar κ ε σ} {s s' : Scanner κ ε σ} {q : σ}

/-! ## Turns -/

section Turns

variable {entered : List σ}

theorem pullFrom_token {token : Token κ} (h : s.turn grammar = .token token s') :
    pullFrom grammar entered s = ⟨entered.reverse, .ok (some token, s')⟩ := by
  rw [pullFrom]
  split <;> simp_all

theorem pullFrom_over (h : s.turn grammar = .over) :
    pullFrom grammar entered s = ⟨entered.reverse, .ok (none, s)⟩ := by
  rw [pullFrom]
  split <;> simp_all

theorem pullFrom_fault {fault : Fault} (h : s.turn grammar = .entered q (.error fault)) :
    pullFrom grammar entered s = ⟨(q :: entered).reverse, .error fault⟩ := by
  rw [pullFrom]
  split <;> simp_all

theorem pullFrom_entered (h : s.turn grammar = .entered q (.ok s')) :
    pullFrom grammar entered s = pullFrom grammar (q :: entered) s' := by
  rw [pullFrom]
  split <;> simp_all

end Turns

/-- What a pull comes to does not depend on the states entered before. -/
theorem pullFrom_outcome (entered entered' : List σ) (s : Scanner κ ε σ) :
    (pullFrom grammar entered s).outcome = (pullFrom grammar entered' s).outcome := by
  induction entered, s using pullFrom.induct grammar generalizing entered' with
  | case1 entered s token s' h => rw [pullFrom_token h, pullFrom_token h]
  | case2 entered s h => rw [pullFrom_over h, pullFrom_over h]
  | case3 entered s q fault h => rw [pullFrom_fault h, pullFrom_fault h]
  | case4 entered s q s' h ih =>
    rw [pullFrom_entered h, pullFrom_entered h]
    exact ih (q :: entered')

theorem nextToken_of_queue {token : Token κ} {queue : List (Token κ)}
    (h : s.workspace.queue = token :: queue) :
    s.nextToken grammar = .ok (some token, ⟨s.workspace.takeToken.2, s.state⟩) := by
  rw [nextToken, pull, pullFrom_token (turn_eq_token_iff.2 ⟨queue, h, rfl⟩), Workspace.takeToken, h]
  rfl

theorem nextToken_of_enter (hq : s.workspace.queue = []) (hs : s.state = some q)
    (h : enter grammar q s.workspace = .ok s') :
    s.nextToken grammar = s'.nextToken grammar := by
  rw [nextToken, pull, pullFrom_entered (turn_eq_entered_iff.2 ⟨hq, hs, h⟩)]
  exact pullFrom_outcome _ _ _

theorem nextToken_of_fault {fault : Fault} (hq : s.workspace.queue = []) (hs : s.state = some q)
    (h : enter grammar q s.workspace = .error fault) : s.nextToken grammar = .error fault := by
  rw [nextToken, pull, pullFrom_fault (turn_eq_entered_iff.2 ⟨hq, hs, h⟩)]

theorem Over.nextToken {failure : Option (Failure ε)} (h : s.Over failure) :
    s.nextToken grammar = .ok (none, s) := by
  rw [Scanner.nextToken, pull, pullFrom_over (turn_eq_over_iff.2 ⟨h.queue, h.state⟩)]

/-! ## What a state can do -/

/-- A state that gets further, or leaves a token or no successor, is no fault. -/
theorem enter_of_run {w w' : Workspace κ ε} {next : Option σ}
    (hr : (grammar q).run w = .ok (next, w')) (hm : mayGoOn w w' (successor w' next)) :
    enter grammar q w = .ok ⟨w', successor w' next⟩ :=
  enter_eq_ok_iff.2 ⟨next, w', hr, hm, rfl⟩

namespace At

variable {w : Workspace κ ε} {next : Option σ} {l l' : Location} {p p' after after' : List Char}

/-- A state that gets further and queues nothing hands over to the next. -/
theorem moves (h : s.At (some q) l p after) {q' : σ}
    (hr : (grammar q).run s.workspace = .ok (some q', w)) (hw : w.At l' p' after')
    (hlt : 2 * l.offset + byteLength p < 2 * l'.offset + byteLength p') :
    ∃ s' : Scanner κ ε σ, s.nextToken grammar = s'.nextToken grammar ∧
      s'.At (some q') l' p' after' := by
  have hs : successor w (some q') = some q' := successor_eq hw.failure _
  have hm : mayGoOn s.workspace w (successor w (some q')) := by
    simp only [mayGoOn, h.workspace.progress_eq, hw.progress_eq, hlt, decide_true, Bool.or_true]
  refine ⟨⟨w, some q'⟩, ?_, ⟨rfl, hw⟩⟩
  refine nextToken_of_enter h.workspace.queue h.state ?_
  rw [enter_of_run hr hm, hs]

theorem reads (h : s.At (some q) l p after) {q' : σ} {run : List Char} (hne : run ≠ [])
    (hr : (grammar q).run s.workspace = .ok (some q', w)) (hw : w.At l (p ++ run) after') :
    ∃ s' : Scanner κ ε σ, s.nextToken grammar = s'.nextToken grammar ∧
      s'.At (some q') l (p ++ run) after' := by
  have hlt := byteLength_pos hne
  exact h.moves hr hw (by rw [byteLength_append]; omega)

/-- A state that queues one token ends the pull. -/
theorem emits (h : s.At (some q) l p after) {token : Token κ}
    (hr : (grammar q).run s.workspace = .ok (next, w)) (hq : w.queue = [token])
    (hw : w.takeToken.2.At l' p' after') :
    ∃ s', s.nextToken grammar = .ok (some token, s') ∧ s'.At next l' p' after' := by
  have hs : successor w next = next := successor_eq hw.failure next
  have hm : mayGoOn s.workspace w (successor w next) := by simp [mayGoOn, hq]
  refine ⟨⟨w.takeToken.2, next⟩, ?_, ⟨rfl, hw⟩⟩
  rw [nextToken_of_enter h.workspace.queue h.state (enter_of_run hr hm), nextToken_of_queue hq, hs]

/-- A state that records a failure of the pending token ends the pull and the scan. -/
theorem fails (h : s.At (some q) l p after) {cause : ε}
    (hr : (grammar q).run s.workspace = .ok (next, w.fail cause)) (hw : w.At l p' after') :
    ∃ s', s.nextToken grammar = .ok (some (Failure.toToken ⟨cause, l⟩), s') ∧
      s'.Over (some ⟨cause, l⟩) := by
  have hs : successor (w.fail cause) next = none := rfl
  have hm : mayGoOn s.workspace (w.fail cause) (successor (w.fail cause) next) := rfl
  have hq : (w.fail cause).queue = [Failure.toToken ⟨cause, l⟩] := by
    simp [Workspace.fail, hw.queue, hw.location]
  refine ⟨⟨(w.fail cause).takeToken.2, none⟩, ?_, rfl, ?_, ?_⟩
  · rw [nextToken_of_enter h.workspace.queue h.state (enter_of_run hr hm),
      nextToken_of_queue hq, hs]
  · simp [Workspace.takeToken, hq]
  · simp [Scanner.failure, Workspace.takeToken, Workspace.fail, hw.location]

/-- A state that finds nothing ends the scan. -/
theorem ends (h : s.At (some q) l p after)
    (hr : (grammar q).run s.workspace = .ok (none, w)) (hw : w.At l' p' after') :
    ∃ s' : Scanner κ ε σ, s.nextToken grammar = .ok (none, s') ∧ s'.At none l' p' after' := by
  have hs : successor w (none : Option σ) = none := successor_none w
  have hm : mayGoOn s.workspace w (successor w (none : Option σ)) := by simp [mayGoOn]
  have ha : Scanner.At (⟨w, none⟩ : Scanner κ ε σ) none l' p' after' := ⟨rfl, hw⟩
  refine ⟨⟨w, none⟩, ?_, ha⟩
  rw [nextToken_of_enter h.workspace.queue h.state (enter_of_run hr hm), hs, ha.over.nextToken]

end At

end ExprLexer.Scanner
