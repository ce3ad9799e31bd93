-- SUMMARY: Once a scan is over or has failed it stays so, whatever is done with the scanner.
import ExprLexer.Proofs.Stream
import ExprLexer.Proofs.Usage

/-!
# Halting

While a state is running no state is kept, and afterwards one is kept only if
nothing has failed. So there are two ways for a scan to be over: no state is
kept and none is running, or one is running and something has failed
(`Moment.Final`). Neither the scanner nor its owner can undo either of them.

A failure that the owner records is different. A state may be kept at that
moment, and it is still run once, since the failure is looked at when the state
is done.

Main statement: for every grammar and from every scanner on, the end of a scan
is an end, failures stay and the latest one counts, and a failure that a state
reports last is the last token (`Scanner.halts`).
-/

namespace ExprLexer

section Halting

variable {κ ε β σ : Type} [Vocabulary κ ε] {grammar : Grammar κ ε σ} {m m' m₀ : Moment κ ε σ}
  {log entries : List (Entry κ ε σ)} {s s' : Scanner κ ε σ} {w : Workspace κ ε}

/-! ## Failures -/

theorem Use.failure (h : Use grammar m entries m') :
    m'.workspace.failure =
      (entries.filterMap Entry.failure?).getLast?.or m.workspace.failure := by
  rcases h.closes_or_keeps with ⟨entry, rfl, hc⟩ | hk
  · rw [hc.failure]
    cases hfailure : entry.failure? <;> simp [hfailure]
  · rw [hk.failures, hk.failure]
    rfl

/-- The latest failure is kept. -/
theorem Trail.failure (h : Trail (Use grammar) m₀ log m) :
    m.workspace.failure =
      (log.filterMap Entry.failure?).getLast?.or m₀.workspace.failure := by
  induction h with
  | refl => rfl
  | tail _ hu ih =>
    rw [hu.failure, ih, List.filterMap_append, List.getLast?_append, Option.or_assoc]

theorem Use.isSome_failure (h : Use grammar m entries m') (hm : m.workspace.failure.isSome) :
    m'.workspace.failure.isSome := by
  simp [h.failure, hm]

/-! ## The end of a scan -/

/-- No state will be kept any more. -/
def Moment.Final : Moment κ ε σ → Prop
  | .idle s => s.state = none
  | .pulling s => s.state = none
  | .running _ _ w => w.failure.isSome

omit [Vocabulary κ ε] in
theorem Moment.Final.state (h : m.Final) : m.state = none := by
  cases m with
  | idle s => exact h
  | pulling s => exact h
  | running found rest w => rfl

theorem Moment.Final.use (hm : m.Final) (h : Use grammar m entries m') :
    m'.Final ∧ entries.filterMap Entry.entered? = [] := by
  cases h with
  | step h =>
    cases h with
    | token => exact ⟨hm, rfl⟩
    | ended => exact ⟨hm, rfl⟩
    | enter _ hstate => cases hstate.symm.trans hm
    | @act _ found w a k r ha =>
      have hu : Use grammar (.running found (.exec a k) w) _ _ := .step (.act ha)
      exact ⟨hu.isSome_failure hm, a.entered?_entries w⟩
    | leave => exact ⟨if_pos hm, rfl⟩
  | @act _ a s r ha => exact ⟨hm, a.entered?_entries s.workspace⟩
  | pull => exact ⟨hm, rfl⟩

/-- What is over stays over, and no state is entered. -/
theorem Moment.Final.trail (hm : m₀.Final) (h : Trail (Use grammar) m₀ log m) :
    m.Final ∧ log.filterMap Entry.entered? = [] := by
  induction h with
  | refl => exact ⟨hm, rfl⟩
  | tail _ hu ih =>
    obtain ⟨hfinal, hlog⟩ := ih
    obtain ⟨hfinal', hentries⟩ := hfinal.use hu
    exact ⟨hfinal', by rw [List.filterMap_append, hlog, hentries, List.append_nil]⟩

/-- A failure that a running state records ends the scan. -/
theorem Step.final_of_failed {cause : ε} {location : Location} {piece : List Char}
    (h : Step grammar m [.failed cause location piece] m') : m'.Final := by
  have hfailure : m'.workspace.failure.isSome := by simp [(Use.step h).failure, Entry.failure?]
  generalize hentries : [Entry.failed cause location piece] = entries at h
  cases h with
  | token => cases hentries
  | ended => cases hentries
  | enter => cases hentries
  | act => exact hfailure
  | leave => cases hentries

/-- Where something has failed, a use enters no state, or it enters one and the scan is over. -/
theorem Use.entered_of_failure (h : Use grammar m entries m')
    (hm : m.workspace.failure.isSome) :
    entries.filterMap Entry.entered? = [] ∨
      (∃ q, entries.filterMap Entry.entered? = [q]) ∧ m'.Final := by
  cases h with
  | step h =>
    cases h with
    | token => exact .inl rfl
    | ended => exact .inl rfl
    | enter => exact .inr ⟨⟨_, rfl⟩, hm⟩
    | @act _ found w a k r ha => exact .inl (a.entered?_entries w)
    | leave => exact .inl rfl
  | @act _ a s r ha => exact .inl (a.entered?_entries s.workspace)
  | pull => exact .inl rfl

/-- At most one state is entered where something has failed, and after it the scan is over. -/
theorem Trail.entered_of_failure (h : Trail (Use grammar) m₀ log m)
    (hm : m₀.workspace.failure.isSome) :
    m.workspace.failure.isSome ∧ (log.filterMap Entry.entered? = [] ∨
      (∃ q, log.filterMap Entry.entered? = [q]) ∧ m.Final) := by
  induction h with
  | refl => exact ⟨hm, .inl rfl⟩
  | tail _ hu ih =>
    obtain ⟨hfailure, hlog⟩ := ih
    refine ⟨hu.isSome_failure hfailure, ?_⟩
    rw [List.filterMap_append]
    rcases hlog with hlog | ⟨⟨q, hlog⟩, hfinal⟩
    · rw [hlog, List.nil_append]
      exact hu.entered_of_failure hfailure
    · obtain ⟨hfinal', hentries⟩ := hfinal.use hu
      rw [hlog, hentries]
      exact .inr ⟨⟨q, rfl⟩, hfinal'⟩

namespace Scanner

/-! ## Pulls at the end -/

/-- Without a state a pull takes a token from the queue and does nothing else. -/
theorem pull_of_running (w : Workspace κ ε) :
    pull grammar (⟨w, none⟩ : Scanner κ ε σ) =
      ⟨[], .ok (w.takeToken.1, ⟨w.takeToken.2, none⟩)⟩ := by
  obtain ⟨cursor, queue, failure⟩ := w
  cases queue with
  | nil => exact pullFrom_over (turn_eq_over_iff.2 ⟨rfl, rfl⟩)
  | cons token queue => exact pullFrom_token (turn_eq_token_iff.2 ⟨queue, rfl, rfl⟩)

/-- Where a state has nothing left to do but to report a failure, the pull goes on with the queue
    and the report. -/
theorem outcome_of_fail {found : Workspace κ ε} {cause : ε} {k : Unit → Script κ ε (Option σ)}
    {next : Option σ} (hk : k () = .done next) :
    (Moment.running found (.exec (.fail cause) k) w).outcome grammar =
      nextToken grammar ⟨w.fail cause, none⟩ := by
  have hsuccessor : successor (w.fail cause) next = none := rfl
  simp [Moment.outcome, Script.run, Action.perform, hk, hsuccessor, mayGoOn]

/-! ## Every grammar -/

/-- A scan that is over or has failed stays so, whatever is done with the scanner. -/
structure Halts (grammar : Grammar κ ε σ) : Prop where
  /-- If no state is kept between two pulls, none is ever kept or entered again. -/
  stays {s : Scanner κ ε σ} {log : List (Entry κ ε σ)} {m : Moment κ ε σ} :
    s.state = none → Trail (Use grammar) (.idle s) log m →
    m.state = none ∧ log.filterMap Entry.entered? = []
  /-- And pulls return what is queued, and none from then on. -/
  drains {s : Scanner κ ε σ} : s.state = none →
    ∃ s', Yields grammar s s.workspace.queue s' ∧ s'.nextToken grammar = .ok (none, s')
  /-- The failure is the latest that was recorded, with its location. -/
  failure {log : List (Entry κ ε σ)} {m m' : Moment κ ε σ} : Trail (Use grammar) m log m' →
    m'.workspace.failure =
      (log.filterMap Entry.failure?).getLast?.or m.workspace.failure
  /-- After a failure that a running state records no state is entered. -/
  inside {log : List (Entry κ ε σ)} {m m' m'' : Moment κ ε σ} {cause : ε} {location : Location}
    {piece : List Char} :
    Step grammar m [.failed cause location piece] m' → Trail (Use grammar) m' log m'' →
    log.filterMap Entry.entered? = []
  /-- After one that the owner records at most one is. -/
  outside {log : List (Entry κ ε σ)} {m m' m'' : Moment κ ε σ} {cause : ε} {location : Location}
    {piece : List Char} :
    Use grammar m [.failed cause location piece] m' → Trail (Use grammar) m' log m'' →
    (log.filterMap Entry.entered?).length ≤ 1
  /-- A running state that pulls enters no state: it gets the oldest token from the queue, as a
      pull would give it that finds no state. -/
  nested {found w : Workspace κ ε} {k : Option (Token κ) → Script κ ε (Option σ)}
    {entries : List (Entry κ ε σ)} {m : Moment κ ε σ} :
    Step grammar (.running found (.exec .takeToken k) w) entries m →
    entries = [.returned w.takeToken.1] ∧ m = .running found (k w.takeToken.1) w.takeToken.2 ∧
      pull grammar (⟨w, none⟩ : Scanner κ ε σ) =
        ⟨[], .ok (w.takeToken.1, ⟨w.takeToken.2, none⟩)⟩
  /-- If the last thing that a state does is to record a failure, the pull that runs it and those
      after it return what is queued, then the token that reports the failure, and none from then
      on. -/
  last {s : Scanner κ ε σ} {log : List (Entry κ ε σ)} {found w : Workspace κ ε} {cause : ε}
    {k : Unit → Script κ ε (Option σ)} {next : Option σ} :
    Trail (Step grammar) (.pulling s) log (.running found (.exec (.fail cause) k) w) →
    k () = .done next →
    ∃ s', Yields grammar s (w.queue ++ [Failure.toToken ⟨cause, w.cursor.location⟩]) s' ∧
      s'.nextToken grammar = .ok (none, s')

/-- For every grammar the end of a scan is an end, and so is a failure. -/
theorem halts (grammar : Grammar κ ε σ) : Halts grammar where
  stays := by
    intro s log m hs h
    have hm : (Moment.idle s).Final := hs
    obtain ⟨hfinal, hlog⟩ := hm.trail h
    exact ⟨hfinal.state, hlog⟩
  drains hs := ⟨_, yields_queue hs, nextToken_drained hs⟩
  failure h := h.failure
  inside hstep h := (hstep.final_of_failed.trail h).2
  outside := by
    intro log m m' m'' cause location piece hu h
    have hfailure : m'.workspace.failure.isSome := by simp [hu.failure, Entry.failure?]
    rcases (h.entered_of_failure hfailure).2 with hlog | ⟨⟨q, hlog⟩, -⟩
    · simp [hlog]
    · simp [hlog]
  nested := by
    intro found w k entries m hstep
    cases hstep with
    | act ha =>
      cases ha
      exact ⟨rfl, rfl, pull_of_running w⟩
  last := by
    intro s log found w cause k next h hk
    have hnext : s.nextToken grammar = nextToken grammar ⟨w.fail cause, none⟩ :=
      (h.outcome_eq (fun _ => nofun)).trans (outcome_of_fail hk)
    have hqueue : HandsOut grammar (⟨w.fail cause, none⟩ : Scanner κ ε σ) (w.fail cause).queue _ :=
      handsOut_queue _
    have hout := hqueue.of_nextToken_eq (by simp [Workspace.fail]) hnext
    exact ⟨_, hout.yields (nextToken_drained rfl), nextToken_drained rfl⟩

end Scanner

end Halting

end ExprLexer
