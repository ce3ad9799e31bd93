-- SUMMARY: A scanner in use, moment by moment, with a log of what is done and what is returned.
import ExprLexer.Proofs.Trace

/-!
# Scanners in use

`Scanner.Reaches` goes by turns: a state is either not running or has run to its
end. Here a scanner is followed moment by moment, also while a state is running
and halfway through a pull. The log says more, too: which states were entered,
which of the tokens report a failure, and which calls returned none.

A `Step` is one thing that a pull does by itself, a `Use` is a step or something
that the owner of the scanner does between two pulls, and a `Trail` is a row of
either. The owner decides between two pulls what to do next, so a statement
about all trails of uses is one about all ways to use a scanner.

Main statements: the steps of a pull are what `nextToken` does
(`Scanner.nextToken_eq_ok_iff`), and whatever happens either closes the pending
text or leaves the start of it alone (`Use.closes_or_keeps`).
-/

namespace ExprLexer

/-! ## Logs -/

/-- Something that happened to a scanner. -/
inductive Entry (κ ε σ : Type) where
  /-- A state was entered. -/
  | entered (q : σ)
  /-- The pending text, which starts at a location, was dropped. -/
  | ignored (location : Location) (piece : List Char)
  /-- It was queued as a token. -/
  | emitted (kind : κ) (location : Location) (piece : List Char)
  /-- It was dropped for a failure. -/
  | failed (cause : ε) (location : Location) (piece : List Char)
  /-- A pull returned, one from outside or one of a running state. The latter returns before the
      pull that runs the state. -/
  | returned (answer : Option (Token κ))

section Uses

variable {κ ε α β σ : Type}

namespace Entry

def entered? : Entry κ ε σ → Option σ
  | .entered q => some q
  | _ => none

/-- A piece of the text that was closed, and the byte where it starts. -/
def piece? : Entry κ ε σ → Option (Nat × List Char)
  | .ignored location piece => some (location.offset, piece)
  | .emitted _ location piece => some (location.offset, piece)
  | .failed _ location piece => some (location.offset, piece)
  | _ => none

def failure? : Entry κ ε σ → Option (Failure ε)
  | .failed cause location _ => some ⟨cause, location⟩
  | _ => none

def returned? : Entry κ ε σ → Option (Token κ)
  | .returned answer => answer
  | _ => none

/-- The token that was queued: the piece as it stands in the text, or the report of the failure. -/
def queued? [Vocabulary κ ε] : Entry κ ε σ → Option (Token κ)
  | .emitted kind location piece => some ⟨kind, String.ofList piece, location⟩
  | .failed cause location _ => some (Failure.toToken ⟨cause, location⟩)
  | _ => none

/-- What was finished or handed out. -/
def events [Vocabulary κ ε] : Entry κ ε σ → List (Event κ)
  | .entered _ => []
  | .ignored location piece => [.dropped location.offset piece]
  | .emitted kind location piece =>
    [.queued location.offset piece ⟨kind, String.ofList piece, location⟩]
  | .failed cause location piece =>
    [.queued location.offset piece (Failure.toToken ⟨cause, location⟩)]
  | .returned answer => answer.toList.map .taken

theorem queued?_events [Vocabulary κ ε] (entry : Entry κ ε σ) :
    entry.events.filterMap Event.queued? = entry.queued?.toList := by
  cases entry with
  | returned answer => cases answer <;> rfl
  | entered q => rfl
  | ignored location piece => rfl
  | emitted kind location piece => rfl
  | failed cause location piece => rfl

theorem taken?_events [Vocabulary κ ε] (entry : Entry κ ε σ) :
    entry.events.filterMap Event.taken? = entry.returned?.toList := by
  cases entry with
  | returned answer => cases answer <;> rfl
  | entered q => rfl
  | ignored location piece => rfl
  | emitted kind location piece => rfl
  | failed cause location piece => rfl

end Entry

/-- What an action leaves in the log. -/
def Action.entries : Action κ ε β → Workspace κ ε → List (Entry κ ε σ)
  | .ignore, w => [.ignored w.cursor.location w.cursor.current]
  | .emit kind, w => [.emitted kind w.cursor.location w.cursor.current]
  | .fail cause, w => [.failed cause w.cursor.location w.cursor.current]
  | .takeToken, w => [.returned w.queue.head?]
  | .cursor, _ => []
  | .failure, _ => []
  | .move _, _ => []

theorem Action.entered?_entries (a : Action κ ε β) (w : Workspace κ ε) :
    (a.entries w : List (Entry κ ε σ)).filterMap Entry.entered? = [] := by
  cases a <;> rfl

/-! ## Moments -/

/-- Where a scanner stands at a moment of its use. -/
inductive Moment (κ ε σ : Type) : Type 1 where
  /-- Between two pulls. -/
  | idle (s : Scanner κ ε σ)
  /-- In a pull, while no state is running. -/
  | pulling (s : Scanner κ ε σ)
  /-- In a pull, while a state is running: what it found, what is left of its script, and what it
      has made of the workspace. No state is kept until it is done. -/
  | running (found : Workspace κ ε) (rest : Script κ ε (Option σ)) (w : Workspace κ ε)

namespace Moment

def workspace : Moment κ ε σ → Workspace κ ε
  | .idle s => s.workspace
  | .pulling s => s.workspace
  | .running _ _ w => w

/-- The state that is kept to go on with. -/
def state : Moment κ ε σ → Option σ
  | .idle s => s.state
  | .pulling s => s.state
  | .running _ _ _ => none

end Moment

/-! ## Trails -/

/-- Moment by moment one comes from `m₀` to another, with a log of all that happens on the way. -/
inductive Trail (R : Moment κ ε σ → List (Entry κ ε σ) → Moment κ ε σ → Prop)
    (m₀ : Moment κ ε σ) : List (Entry κ ε σ) → Moment κ ε σ → Prop where
  | refl : Trail R m₀ [] m₀
  | tail {m m' : Moment κ ε σ} {log entries : List (Entry κ ε σ)} :
      Trail R m₀ log m → R m entries m' → Trail R m₀ (log ++ entries) m'

namespace Trail

variable {R R' : Moment κ ε σ → List (Entry κ ε σ) → Moment κ ε σ → Prop}
  {m m' m₀ : Moment κ ε σ} {log log' entries : List (Entry κ ε σ)}

theorem single (h : R m entries m') : Trail R m entries m' := tail refl h

theorem trans (h : Trail R m₀ log m) (h' : Trail R m log' m') : Trail R m₀ (log ++ log') m' := by
  induction h' with
  | refl =>
    rw [List.append_nil]
    exact h
  | tail _ hr ih =>
    rw [← List.append_assoc]
    exact tail ih hr

theorem mono (h : Trail R m₀ log m)
    (hR : ∀ {m entries m'}, R m entries m' → R' m entries m') : Trail R' m₀ log m := by
  induction h with
  | refl => exact refl
  | tail _ hr ih => exact ih.tail (hR hr)

end Trail

/-! ## Steps and uses -/

variable [Vocabulary κ ε]

/-- One thing that a pull does, and what it leaves in the log. -/
inductive Step (grammar : Grammar κ ε σ) :
    Moment κ ε σ → List (Entry κ ε σ) → Moment κ ε σ → Prop where
  /-- The oldest token is returned. -/
  | token {s : Scanner κ ε σ} {token : Token κ} {queue : List (Token κ)} :
      s.workspace.queue = token :: queue →
      Step grammar (.pulling s) [.returned (some token)] (.idle { s with workspace.queue := queue })
  /-- With no token and no state left none is returned. -/
  | ended {s : Scanner κ ε σ} : s.workspace.queue = [] → s.state = none →
      Step grammar (.pulling s) [.returned none] (.idle s)
  | enter {s : Scanner κ ε σ} {q : σ} : s.workspace.queue = [] → s.state = some q →
      Step grammar (.pulling s) [.entered q] (.running s.workspace (grammar q) s.workspace)
  /-- The running state takes an action. -/
  | act {γ : Type} {found w : Workspace κ ε} {a : Action κ ε γ}
      {k : γ → Script κ ε (Option σ)} {r : γ × Workspace κ ε} : a.perform w = .ok r →
      Step grammar (.running found (.exec a k) w) (a.entries w) (.running found (k r.1) r.2)
  /-- The running state is done, and what it hands over to is kept. -/
  | leave {found w : Workspace κ ε} {next : Option σ} :
      Scanner.mayGoOn found w (Scanner.successor w next) →
      Step grammar (.running found (.done next) w) [] (.pulling ⟨w, Scanner.successor w next⟩)

/-- One thing that happens to a scanner in use. -/
inductive Use (grammar : Grammar κ ε σ) :
    Moment κ ε σ → List (Entry κ ε σ) → Moment κ ε σ → Prop where
  /-- The pull that is going on does something. -/
  | step {m m' : Moment κ ε σ} {entries : List (Entry κ ε σ)} :
      Step grammar m entries m' → Use grammar m entries m'
  /-- The owner takes an action. To take a token and run no state for it is more than a real owner
      can do, and what is true of all uses is true of that as well. -/
  | act {γ : Type} {a : Action κ ε γ} {s : Scanner κ ε σ} {r : γ × Workspace κ ε} :
      a.perform s.workspace = .ok r →
      Use grammar (.idle s) (a.entries s.workspace) (.idle ⟨r.2, s.state⟩)
  /-- The owner pulls. -/
  | pull {s : Scanner κ ε σ} : Use grammar (.idle s) [] (.pulling s)

variable {grammar : Grammar κ ε σ} {m m' m₀ : Moment κ ε σ} {log entries : List (Entry κ ε σ)}
  {s s' : Scanner κ ε σ}

/-! ## What happens to the workspace -/

theorem Action.entries_events (a : Action κ ε β) (w : Workspace κ ε) :
    (a.entries w : List (Entry κ ε σ)).flatMap Entry.events = a.events w := by
  cases a with
  | takeToken => exact List.append_nil _
  | cursor => rfl
  | failure => rfl
  | move m => rfl
  | ignore => rfl
  | emit kind => rfl
  | fail cause => rfl

/-- What happens to a scanner leaves its workspace alone or is an action on it. -/
theorem Use.workspace_cases (h : Use grammar m entries m') :
    (m'.workspace = m.workspace ∧
      (entries = [] ∨ (∃ q, entries = [.entered q]) ∨ entries = [.returned none])) ∨
    ∃ (γ : Type) (a : Action κ ε γ) (r : γ × Workspace κ ε),
      a.perform m.workspace = .ok r ∧ r.2 = m'.workspace ∧ a.entries m.workspace = entries := by
  cases h with
  | step h =>
    cases h with
    | @token s token queue hqueue =>
      refine .inr ⟨_, .takeToken, s.workspace.takeToken, rfl, ?_, ?_⟩
      · simp [Workspace.takeToken, Moment.workspace, hqueue]
      · simp [Action.entries, Moment.workspace, hqueue]
    | ended => exact .inl ⟨rfl, .inr (.inr rfl)⟩
    | enter => exact .inl ⟨rfl, .inr (.inl ⟨_, rfl⟩)⟩
    | act ha => exact .inr ⟨_, _, _, ha, rfl, rfl⟩
    | leave => exact .inl ⟨rfl, .inl rfl⟩
  | act ha => exact .inr ⟨_, _, _, ha, rfl, rfl⟩
  | pull => exact .inl ⟨rfl, .inl rfl⟩

theorem Use.workspace (h : Use grammar m entries m') :
    m.workspace.Reaches (entries.flatMap Entry.events) m'.workspace := by
  rcases h.workspace_cases with ⟨hw, hentries⟩ | ⟨γ, a, r, ha, hw, rfl⟩
  · have hnone : entries.flatMap Entry.events = [] := by
      rcases hentries with rfl | ⟨q, rfl⟩ | rfl <;> rfl
    rw [hw, hnone]
    exact .refl
  · rw [a.entries_events, ← hw]
    exact .single ha

theorem Trail.workspace (h : Trail (Use grammar) m₀ log m) :
    m₀.workspace.Reaches (log.flatMap Entry.events) m.workspace := by
  induction h with
  | refl => exact .refl
  | tail _ hu ih =>
    rw [List.flatMap_append]
    exact ih.trans hu.workspace

/-! ## What is closed -/

/-- The pending text was closed, which left `entry` in the log. -/
structure Closes (w : Workspace κ ε) (entry : Entry κ ε σ) (w' : Workspace κ ε) : Prop where
  piece : entry.piece? = some (w.cursor.tokenStart, w.cursor.current)
  cursor : w'.cursor = w.cursor.skip
  queue : w'.queue = w.queue ++ entry.queued?.toList
  failure : w'.failure = entry.failure?.or w.failure

/-- Nothing was closed. -/
structure Keeps (w : Workspace κ ε) (entries : List (Entry κ ε σ)) (w' : Workspace κ ε) :
    Prop where
  pieces : entries.filterMap Entry.piece? = []
  failures : entries.filterMap Entry.failure? = []
  tokenStart : w'.cursor.tokenStart = w.cursor.tokenStart
  failure : w'.failure = w.failure

theorem Action.closes_or_keeps {a : Action κ ε β} {w : Workspace κ ε} {r : β × Workspace κ ε}
    (h : a.perform w = .ok r) :
    (∃ entry : Entry κ ε σ, a.entries w = [entry] ∧ Closes w entry r.2) ∨
      Keeps w (a.entries w : List (Entry κ ε σ)) r.2 := by
  cases a with
  | cursor =>
    cases h
    exact .inr ⟨rfl, rfl, rfl, rfl⟩
  | failure =>
    cases h
    exact .inr ⟨rfl, rfl, rfl, rfl⟩
  | move m =>
    obtain ⟨r', hm, rfl⟩ := Except.map_eq_ok_iff.1 h
    exact .inr ⟨rfl, rfl, congrArg Location.offset (Cursor.Move.apply_boundary hm).2, rfl⟩
  | ignore =>
    cases h
    exact .inl ⟨_, rfl, rfl, rfl, (List.append_nil _).symm, rfl⟩
  | emit kind =>
    cases h
    exact .inl ⟨_, rfl, rfl, rfl, rfl, rfl⟩
  | fail cause =>
    cases h
    exact .inl ⟨_, rfl, rfl, rfl, rfl, rfl⟩
  | takeToken =>
    cases h
    exact .inr ⟨rfl, rfl, rfl, rfl⟩

theorem Use.closes_or_keeps (h : Use grammar m entries m') :
    (∃ entry, entries = [entry] ∧ Closes m.workspace entry m'.workspace) ∨
      Keeps m.workspace entries m'.workspace := by
  rcases h.workspace_cases with ⟨hw, hentries⟩ | ⟨γ, a, r, ha, hw, rfl⟩
  · right
    rw [hw]
    rcases hentries with rfl | ⟨q, rfl⟩ | rfl <;> exact ⟨rfl, rfl, rfl, rfl⟩
  · rw [← hw]
    exact Action.closes_or_keeps ha

/-- What is logged with a piece has closed it. -/
theorem Use.closes {entry : Entry κ ε σ} (h : Use grammar m [entry] m')
    (hp : entry.piece?.isSome) : Closes m.workspace entry m'.workspace := by
  rcases h.closes_or_keeps with ⟨entry', heq, hc⟩ | hk
  · cases heq
    exact hc
  · obtain ⟨piece, hpiece⟩ := Option.isSome_iff_exists.1 hp
    have hnone := hk.pieces
    simp [hpiece] at hnone

/-! ## Pulls -/

/-- The pull that was going on is over, where `log` is what it has done: it has returned, which it
    does last, or a state has gone wrong. -/
inductive Moment.Ended : Moment κ ε σ → List (Entry κ ε σ) →
    Except Fault (Option (Token κ) × Scanner κ ε σ) → Prop where
  | returned {s : Scanner κ ε σ} (log : List (Entry κ ε σ)) {answer : Option (Token κ)} :
      Ended (.idle s) (log ++ [.returned answer]) (.ok (answer, s))
  /-- An action can not be taken. -/
  | misused {γ : Type} {found w : Workspace κ ε} {a : Action κ ε γ}
      {k : γ → Script κ ε (Option σ)} {log : List (Entry κ ε σ)} {fault : Fault} :
      a.perform w = .error fault → Ended (.running found (.exec a k) w) log (.error fault)
  /-- The state is done and may not hand over. -/
  | stuck {found w : Workspace κ ε} {next : Option σ} {log : List (Entry κ ε σ)} :
      ¬ Scanner.mayGoOn found w (Scanner.successor w next) →
      Ended (.running found (.done next) w) log (.error (.noProgress w.cursor.position))

/-- It is over whatever came before. -/
theorem Moment.Ended.behind {outcome : Except Fault (Option (Token κ) × Scanner κ ε σ)}
    (h : m.Ended log outcome) (log' : List (Entry κ ε σ)) : m.Ended (log' ++ log) outcome := by
  cases h with
  | returned log =>
    rw [← List.append_assoc]
    exact .returned (log' ++ log)
  | misused ha => exact .misused ha
  | stuck hm => exact .stuck hm

/-- What the pull that is going on comes to, or else the next one. -/
def Moment.outcome (grammar : Grammar κ ε σ) :
    Moment κ ε σ → Except Fault (Option (Token κ) × Scanner κ ε σ)
  | .idle s => s.nextToken grammar
  | .pulling s => s.nextToken grammar
  | .running found rest w =>
    match rest.run w with
    | .error fault => .error fault
    | .ok (next, w') =>
      if Scanner.mayGoOn found w' (Scanner.successor w' next) then
        Scanner.nextToken grammar ⟨w', Scanner.successor w' next⟩
      else .error (.noProgress w'.cursor.position)

omit [Vocabulary κ ε] in
theorem Moment.pulling_ne_idle (s s' : Scanner κ ε σ) : Moment.pulling s ≠ .idle s' := nofun

theorem Step.outcome_eq (h : Step grammar m entries m') (hm' : ∀ s, m' ≠ .idle s) :
    m.outcome grammar = m'.outcome grammar := by
  cases h with
  | token => exact absurd rfl (hm' _)
  | ended => exact absurd rfl (hm' _)
  | @enter s q hqueue hstate =>
    simp only [Moment.outcome]
    cases hrun : (grammar q).run s.workspace with
    | error fault =>
      exact Scanner.nextToken_of_fault hqueue hstate (by simp [Scanner.enter, hrun])
    | ok r =>
      obtain ⟨next, w⟩ := r
      simp only
      split
      · rename_i hm
        exact Scanner.nextToken_of_enter hqueue hstate (Scanner.enter_of_run hrun hm)
      · rename_i hm
        exact Scanner.nextToken_of_fault hqueue hstate (by simp [Scanner.enter, hrun, hm])
  | act ha => simp only [Moment.outcome, Script.run, ha]
  | leave hm => simp [Moment.outcome, Script.run, hm]

/-- As long as a pull has not returned, what it comes to stays the same. -/
theorem Trail.outcome_eq (h : Trail (Step grammar) m₀ log m) (hm : ∀ s, m ≠ .idle s) :
    m₀.outcome grammar = m.outcome grammar := by
  induction h with
  | refl => rfl
  | tail _ hstep ih =>
    refine (ih ?_).trans (hstep.outcome_eq hm)
    rintro s rfl
    cases hstep

/-- A script that runs to its end takes its actions one by one, and enters no state. -/
theorem Script.trail_run {w w' : Workspace κ ε} {rest : Script κ ε (Option σ)} {next : Option σ}
    (grammar : Grammar κ ε σ) (found : Workspace κ ε) (h : rest.run w = .ok (next, w')) :
    ∃ log, Trail (Step grammar) (.running found rest w) log (.running found (.done next) w') ∧
      log.filterMap Entry.entered? = [] := by
  induction rest generalizing w with
  | done b =>
    cases h
    exact ⟨[], .refl, rfl⟩
  | exec action k ih =>
    simp only [Script.run] at h
    split at h
    · cases h
    · rename_i b w₁ hp
      obtain ⟨log, hlog, hnone⟩ := ih b h
      have hact : Step grammar (.running found (.exec action k) w) _ _ := .act hp
      refine ⟨_, (Trail.single hact).trans hlog, ?_⟩
      rw [List.filterMap_append, Action.entered?_entries, hnone, List.nil_append]

/-- A script that goes wrong does so at one of its actions. -/
theorem Script.trail_fault {w : Workspace κ ε} {rest : Script κ ε (Option σ)} {fault : Fault}
    (grammar : Grammar κ ε σ) (found : Workspace κ ε) (h : rest.run w = .error fault) :
    ∃ log m, Trail (Step grammar) (.running found rest w) log m ∧
      log.filterMap Entry.entered? = [] ∧ m.Ended log (.error fault) := by
  induction rest generalizing w with
  | done b => cases h
  | exec action k ih =>
    simp only [Script.run] at h
    split at h
    · rename_i fault' hp
      cases h
      exact ⟨[], _, .refl, rfl, .misused hp⟩
    · rename_i b w₁ hp
      obtain ⟨log, m, hlog, hnone, hend⟩ := ih b h
      have hact : Step grammar (.running found (.exec action k) w) _ _ := .act hp
      refine ⟨_, m, (Trail.single hact).trans hlog, ?_, hend.behind _⟩
      rw [List.filterMap_append, Action.entered?_entries, hnone, List.nil_append]

namespace Scanner

/-- A pull comes to its end step by step, and enters the states that it is said to enter. -/
theorem trail_pullFrom (seen : List σ) (s : Scanner κ ε σ) :
    ∃ log m, Trail (Step grammar) (.pulling s) log m ∧
      (pullFrom grammar seen s).entered = seen.reverse ++ log.filterMap Entry.entered? ∧
      m.Ended log (pullFrom grammar seen s).outcome := by
  induction seen, s using pullFrom.induct grammar with
  | case1 seen s token s₁ ht =>
    rw [pullFrom_token ht]
    obtain ⟨queue, hqueue, rfl⟩ := turn_eq_token_iff.1 ht
    exact ⟨_, _, .single (.token hqueue), (List.append_nil _).symm, .returned []⟩
  | case2 seen s ht =>
    rw [pullFrom_over ht]
    obtain ⟨hqueue, hstate⟩ := turn_eq_over_iff.1 ht
    exact ⟨_, _, .single (.ended hqueue hstate), (List.append_nil _).symm, .returned []⟩
  | case3 seen s q fault ht =>
    rw [pullFrom_fault ht]
    obtain ⟨hqueue, hstate, henter⟩ := turn_eq_entered_iff.1 ht
    have hstart : Trail (Step grammar) (.pulling s) [.entered q] _ := .single (.enter hqueue hstate)
    cases hrun : (grammar q).run s.workspace with
    | error fault' =>
      have hfault : fault' = fault := by simpa [enter, hrun] using henter
      subst hfault
      obtain ⟨log, m, hlog, hnone, hend⟩ := Script.trail_fault grammar s.workspace hrun
      exact ⟨_, m, hstart.trans hlog, by simp [Entry.entered?, hnone], hend.behind _⟩
    | ok r =>
      obtain ⟨next, w⟩ := r
      obtain ⟨log, hlog, hnone⟩ := Script.trail_run grammar s.workspace hrun
      have hstuck : ¬ mayGoOn s.workspace w (successor w next) := by
        intro hm
        simp [enter, hrun, hm] at henter
      have hfault : fault = .noProgress w.cursor.position := by
        simpa [enter, hrun, hstuck, eq_comm] using henter
      subst hfault
      exact ⟨_, _, hstart.trans hlog, by simp [Entry.entered?, hnone], .stuck hstuck⟩
  | case4 seen s q s₁ ht ih =>
    rw [pullFrom_entered ht]
    obtain ⟨log, m, hlog, hentered, hend⟩ := ih
    obtain ⟨hqueue, hstate, henter⟩ := turn_eq_entered_iff.1 ht
    obtain ⟨next, w, hr, hm, rfl⟩ := enter_eq_ok_iff.1 henter
    obtain ⟨log', hlog', hnone⟩ := Script.trail_run grammar s.workspace hr
    have hstart : Trail (Step grammar) (.pulling s) [.entered q] _ := .single (.enter hqueue hstate)
    refine ⟨_, m, ((hstart.trans hlog').trans (.single (.leave hm))).trans hlog, ?_, hend.behind _⟩
    rw [hentered]
    simp [Entry.entered?, hnone]

theorem trail_pull (grammar : Grammar κ ε σ) (s : Scanner κ ε σ) :
    ∃ log m, Trail (Step grammar) (.pulling s) log m ∧
      (s.pull grammar).entered = log.filterMap Entry.entered? ∧
      m.Ended log (s.nextToken grammar) :=
  trail_pullFrom [] s

/-- A pull returns what its steps come to. -/
theorem nextToken_eq_ok_iff {answer : Option (Token κ)} :
    s.nextToken grammar = .ok (answer, s') ↔
      ∃ log, Trail (Step grammar) (.pulling s) (log ++ [.returned answer]) (.idle s') := by
  constructor
  · intro h
    obtain ⟨log, m, hlog, -, hend⟩ := trail_pull grammar s
    rw [h] at hend
    cases hend with
    | returned => exact ⟨_, hlog⟩
  · rintro ⟨log, h⟩
    generalize hlog : log ++ [.returned answer] = log' at h
    cases h with
    | tail h hstep =>
      cases hstep with
      | @token s₁ token queue hqueue =>
        obtain ⟨-, heq⟩ := List.append_inj' hlog rfl
        cases heq
        have hreturn : s₁.nextToken grammar =
            .ok (some token, { s₁ with workspace.queue := queue }) := by
          simpa [Workspace.takeToken, hqueue] using nextToken_of_queue hqueue
        exact (h.outcome_eq (Moment.pulling_ne_idle _)).trans hreturn
      | ended hqueue hstate =>
        obtain ⟨-, heq⟩ := List.append_inj' hlog rfl
        cases heq
        have hover : s'.Over s'.failure := ⟨hstate, hqueue, rfl⟩
        exact (h.outcome_eq (Moment.pulling_ne_idle _)).trans hover.nextToken

/-- A pull from outside is a row of uses, and what it returns is logged last. -/
theorem trail_of_nextToken {answer : Option (Token κ)}
    (h : s.nextToken grammar = .ok (answer, s')) :
    ∃ log, Trail (Use grammar) (.idle s) (log ++ [.returned answer]) (.idle s') := by
  obtain ⟨log, hlog⟩ := nextToken_eq_ok_iff.1 h
  have hpull : Trail (Use grammar) (.idle s) [] (.pulling s) := .single .pull
  exact ⟨log, hpull.trans (hlog.mono fun hstep => .step hstep)⟩

end Scanner

end Uses

end ExprLexer
