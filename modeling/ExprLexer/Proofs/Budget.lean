-- SUMMARY: How many states a pull can enter before it is over, whatever the grammar does.
import ExprLexer.Kind
import ExprLexer.LexError
import ExprLexer.Proofs.Halting
import Mathlib.Order.WellFounded

/-!
# The budget of a pull

Nobody counts the states that a pull enters. A state may give back what others
have read, queue empty tokens, take tokens out of the queue or hand over to a
state that has been run before, and still the pull comes to an end. What carries
this is that a state that leaves nothing in the queue and hands over has got
further, while progress ends at twice the length of the text.

`Moment.budget` bounds the states that the pull that is going on can still enter.
A step that enters a state pays one for it, and no step ever adds to the budget
(`Step.budget_le`), so a row of steps enters no more than it starts with
(`Trail.budget_le`).

Main statement: for every grammar and at any time of the use of a scanner a pull
comes to its end within the budget (`Scanner.pulls_bounded`). No smaller bound
would do (`Scanner.creep_entered`).
-/

namespace ExprLexer

section Budget

variable {κ ε σ : Type}

/-! ## The budget -/

/-- How many states can still be entered before the pull is over, in a text of `n` bytes. A state
    that is running has been paid for. -/
def Moment.budget (n : Nat) : Moment κ ε σ → Nat
  | .idle _ => 0
  | .pulling s =>
    if s.workspace.queue = [] ∧ s.state.isSome then 2 * n - s.workspace.progress + 1 else 0
  | .running found _ _ => 2 * n - found.progress

theorem Moment.budget_pulling_le (n : Nat) (s : Scanner κ ε σ) :
    (Moment.pulling s).budget n ≤ 2 * n - s.workspace.progress + 1 := by
  rw [budget]
  split
  · exact Nat.le_refl _
  · exact Nat.zero_le _

variable [Vocabulary κ ε] {grammar : Grammar κ ε σ} {m m' m₀ : Moment κ ε σ}
  {log entries : List (Entry κ ε σ)} {s : Scanner κ ε σ} {n : Nat}

/-- A step enters no more states than it takes from the budget. -/
theorem Step.budget_le (h : Step grammar m entries m')
    (hn : byteLength m.workspace.cursor.text = n) :
    (entries.filterMap Entry.entered?).length + m'.budget n ≤ m.budget n := by
  cases h with
  | token => exact Nat.zero_le _
  | ended => exact Nat.zero_le _
  | enter hqueue hstate =>
    simp only [Moment.budget, hqueue, hstate, Option.isSome_some, and_self, if_true,
      List.filterMap_cons, Entry.entered?, List.filterMap_nil, List.length_singleton]
    omega
  | @act _ found w a k r ha =>
    rw [Action.entered?_entries, List.length_nil, Nat.zero_add]
    exact Nat.le_refl _
  | @leave found w next hm =>
    have hle := w.progress_le
    simp only [Moment.workspace] at hn
    simp only [Moment.budget, List.filterMap_nil, List.length_nil, Nat.zero_add]
    split
    · rename_i hgoes
      have hlt : found.progress < w.progress := by
        simpa [Scanner.mayGoOn, hgoes.1, ← Option.not_isSome, hgoes.2] using hm
      omega
    · exact Nat.zero_le _

theorem Trail.text (h : Trail (Step grammar) m₀ log m) :
    m.workspace.cursor.text = m₀.workspace.cursor.text := by
  have huse : Trail (Use grammar) m₀ log m := h.mono fun hstep => .step hstep
  exact huse.workspace.text

/-- However far a pull has come, what it has entered and what it can still enter is no more than it
    could enter when it started. -/
theorem Trail.budget_le (h : Trail (Step grammar) m₀ log m)
    (hn : byteLength m₀.workspace.cursor.text = n) :
    (log.filterMap Entry.entered?).length + m.budget n ≤ m₀.budget n := by
  induction h with
  | refl => simp
  | tail h hstep ih =>
    have hle := hstep.budget_le (h.text ▸ hn)
    rw [List.filterMap_append, List.length_append]
    omega

/-! ## No pull goes on for ever -/

/-- One step of a pull leads from the second moment to the first one. -/
def Moment.Follows (grammar : Grammar κ ε σ) (m' m : Moment κ ε σ) : Prop :=
  ∃ entries, Step grammar m entries m'

theorem Moment.acc_idle (s : Scanner κ ε σ) : Acc (Follows grammar) (.idle s) := by
  refine ⟨_, ?_⟩
  rintro m' ⟨entries, h⟩
  cases h

/-- A state that is running comes to its end, so what follows it decides. -/
theorem Moment.acc_running {found w : Workspace κ ε} (rest : Script κ ε (Option σ))
    (hn : byteLength w.cursor.text = n)
    (hleave : ∀ s : Scanner κ ε σ, byteLength s.workspace.cursor.text = n →
      (Moment.pulling s).budget n ≤ 2 * n - found.progress → Acc (Follows grammar) (.pulling s)) :
    Acc (Follows grammar) (.running found rest w) := by
  induction rest generalizing w with
  | done next =>
    refine ⟨_, ?_⟩
    rintro m' ⟨entries, h⟩
    have hle := h.budget_le hn
    cases h with
    | leave hm => exact hleave _ hn (Nat.le_trans (Nat.le_add_left _ _) hle)
  | exec a k ih =>
    refine ⟨_, ?_⟩
    rintro m' ⟨entries, h⟩
    cases h with
    | act ha => exact ih _ (Action.perform_text ha ▸ hn)

theorem Moment.acc_pulling (hn : byteLength s.workspace.cursor.text = n) :
    Acc (Follows grammar) (.pulling s) := by
  -- A state that hands over without a token leaves a smaller budget than it found.
  induction hb : (Moment.pulling s).budget n using Nat.strong_induction_on generalizing s with
  | _ b ih =>
    refine ⟨_, ?_⟩
    rintro m' ⟨entries, h⟩
    have hle := h.budget_le hn
    cases h with
    | token => exact acc_idle _
    | ended => exact acc_idle _
    | @enter _ q =>
      refine acc_running (grammar q) hn ?_
      intro s' hn' hle'
      refine ih _ ?_ hn' rfl
      have hpaid : 1 + (2 * n - s.workspace.progress) ≤ (Moment.pulling s).budget n := hle
      omega

/-! ## Every grammar -/

namespace Scanner

/-- How long the pulls of a scanner over a text of `n` bytes go on, at any time of its use. -/
structure Bounded (n : Nat) (grammar : Grammar κ ε σ) (s₀ : Scanner κ ε σ) : Prop where
  /-- The bound is never cut off: at any moment the position and the start of the pending token come
      to no more than twice the length of the text. -/
  room {log : List (Entry κ ε σ)} {m : Moment κ ε σ} : Trail (Use grammar) (.idle s₀) log m →
    m.workspace.cursor.position + m.workspace.cursor.tokenStart ≤ 2 * n
  /-- Between two pulls these two numbers say how many states the next one enters at most. -/
  entered {log : List (Entry κ ε σ)} {s : Scanner κ ε σ} :
    Trail (Use grammar) (.idle s₀) log (.idle s) →
    (s.pull grammar).entered.length ≤
      2 * n - (s.workspace.cursor.position + s.workspace.cursor.tokenStart) + 1
  /-- So it is step by step, as long as the pull goes on. -/
  soFar {log log' : List (Entry κ ε σ)} {s : Scanner κ ε σ} {m : Moment κ ε σ} :
    Trail (Use grammar) (.idle s₀) log (.idle s) → Trail (Step grammar) (.pulling s) log' m →
    (log'.filterMap Entry.entered?).length ≤
      2 * n - (s.workspace.cursor.position + s.workspace.cursor.tokenStart) + 1
  /-- It does come to its end: it returns what `nextToken` does, or goes wrong as that does. -/
  ends {log : List (Entry κ ε σ)} {s : Scanner κ ε σ} :
    Trail (Use grammar) (.idle s₀) log (.idle s) →
    ∃ log' m, Trail (Step grammar) (.pulling s) log' m ∧
      (s.pull grammar).entered = log'.filterMap Entry.entered? ∧
      m.Ended log' (s.nextToken grammar)
  /-- No row of steps goes on for ever. -/
  notEndless {log : List (Entry κ ε σ)} {s : Scanner κ ε σ} {run : Nat → Moment κ ε σ} :
    Trail (Use grammar) (.idle s₀) log (.idle s) → run 0 = .pulling s →
    ¬ ∀ i, ∃ entries, Step grammar (run i) entries (run (i + 1))
  /-- A pull of a running state finds no state to enter. -/
  nested {log : List (Entry κ ε σ)} {found w : Workspace κ ε} {rest : Script κ ε (Option σ)} :
    Trail (Use grammar) (.idle s₀) log (.running found rest w) →
    (pull grammar (⟨w, none⟩ : Scanner κ ε σ)).entered = []

theorem entered_le (h : Trail (Step grammar) (.pulling s) log m)
    (hn : byteLength s.workspace.cursor.text = n) :
    (log.filterMap Entry.entered?).length ≤
      2 * n - (s.workspace.cursor.position + s.workspace.cursor.tokenStart) + 1 :=
  calc (log.filterMap Entry.entered?).length
    _ ≤ (log.filterMap Entry.entered?).length + m.budget n := Nat.le_add_right _ _
    _ ≤ (Moment.pulling s).budget n := h.budget_le hn
    _ ≤ 2 * n - s.workspace.progress + 1 := Moment.budget_pulling_le n s

/-- Whatever the states of a grammar do, and whatever was done with the scanner before, a pull ends
    before it has entered more states than there is room for progress in the text, and one. -/
theorem pulls_bounded (grammar : Grammar κ ε σ) (s₀ : Scanner κ ε σ) :
    Bounded (byteLength s₀.workspace.cursor.text) grammar s₀ where
  room {log m} h := by
    have hle := m.workspace.progress_le
    rwa [h.workspace.text] at hle
  entered {log s} h := by
    obtain ⟨log', m, hlog', hentered, -⟩ := trail_pull grammar s
    rw [hentered]
    exact entered_le hlog' (congrArg byteLength h.workspace.text)
  soFar h h' := entered_le h' (congrArg byteLength h.workspace.text)
  ends {log s} _ := trail_pull grammar s
  notEndless {log s run} h hstart hsteps := by
    have hacc : Acc (Moment.Follows grammar) (run 0) :=
      hstart ▸ Moment.acc_pulling (congrArg byteLength h.workspace.text)
    exact not_acc_iff_exists_descending_chain.2 ⟨run, rfl, hsteps⟩ hacc
  nested {log found w rest} _ := by rw [pull_of_running]

end Scanner

end Budget

/-! ## A grammar that takes its time -/

namespace Scanner

/-- Two states in turn: the one reads a char, the other passes it. -/
def creep : Grammar TokenKind LexError.Cause Bool
  | false => do
    match ← Script.next with
    | some _ => return some true
    | none => return none
  | true => do
    Script.ignore
    return some false

theorem creep_enteredFrom {s : Scanner TokenKind LexError.Cause Bool} {l : Location} {n : Nat}
    (h : s.At (some false) l [] (List.replicate n 'a')) (seen : List Bool) :
    (pullFrom creep seen s).entered.length = seen.length + 2 * n + 1 := by
  induction n generalizing s l seen with
  | zero =>
    obtain ⟨w, hn, hw⟩ := h.workspace.next_end
    have hr : (creep false).run s.workspace = .ok (none, w) := Script.run_bind_ok hn
    have henter : enter creep false s.workspace = .ok ⟨w, none⟩ :=
      successor_none (σ := Bool) w ▸ enter_of_run hr (by simp [mayGoOn])
    rw [pullFrom_entered (turn_eq_entered_iff.2 ⟨h.workspace.queue, h.state, henter⟩),
      pullFrom_over (turn_eq_over_iff.2 ⟨hw.queue, rfl⟩), List.length_reverse, List.length_cons]
  | succ n ih =>
    obtain ⟨w, hn, hw⟩ := h.workspace.next
    obtain ⟨w', hi, hw'⟩ := hw.ignore
    have hr : (creep false).run s.workspace = .ok (some true, w) := Script.run_bind_ok hn
    have hr' : (creep true).run w = .ok (some false, w') := Script.run_bind_ok hi
    have hlt : s.workspace.progress < w.progress :=
      h.workspace.progress_lt hw (List.cons_ne_nil _ _)
    have hlt' : w.progress < w'.progress := by
      have ha : byteLength ([] ++ ['a']) = 1 := rfl
      rw [hw.progress_eq, hw'.progress_eq, Location.advance_offset, ha, byteLength_nil]
      omega
    have hs := successor_eq hw.failure (some true)
    have hs' := successor_eq hw'.failure (some false)
    have henter : enter creep false s.workspace = .ok ⟨w, some true⟩ :=
      hs ▸ enter_of_run hr (by simp [mayGoOn, hlt])
    have henter' : enter creep true w = .ok ⟨w', some false⟩ :=
      hs' ▸ enter_of_run hr' (by simp [mayGoOn, hlt'])
    rw [pullFrom_entered (turn_eq_entered_iff.2 ⟨h.workspace.queue, h.state, henter⟩),
      pullFrom_entered (turn_eq_entered_iff.2 ⟨hw.queue, rfl, henter'⟩), ih ⟨rfl, hw'⟩,
      List.length_cons, List.length_cons]
    omega

/-- There are texts of every length in which a pull enters as many states as it can. -/
theorem creep_entered (n : Nat) :
    (pull creep (.ofCursor (.ofList (List.replicate n 'a')) false)).entered.length =
      2 * byteLength (List.replicate n 'a') + 1 := by
  have hlength : byteLength (List.replicate n 'a') = n := by
    induction n with
    | zero => rfl
    | succ n ih =>
      rw [List.replicate_succ, byteLength_cons, ih, Nat.add_comm]
      rfl
  rw [hlength, pull, creep_enteredFrom ⟨rfl, rfl, rfl, rfl, rfl, rfl⟩, List.length_nil]
  omega

end Scanner

end ExprLexer
