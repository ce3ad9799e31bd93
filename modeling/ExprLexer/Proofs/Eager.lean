-- SUMMARY: Tokens pulled one by one are those that running all states at once would give.
import ExprLexer.Kind
import ExprLexer.LexError
import ExprLexer.Proofs.Stream
import Mathlib.Logic.Relation
import Mathlib.Order.WellFounded

/-!
# Eager runs

A scanner runs a state only when somebody asks for a token and none is queued.
An eager run does not wait: it runs one state after the other, and what they
emit piles up behind all that was emitted before. As long as no state takes
tokens out of the queue itself, nobody can tell the two apart.

A script that takes nothing does the same behind any queue (`Script.run_behind`),
so a state does in an eager run what it does in a pull, behind the tokens of the
states before it. What differs is the moment when it is run: pulls are ready
with a token while an eager run goes on. What carries the comparison is
therefore that after the tokens of an eager run the next pull comes to what it
comes to where the eager run is (`handsOut_of_eager`).

Main statement: whether an eager run ends, goes wrong or never ends, the pulls
show it in the same way (`pulls_as_eager`).
-/

namespace ExprLexer

section Eager

variable {κ ε α β σ : Type}

/-! ## Scripts that take nothing -/

/-- The action takes no token out of the queue. -/
def Action.TakesNothing : Action κ ε β → Prop
  | .takeToken => False
  | .cursor => True
  | .failure => True
  | .move _ => True
  | .ignore => True
  | .emit _ => True
  | .fail _ => True

/-- No action of the script takes a token out of the queue. -/
def Script.TakesNothing : Script κ ε α → Prop
  | .done _ => True
  | .exec action k => action.TakesNothing ∧ ∀ b, (k b).TakesNothing

/-! ## Behind a queue -/

/-- The workspace with more tokens in front of its queue. -/
def Workspace.behind (front : List (Token κ)) (w : Workspace κ ε) : Workspace κ ε :=
  { w with queue := front ++ w.queue }

/-- The scanner with more tokens in front of its queue. -/
def Scanner.behind (front : List (Token κ)) (s : Scanner κ ε σ) : Scanner κ ε σ :=
  { s with workspace := s.workspace.behind front }

theorem Scanner.drained_eq {s : Scanner κ ε σ} (h : s.workspace.queue = []) : s.drained = s := by
  rw [drained, ← h]

theorem Scanner.behind_drained (s : Scanner κ ε σ) : s.drained.behind s.workspace.queue = s := by
  simp [Scanner.behind, Workspace.behind, Scanner.drained]

namespace Scanner

/-! ## What an eager run goes by -/

/-- Whether a state that took the workspace from `w` to `w'` may hand over to `state`, where the
    tokens of all states before it are still in the queue. -/
def mayGoOnEagerly (w w' : Workspace κ ε) (state : Option σ) : Bool :=
  state.isNone || w.queue.length < w'.queue.length || w.progress < w'.progress

/-- What a state that found no tokens has in the queue is what it put there, also behind others. -/
theorem mayGoOnEagerly_behind {w : Workspace κ ε} (hw : w.queue = []) (front : List (Token κ))
    (w' : Workspace κ ε) (state : Option σ) :
    mayGoOnEagerly (w.behind front) (w'.behind front) state = mayGoOn w w' state := by
  have hgrows : decide ((w.behind front).queue.length < (w'.behind front).queue.length) =
      !w'.queue.isEmpty := by
    cases hw' : w'.queue <;> simp [Workspace.behind, hw, hw']
  rw [mayGoOnEagerly, hgrows]
  rfl

/-- How much an eager run has done. A token counts for more than all the progress that can be made
    in a text, since progress can be lost where a token is emitted. -/
def weight (s : Scanner κ ε σ) : Nat :=
  s.workspace.queue.length * (2 * byteLength s.workspace.cursor.text + 1) + s.workspace.progress

theorem weight_lt (s : Scanner κ ε σ) :
    s.weight < (s.workspace.queue.length + 1) * (2 * byteLength s.workspace.cursor.text + 1) := by
  have hp := s.workspace.progress_le
  rw [weight, Nat.add_one_mul s.workspace.queue.length]
  omega

end Scanner

/-! ## One state -/

variable [Vocabulary κ ε] {grammar : Grammar κ ε σ} {s s' s₀ e : Scanner κ ε σ} {q : σ}

theorem Action.perform_behind {a : Action κ ε β} (h : a.TakesNothing) (front : List (Token κ))
    (w : Workspace κ ε) :
    a.perform (w.behind front) = (a.perform w).map fun r => (r.1, r.2.behind front) := by
  cases a with
  | cursor => rfl
  | failure => rfl
  | move m =>
    simp only [Action.perform, Workspace.behind]
    cases m.apply w.cursor <;> rfl
  | ignore => rfl
  | emit kind => simp [Action.perform, Workspace.emit, Workspace.behind, Except.map]
  | fail cause => simp [Action.perform, Workspace.fail, Workspace.behind, Except.map]
  | takeToken => exact h.elim

/-- A script that takes nothing does the same whatever is queued before it. -/
theorem Script.run_behind {s : Script κ ε α} (h : s.TakesNothing) (front : List (Token κ))
    (w : Workspace κ ε) :
    s.run (w.behind front) = (s.run w).map fun r => (r.1, r.2.behind front) := by
  induction s generalizing w with
  | done a => rfl
  | exec action k ih =>
    obtain ⟨haction, hk⟩ := h
    simp only [Script.run, Action.perform_behind haction]
    cases action.perform w with
    | error fault => rfl
    | ok r => exact ih r.1 (hk r.1) r.2

namespace Scanner

/-- Runs state `q` and leaves what it emits in the queue. -/
def enterEagerly (grammar : Grammar κ ε σ) (q : σ) (w : Workspace κ ε) :
    Except Fault (Scanner κ ε σ) :=
  match (grammar q).run w with
  | .error fault => .error fault
  | .ok (next, w') =>
    if mayGoOnEagerly w w' (successor w' next) then .ok ⟨w', successor w' next⟩
    else .error (.noProgress w'.cursor.position)

/-- An eager run comes from the first scanner to the second one by running a state. -/
def EntersEagerly (grammar : Grammar κ ε σ) (s s' : Scanner κ ε σ) : Prop :=
  ∃ q, s.state = some q ∧ enterEagerly grammar q s.workspace = .ok s'

/-- An eager run from `s₀` ends with `e`. -/
def EndsEagerly (grammar : Grammar κ ε σ) (s₀ e : Scanner κ ε σ) : Prop :=
  Relation.ReflTransGen (EntersEagerly grammar) s₀ e ∧ e.state = none

/-- An eager run from `s₀` comes to `e`, and there a state goes wrong. -/
def FaultsEagerly (grammar : Grammar κ ε σ) (s₀ e : Scanner κ ε σ) (fault : Fault) : Prop :=
  Relation.ReflTransGen (EntersEagerly grammar) s₀ e ∧
    ∃ q, e.state = some q ∧ enterEagerly grammar q e.workspace = .error fault

/-- An eager run from `s₀` never ends, and after `m` states it has come to `run m`. -/
def RunsEagerly (grammar : Grammar κ ε σ) (s₀ : Scanner κ ε σ) (run : Nat → Scanner κ ε σ) : Prop :=
  run 0 = s₀ ∧ ∀ m, EntersEagerly grammar (run m) (run (m + 1))

/-- A state does in an eager run what it does in a pull, where the queue is empty. -/
theorem enterEagerly_behind (hq : (grammar q).TakesNothing) {w : Workspace κ ε}
    (hw : w.queue = []) (front : List (Token κ)) :
    enterEagerly grammar q (w.behind front) = (enter grammar q w).map (behind front) := by
  rw [enterEagerly, enter, Script.run_behind hq]
  cases (grammar q).run w with
  | error fault => rfl
  | ok r =>
    obtain ⟨next, w'⟩ := r
    have hsuccessor : successor (w'.behind front) next = successor w' next := rfl
    simp only [Except.map, hsuccessor, mayGoOnEagerly_behind hw]
    cases mayGoOn w w' (successor w' next) <;> rfl

theorem enterEagerly_eq (hq : (grammar q).TakesNothing) (e : Scanner κ ε σ) :
    enterEagerly grammar q e.workspace =
      (enter grammar q e.drained.workspace).map (behind e.workspace.queue) := by
  rw [← enterEagerly_behind hq rfl]
  exact congrArg (enterEagerly grammar q ·.workspace) e.behind_drained.symm

theorem EntersEagerly.exists_enter (hg : ∀ q, (grammar q).TakesNothing)
    (h : EntersEagerly grammar s s') :
    ∃ q s₁, s.state = some q ∧ enter grammar q s.drained.workspace = .ok s₁ ∧
      s₁.behind s.workspace.queue = s' := by
  obtain ⟨q, hstate, henter⟩ := h
  rw [enterEagerly_eq (hg q)] at henter
  obtain ⟨s₁, hs₁, heq⟩ := Except.map_eq_ok_iff.1 henter
  exact ⟨q, s₁, hstate, hs₁, heq⟩

/-! ## State by state -/

/-- Where an eager run has come to, the pulls have handed out what it emitted, and the next pull is
    one from there. -/
theorem handsOut_of_eager (hg : ∀ q, (grammar q).TakesNothing) (hs₀ : s₀.workspace.queue = [])
    (h : Relation.ReflTransGen (EntersEagerly grammar) s₀ e) :
    ∃ s, HandsOut grammar s₀ e.workspace.queue s ∧
      s.nextToken grammar = e.drained.nextToken grammar := by
  induction h with
  | refl =>
    refine ⟨s₀, ?_, ?_⟩
    · rw [hs₀]
      exact .nil
    · rw [drained_eq hs₀]
  | @tail e e' _ hturn ih =>
    obtain ⟨s, hs, hnext⟩ := ih
    obtain ⟨q, s', hstate, henter, rfl⟩ := hturn.exists_enter hg
    have hnext' : s.nextToken grammar = s'.nextToken grammar :=
      hnext.trans (nextToken_of_enter rfl hstate henter)
    by_cases hqueue : s'.workspace.queue = []
    · -- The state emitted nothing, so the pull that runs it is still to come.
      refine ⟨s, ?_, ?_⟩
      · simpa [behind, Workspace.behind, hqueue] using hs
      · exact hnext'.trans (congrArg (nextToken grammar) (drained_eq hqueue).symm)
    · have hout : HandsOut grammar s' s'.workspace.queue s'.drained := handsOut_queue s'
      exact ⟨s'.drained, hs.append (hout.of_nextToken_eq hqueue hnext'), rfl⟩

/-! ## Endless runs -/

theorem EntersEagerly.text (hg : ∀ q, (grammar q).TakesNothing) (h : EntersEagerly grammar s s') :
    s'.workspace.cursor.text = s.workspace.cursor.text := by
  obtain ⟨q, s₁, -, henter, rfl⟩ := h.exists_enter hg
  obtain ⟨next, w, hr, -, rfl⟩ := enter_eq_ok_iff.1 henter
  exact Script.run_text hr

/-- A state that hands over to another one has emitted a token or got further. -/
theorem EntersEagerly.grows (hg : ∀ q, (grammar q).TakesNothing) (h : EntersEagerly grammar s s')
    (hstate : s'.state ≠ none) :
    s.workspace.queue.length < s'.workspace.queue.length ∨
      s.workspace.queue.length = s'.workspace.queue.length ∧
        s.workspace.progress < s'.workspace.progress := by
  obtain ⟨q, s₁, -, henter, rfl⟩ := h.exists_enter hg
  obtain ⟨next, w, -, hm, rfl⟩ := enter_eq_ok_iff.1 henter
  have hlength : (w.behind s.workspace.queue).queue.length =
      s.workspace.queue.length + w.queue.length := List.length_append
  have hnext : (successor w next).isNone = false := Option.isNone_eq_false_iff.2
    (Option.ne_none_iff_isSome.1 hstate)
  by_cases hqueue : w.queue = []
  · right
    refine ⟨?_, ?_⟩
    · simp [behind, Workspace.behind, hqueue]
    · have hlt : s.drained.workspace.progress < w.progress := by
        simpa [mayGoOn, hnext, hqueue] using hm
      exact hlt
  · left
    have hpos := List.length_pos_iff.2 hqueue
    simp only [behind, hlength]
    omega

theorem EntersEagerly.weight_lt (hg : ∀ q, (grammar q).TakesNothing)
    (h : EntersEagerly grammar s s') (hstate : s'.state ≠ none) : s.weight < s'.weight := by
  have htext := h.text hg
  rcases h.grows hg hstate with hlt | ⟨heq, hlt⟩
  · calc s.weight
      _ < (s.workspace.queue.length + 1) * (2 * byteLength s.workspace.cursor.text + 1) :=
        s.weight_lt
      _ ≤ s'.workspace.queue.length * (2 * byteLength s.workspace.cursor.text + 1) :=
        Nat.mul_le_mul_right _ hlt
      _ = s'.workspace.queue.length * (2 * byteLength s'.workspace.cursor.text + 1) := by
        rw [htext]
      _ ≤ s'.weight := Nat.le_add_right _ _
  · simp only [weight, htext, heq]
    omega

section Endless

variable {run : Nat → Scanner κ ε σ}

theorem le_weight (hg : ∀ q, (grammar q).TakesNothing) (h : RunsEagerly grammar s₀ run) (m : Nat) :
    m ≤ (run m).weight := by
  have hmono : StrictMono fun m => (run m).weight := by
    refine strictMono_nat_of_lt_succ fun m => (h.2 m).weight_lt hg ?_
    -- The state that is left is the one that is run next.
    obtain ⟨q, hstate, -⟩ := h.2 (m + 1)
    simp [hstate]
  exact hmono.le_apply

theorem text_of_run (hg : ∀ q, (grammar q).TakesNothing) (h : RunsEagerly grammar s₀ run)
    (m : Nat) : (run m).workspace.cursor.text = s₀.workspace.cursor.text := by
  induction m with
  | zero => rw [h.1]
  | succ m ih => exact ((h.2 m).text hg).trans ih

/-- An eager run that never ends emits as many tokens as anybody asks for. -/
theorem exists_lt_queue (hg : ∀ q, (grammar q).TakesNothing) (h : RunsEagerly grammar s₀ run)
    (n : Nat) : ∃ m, n < (run m).workspace.queue.length := by
  obtain ⟨room, hroom⟩ : ∃ room, room = 2 * byteLength s₀.workspace.cursor.text + 1 := ⟨_, rfl⟩
  refine ⟨(n + 1) * room, ?_⟩
  have hlt := (le_weight hg h ((n + 1) * room)).trans_lt (run ((n + 1) * room)).weight_lt
  rw [text_of_run hg h, ← hroom] at hlt
  exact Nat.lt_of_succ_lt_succ (Nat.lt_of_mul_lt_mul_right hlt)

theorem reaches_of_run (h : RunsEagerly grammar s₀ run) (m : Nat) :
    Relation.ReflTransGen (EntersEagerly grammar) s₀ (run m) := by
  rw [← h.1]
  exact Nat.rel_of_forall_rel_succ_of_le _ (fun m => .single (h.2 m)) (Nat.zero_le m)

end Endless

/-- An eager run ends, or a state goes wrong, or it never ends. -/
theorem eager_cases (grammar : Grammar κ ε σ) (s₀ : Scanner κ ε σ) :
    (∃ e, EndsEagerly grammar s₀ e) ∨ (∃ e fault, FaultsEagerly grammar s₀ e fault) ∨
      ∃ run, RunsEagerly grammar s₀ run := by
  by_cases hstuck : ∃ e, Relation.ReflTransGen (EntersEagerly grammar) s₀ e ∧
      ∀ e', ¬ EntersEagerly grammar e e'
  · obtain ⟨e, he, hstop⟩ := hstuck
    cases hstate : e.state with
    | none => exact .inl ⟨e, he, hstate⟩
    | some q =>
      cases henter : enterEagerly grammar q e.workspace with
      | error fault => exact .inr (.inl ⟨e, fault, he, q, hstate, henter⟩)
      | ok e' => exact absurd ⟨q, hstate, henter⟩ (hstop e')
  · -- Wherever the run has come to it can go on, so it can be followed for ever.
    right; right
    have hgoes : ∀ e : { e // Relation.ReflTransGen (EntersEagerly grammar) s₀ e },
        ∃ e' : { e // Relation.ReflTransGen (EntersEagerly grammar) s₀ e },
          EntersEagerly grammar e.1 e'.1 := by
      intro e
      have hnext : ∃ e', EntersEagerly grammar e.1 e' := by
        by_contra hstop
        exact hstuck ⟨e.1, e.2, not_exists.1 hstop⟩
      obtain ⟨e', he'⟩ := hnext
      exact ⟨⟨e', e.2.tail he'⟩, he'⟩
    choose next hnext using hgoes
    refine ⟨fun m => (next^[m] ⟨s₀, .refl⟩).1, rfl, ?_⟩
    intro m
    simp only [Function.iterate_succ_apply']
    exact hnext _

/-! ## Pulls and eager runs -/

/-- The pulls of a scanner show what an eager run from there emits, and how it ends. -/
structure PullsAsEager (grammar : Grammar κ ε σ) (s₀ : Scanner κ ε σ) : Prop where
  /-- There is such a run, and it goes in one of three ways. -/
  cases : (∃ e, EndsEagerly grammar s₀ e) ∨ (∃ e fault, FaultsEagerly grammar s₀ e fault) ∨
    ∃ run, RunsEagerly grammar s₀ run
  /-- If it ends, the pulls return its tokens in order, and none from then on. -/
  ends {e : Scanner κ ε σ} : EndsEagerly grammar s₀ e →
    ∃ s, Yields grammar s₀ e.workspace.queue s ∧ s.nextToken grammar = .ok (none, s)
  /-- If a state goes wrong, the pulls return the tokens of the states before it, and the next one
      goes wrong in the same way. -/
  faults {e : Scanner κ ε σ} {fault : Fault} : FaultsEagerly grammar s₀ e fault →
    ∃ s, HandsOut grammar s₀ e.workspace.queue s ∧ s.nextToken grammar = .error fault
  /-- If it never ends, every pull returns a token: behind `n` others the one that the run emits
      behind `n` others. -/
  endless {run : Nat → Scanner κ ε σ} : RunsEagerly grammar s₀ run →
    ∀ n, ∃ m token s s', (run m).workspace.queue[n]? = some token ∧
      HandsOut grammar s₀ ((run m).workspace.queue.take n) s ∧
      s.nextToken grammar = .ok (some token, s')

/-- A scanner whose states take no tokens themselves can not be told from an eager one. -/
theorem pulls_as_eager (hg : ∀ q, (grammar q).TakesNothing) (cursor : Cursor) (start : σ) :
    PullsAsEager grammar (ofCursor cursor start : Scanner κ ε σ) where
  cases := eager_cases grammar _
  ends := by
    intro e h
    obtain ⟨hreach, hstate⟩ := h
    obtain ⟨s, hs, hnext⟩ := handsOut_of_eager hg rfl hreach
    have hnone : e.drained.nextToken grammar = .ok (none, e.drained) := nextToken_drained hstate
    exact ⟨e.drained, hs.yields (hnext.trans hnone), hnone⟩
  faults := by
    intro e fault h
    obtain ⟨hreach, q, hstate, hfault⟩ := h
    obtain ⟨s, hs, hnext⟩ := handsOut_of_eager hg rfl hreach
    refine ⟨s, hs, ?_⟩
    rw [enterEagerly_eq (hg q)] at hfault
    cases henter : enter grammar q e.drained.workspace with
    | error fault' =>
      rw [henter] at hfault
      cases hfault
      exact hnext.trans (nextToken_of_fault rfl hstate henter)
    | ok s' =>
      rw [henter] at hfault
      cases hfault
  endless := by
    intro run h n
    obtain ⟨m, hn⟩ := exists_lt_queue hg h n
    obtain ⟨s', hs', -⟩ := handsOut_of_eager hg rfl (reaches_of_run h m)
    rw [← List.take_append_drop n (run m).workspace.queue, List.drop_eq_getElem_cons hn] at hs'
    obtain ⟨s, hs, hrest⟩ := hs'.split
    cases hrest with
    | cons hnext _ => exact ⟨m, _, s, _, List.getElem?_eq_getElem hn, hs, hnext⟩

end Scanner

end Eager

/-! ## A grammar that does all three -/

namespace Scanner

/-- The states of a small grammar. -/
inductive Sample where
  /-- Ends the scan. -/
  | last
  /-- Gives back what it has not read. -/
  | slip
  /-- Reads all there is, and hands over to `slip`. -/
  | word
  /-- Emits empty tokens for ever. -/
  | spin

def sample : Grammar TokenKind LexError.Cause Sample
  | .last => do Script.emit .string; return none
  | .slip => do Script.emit .string; Script.rewind; return none
  | .word => do let _ ← Script.takeWhile fun _ => true; Script.emit .identifier; return some .slip
  | .spin => do Script.emit .string; return some .spin

theorem sample_takesNothing (q : Sample) : (sample q).TakesNothing := by
  cases q with
  | last => exact ⟨trivial, fun _ => trivial⟩
  | slip => exact ⟨trivial, fun _ => ⟨trivial, fun _ => trivial⟩⟩
  | word => exact ⟨trivial, fun _ => ⟨trivial, fun _ => trivial⟩⟩
  | spin => exact ⟨trivial, fun _ => trivial⟩

/-- The eager run that never ends, where it has emitted `m` tokens. -/
def spun (m : Nat) : Scanner TokenKind LexError.Cause Sample :=
  ⟨⟨.ofList [], List.replicate m ⟨.string, "", .start⟩, none⟩, some .spin⟩

theorem spun_enters (m : Nat) : EntersEagerly sample (spun m) (spun (m + 1)) := by
  refine ⟨.spin, rfl, ?_⟩
  have hrun : (sample .spin).run (spun m).workspace = .ok (some .spin, (spun (m + 1)).workspace) := by
    rw [spun, spun, List.replicate_succ']
    rfl
  have hgrows : mayGoOnEagerly (spun m).workspace (spun (m + 1)).workspace (some Sample.spin) := by
    simp [mayGoOnEagerly, spun]
  rw [enterEagerly, hrun]
  exact if_pos hgrows

/-- A run that ends, one that goes wrong behind a word, and one that never ends. -/
theorem pulls_as_eager_sample :
    (∃ s, Yields sample (ofCursor (.ofList []) .last) [⟨.string, "", .start⟩] s) ∧
    (∃ s, HandsOut sample (ofCursor (.ofList ['a']) .word) [⟨.identifier, "a", .start⟩] s ∧
      s.nextToken sample = .error (.nothingToRewind 1)) ∧
    ∀ n, ∃ s s', HandsOut sample (ofCursor (.ofList []) .spin)
      (List.replicate n ⟨.string, "", .start⟩) s ∧
      s.nextToken sample = .ok (some ⟨.string, "", .start⟩, s') := by
  refine ⟨?_, ?_, ?_⟩
  · obtain ⟨s, hs, -⟩ := (pulls_as_eager sample_takesNothing (.ofList []) .last).ends
      ⟨.single ⟨.last, rfl, rfl⟩, rfl⟩
    exact ⟨s, hs⟩
  · obtain ⟨s, hs, hfault⟩ := (pulls_as_eager sample_takesNothing (.ofList ['a']) .word).faults
      ⟨.single ⟨.word, rfl, rfl⟩, .slip, rfl, rfl⟩
    exact ⟨s, hs, hfault⟩
  · intro n
    obtain ⟨m, token, s, s', htoken, hs, hnext⟩ :=
      (pulls_as_eager sample_takesNothing (.ofList []) .spin).endless ⟨rfl, spun_enters⟩ n
    obtain ⟨hn, rfl⟩ := List.getElem?_eq_some_iff.1 htoken
    have hle : n ≤ m := by simpa [spun] using hn.le
    refine ⟨s, s', ?_, ?_⟩
    · simpa [spun, List.take_replicate, Nat.min_eq_left hle] using hs
    · simpa [spun] using hnext

end Scanner

end ExprLexer
