-- SUMMARY: What comes about over time: action by action, with a log of what was finished.
import ExprLexer.Proofs.Pull

/-!
# Traces

A workspace changes by actions, one after the other. `Workspace.Reaches` says
what any row of actions can come to and logs what was finished or handed out on
the way. A running script takes such a row of actions (`Script.Reaches`), and so
does a scanner in use, by its turns and by what is done to it from outside
between them (`Scanner.Reaches`). What every action preserves is therefore true
at any moment of any scan.

Main statements: the tokens handed out and those left in the queue are the ones
that were queued (`Workspace.Reaches.queue`), and a pull is a row of turns
(`Scanner.Reaches.nextToken`).
-/

namespace ExprLexer

/-! ## Events -/

/-- Something that is not undone any more. -/
inductive Event (κ : Type) where
  /-- The pending text, which starts at byte `start`, was dropped. -/
  | dropped (start : Nat) (piece : List Char)
  /-- A token was queued for the pending text. -/
  | queued (start : Nat) (piece : List Char) (token : Token κ)
  /-- The oldest token of the queue was handed out. -/
  | taken (token : Token κ)

namespace Event

variable {κ : Type}

def queued? : Event κ → Option (Token κ)
  | .queued _ _ token => some token
  | _ => none

def taken? : Event κ → Option (Token κ)
  | .taken token => some token
  | _ => none

theorem exists_queued {token : Token κ} {log : List (Event κ)}
    (h : token ∈ log.filterMap queued?) : ∃ start piece, .queued start piece token ∈ log := by
  obtain ⟨event, hmem, hevent⟩ := List.mem_filterMap.1 h
  cases event with
  | queued start piece token' =>
    cases hevent
    exact ⟨start, piece, hmem⟩
  | dropped start piece => cases hevent
  | taken token' => cases hevent

end Event

section Traces

variable {κ ε α β σ : Type} [Vocabulary κ ε]

/-- What an action finishes or hands out. -/
def Action.events : Action κ ε β → Workspace κ ε → List (Event κ)
  | .ignore, w => [.dropped w.cursor.tokenStart w.cursor.current]
  | .emit kind, w =>
    [.queued w.cursor.tokenStart w.cursor.current
      ⟨kind, String.ofList w.cursor.current, w.cursor.location⟩]
  | .fail cause, w =>
    [.queued w.cursor.tokenStart w.cursor.current (Failure.toToken ⟨cause, w.cursor.location⟩)]
  | .takeToken, w => w.queue.head?.toList.map .taken
  | .cursor, _ => []
  | .failure, _ => []
  | .move _, _ => []

/-- An action puts what it queues behind the queue and takes what it hands out from its front. -/
theorem Action.perform_queue {a : Action κ ε β} {w : Workspace κ ε} {r : β × Workspace κ ε}
    (h : a.perform w = .ok r) :
    w.queue ++ (a.events w).filterMap Event.queued? =
      (a.events w).filterMap Event.taken? ++ r.2.queue := by
  cases a with
  | cursor =>
    cases h
    exact List.append_nil _
  | failure =>
    cases h
    exact List.append_nil _
  | move m =>
    obtain ⟨r', hm, rfl⟩ := Except.map_eq_ok_iff.1 h
    exact List.append_nil _
  | ignore =>
    cases h
    exact List.append_nil _
  | emit kind =>
    cases h
    rfl
  | fail cause =>
    cases h
    rfl
  | takeToken =>
    cases h
    cases hq : w.queue <;> simp [events, Workspace.takeToken, Event.queued?, Event.taken?, hq]

/-! ## Workspaces -/

/-- A row of actions takes the first workspace to the second one. -/
inductive Workspace.Reaches (w₀ : Workspace κ ε) : List (Event κ) → Workspace κ ε → Prop where
  | refl : Reaches w₀ [] w₀
  | tail {γ : Type} {a : Action κ ε γ} {log : List (Event κ)} {w : Workspace κ ε}
      {r : γ × Workspace κ ε} :
      Reaches w₀ log w → a.perform w = .ok r → Reaches w₀ (log ++ a.events w) r.2

namespace Workspace.Reaches

variable {w w' w'' : Workspace κ ε} {log log' : List (Event κ)}

theorem single {a : Action κ ε β} {r : β × Workspace κ ε} (h : a.perform w = .ok r) :
    w.Reaches (a.events w) r.2 :=
  tail refl h

theorem trans (h : w.Reaches log w') (h' : w'.Reaches log' w'') :
    w.Reaches (log ++ log') w'' := by
  induction h' with
  | refl =>
    rw [List.append_nil]
    exact h
  | tail _ ha ih =>
    rw [← List.append_assoc]
    exact tail ih ha

theorem text (h : w.Reaches log w') : w'.cursor.text = w.cursor.text := by
  induction h with
  | refl => rfl
  | tail _ ha ih => exact (Action.perform_text ha).trans ih

/-- No token is lost or handed out twice, and none passes another. -/
theorem queue (h : w.Reaches log w') :
    w.queue ++ log.filterMap Event.queued? = log.filterMap Event.taken? ++ w'.queue := by
  induction h with
  | refl => exact List.append_nil _
  | tail _ ha ih =>
    rw [List.filterMap_append, List.filterMap_append, ← List.append_assoc, ih, List.append_assoc,
      Action.perform_queue ha, ← List.append_assoc]

end Workspace.Reaches

/-! ## Scripts -/

namespace Script

/-- Running a script on the first workspace takes it to the second one, at the end of the script or
    before. -/
inductive Reaches : Script κ ε α → Workspace κ ε → List (Event κ) → Workspace κ ε → Prop where
  | refl {s : Script κ ε α} {w : Workspace κ ε} : Reaches s w [] w
  | head {γ : Type} {a : Action κ ε γ} {k : γ → Script κ ε α} {w w' : Workspace κ ε}
      {r : γ × Workspace κ ε} {log : List (Event κ)} :
      a.perform w = .ok r → Reaches (k r.1) r.2 log w' →
      Reaches (.exec a k) w (a.events w ++ log) w'

/-- What a script finishes or hands out. -/
def events : Script κ ε α → Workspace κ ε → List (Event κ)
  | .done _, _ => []
  | .exec a k, w =>
    match a.perform w with
    | .error _ => []
    | .ok (b, w') => a.events w ++ (k b).events w'

variable {s : Script κ ε α} {w w' : Workspace κ ε} {log : List (Event κ)}

theorem Reaches.workspace (h : s.Reaches w log w') : w.Reaches log w' := by
  induction h with
  | refl => exact .refl
  | head ha _ ih => exact (Workspace.Reaches.single ha).trans ih

theorem reaches_run {a : α} (h : s.run w = .ok (a, w')) : s.Reaches w (s.events w) w' := by
  induction s generalizing w with
  | done b =>
    cases h
    exact .refl
  | exec action k ih =>
    simp only [run] at h
    split at h
    · cases h
    · rename_i b w₁ hp
      simp only [events, hp]
      exact .head hp (ih b h)

end Script

/-! ## Scanners -/

namespace Scanner

/-- A scanner in use: the first one becomes the second one by turns, and by actions from outside
    between them. -/
inductive Reaches (grammar : Grammar κ ε σ) (s₀ : Scanner κ ε σ) :
    List (Event κ) → Scanner κ ε σ → Prop where
  | refl : Reaches grammar s₀ [] s₀
  | action {γ : Type} {a : Action κ ε γ} {log : List (Event κ)} {s : Scanner κ ε σ}
      {r : γ × Workspace κ ε} :
      Reaches grammar s₀ log s → a.perform s.workspace = .ok r →
      Reaches grammar s₀ (log ++ a.events s.workspace) ⟨r.2, s.state⟩
  | token {log : List (Event κ)} {s s' : Scanner κ ε σ} {token : Token κ} :
      Reaches grammar s₀ log s → s.turn grammar = .token token s' →
      Reaches grammar s₀ (log ++ [.taken token]) s'
  | entered {log : List (Event κ)} {s s' : Scanner κ ε σ} {q : σ} :
      Reaches grammar s₀ log s → s.turn grammar = .entered q (.ok s') →
      Reaches grammar s₀ (log ++ (grammar q).events s.workspace) s'

variable {grammar : Grammar κ ε σ} {s₀ s s' : Scanner κ ε σ} {q : σ} {token : Token κ}
  {log : List (Event κ)}

/-- A turn that hands out a token takes it from the queue, and does nothing else. -/
theorem perform_takeToken_of_turn (h : s.turn grammar = .token token s') :
    Action.takeToken.perform s.workspace = .ok (some token, s'.workspace) ∧
      Action.takeToken.events (κ := κ) s.workspace = [.taken token] := by
  obtain ⟨queue, hqueue, rfl⟩ := turn_eq_token_iff.1 h
  simp [Action.perform, Action.events, Workspace.takeToken, hqueue]

/-- A turn that runs a state runs its script to the end. -/
theorem run_of_turn (h : s.turn grammar = .entered q (.ok s')) :
    ∃ next, (grammar q).run s.workspace = .ok (next, s'.workspace) := by
  obtain ⟨-, -, henter⟩ := turn_eq_entered_iff.1 h
  obtain ⟨next, w, hr, -, rfl⟩ := enter_eq_ok_iff.1 henter
  exact ⟨next, hr⟩

namespace Reaches

theorem workspace (h : Reaches grammar s₀ log s) : s₀.workspace.Reaches log s.workspace := by
  induction h with
  | refl => exact .refl
  | action _ ha ih => exact ih.tail ha
  | token _ ht ih =>
    obtain ⟨hp, he⟩ := perform_takeToken_of_turn ht
    exact he ▸ ih.tail hp
  | entered _ ht ih =>
    obtain ⟨next, hr⟩ := run_of_turn ht
    exact ih.trans (Script.reaches_run hr).workspace

/-- A pull is a row of turns, and the last of them hands out the token. -/
theorem nextToken (h : Reaches grammar s₀ log s)
    (hn : s.nextToken grammar = .ok (some token, s')) :
    ∃ log', Reaches grammar s₀ (log ++ log') s' ∧ .taken token ∈ log' := by
  rw [Scanner.nextToken, pull] at hn
  generalize ([] : List σ) = entered at hn
  induction entered, s using pullFrom.induct grammar generalizing log with
  | case1 entered s token' s₁ ht =>
    rw [pullFrom_token ht] at hn
    cases hn
    exact ⟨[.taken token], h.token ht, List.mem_singleton_self _⟩
  | case2 entered s ht =>
    rw [pullFrom_over ht] at hn
    cases hn
  | case3 entered s q fault ht =>
    rw [pullFrom_fault ht] at hn
    cases hn
  | case4 entered s q s₁ ht ih =>
    rw [pullFrom_entered ht] at hn
    obtain ⟨log', hr, hm⟩ := ih (h.entered ht) hn
    rw [List.append_assoc] at hr
    exact ⟨_, hr, List.mem_append_right _ hm⟩

end Reaches

end Scanner

end Traces

end ExprLexer
