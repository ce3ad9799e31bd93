-- SUMMARY: The grammar never goes wrong: every state gives back what it read, and gets further.
import ExprLexer.Lexer
import ExprLexer.Proofs.Mode
import ExprLexer.Proofs.Slice
import ExprLexer.Proofs.Trace
import Mathlib.Logic.Relation

/-!
# Progress

Three things can go wrong while a text is read: a state gives back a char that it
has not read, the text is cut where there is no char, or the states run in
circles. That the CE grammar does none of them is not a matter of each state
alone. Passing blanks may read nothing, and then gets further only because the
state before it has read one (`Mode.Expects`); the name behind an `@` is read
without a look because there was one before.

What a state expects, the states before it provide (`Mode.ends_grammar`). So no turn of
a lexer is a fault, and every pull ends after a bounded number of states
(`Lexer.sound_of_reachable`).
-/

namespace ExprLexer

/-! ## Scripts that end -/

section Scripts

variable {κ ε α β : Type} [Vocabulary κ ε]

/-- The script runs to its end, and what it comes to satisfies `P`. -/
def Script.Ends (s : Script κ ε α) (w : Workspace κ ε) (P : α → Workspace κ ε → Prop) : Prop :=
  ∃ a w', s.run w = .ok (a, w') ∧ P a w'

theorem Script.Ends.bind {s : Script κ ε α} {f : α → Script κ ε β} {w w' : Workspace κ ε} {a : α}
    {P : β → Workspace κ ε → Prop} (h : s.run w = .ok (a, w')) (hf : (f a).Ends w' P) :
    (s >>= f).Ends w P := by
  obtain ⟨b, w'', hr, hP⟩ := hf
  exact ⟨b, w'', (run_bind_ok h).trans hr, hP⟩

end Scripts

/-! ## Turns that follow one another -/

namespace Scanner

variable {κ ε σ : Type} [Vocabulary κ ε]

/-- One turn takes the first scanner to the second one. -/
inductive TurnsTo (grammar : Grammar κ ε σ) (s : Scanner κ ε σ) : Scanner κ ε σ → Prop where
  | token {token : Token κ} {s' : Scanner κ ε σ} :
    s.turn grammar = .token token s' → TurnsTo grammar s s'
  | entered {q : σ} {s' : Scanner κ ε σ} :
    s.turn grammar = .entered q (.ok s') → TurnsTo grammar s s'

variable {grammar : Grammar κ ε σ} {s s' : Scanner κ ε σ}

theorem TurnsTo.text (h : TurnsTo grammar s s') :
    s'.workspace.cursor.text = s.workspace.cursor.text := by
  cases h with
  | token ht => exact Action.perform_text (perform_takeToken_of_turn ht).1
  | entered ht =>
    obtain ⟨next, hr⟩ := run_of_turn ht
    exact Script.run_text hr

/-- Where no turn is a fault, a pull ends without one. -/
theorem nextToken_ok
    (h : ∀ s', Relation.ReflTransGen (TurnsTo grammar) s s' →
      ∀ q fault, s'.turn grammar ≠ .entered q (.error fault)) :
    ∃ token s', s.nextToken grammar = .ok (token, s') ∧
      Relation.ReflTransGen (TurnsTo grammar) s s' := by
  rw [nextToken, pull]
  generalize ([] : List σ) = entered
  induction entered, s using pullFrom.induct grammar with
  | case1 entered s token s' ht =>
    rw [pullFrom_token ht]
    exact ⟨_, _, rfl, .single (.token ht)⟩
  | case2 entered s ht =>
    rw [pullFrom_over ht]
    exact ⟨_, _, rfl, .refl⟩
  | case3 entered s q fault ht => exact (h s .refl q fault ht).elim
  | case4 entered s q s₁ ht ih =>
    rw [pullFrom_entered ht]
    have hturn : TurnsTo grammar s s₁ := .entered ht
    obtain ⟨token, s', hp, hs'⟩ := ih fun s' hs' => h s' (hs'.head hturn)
    exact ⟨token, s', hp, hs'.head hturn⟩

theorem length_entered_le (entered : List σ) (s : Scanner κ ε σ) :
    (pullFrom grammar entered s).entered.length ≤ entered.length + s.rank := by
  induction entered, s using pullFrom.induct grammar with
  | case1 entered s token s' ht =>
    rw [pullFrom_token ht, List.length_reverse]
    omega
  | case2 entered s ht =>
    rw [pullFrom_over ht, List.length_reverse]
    omega
  | case3 entered s q fault ht =>
    obtain ⟨hqueue, hstate, -⟩ := turn_eq_entered_iff.1 ht
    have hrank : 0 < s.rank := by simp [rank, hstate, hqueue]
    rw [pullFrom_fault ht, List.length_reverse, List.length_cons]
    omega
  | case4 entered s q s' ht ih =>
    rw [pullFrom_entered ht]
    have hlt := turn_rank_lt ht
    rw [List.length_cons] at ih
    omega

end Scanner

/-! ## What the states rely on -/

namespace Mode

open Script Scanner

/-- What a state relies on, by what has been read of the pending token and what is left. -/
def Expects : Mode → List Char → List Char → Prop
  | .blanks, pending, _ => pending ≠ []
  | .atSign, _, after => after ≠ []
  | .start, _, _ => True
  | .integer, _, _ => True
  | .fraction, _, _ => True
  | .identifier, _, _ => True
  | .segment, _, _ => True
  | .string, _, _ => True

/-- How a state that found the workspace at `progress` leaves it to the next one: the scan is over,
    or a token is queued, or it has got further and the next state finds what it relies on. -/
inductive Leaves (progress : Nat) : Option Mode → Workspace TokenKind LexError.Cause → Prop where
  | ended {next : Option Mode} {w : Workspace TokenKind LexError.Cause} :
    successor w next = none → Leaves progress next w
  | token {w : Workspace TokenKind LexError.Cause} :
    w.queue ≠ [] → w.failure = none → Leaves progress (some .start) w
  | further {q : Mode} {w : Workspace TokenKind LexError.Cause} {l : Location}
    {pending after : List Char} :
    w.At l pending after → progress < w.progress → q.Expects pending after →
    Leaves progress (some q) w

variable {w w' : Workspace TokenKind LexError.Cause} {l : Location} {p after rest : List Char}
  {progress : Nat} {kind : TokenKind} {following : Option Char}

theorem ends_fail (cause : LexError.Cause) :
    (Script.fail cause : Task).Ends w (Leaves progress) :=
  ⟨none, w.fail cause, rfl, .ended rfl⟩

theorem ends_finish (h : w.At l p after) (kind : TokenKind) :
    (finish kind).Ends w (Leaves progress) := by
  obtain ⟨w', he, hq, hw'⟩ := h.emit kind
  refine .bind he ⟨some start, w', rfl, .token ?_ hw'.failure⟩
  rw [hq]
  exact List.cons_ne_nil _ _

/-- What is given back here has just been read. -/
theorem ends_rewind (h : w.At l p after) (hn : next.run w = .ok (following, w'))
    (kind : TokenKind) :
    (do Script.rewind; finish kind : Task).Ends w' (Leaves progress) := by
  obtain ⟨w'', hb, hw''⟩ := h.rewind hn
  exact .bind hb (ends_finish hw'' kind)

theorem ends_readOperator (h : w.At l p after) (c : Char) :
    (readOperator c >>= finish).Ends w (Leaves progress) := by
  obtain ⟨kind, w', run, rest, hr, -, hw'⟩ := readOperator_run h c
  exact .bind hr (ends_finish hw' kind)

theorem ends_endNumber (h : w.At l p after) (hn : next.run w = .ok (following, w')) :
    (endNumber kind following).Ends w' (Leaves progress) := by
  unfold endNumber
  split
  · exact .bind (a := ()) rfl ⟨none, _, rfl, .ended (successor_none _)⟩
  · split
    · exact ends_rewind h hn kind
    · exact ends_fail _

/-! ## State by state -/

/-- A state that has read something and goes on with another one. -/
theorem ends_further {q : Mode} {run : List Char} (h : w.At l p after)
    (h' : w'.At l (p ++ run) rest) (hne : run ≠ []) (hq : q.Expects (p ++ run) rest) :
    (pure (some q) : Task).Ends w' (Leaves w.progress) :=
  ⟨some q, w', rfl, .further h' (h.progress_lt h' hne) hq⟩

theorem ends_readStart (h : w.At l p after) : readStart.Ends w (Leaves w.progress) := by
  cases after with
  | nil =>
    obtain ⟨w', hn, -⟩ := h.next_end
    exact .bind hn ⟨none, w', rfl, .ended (successor_none w')⟩
  | cons c rest =>
    obtain ⟨w', hn, h'⟩ := h.next
    have hread {q : Mode} (hq : q.Expects (p ++ [c]) rest) :
        (pure (some q) : Task).Ends w' (Leaves w.progress) :=
      ends_further h h' (List.cons_ne_nil c []) hq
    refine .bind hn ?_
    dsimp only
    split
    · exact hread (q := .blanks) (List.append_ne_nil_of_right_ne_nil p (List.cons_ne_nil c []))
    split
    · exact hread (q := .identifier) trivial
    split
    · exact hread (q := .integer) trivial
    split
    · exact hread (q := .string) trivial
    refine .bind h'.peek ?_
    split
    · rename_i hat
      -- The name that the next state relies on has been looked at here.
      have hrest : rest ≠ [] := by
        rintro rfl
        simp at hat
      exact hread (q := .atSign) hrest
    split
    · exact hread (q := .fraction) trivial
    split
    · exact ends_readOperator h' c
    · exact ends_fail _

theorem ends_readBlanks (h : w.At l p after) (hp : p ≠ []) :
    readBlanks.Ends w (Leaves w.progress) := by
  obtain ⟨n, w₁, run, rest, ht, rfl, h₁⟩ := h.takeWhile_run isSpace
  obtain ⟨w₂, hi, h₂⟩ := h₁.ignore
  refine .bind ht (.bind hi ⟨some start, w₂, rfl, .further h₂ ?_ trivial⟩)
  have hpos := byteLength_pos hp
  rw [h.progress_eq, h₂.progress_eq, Location.advance_offset, byteLength_append, byteLength_nil]
  omega

/-- Behind the digits of a number stands a point, or the number ends there. -/
theorem ends_readDigits {atPoint : Task} (h : w.At l p after)
    (hpoint : ∀ run rest w', run ≠ [] → w'.At l (p ++ run) rest →
      atPoint.Ends w' (Leaves progress)) :
    (readDigits kind atPoint).Ends w (Leaves progress) := by
  obtain ⟨n, w₁, run, rest, ht, rfl, h₁⟩ := h.takeWhile_run Char.isDigit
  obtain ⟨w₂, hn, h₂⟩ := h₁.next_head
  refine .bind ht (.bind hn ?_)
  split
  · rename_i hhead
    rw [hhead, List.append_assoc] at h₂
    exact hpoint _ _ w₂ (by simp) h₂
  · exact ends_endNumber h₁ hn

theorem ends_readInteger (h : w.At l p after) : readInteger.Ends w (Leaves w.progress) :=
  ends_readDigits h fun _ _ _ hne h' => ends_further h h' hne trivial

theorem ends_readFraction (h : w.At l p after) : readFraction.Ends w (Leaves w.progress) :=
  ends_readDigits h fun _ _ _ _ _ => ends_fail _

theorem ends_readIdentifier (h : w.At l p after) : readIdentifier.Ends w (Leaves w.progress) := by
  obtain ⟨n, w₁, run, rest, ht, rfl, h₁⟩ := h.takeWhile_run isIdentifierPart
  refine .bind ht ?_
  by_cases hdot : rest.head? = some '.'
  · obtain ⟨rest, rfl⟩ := List.head?_eq_some_iff.1 hdot
    obtain ⟨w₂, ha, h₂⟩ := h₁.accept
    rw [List.append_assoc] at h₂
    exact .bind ha (ends_further h h₂ (by simp) trivial)
  · obtain ⟨w₂, ha, h₂⟩ := h₁.accept_refused hdot
    exact .bind ha (ends_finish h₂ _)

theorem ends_readSegment (h : w.At l p after) : readSegment.Ends w (Leaves w.progress) := by
  cases after with
  | nil =>
    obtain ⟨w', hn, -⟩ := h.next_end
    exact .bind hn (ends_fail _)
  | cons c rest =>
    obtain ⟨w', hn, h'⟩ := h.next
    refine .bind hn ?_
    dsimp only
    split_ifs
    · exact ends_further h h' (by simp) trivial
    · exact ends_fail _

theorem ends_readAtSign (h : w.At l p after) (hafter : after ≠ []) :
    readAtSign.Ends w (Leaves w.progress) := by
  obtain ⟨c, rest, rfl⟩ := List.exists_cons_of_ne_nil hafter
  obtain ⟨w', hn, h'⟩ := h.next
  exact .bind hn (ends_further h h' (by simp) trivial)

theorem ends_readString (h : w.At l p after) : readString.Ends w (Leaves w.progress) := by
  obtain ⟨r, w₁, run, rest, ht, rfl, h₁⟩ := h.takeWhileState_run insideString false
  obtain ⟨w₂, hn, h₂⟩ := h₁.next_head
  refine .bind ht (.bind hn ?_)
  split
  · exact ends_finish h₂ _
  · exact ends_fail _

/-- A state that finds what it relies on runs to its end, and leaves to the next state what that
    one relies on. -/
theorem ends_grammar {q : Mode} (h : w.At l p after) (hq : q.Expects p after) :
    (grammar q).Ends w (Leaves w.progress) := by
  cases q with
  | start => exact ends_readStart h
  | blanks => exact ends_readBlanks h hq
  | integer => exact ends_readInteger h
  | fraction => exact ends_readFraction h
  | identifier => exact ends_readIdentifier h
  | segment => exact ends_readSegment h
  | atSign => exact ends_readAtSign h hq
  | string => exact ends_readString h

/-! ## Turn by turn -/

/-- As long as a state is left to run, nothing has failed and it finds what it relies on. -/
def Sound (s : Machine) : Prop :=
  ∀ q, s.state = some q →
    s.workspace.failure = none ∧ q.Expects s.workspace.cursor.current s.workspace.cursor.after

variable {s s' : Machine} {q : Mode}

theorem Leaves.mayGoOn {next : Option Mode} (h : Leaves w.progress next w') :
    Scanner.mayGoOn w w' (successor w' next) := by
  cases h with
  | ended hnext => simp [Scanner.mayGoOn, hnext]
  | token hqueue _ => simp [Scanner.mayGoOn, hqueue]
  | further _ hlt _ => simp [Scanner.mayGoOn, hlt]

theorem Leaves.sound {next : Option Mode} (h : Leaves progress next w) :
    Sound ⟨w, successor w next⟩ := by
  intro q hq
  cases h with
  | ended hnext => simp [hnext] at hq
  | token _ hfailure =>
    rw [successor_eq hfailure] at hq
    cases hq
    exact ⟨hfailure, trivial⟩
  | further hw _ hexpects =>
    rw [successor_eq hw.failure] at hq
    cases hq
    refine ⟨hw.failure, ?_⟩
    rwa [hw.current, hw.after]

theorem Sound.ends (h : Sound s) (hq : s.state = some q) (hqueue : s.workspace.queue = []) :
    (grammar q).Ends s.workspace (Leaves s.workspace.progress) := by
  obtain ⟨hfailure, hexpects⟩ := h q hq
  exact ends_grammar ⟨rfl, rfl, rfl, hqueue, hfailure⟩ hexpects

/-- A state that is entered comes to its end, and the scanner is sound again. -/
theorem Sound.enter (h : Sound s) (hq : s.state = some q) (hqueue : s.workspace.queue = []) :
    ∃ s', Scanner.enter grammar q s.workspace = .ok s' ∧ Sound s' := by
  obtain ⟨next, w, hr, hleaves⟩ := h.ends hq hqueue
  exact ⟨⟨w, successor w next⟩, enter_of_run hr hleaves.mayGoOn, hleaves.sound⟩

theorem Sound.no_fault (h : Sound s) (q : Mode) (fault : Fault) :
    s.turn grammar ≠ .entered q (.error fault) := by
  intro ht
  obtain ⟨hqueue, hstate, hfault⟩ := turn_eq_entered_iff.1 ht
  obtain ⟨s', hs', -⟩ := h.enter hstate hqueue
  cases hfault.symm.trans hs'

theorem Sound.turnsTo (h : Sound s) (ht : TurnsTo grammar s s') : Sound s' := by
  cases ht with
  | token ht =>
    obtain ⟨queue, -, rfl⟩ := turn_eq_token_iff.1 ht
    exact h
  | entered ht =>
    obtain ⟨hqueue, hstate, hs'⟩ := turn_eq_entered_iff.1 ht
    obtain ⟨s₁, hs₁, hsound⟩ := h.enter hstate hqueue
    cases hs'.symm.trans hs₁
    exact hsound

theorem Sound.reaches (h : Sound s) (ht : Relation.ReflTransGen (TurnsTo grammar) s s') :
    Sound s' := by
  induction ht with
  | refl => exact h
  | tail _ hturn ih => exact ih.turnsTo hturn

end Mode

/-! ## Lexers -/

namespace Lexer

/-- The scanners that a lexer of a text comes to, between its pulls and while one is going on. -/
def Reachable (text : String) (s : Mode.Machine) : Prop :=
  Relation.ReflTransGen (Scanner.TurnsTo grammar) (ofString text).scanner s

variable {text : String} {s : Mode.Machine}

theorem Reachable.text_eq (h : Reachable text s) : s.workspace.cursor.text = text.toList := by
  induction h with
  | refl => exact Cursor.skipMark_text _
  | tail _ hturn ih => exact hturn.text.trans ih

theorem Reachable.sound (h : Reachable text s) : Mode.Sound s := by
  refine Mode.Sound.reaches ?_ h
  intro q hq
  cases hq
  exact ⟨rfl, trivial⟩

/-- However far a lexer of a text has come, it can be asked for a token: no state gives back what
    it has not read, no state is left where it was without a token to show for it, and no piece is
    cut out of the text but at whole chars. -/
theorem sound_of_reachable (h : Reachable text s) :
    (∃ token s', (⟨s⟩ : Lexer).nextToken = .ok (token, ⟨s'⟩) ∧ Reachable text s') ∧
    (s.pull grammar).entered.length ≤ 2 * byteLength text.toList + 1 ∧
    ∀ q, s.state = some q → s.workspace.queue = [] →
      (∃ next w, (grammar q).run s.workspace = .ok (next, w) ∧
        (Scanner.successor w next = none ∨ w.queue ≠ [] ∨
          s.workspace.progress < w.progress)) ∧
      ∀ log w, (grammar q).Reaches s.workspace log w →
        slice? text.toList w.cursor.tokenStart w.cursor.position = some w.cursor.current ∧
        slice? text.toList w.cursor.position (byteLength text.toList) = some w.cursor.after := by
  refine ⟨?_, ?_, ?_⟩
  · obtain ⟨token, s', hn, hs'⟩ :=
      Scanner.nextToken_ok fun s' hs' => (h.sound.reaches hs').no_fault
    exact ⟨token, s', by simp [nextToken, hn], h.trans hs'⟩
  · have hle : (s.pull grammar).entered.length ≤ 0 + s.rank := Scanner.length_entered_le [] s
    have hrank : s.rank ≤ 2 * byteLength text.toList + 1 := by
      unfold Scanner.rank
      rw [h.text_eq]
      split <;> omega
    omega
  · intro q hq hqueue
    refine ⟨?_, ?_⟩
    · obtain ⟨next, w, hr, hleaves⟩ := h.sound.ends hq hqueue
      refine ⟨next, w, hr, ?_⟩
      cases hleaves with
      | ended hnext => exact .inl hnext
      | token hqueue _ => exact .inr (.inl hqueue)
      | further _ hlt _ => exact .inr (.inr hlt)
    · intro log w hw
      have htext := hw.workspace.text.trans h.text_eq
      rw [← htext]
      exact ⟨w.cursor.slice?_current, w.cursor.slice?_after⟩

/-- In the middle of a pull, when an `@` has been read and its name has not. -/
theorem sound_of_reachable_atSign :
    ∃ s, Reachable "@a" s ∧ s.state = some .atSign ∧ s.workspace.queue = [] ∧
      (∃ token s', (⟨s⟩ : Lexer).nextToken = .ok (token, ⟨s'⟩) ∧ Reachable "@a" s') ∧
      ∃ next w, (grammar .atSign).run s.workspace = .ok (next, w) ∧
        (Scanner.successor w next = none ∨ w.queue ≠ [] ∨
          s.workspace.progress < w.progress) := by
  have h : Reachable "@a" _ := .single (.entered rfl)
  obtain ⟨hnext, -, hrun⟩ := sound_of_reachable h
  exact ⟨_, h, rfl, rfl, hnext, (hrun .atSign rfl rfl).1⟩

end Lexer

end ExprLexer
