-- SUMMARY: What each state of the grammar does at a known place.
import ExprLexer.Proofs.Lexeme
import ExprLexer.Proofs.Pull

/-!
# The states of the grammar

One rule for each way that a state of the grammar can end, given what is left of
the text. `Scanner.At` is the place before the state runs and after it; what the
pull comes to is either the pull of another scanner, or a token, or the end.
-/

namespace ExprLexer

@[simp] theorem Script.run_pure {κ ε α : Type} [Vocabulary κ ε] (a : α) (w : Workspace κ ε) :
    (pure a : Script κ ε α).run w = .ok (a, w) := rfl

@[simp] theorem Script.run_fail {κ ε σ : Type} [Vocabulary κ ε] (cause : ε) (w : Workspace κ ε) :
    (Script.fail cause : Script κ ε (Option σ)).run w = .ok (none, w.fail cause) := rfl

namespace Mode

open Script Scanner

/-- A scanner over the grammar. -/
abbrev Machine : Type := Scanner TokenKind LexError.Cause Mode

variable {s : Machine} {l : Location} {p rest : List Char} {c : Char}

/-! ## The first char -/

theorem start_end (h : s.At (some .start) l p []) :
    ∃ s' : Machine, s.nextToken grammar = .ok (none, s') ∧ s'.At none l p [] := by
  obtain ⟨w, hn, hw⟩ := h.workspace.next_end
  have hr : readStart.run s.workspace = .ok (none, w) := by
    rw [readStart, run_bind_ok hn]
    rfl
  exact h.ends hr hw

/-- A state that reads one char and goes on with another state. -/
theorem reads_next {q q' : Mode} (h : s.At (some q) l p (c :: rest))
    (hr : ∀ w w', next.run w = .ok (some c, w') → w'.At l (p ++ [c]) rest →
      (grammar q).run w = .ok (some q', w')) :
    ∃ s' : Machine, s.nextToken grammar = s'.nextToken grammar ∧
      s'.At (some q') l (p ++ [c]) rest := by
  obtain ⟨w, hn, hw⟩ := h.workspace.next
  exact h.reads (List.cons_ne_nil _ _) (hr _ _ hn hw) hw

theorem start_blank (h : s.At (some .start) l p (c :: rest)) (hc : isSpace c) :
    ∃ s' : Machine, s.nextToken grammar = s'.nextToken grammar ∧
      s'.At (some .blanks) l (p ++ [c]) rest := by
  refine reads_next h ?_
  intro w w' hn _
  rw [grammar, readStart, run_bind_ok hn]
  simp [hc]

theorem start_identifier (h : s.At (some .start) l p (c :: rest)) (hc : isIdentifierStart c) :
    ∃ s' : Machine, s.nextToken grammar = s'.nextToken grammar ∧
      s'.At (some .identifier) l (p ++ [c]) rest := by
  have hs := isSpace_of_isIdentifierPart (isIdentifierPart_of_isIdentifierStart hc)
  refine reads_next h ?_
  intro w w' hn _
  rw [grammar, readStart, run_bind_ok hn]
  simp [hs, hc]

theorem start_digit (h : s.At (some .start) l p (c :: rest)) (hc : c.isDigit) :
    ∃ s' : Machine, s.nextToken grammar = s'.nextToken grammar ∧
      s'.At (some .integer) l (p ++ [c]) rest := by
  refine reads_next h ?_
  intro w w' hn _
  rw [grammar, readStart, run_bind_ok hn]
  simp [isSpace_of_isDigit hc, isIdentifierStart_of_isDigit hc, hc]

theorem start_quote (h : s.At (some .start) l p ('"' :: rest)) :
    ∃ s' : Machine, s.nextToken grammar = s'.nextToken grammar ∧
      s'.At (some .string) l (p ++ ['"']) rest := by
  refine reads_next h ?_
  intro w w' hn _
  rw [grammar, readStart, run_bind_ok hn]
  rfl

/-- What is left to decide when the first char starts none of the tokens above. -/
theorem run_readStart {w w' : Workspace TokenKind LexError.Cause}
    (hn : next.run w = .ok (some c, w')) (hw : w'.At l p rest) (hspace : isSpace c = false)
    (hstart : isIdentifierStart c = false) (hdigit : c.isDigit = false) (hquote : c ≠ '"') :
    readStart.run w =
      (if c = '@' ∧ rest.head?.any isIdentifierStart then pure (some .atSign)
        else if c = '.' ∧ rest.head?.any Char.isDigit then pure (some .fraction)
        else if isAsciiPunctuation c then readOperator c >>= finish
        else Script.fail (.unexpectedChar c) : Task).run w' := by
  rw [readStart, run_bind_ok hn]
  simp only [hspace, hstart, hdigit, hquote, Bool.false_eq_true, if_false]
  rw [run_bind_ok hw.peek]

theorem start_atSign (h : s.At (some .start) l p ('@' :: c :: rest)) (hc : isIdentifierStart c) :
    ∃ s' : Machine, s.nextToken grammar = s'.nextToken grammar ∧
      s'.At (some .atSign) l (p ++ ['@']) (c :: rest) := by
  refine reads_next h ?_
  intro w w' hn hw
  rw [grammar, run_readStart hn hw (by decide) (by decide) (by decide) (by decide)]
  simp [hc]

theorem start_point (h : s.At (some .start) l p ('.' :: c :: rest)) (hc : c.isDigit) :
    ∃ s' : Machine, s.nextToken grammar = s'.nextToken grammar ∧
      s'.At (some .fraction) l (p ++ ['.']) (c :: rest) := by
  refine reads_next h ?_
  intro w w' hn hw
  rw [grammar, run_readStart hn hw (by decide) (by decide) (by decide) (by decide)]
  simp [hc]

theorem start_unexpected (h : s.At (some .start) l p (c :: rest)) (hblank : ¬ IsBlank c)
    (hstart : ¬ StartsSegment c) (hdigit : c.isDigit = false) (hmark : ¬ IsPunctuation c) :
    ∃ s', s.nextToken grammar = .ok (some (Failure.toToken ⟨.unexpectedChar c, l⟩), s') ∧
      s'.Over (some ⟨.unexpectedChar c, l⟩) := by
  obtain ⟨w, hn, hw⟩ := h.workspace.next
  have hne : ∀ d, IsPunctuation d → c ≠ d := by
    rintro d hd rfl
    exact hmark hd
  have hspace := isSpace_eq_false_iff.2 hblank
  have hstart := Bool.eq_false_iff.2 (mt isIdentifierStart_iff.1 hstart)
  have hmark := Bool.eq_false_iff.2 (mt isAsciiPunctuation_iff.1 hmark)
  have hr : readStart.run s.workspace = .ok (none, w.fail (.unexpectedChar c)) := by
    rw [run_readStart hn hw hspace hstart hdigit (hne '"' (by decide))]
    simp [hmark, hne '@' (by decide), hne '.' (by decide)]
  exact h.fails hr hw

/-! ## Marks -/

/-- Whatever has been read makes a token, and the next one starts here. -/
theorem emits_of_finish {q : Mode} {w : Workspace TokenKind LexError.Cause} {kind : TokenKind}
    {p' rest' : List Char} (h : s.At (some q) l p rest) (hw : w.At l p' rest')
    (hr : (grammar q).run s.workspace = (finish kind).run w) :
    ∃ s', s.nextToken grammar = .ok (some ⟨kind, String.ofList p', l⟩, s') ∧
      s'.At (some .start) (l.advance p') [] rest' := by
  obtain ⟨w', he, hq, hw'⟩ := hw.emit kind
  have hf : (finish kind).run w = .ok (some start, w') := by
    rw [finish, run_bind_ok he]
    rfl
  exact h.emits (hr.trans hf) hq hw'

/-- What is looked for behind a mark are the operators that it starts, if it starts any. -/
theorem readOperator_eq {kind : TokenKind} (h : (c, kind) ∈ marks) :
    readOperator c = lookahead (operatorsFrom c) kind ∨
      readOperator c = pure kind ∧ operatorsFrom c = [] := by
  have hkind : marks.lookup c = some kind := by
    have hall : ∀ m ∈ marks, marks.lookup m.1 = some m.2 := by decide
    exact hall _ h
  unfold readOperator
  split
  case h_8 =>
    cases hkind
    exact .inr ⟨rfl, rfl⟩
  case h_9 =>
    -- None of the marks with a branch of its own is meant.
    have hall : ∀ m ∈ marks, m.1 ∈ ['<', '>', '=', '!', '/', '&', '|', '.'] ∨
        TokenKind.ofPunctuation m.1 = m.2 ∧ operatorsFrom m.1 = [] := by decide
    obtain hc | ⟨hk, hnil⟩ := hall _ h
    · simp_all
    · exact .inr ⟨congrArg pure hk, hnil⟩
  all_goals
    cases hkind
    exact .inl rfl

section Lookahead

variable {w : Workspace TokenKind LexError.Cause} {pairs : List (Char × TokenKind)}
  {kind single : TokenKind}

theorem lookahead_found {d : Char} (hw : w.At l p (d :: rest)) (h : pairs.lookup d = some kind) :
    ∃ w', (lookahead pairs single).run w = .ok (kind, w') ∧ w'.At l (p ++ [d]) rest := by
  obtain ⟨w', hn, hw'⟩ := hw.next
  refine ⟨w', ?_, hw'⟩
  rw [lookahead, run_bind_ok hn, Option.bind_some, h]
  rfl

theorem lookahead_refused (hw : w.At l p rest) (h : ∀ d ∈ rest.head?, pairs.lookup d = none) :
    ∃ w', (lookahead pairs single).run w = .ok (single, w') ∧ w'.At l p rest := by
  obtain ⟨w', hn, -⟩ := hw.next_head
  obtain ⟨w'', hb, hw''⟩ := hw.rewind hn
  refine ⟨w'', ?_, hw''⟩
  rw [lookahead, run_bind_ok hn, Option.bind_eq_none_iff.2 h, run_bind_ok hb]
  rfl

theorem lookahead_run {after : List Char} (hw : w.At l p after) :
    ∃ k w' run rest, (lookahead pairs single).run w = .ok (k, w') ∧ after = run ++ rest ∧
      w'.At l (p ++ run) rest := by
  cases hf : after.head?.bind fun d => pairs.lookup d with
  | none =>
    obtain ⟨w', hr, hw'⟩ := lookahead_refused hw (Option.bind_eq_none_iff.1 hf)
    exact ⟨_, w', [], after, hr, rfl, by rwa [List.append_nil]⟩
  | some k =>
    obtain ⟨d, hd, hk⟩ := Option.bind_eq_some_iff.1 hf
    obtain ⟨rest, rfl⟩ := List.head?_eq_some_iff.1 hd
    obtain ⟨w', hr, hw'⟩ := lookahead_found hw hk
    exact ⟨k, w', [d], rest, hr, rfl, hw'⟩

/-- Whatever `c` is, it gets a kind, and a piece of what is left is read. -/
theorem readOperator_run {after : List Char} (hw : w.At l p after) (c : Char) :
    ∃ k w' run rest, (readOperator c).run w = .ok (k, w') ∧ after = run ++ rest ∧
      w'.At l (p ++ run) rest := by
  have halone : ∀ k : TokenKind, ∃ k' w' run rest, (pure k : Script _ _ _).run w = .ok (k', w') ∧
      after = run ++ rest ∧ w'.At l (p ++ run) rest := by
    intro k
    exact ⟨k, w, [], after, rfl, rfl, by rwa [List.append_nil]⟩
  unfold readOperator
  split
  case h_8 => exact halone _
  case h_9 => exact halone _
  all_goals exact lookahead_run hw

/-- Two marks that make an operator are read as one. -/
theorem readOperator_pair {d : Char} (ho : (c, d, kind) ∈ operators) (hw : w.At l p (d :: rest)) :
    ∃ w', (readOperator c).run w = .ok (kind, w') ∧ w'.At l (p ++ [d]) rest := by
  obtain ⟨⟨k, hm⟩, -⟩ := operator_marks ho
  have hfound := lookup_operatorsFrom ho
  obtain hr | ⟨-, hnil⟩ := readOperator_eq hm
  · rw [hr]
    exact lookahead_found hw hfound
  · simp [hnil] at hfound

/-- A mark that makes no operator with the char behind it is read alone. -/
theorem readOperator_mark (hm : (c, kind) ∈ marks) (hw : w.At l p rest)
    (hrest : ∀ d ∈ rest.head?, ∀ k, (c, d, k) ∉ operators) :
    ∃ w', (readOperator c).run w = .ok (kind, w') ∧ w'.At l p rest := by
  obtain hr | ⟨hr, -⟩ := readOperator_eq hm
  · rw [hr]
    exact lookahead_refused hw fun d hd => lookup_operatorsFrom_eq_none (hrest d hd)
  · rw [hr]
    exact ⟨w, rfl, hw⟩

end Lookahead

theorem start_pair {d : Char} {kind : TokenKind} (h : s.At (some .start) l p (c :: d :: rest))
    (ho : (c, d, kind) ∈ operators) :
    ∃ s', s.nextToken grammar = .ok (some ⟨kind, String.ofList (p ++ [c, d]), l⟩, s') ∧
      s'.At (some .start) (l.advance (p ++ [c, d])) [] rest := by
  obtain ⟨⟨k, hm⟩, -, hdot, hat⟩ := operator_marks ho
  obtain ⟨hspace, hstart, hdigit, hmark, hquote⟩ := mark_class hm
  obtain ⟨w, hn, hw⟩ := h.workspace.next
  obtain ⟨w', hr, hw'⟩ := readOperator_pair ho hw
  rw [List.append_assoc] at hw'
  refine emits_of_finish h hw' ?_
  rw [grammar, run_readStart hn hw hspace hstart hdigit hquote]
  simp only [hdot, hat, hmark, false_and, if_false, if_true]
  rw [run_bind_ok hr]

theorem start_mark {kind : TokenKind} (h : s.At (some .start) l p (c :: rest))
    (hm : (c, kind) ∈ marks) (ha : Apart [c] rest) :
    ∃ s', s.nextToken grammar = .ok (some ⟨kind, String.ofList (p ++ [c]), l⟩, s') ∧
      s'.At (some .start) (l.advance (p ++ [c])) [] rest := by
  have hat : ¬ (c = '@' ∧ rest.head?.any isIdentifierStart) := by
    rintro ⟨rfl, hs⟩
    obtain ⟨x, hx, hs⟩ := (Option.any_eq_true _ _).1 hs
    exact ha x hx (.atSign (isIdentifierStart_iff.1 hs))
  have hpoint : ¬ (c = '.' ∧ rest.head?.any Char.isDigit) := by
    rintro ⟨rfl, hd⟩
    obtain ⟨x, hx, hd⟩ := (Option.any_eq_true _ _).1 hd
    exact ha x hx (.point hd)
  obtain ⟨hspace, hstart, hdigit, hmark, hquote⟩ := mark_class hm
  obtain ⟨w, hn, hw⟩ := h.workspace.next
  obtain ⟨w', hr, hw'⟩ := readOperator_mark hm hw fun d hd k ho => ha d hd (.pair ho)
  refine emits_of_finish h hw' ?_
  rw [grammar, run_readStart hn hw hspace hstart hdigit hquote]
  rw [if_neg hat, if_neg hpoint, if_pos hmark, run_bind_ok hr]

/-! ## Gaps -/

theorem blanks_run {gap : List Char} (h : s.At (some .blanks) l p (gap ++ rest)) (hp : p ≠ [])
    (hgap : IsGap gap) (hrest : ∀ x ∈ rest.head?, isSpace x = false) :
    ∃ s' : Machine, s.nextToken grammar = s'.nextToken grammar ∧
      s'.At (some .start) (l.advance (p ++ gap)) [] rest := by
  obtain ⟨w, ht, hw⟩ := h.workspace.takeWhile (isGap_iff.1 hgap) hrest
  obtain ⟨w', hi, hw'⟩ := hw.ignore
  have hr : readBlanks.run s.workspace = .ok (some .start, w') := by
    rw [readBlanks, run_bind_ok ht, run_bind_ok hi, run_pure]
  have hlt := byteLength_pos hp
  refine h.moves hr hw' ?_
  rw [Location.advance_offset, byteLength_append, byteLength_nil]
  omega

/-- A gap is passed before the next token is looked at. -/
theorem start_gap {gap : List Char} (h : s.At (some .start) l [] (gap ++ rest)) (hgap : IsGap gap)
    (hrest : ∀ x ∈ rest.head?, isSpace x = false) :
    ∃ s' : Machine, s.nextToken grammar = s'.nextToken grammar ∧
      s'.At (some .start) (l.advance gap) [] rest := by
  cases gap with
  | nil => exact ⟨s, rfl, h⟩
  | cons c gap =>
    obtain ⟨hc, hgap⟩ := List.forall_mem_cons.1 hgap
    obtain ⟨s₁, h₁, hs₁⟩ := start_blank h (isSpace_iff.2 hc)
    obtain ⟨s₂, h₂, hs₂⟩ := blanks_run hs₁ (List.cons_ne_nil _ _) hgap hrest
    exact ⟨s₂, h₁.trans h₂, hs₂⟩

/-! ## Identifiers -/

theorem identifier_dot {run : List Char} (h : s.At (some .identifier) l p (run ++ '.' :: rest))
    (hrun : ∀ x ∈ run, isIdentifierPart x) :
    ∃ s' : Machine, s.nextToken grammar = s'.nextToken grammar ∧
      s'.At (some .segment) l (p ++ (run ++ ['.'])) rest := by
  obtain ⟨w, ht, hw⟩ := h.workspace.takeWhile hrun (by simp; decide)
  obtain ⟨w', ha, hw'⟩ := hw.accept
  rw [List.append_assoc] at hw'
  have hr : readIdentifier.run s.workspace = .ok (some .segment, w') := by
    rw [readIdentifier, run_bind_ok ht, run_bind_ok ha]
    rfl
  exact h.reads (by simp) hr hw'

theorem identifier_end {run : List Char} (h : s.At (some .identifier) l p (run ++ rest))
    (hrun : ∀ x ∈ run, isIdentifierPart x)
    (hrest : ∀ x ∈ rest.head?, isIdentifierPart x = false ∧ x ≠ '.') :
    ∃ s', s.nextToken grammar = .ok (some ⟨.identifier, String.ofList (p ++ run), l⟩, s') ∧
      s'.At (some .start) (l.advance (p ++ run)) [] rest := by
  obtain ⟨w, ht, hw⟩ := h.workspace.takeWhile hrun fun x hx => (hrest x hx).1
  obtain ⟨w', ha, hw'⟩ := hw.accept_refused fun hx => (hrest '.' hx).2 rfl
  refine emits_of_finish h hw' ?_
  rw [grammar, readIdentifier, run_bind_ok ht,
    run_bind_ok ha]
  rfl

theorem segment_start (h : s.At (some .segment) l p (c :: rest)) (hc : isIdentifierStart c) :
    ∃ s' : Machine, s.nextToken grammar = s'.nextToken grammar ∧
      s'.At (some .identifier) l (p ++ [c]) rest := by
  refine reads_next h ?_
  intro w w' hn _
  rw [grammar, readSegment, run_bind_ok hn]
  simp [hc]

theorem segment_malformed (h : s.At (some .segment) l p rest)
    (hrest : ∀ x ∈ rest.head?, ¬ StartsSegment x) :
    ∃ s', s.nextToken grammar =
        .ok (some (Failure.toToken ⟨.malformedIdentifier rest.head?, l⟩), s') ∧
      s'.Over (some ⟨.malformedIdentifier rest.head?, l⟩) := by
  match rest, hrest with
  | [], _ =>
    obtain ⟨w, hn, hw⟩ := h.workspace.next_end
    have hr : readSegment.run s.workspace = .ok (none, w.fail (.malformedIdentifier none)) := by
      rw [readSegment, run_bind_ok hn]
      rfl
    exact h.fails hr hw
  | x :: rest, hrest =>
    obtain ⟨w, hn, hw⟩ := h.workspace.next
    have hx := mt isIdentifierStart_iff.1 (hrest x rfl)
    have hr : readSegment.run s.workspace =
        .ok (none, w.fail (.malformedIdentifier (some x))) := by
      rw [readSegment, run_bind_ok hn]
      simp [hx]
    exact h.fails hr hw

theorem atSign_name (h : s.At (some .atSign) l p (c :: rest)) :
    ∃ s' : Machine, s.nextToken grammar = s'.nextToken grammar ∧
      s'.At (some .identifier) l (p ++ [c]) rest := by
  refine reads_next h ?_
  intro w w' hn _
  rw [grammar, readAtSign, run_bind_ok hn, run_pure]

/-! ## Numbers -/

section Digits

variable {q : Mode} {kind : TokenKind} {atPoint : Task} {run : List Char}
  {w : Workspace TokenKind LexError.Cause}

theorem readDigits_point (hw : w.At l p (run ++ '.' :: rest)) (hrun : IsDigits run) :
    ∃ w', (readDigits kind atPoint).run w = atPoint.run w' ∧
      w'.At l (p ++ (run ++ ['.'])) rest := by
  obtain ⟨w₁, ht, hw₁⟩ := hw.takeWhile hrun (by simp)
  obtain ⟨w₂, hn, hw₂⟩ := hw₁.next
  rw [List.append_assoc] at hw₂
  refine ⟨w₂, ?_, hw₂⟩
  rw [readDigits, run_bind_ok ht, run_bind_ok hn]
  rfl

/-- Behind the digits of a number one char is read that is neither a digit nor a point. -/
theorem readDigits_end (hw : w.At l p (run ++ rest)) (hrun : IsDigits run)
    (hrest : ∀ x ∈ rest.head?, x.isDigit = false ∧ x ≠ '.') :
    ∃ w₁ w₂, (readDigits kind atPoint).run w = (endNumber kind rest.head?).run w₂ ∧
      w₁.At l (p ++ run) rest ∧ next.run w₁ = .ok (rest.head?, w₂) := by
  obtain ⟨w₁, ht, hw₁⟩ := hw.takeWhile hrun fun x hx => (hrest x hx).1
  obtain ⟨w₂, hn, -⟩ := hw₁.next_head
  refine ⟨w₁, w₂, ?_, hw₁, hn⟩
  rw [readDigits, run_bind_ok ht, run_bind_ok hn]
  match rest, hrest with
  | [], _ => rfl
  | x :: rest, hrest =>
    have hx := (hrest x rfl).2
    simp [hx]

theorem integer_point (h : s.At (some .integer) l p (run ++ '.' :: rest)) (hrun : IsDigits run) :
    ∃ s' : Machine, s.nextToken grammar = s'.nextToken grammar ∧
      s'.At (some .fraction) l (p ++ (run ++ ['.'])) rest := by
  obtain ⟨w, hr, hw⟩ := readDigits_point h.workspace hrun
  exact h.reads (by simp) hr hw

theorem fraction_nested (h : s.At (some .fraction) l p (run ++ '.' :: rest))
    (hrun : IsDigits run) :
    ∃ s', s.nextToken grammar = .ok (some (Failure.toToken ⟨.nestedDecimal, l⟩), s') ∧
      s'.Over (some ⟨.nestedDecimal, l⟩) := by
  obtain ⟨w, hr, hw⟩ := readDigits_point h.workspace hrun
  exact h.fails hr hw

/-- The state that is kept after a token: none after a number that the text ends with. -/
def stateAfter (kind : TokenKind) (rest : List Char) : Option Mode :=
  if (kind = .integer ∨ kind = .decimal) ∧ rest = [] then none else some .start

/-- A number ends at the end of the text or before a char that may end it, which is read and given
    back. -/
theorem number_end (h : s.At (some q) l p (run ++ rest)) (hq : grammar q = readDigits kind atPoint)
    (hk : kind = .integer ∨ kind = .decimal) (hrun : IsDigits run)
    (hrest : ∀ x ∈ rest.head?, (x.isDigit = false ∧ x ≠ '.') ∧ endsNumber x) :
    ∃ s', s.nextToken grammar = .ok (some ⟨kind, String.ofList (p ++ run), l⟩, s') ∧
      s'.At (stateAfter kind rest) (l.advance (p ++ run)) [] rest := by
  obtain ⟨w, w', hr, hw, hn⟩ := readDigits_end h.workspace hrun fun x hx => (hrest x hx).1
  rw [← hq] at hr
  match rest, hrest with
  | [], _ =>
    obtain ⟨w₁, hn₁, hw₁⟩ := hw.next_end
    cases hn.symm.trans hn₁
    obtain ⟨w₂, he, hqueue, hw₂⟩ := hw₁.emit kind
    have hf : (endNumber kind none).run w' = .ok (none, w₂) := by
      rw [endNumber, run_bind_ok he, run_pure]
    rw [stateAfter, if_pos ⟨hk, rfl⟩]
    exact h.emits (hr.trans hf) hqueue hw₂
  | x :: rest, hrest =>
    have hx := (hrest x rfl).2
    obtain ⟨w₁, hb, hw₁⟩ := hw.rewind hn
    rw [stateAfter, if_neg (fun h => List.cons_ne_nil _ _ h.2)]
    refine emits_of_finish h hw₁ ?_
    rw [hr, List.head?_cons, endNumber, if_pos hx, run_bind_ok hb]

theorem number_malformed (h : s.At (some q) l p (run ++ c :: rest))
    (hq : grammar q = readDigits kind atPoint) (hrun : IsDigits run) (hd : c.isDigit = false)
    (hpoint : c ≠ '.') (hc : ¬ (IsBlank c ∨ IsPunctuation c)) :
    ∃ s', s.nextToken grammar = .ok (some (Failure.toToken ⟨.malformedNumber c, l⟩), s') ∧
      s'.Over (some ⟨.malformedNumber c, l⟩) := by
  have hrest : ∀ x ∈ (c :: rest).head?, x.isDigit = false ∧ x ≠ '.' := by simp [hd, hpoint]
  obtain ⟨w, w', hr, hw, hn⟩ := readDigits_end h.workspace hrun hrest
  rw [← hq] at hr
  obtain ⟨w₁, hn₁, hw₁⟩ := hw.next
  cases hn.symm.trans hn₁
  have hf : (endNumber kind (some c)).run w' = .ok (none, w'.fail (.malformedNumber c)) := by
    simp [endNumber, mt endsNumber_iff.1 hc]
  exact h.fails (hr.trans hf) hw₁

end Digits

/-! ## Strings -/

theorem acceptedRun_body {body : List Char} (hb : StringBody body) (n : Nat) :
    Cursor.acceptedRun insideString n false (body ++ rest) =
      Cursor.acceptedRun insideString (n + body.length) false rest := by
  induction hb generalizing n with
  | nil => rfl
  | plain hq hs _ ih =>
    simp only [List.cons_append, Cursor.acceptedRun, insideString, hs, bne_iff_ne.2 hq,
      Bool.false_eq_true, if_false, ih, List.length_cons]
    congr 1
    omega
  | escape _ ih =>
    simp only [List.cons_append, Cursor.acceptedRun, insideString, Bool.false_eq_true, if_false,
      if_true, ih, List.length_cons]
    congr 1
    omega

/-- A text with no closing quote is read as a whole. -/
theorem closes_or_accepted (text : List Char) :
    (∃ body rest, StringBody body ∧ text = body ++ '"' :: rest) ∨
      ∃ escaped, ∀ n,
        Cursor.acceptedRun insideString n false text = (n + text.length, escaped) := by
  match text with
  | [] => exact .inr ⟨false, fun _ => rfl⟩
  | c :: text =>
    by_cases hq : c = '"'
    · exact .inl ⟨[], text, .nil, by rw [hq]; rfl⟩
    by_cases hs : c = '\\'
    · subst hs
      match text with
      | [] => exact .inr ⟨true, fun _ => rfl⟩
      | d :: text =>
        rcases closes_or_accepted text with ⟨body, rest, hb, rfl⟩ | ⟨escaped, h⟩
        · exact .inl ⟨'\\' :: d :: body, rest, .escape hb, rfl⟩
        · refine .inr ⟨escaped, fun n => ?_⟩
          simp only [Cursor.acceptedRun, insideString, Bool.false_eq_true, if_false, if_true, h,
            List.length_cons]
          congr 1
          omega
    · rcases closes_or_accepted text with ⟨body, rest, hb, rfl⟩ | ⟨escaped, h⟩
      · exact .inl ⟨c :: body, rest, .plain hq hs hb, rfl⟩
      · refine .inr ⟨escaped, fun n => ?_⟩
        simp only [Cursor.acceptedRun, insideString, hs, bne_iff_ne.2 hq, Bool.false_eq_true,
          if_false, h, List.length_cons]
        congr 1
        omega
termination_by text.length

theorem string_end {body : List Char} (h : s.At (some .string) l p (body ++ '"' :: rest))
    (hb : StringBody body) :
    ∃ s', s.nextToken grammar = .ok (some ⟨.string, String.ofList (p ++ (body ++ ['"'])), l⟩, s') ∧
      s'.At (some .start) (l.advance (p ++ (body ++ ['"']))) [] rest := by
  have hrun : Cursor.acceptedRun insideString 0 false (body ++ '"' :: rest) =
      (body.length, false) := by
    rw [acceptedRun_body hb, Nat.zero_add]
    rfl
  obtain ⟨w, ht, hw⟩ := h.workspace.takeWhileState hrun
  obtain ⟨w', hn, hw'⟩ := hw.next
  rw [List.append_assoc] at hw'
  refine emits_of_finish h hw' ?_
  rw [grammar, readString, run_bind_ok ht, run_bind_ok hn]

theorem string_unterminated {text : List Char} (h : s.At (some .string) l p text)
    (hb : ∀ body rest, StringBody body → text ≠ body ++ '"' :: rest) :
    ∃ s', s.nextToken grammar = .ok (some (Failure.toToken ⟨.unterminatedString, l⟩), s') ∧
      s'.Over (some ⟨.unterminatedString, l⟩) := by
  obtain ⟨body, rest, hbody, heq⟩ | ⟨escaped, hrun⟩ := closes_or_accepted text
  · exact absurd heq (hb body rest hbody)
  · have hrun : Cursor.acceptedRun insideString 0 false (text ++ []) = (text.length, escaped) := by
      simpa using hrun 0
    rw [← List.append_nil text] at h
    obtain ⟨w, ht, hw⟩ := h.workspace.takeWhileState hrun
    obtain ⟨w', hn, hw'⟩ := hw.next_end
    have hr : readString.run s.workspace = .ok (none, w'.fail .unterminatedString) := by
      rw [readString, run_bind_ok ht, run_bind_ok hn]
      rfl
    exact h.fails hr hw'

end Mode

end ExprLexer
