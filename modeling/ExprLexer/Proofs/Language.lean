-- SUMMARY: Which texts have tokens, which have not, and what is then wrong with them.
import ExprLexer.Proofs.Stream

/-!
# The language of CE expressions

A text is read in one way only: what the lexer does with a text depends on the
text alone, so two lexemes at its front that both end there are the same, and
nothing malformed is there (`Reads.unique`).

Main statements: the texts that have tokens are those with a layout, which is
unique (`tokenize_eq_ok_iff`), and the others are a layout with something
malformed behind it, which is what is reported (`tokenize_eq_error_iff`).
-/

namespace ExprLexer

open Mode

variable {v v' rest rest' text : List Char} {kind kind' : TokenKind}
variable {cause cause' : LexError.Cause}

/-! ## The front of a text -/

/-- A scanner can be put in front of any text. -/
theorem exists_machine (text : List Char) : ∃ s : Machine, s.At (some .start) .start [] text :=
  ⟨.ofCursor (Cursor.ofList text) .start, rfl, rfl, rfl, rfl, rfl, rfl⟩

theorem Lexeme.unique (hv : Lexeme kind v) (ha : Apart v rest) (hv' : Lexeme kind' v')
    (ha' : Apart v' rest') (heq : v ++ rest = v' ++ rest') :
    kind = kind' ∧ v = v' ∧ rest = rest' := by
  obtain ⟨s, hs⟩ := exists_machine (v ++ rest)
  obtain ⟨s₁, h₁, -⟩ := nextToken_lexeme hs hv ha
  obtain ⟨s₂, h₂, -⟩ := nextToken_lexeme (heq ▸ hs) hv' ha'
  have htoken := h₁.symm.trans h₂
  simp only [Except.ok.injEq, Prod.mk.injEq, Option.some.injEq, Token.mk.injEq,
    String.ofList_inj] at htoken
  obtain ⟨⟨hk, rfl, -⟩, -⟩ := htoken
  exact ⟨hk, rfl, List.append_cancel_left heq⟩

theorem Lexeme.not_malformed (hv : Lexeme kind v) (ha : Apart v rest) :
    ¬ Malformed cause (v ++ rest) := by
  intro hm
  obtain ⟨s, hs⟩ := exists_machine (v ++ rest)
  obtain ⟨s₁, h₁, -⟩ := nextToken_lexeme hs hv ha
  obtain ⟨s₂, h₂, -⟩ := nextToken_malformed hs hm
  have htoken := h₁.symm.trans h₂
  simp only [Except.ok.injEq, Prod.mk.injEq, Option.some.injEq, Failure.toToken,
    Token.mk.injEq] at htoken
  exact hv.kind_ne_error htoken.1.1

theorem Malformed.unique (h : Malformed cause text) (h' : Malformed cause' text) :
    cause = cause' := by
  obtain ⟨s, hs⟩ := exists_machine text
  obtain ⟨s₁, h₁, hs₁⟩ := nextToken_malformed hs h
  obtain ⟨s₂, h₂, hs₂⟩ := nextToken_malformed hs h'
  have hpull := h₁.symm.trans h₂
  simp only [Except.ok.injEq, Prod.mk.injEq] at hpull
  obtain ⟨-, rfl⟩ := hpull
  have hfailure := hs₁.failure.symm.trans hs₂.failure
  simpa using hfailure

/-! ## Whole texts -/

theorem IsGap.unique {gap gap' : List Char} (h : IsGap gap) (h' : IsGap gap')
    (hr : ∀ c ∈ rest.head?, isSpace c = false) (hr' : ∀ c ∈ rest'.head?, isSpace c = false)
    (heq : gap ++ rest = gap' ++ rest') : gap = gap' ∧ rest = rest' := by
  have hrun := congrArg (List.takeWhile isSpace) heq
  have hnil : ∀ {text : List Char}, (∀ c ∈ text.head?, isSpace c = false) →
      text.takeWhile isSpace = [] := by
    intro text ht
    cases text with
    | nil => rfl
    | cons c text => simpa using ht c rfl
  rw [List.takeWhile_append_of_pos (isGap_iff.1 h), List.takeWhile_append_of_pos (isGap_iff.1 h'),
    hnil hr, hnil hr', List.append_nil, List.append_nil] at hrun
  subst hrun
  exact ⟨rfl, List.append_cancel_left heq⟩

theorem Ending.unique {rest : List Char} {cause cause' : Option LexError.Cause}
    (h : Ending rest cause) (h' : Ending rest cause') : cause = cause' := by
  cases h with
  | ended =>
    cases h' with
    | ended => rfl
    | malformed hm => exact absurd rfl hm.ne_nil
  | malformed hm =>
    cases h' with
    | ended => exact absurd rfl hm.ne_nil
    | malformed hm' => rw [hm.unique hm']

/-- A reading does not end where a lexeme does. -/
theorem Lexeme.not_ending {cause : Option LexError.Cause} (hv : Lexeme kind v)
    (ha : Apart v rest) : ¬ Ending (v ++ rest) cause := by
  intro hend
  generalize htext : v ++ rest = text at hend
  cases hend with
  | ended =>
    obtain ⟨c, run, rfl, -⟩ := hv.head
    cases htext
  | malformed hm => exact hv.not_malformed ha (htext ▸ hm)

theorem Lexeme.head_append (hv : Lexeme kind v) : ∀ c ∈ (v ++ rest).head?, isSpace c = false := by
  obtain ⟨c, run, rfl, hc⟩ := hv.head
  simpa using hc

/-- No text has two readings. -/
theorem Reads.unique {y y' : Layout} {cause cause' : Option LexError.Cause}
    (h : Reads text y rest cause) (h' : Reads text y' rest' cause') :
    y = y' ∧ rest = rest' ∧ cause = cause' := by
  -- Behind a gap both readings see the same text, and there the front of it decides.
  induction y generalizing text y' with
  | ofGap gap hgap =>
    obtain ⟨heq, -, hend⟩ := h
    cases y' with
    | ofGap gap' hgap' =>
      obtain ⟨rfl, -, hend'⟩ := h'
      obtain ⟨rfl, rfl⟩ := hgap'.unique hgap hend'.head hend.head heq
      exact ⟨rfl, rfl, hend.unique hend'⟩
    | cons q z =>
      obtain ⟨rfl, ha', -⟩ := h'.of_cons
      obtain ⟨-, rfl⟩ := q.isGap.unique hgap q.isLexeme.head_append hend.head heq
      exact absurd hend (q.isLexeme.not_ending ha')
  | cons p y ih =>
    obtain ⟨heq, ha, hreads⟩ := h.of_cons
    cases y' with
    | ofGap gap' hgap' =>
      obtain ⟨rfl, -, hend'⟩ := h'
      obtain ⟨-, rfl⟩ := hgap'.unique p.isGap hend'.head p.isLexeme.head_append heq
      exact absurd hend' (p.isLexeme.not_ending ha)
    | cons q z =>
      obtain ⟨rfl, ha', hreads'⟩ := h'.of_cons
      obtain ⟨hgap, htext⟩ :=
        q.isGap.unique p.isGap q.isLexeme.head_append p.isLexeme.head_append heq
      obtain ⟨hkind, hvalue, hrest⟩ := q.isLexeme.unique ha' p.isLexeme ha htext
      obtain ⟨rfl, hr⟩ := ih hreads (hrest ▸ hreads')
      have hpq : p = q := Piece.ext hgap.symm hkind.symm hvalue.symm
      exact ⟨by rw [hpq], hr⟩

/-! ## What the lexer accepts -/

/-- A text has tokens exactly if it is a layout, and they are those of the layout, which is the only
    one of that text. -/
theorem tokenize_eq_ok_iff (text : String) :
    (∀ tokens, tokenize text = .ok (.ok tokens) ↔
      ∃ y : Layout, body text.toList = y.text ∧ y.Before [] ∧
        tokens = y.tokens (origin text.toList)) ∧
    ∀ y y' : Layout, body text.toList = y.text → y.Before [] →
      body text.toList = y'.text → y'.Before [] → y = y' := by
  have hreads : ∀ y : Layout, body text.toList = y.text → y.Before [] →
      Reads (body text.toList) y [] none := by
    intro y heq hbefore
    exact ⟨heq.trans (List.append_nil _).symm, hbefore, .ended⟩
  constructor
  · intro tokens
    constructor
    · intro h
      obtain ⟨y, hr, htokens⟩ := exists_reads_of_tokens h
      exact ⟨y, hr.text_eq.trans (List.append_nil _), hr.before, htokens⟩
    · rintro ⟨y, heq, hbefore, rfl⟩
      exact tokenize_reads (hreads y heq hbefore)
  · intro y y' heq hy heq' hy'
    exact ((hreads y heq hy).unique (hreads y' heq' hy')).1

/-! ## What the lexer reports -/

/-- A text has no tokens exactly if something malformed stands behind a layout. Its cause is
    reported, and where it starts. -/
theorem tokenize_eq_error_iff (text : String) (e : LexError) :
    tokenize text = .ok (.error e) ↔
      ∃ (y : Layout) (rest : List Char), body text.toList = y.text ++ rest ∧ rest ≠ [] ∧
        y.Before rest ∧ Malformed e.cause rest ∧
        e.location = (origin text.toList).advance y.text := by
  constructor
  · intro h
    obtain ⟨y, rest, ⟨heq, hbefore, hend⟩, hl⟩ := exists_reads_of_failure h
    cases hend with
    | malformed hm => exact ⟨y, rest, heq, hm.ne_nil, hbefore, hm, hl⟩
  · rintro ⟨y, rest, heq, -, hbefore, hm, hl⟩
    rw [tokenize_reads ⟨heq, hbefore, .malformed hm⟩]
    simp only [Layout.failure, Option.map_some, ← hl]

end ExprLexer
