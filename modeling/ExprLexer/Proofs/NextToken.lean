-- SUMMARY: What a pull finds at the front of a text: a lexeme, something malformed, or the end.
import ExprLexer.Proofs.Mode

/-!
# What a pull finds

A scanner at the start of a token reads a lexeme as a whole if the next char does
not glue to it (`nextToken_lexeme`), and fails at a malformed text for the cause
of its shape (`nextToken_malformed`). The states on the way are those of `Mode`;
here they are put in a row, and only a path takes an unbounded number of them.
-/

namespace ExprLexer.Mode

open Script Scanner

variable {s : Machine} {l : Location} {p v rest : List Char} {c : Char}

/-! ## Names -/

/-- A path is read segment by segment. What is left in the end is a run of the last segment. -/
theorem path_last {path : List Char} (hp : IsPath path) {tail : List Char} (heq : path = c :: tail)
    (h : s.At (some .identifier) l (p ++ [c]) (tail ++ rest)) :
    ∃ (s' : Machine) (p' run : List Char), s.nextToken grammar = s'.nextToken grammar ∧
      s'.At (some .identifier) l p' (run ++ rest) ∧ p' ++ run = p ++ path ∧
      ∀ x ∈ run, isIdentifierPart x := by
  induction hp generalizing s p c tail with
  | segment hs =>
    subst heq
    exact ⟨s, p ++ [c], tail, rfl, h, by simp, (isSegment_cons_iff.1 hs).2⟩
  | @join seg path hs hp ih =>
    obtain ⟨d, run, rfl, -, hrun⟩ := hs.head
    obtain ⟨e, tail', rfl, he⟩ := hp.head
    rw [List.cons_append] at heq
    cases heq
    rw [List.append_assoc] at h
    obtain ⟨s₁, h₁, hs₁⟩ := identifier_dot h hrun
    obtain ⟨s₂, h₂, hs₂⟩ := segment_start hs₁ he
    obtain ⟨s₃, p', run', h₃, hs₃, heq, hrun'⟩ := ih rfl hs₂
    exact ⟨s₃, p', run', h₁.trans (h₂.trans h₃), hs₃, by simpa using heq, hrun'⟩

theorem name_last (h : s.At (some .start) l [] (v ++ rest)) (hv : IsName v) :
    ∃ (s' : Machine) (p' run : List Char), s.nextToken grammar = s'.nextToken grammar ∧
      s'.At (some .identifier) l p' (run ++ rest) ∧ p' ++ run = v ∧
      ∀ x ∈ run, isIdentifierPart x := by
  cases hv with
  | path hp =>
    obtain ⟨c, tail, rfl, hc⟩ := hp.head
    obtain ⟨s₁, h₁, hs₁⟩ := start_identifier h hc
    obtain ⟨s₂, p', run, h₂, hs₂, heq, hrun⟩ := path_last hp rfl hs₁
    exact ⟨s₂, p', run, h₁.trans h₂, hs₂, heq, hrun⟩
  | marked hp =>
    obtain ⟨c, tail, rfl, hc⟩ := hp.head
    obtain ⟨s₁, h₁, hs₁⟩ := start_atSign h hc
    obtain ⟨s₂, h₂, hs₂⟩ := atSign_name hs₁
    obtain ⟨s₃, p', run, h₃, hs₃, heq, hrun⟩ := path_last hp rfl hs₂
    exact ⟨s₃, p', run, h₁.trans (h₂.trans h₃), hs₃, heq, hrun⟩

/-! ## Numbers -/

theorem integer_first (h : s.At (some .start) l [] (v ++ rest)) (hv : IsInteger v) :
    ∃ (s' : Machine) (p' run : List Char), s.nextToken grammar = s'.nextToken grammar ∧
      s'.At (some .integer) l p' (run ++ rest) ∧ p' ++ run = v ∧ IsDigits run := by
  obtain ⟨c, run, rfl, hc⟩ := hv.head
  obtain ⟨s₁, h₁, hs₁⟩ := start_digit h hc
  exact ⟨s₁, _, run, h₁, hs₁, rfl, fun x hx => hv.2 x (List.mem_cons_of_mem c hx)⟩

theorem decimal_first (h : s.At (some .start) l [] (v ++ rest)) (hv : IsDecimal v) :
    ∃ (s' : Machine) (p' run : List Char), s.nextToken grammar = s'.nextToken grammar ∧
      s'.At (some .fraction) l p' (run ++ rest) ∧ p' ++ run = v ∧ IsDigits run := by
  cases hv with
  | @point whole fraction hw hf =>
    rw [List.append_assoc] at h
    obtain ⟨s₁, p', run, h₁, hs₁, rfl, hrun⟩ := integer_first h hw
    obtain ⟨s₂, h₂, hs₂⟩ := integer_point hs₁ hrun
    exact ⟨s₂, _, fraction, h₁.trans h₂, hs₂, by simp, hf⟩
  | bare hf =>
    obtain ⟨c, run, rfl, hc⟩ := hf.head
    obtain ⟨s₁, h₁, hs₁⟩ := start_point h hc
    exact ⟨s₁, _, c :: run, h₁, hs₁, rfl, hf.2⟩

/-! ## Lexemes -/

theorem stateAfter_of_not_mem {kind : TokenKind}
    (h : kind ∉ [TokenKind.error, .string, .identifier, .integer, .decimal]) :
    stateAfter kind rest = some .start := by
  simp only [List.mem_cons, not_or] at h
  simp [stateAfter, h]

theorem number_apart (hv : IsInteger v ∨ IsDecimal v) (ha : Apart v rest) :
    ∀ x ∈ rest.head?, (x.isDigit = false ∧ x ≠ '.') ∧ endsNumber x := by
  intro x hx
  have hg := mt (glues_number_iff hv).2 (ha x hx)
  simp only [not_or, Bool.not_eq_false] at hg
  have hd : x.isDigit = false := by
    cases hd : x.isDigit with
    | false => rfl
    | true => simp [endsNumber_of_isDigit hd] at hg
  exact ⟨⟨hd, hg.1⟩, hg.2⟩

/-- A lexeme that the next char does not glue to is the next token. -/
theorem nextToken_lexeme {kind : TokenKind} (h : s.At (some .start) l [] (v ++ rest))
    (hv : Lexeme kind v) (ha : Apart v rest) :
    ∃ s', s.nextToken grammar = .ok (some ⟨kind, String.ofList v, l⟩, s') ∧
      s'.At (stateAfter kind rest) (l.advance v) [] rest := by
  cases hv with
  | name hv =>
    obtain ⟨s₁, p', run, h₁, hs₁, rfl, hrun⟩ := name_last h hv
    have hrest : ∀ x ∈ rest.head?, isIdentifierPart x = false ∧ x ≠ '.' := by
      intro x hx
      have hg := mt (glues_name_iff hv).2 (ha x hx)
      simpa using hg
    obtain ⟨s₂, h₂, hs₂⟩ := identifier_end hs₁ hrun hrest
    exact ⟨s₂, h₁.trans h₂, hs₂⟩
  | integer hv =>
    have hrest := number_apart (.inl hv) ha
    obtain ⟨s₁, p', run, h₁, hs₁, rfl, hrun⟩ := integer_first h hv
    obtain ⟨s₂, h₂, hs₂⟩ := number_end hs₁ rfl (.inl rfl) hrun hrest
    exact ⟨s₂, h₁.trans h₂, hs₂⟩
  | decimal hv =>
    have hrest := number_apart (.inr hv) ha
    obtain ⟨s₁, p', run, h₁, hs₁, rfl, hrun⟩ := decimal_first h hv
    obtain ⟨s₂, h₂, hs₂⟩ := number_end hs₁ rfl (.inr rfl) hrun hrest
    exact ⟨s₂, h₁.trans h₂, hs₂⟩
  | string hb =>
    rw [List.cons_append, List.append_assoc] at h
    obtain ⟨s₁, h₁, hs₁⟩ := start_quote h
    obtain ⟨s₂, h₂, hs₂⟩ := string_end hs₁ hb
    exact ⟨s₂, h₁.trans h₂, hs₂⟩
  | pair ho =>
    rw [stateAfter_of_not_mem (operator_kind ho)]
    exact start_pair h ho
  | mark hm =>
    rw [stateAfter_of_not_mem (mark_kind hm)]
    exact start_mark h hm ha

/-! ## Malformed texts -/

/-- A malformed text ends the scan for the cause of its shape. -/
theorem nextToken_malformed {cause : LexError.Cause} {text : List Char}
    (h : s.At (some .start) l [] text) (hm : Malformed cause text) :
    ∃ s', s.nextToken grammar = .ok (some (Failure.toToken ⟨cause, l⟩), s') ∧
      s'.Over (some ⟨cause, l⟩) := by
  cases hm with
  | string hb =>
    obtain ⟨s₁, h₁, hs₁⟩ := start_quote h
    obtain ⟨s₂, h₂, hs₂⟩ := string_unterminated hs₁ hb
    exact ⟨s₂, h₁.trans h₂, hs₂⟩
  | @number v rest c hv hd hc he =>
    rcases hv with hv | hv
    · obtain ⟨s₁, p', run, h₁, hs₁, -, hrun⟩ := integer_first h hv
      obtain ⟨s₂, h₂, hs₂⟩ := number_malformed hs₁ rfl hrun hd hc he
      exact ⟨s₂, h₁.trans h₂, hs₂⟩
    · obtain ⟨s₁, p', run, h₁, hs₁, -, hrun⟩ := decimal_first h hv
      obtain ⟨s₂, h₂, hs₂⟩ := number_malformed hs₁ rfl hrun hd hc he
      exact ⟨s₂, h₁.trans h₂, hs₂⟩
  | point hv =>
    obtain ⟨s₁, p', run, h₁, hs₁, -, hrun⟩ := decimal_first h hv
    obtain ⟨s₂, h₂, hs₂⟩ := fraction_nested hs₁ hrun
    exact ⟨s₂, h₁.trans h₂, hs₂⟩
  | name hv hrest =>
    obtain ⟨s₁, p', run, h₁, hs₁, -, hrun⟩ := name_last h hv
    obtain ⟨s₂, h₂, hs₂⟩ := identifier_dot hs₁ hrun
    obtain ⟨s₃, h₃, hs₃⟩ := segment_malformed hs₂ hrest
    exact ⟨s₃, h₁.trans (h₂.trans h₃), hs₃⟩
  | char hblank hstart hdigit hmark => exact start_unexpected h hblank hstart hdigit hmark

end ExprLexer.Mode
