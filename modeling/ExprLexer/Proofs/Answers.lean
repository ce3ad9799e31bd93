-- SUMMARY: What a lexer answers, pull by pull, and what it says about itself in between.
import ExprLexer.Proofs.Tiling

/-!
# The answers of a lexer

A lexer answers each pull with a token or with none. Between two pulls it can be
asked what ended it early and whether it has a state left to run. All of these
are tied together: tokens come first, then at most one token that reports a
failure, then nothing for ever.

What carries the comparison is where the lexer stands after its answers
(`Lexer.Stands`): between two tokens with a known rest of the text, or at the
end. Main statement: the answers, the failure and the end agree at any time, and
`tokenize` returns what they add up to (`Lexer.answers_disciplined`).
-/

namespace ExprLexer

open Mode

/-! ## One pull -/

/-- Between two tokens a pull finds a lexeme, or it ends the scan and reports what is malformed, if
    anything is. -/
theorem Mode.Ready.nextToken_cases {s : Machine} {l : Location} {text : List Char}
    (h : Ready s l text) :
    (∃ (token : Token TokenKind) (s' : Machine) (l' : Location) (rest : List Char),
      s.nextToken grammar = .ok (some token, s') ∧ token.kind ≠ .error ∧
        s'.At (stateAfter token.kind rest) l' [] rest ∧ token.endOffset = l'.offset ∧
        l'.offset + byteLength rest = l.offset + byteLength text) ∨
    ∃ (failure : Option LexError) (s' : Machine),
      s.nextToken grammar = .ok (failure.map Failure.toToken, s') ∧ s'.Over failure := by
  cases Ahead.of_text text with
  | nothing hgap =>
    right
    obtain ⟨s', hn, hs'⟩ := h.over hgap
    exact ⟨none, s', hn, hs'⟩
  | malformed hgap hm =>
    right
    obtain ⟨s', hn, hs'⟩ := h.malformed hgap hm
    exact ⟨some _, s', hn, hs'⟩
  | lexeme hgap hv ha =>
    left
    obtain ⟨s', hn, hs'⟩ := h.lexeme hgap hv ha
    refine ⟨_, s', _, _, hn, hv.kind_ne_error, hs', ?_, ?_⟩
    · simp only [Token.endOffset, String.toList_ofList, Location.advance_offset, byteLength_append]
      omega
    · simp only [Location.advance_offset, byteLength_append]
      omega

namespace Lexer

/-! ## Kinds of answers -/

/-- Nothing comes after the answer: it is none, or the token that reports a failure. -/
def IsLast (answer : Option (Token TokenKind)) : Prop := ∀ token ∈ answer, token.kind = .error

/-- The answer is the token that reports a failure. -/
def reportsFailure (answer : Option (Token TokenKind)) : Bool := answer.any (·.kind == .error)

/-- No state is left after the answer: nothing comes after it, or it is a number that ends the
    text. -/
def IsStop (text : String) (answer : Option (Token TokenKind)) : Prop :=
  ∀ token ∈ answer, token.kind = .error ∨
    (token.kind = .integer ∨ token.kind = .decimal) ∧ token.endOffset = byteLength text.toList

theorem isLast_none : IsLast none := by
  intro token h
  cases h

theorem isLast_of_reportsFailure {answer : Option (Token TokenKind)} (h : reportsFailure answer) :
    IsLast answer := by
  intro token ht
  simpa [reportsFailure, Option.mem_def.1 ht] using h

theorem IsLast.isStop {text : String} {answer : Option (Token TokenKind)} (h : IsLast answer) :
    IsStop text answer := fun token ht => .inl (h token ht)

theorem nextToken_eq_ok_iff {l l' : Lexer} {answer : Option (Token TokenKind)} :
    l.nextToken = .ok (answer, l') ↔ l.scanner.nextToken grammar = .ok (answer, l'.scanner) := by
  obtain ⟨s'⟩ := l'
  rw [Lexer.nextToken]
  cases l.scanner.nextToken grammar with
  | error fault => simp
  | ok r => simp [Prod.ext_iff]

/-! ## Answers in a row -/

/-- A lexer of the text has given the answers, pull by pull, and now it is `l`. What is asked in
    between changes nothing. -/
inductive Pulled (text : String) : List (Option (Token TokenKind)) → Lexer → Prop where
  | fresh : Pulled text [] (ofString text)
  | pull {answers : List (Option (Token TokenKind))} {l l' : Lexer}
      {answer : Option (Token TokenKind)} :
      Pulled text answers l → l.nextToken = .ok (answer, l') → Pulled text (answers ++ [answer]) l'

/-- The state that is left after the latest answer, where `rest` is left of the text. -/
def stateBehind (answers : List (Option (Token TokenKind))) (rest : List Char) : Option Mode :=
  match answers.getLast? with
  | some (some token) => stateAfter token.kind rest
  | _ => some .start

/-- Where a lexer stands after its answers. -/
inductive Stands (text : String) (answers : List (Option (Token TokenKind))) (s : Machine) :
    Prop where
  /-- All answers are tokens, and the latest of them ends where the rest of the text starts. -/
  | between (l : Location) (rest : List Char) :
      (∀ answer ∈ answers, ¬ IsLast answer) → s.At (stateBehind answers rest) l [] rest →
      (∀ token : Token TokenKind, answers.getLast? = some (some token) →
        token.endOffset = l.offset) →
      l.offset + byteLength rest = byteLength text.toList → Stands text answers s
  /-- The latest answer was the last one, or one behind it. -/
  | ended (failure : Option LexError) :
      s.Over failure → (∃ answer ∈ answers.getLast?, IsLast answer) →
      (∀ token : Token TokenKind, some token ∈ answers ∧ token.kind = .error ↔
        ∃ e ∈ failure, token = Failure.toToken e) → Stands text answers s

variable {text : String} {answers : List (Option (Token TokenKind))} {l l' : Lexer}
  {answer : Option (Token TokenKind)} {s : Machine} {rest : List Char} {start : Location}

theorem ready_of_stateBehind (h : s.At (stateBehind answers rest) start [] rest) :
    Ready s start rest := by
  unfold stateBehind at h
  split at h
  · exact ready_of_stateAfter h
  · exact .inl h

theorem isLast_some_iff {token : Token TokenKind} : IsLast (some token) ↔ token.kind = .error := by
  simp [IsLast]

/-- Wherever a lexer stands it can be pulled, and behind a last answer there is none any more. -/
theorem Stands.nextToken (h : Stands text answers s) :
    ∃ answer s', s.nextToken grammar = .ok (answer, s') ∧ Stands text (answers ++ [answer]) s' ∧
      ∀ earlier ∈ answers, IsLast earlier → answer = none := by
  cases h with
  | between start rest hanswers hs _ hlength =>
    have hno : ∀ earlier ∈ answers, ¬ IsLast earlier := hanswers
    rcases (ready_of_stateBehind hs).nextToken_cases with
      ⟨token, s', start', rest', hn, hkind, hs', hend, hlength'⟩ | ⟨failure, s', hn, hs'⟩
    · refine ⟨_, s', hn, .between start' rest' ?_ ?_ ?_ (hlength'.trans hlength), ?_⟩
      · intro answer ha
        rcases List.mem_append.1 ha with ha | ha
        · exact hanswers answer ha
        · rw [List.mem_singleton.1 ha, isLast_some_iff]
          exact hkind
      · simpa [stateBehind] using hs'
      · simpa using hend
      · intro earlier he hlast
        exact absurd hlast (hno earlier he)
    · refine ⟨_, s', hn, .ended failure hs' ?_ ?_, ?_⟩
      · refine ⟨_, List.getLast?_concat .., ?_⟩
        intro token ht
        obtain ⟨e, -, rfl⟩ := Option.map_eq_some_iff.1 ht
        rfl
      · intro token
        rw [List.mem_append, List.mem_singleton, eq_comm (a := some token),
          Option.map_eq_some_iff]
        constructor
        · rintro ⟨ht | ⟨e, he, rfl⟩, hkind⟩
          · exact absurd (isLast_some_iff.2 hkind) (hno _ ht)
          · exact ⟨e, he, rfl⟩
        · rintro ⟨e, he, rfl⟩
          exact ⟨.inr ⟨e, he, rfl⟩, rfl⟩
      · intro earlier he hlast
        exact absurd hlast (hno earlier he)
  | ended failure hs _ hfailure =>
    refine ⟨none, s, hs.nextToken, .ended failure hs ?_ ?_, fun _ _ _ => rfl⟩
    · exact ⟨none, List.getLast?_concat .., isLast_none⟩
    · intro token
      rw [List.mem_append, List.mem_singleton, ← hfailure token]
      simp

theorem stands_ofString (text : String) : Stands text [] (ofString text).scanner := by
  refine .between (origin text.toList) (body text.toList) ?_ ?_ ?_ (byteLength_body _)
  · exact List.forall_mem_nil _
  · rcases ready_ofList text.toList with h | ⟨-, h⟩
    · exact h
    · cases h.state
  · intro token ht
    cases ht

theorem Stands.pulls (h : Stands text answers l.scanner) :
    ∃ answer l', l.nextToken = .ok (answer, l') ∧ Stands text (answers ++ [answer]) l'.scanner ∧
      ∀ earlier ∈ answers, IsLast earlier → answer = none := by
  obtain ⟨answer, s', hn, hs', hlast⟩ := h.nextToken
  exact ⟨answer, ⟨s'⟩, nextToken_eq_ok_iff.2 hn, hs', hlast⟩

theorem Pulled.stands (h : Pulled text answers l) : Stands text answers l.scanner := by
  induction h with
  | fresh => exact stands_ofString text
  | pull _ hn ih =>
    obtain ⟨answer, l', hn', hs', -⟩ := ih.pulls
    cases hn.symm.trans hn'
    exact hs'

/-- Behind a last answer all answers are none. -/
theorem Pulled.pairwise (h : Pulled text answers l) :
    answers.Pairwise fun earlier later => IsLast earlier → later = none := by
  induction h with
  | fresh => exact .nil
  | pull hp hn ih =>
    obtain ⟨answer, l', hn', -, hlast⟩ := hp.stands.pulls
    cases hn.symm.trans hn'
    refine List.pairwise_append.2 ⟨ih, List.pairwise_singleton _ _, ?_⟩
    intro earlier he later hl
    rw [List.mem_singleton.1 hl]
    exact hlast earlier he

theorem Pulled.once (h : Pulled text answers l) : (answers.filter reportsFailure).length ≤ 1 := by
  have hpairwise := h.pairwise.filter reportsFailure
  have hreports : ∀ answer ∈ answers.filter reportsFailure, reportsFailure answer :=
    fun answer ha => (List.mem_filter.1 ha).2
  generalize answers.filter reportsFailure = reports at hpairwise hreports ⊢
  match reports with
  | [] => exact Nat.zero_le 1
  | [_] => exact Nat.le_refl 1
  | earlier :: later :: rest =>
    -- The later one of two reports would have to be none.
    have hlast := isLast_of_reportsFailure (hreports earlier List.mem_cons_self)
    have hnone : later = none := List.rel_of_pairwise_cons hpairwise List.mem_cons_self hlast
    have hlater := hreports later (List.mem_cons_of_mem _ List.mem_cons_self)
    rw [hnone] at hlater
    cases hlater

/-! ## What a lexer says about itself -/

theorem Stands.queue (h : Stands text answers s) : s.workspace.queue = [] := by
  cases h with
  | between _ _ _ hs _ _ => exact hs.workspace.queue
  | ended _ hs _ _ => exact hs.queue

theorem Stands.failure_iff (h : Stands text answers s) (token : Token TokenKind) :
    some token ∈ answers ∧ token.kind = .error ↔
      ∃ e : LexError, s.failure = some e ∧ token = Failure.toToken e := by
  cases h with
  | between _ _ hanswers hs _ _ =>
    have hfailure : s.failure = none := hs.workspace.failure
    simp only [hfailure, reduceCtorEq, false_and, exists_false, iff_false]
    rintro ⟨ht, hkind⟩
    exact hanswers _ ht (isLast_some_iff.2 hkind)
  | ended failure hs _ hfailure =>
    rw [hs.failure]
    exact hfailure token

/-- Between two tokens no state is left exactly behind a number that ends the text. -/
theorem stateBehind_eq_none_iff (hanswers : ∀ answer ∈ answers, ¬ IsLast answer)
    (hend : ∀ token : Token TokenKind, answers.getLast? = some (some token) →
      token.endOffset = start.offset)
    (hlength : start.offset + byteLength rest = byteLength text.toList) :
    stateBehind answers rest = none ↔ ∃ answer ∈ answers.getLast?, IsStop text answer := by
  unfold stateBehind
  split
  · rename_i token hlast
    have hkind : token.kind ≠ .error := fun hk =>
      hanswers _ (List.mem_of_getLast? hlast) (isLast_some_iff.2 hk)
    have hrest : rest = [] ↔ token.endOffset = byteLength text.toList := by
      rw [hend token hlast, ← hlength, ← byteLength_eq_zero_iff]
      omega
    simp [stateAfter, IsStop, hlast, hkind, hrest]
  · rename_i hnone
    simp only [reduceCtorEq, false_iff]
    rintro ⟨answer, hlast, -⟩
    cases answer with
    | none => exact hanswers none (List.mem_of_getLast? hlast) isLast_none
    | some token => exact hnone token hlast

theorem Stands.isTerminated_iff (h : Stands text answers s) :
    s.isTerminated = true ↔ ∃ answer ∈ answers.getLast?, IsStop text answer := by
  cases h with
  | between start rest hanswers hs hend hlength =>
    rw [Scanner.isTerminated, hs.state, Option.isNone_iff_eq_none]
    exact stateBehind_eq_none_iff hanswers hend hlength
  | ended failure hs hlast _ =>
    obtain ⟨answer, ha, hlast⟩ := hlast
    simp only [Scanner.isTerminated, hs.state, Option.isNone_none, true_iff]
    exact ⟨answer, ha, hlast.isStop⟩

/-- Once no state is left, a pull returns none and changes nothing. -/
theorem Stands.nextToken_of_isTerminated (h : Stands text answers l.scanner)
    (ht : l.isTerminated = true) : l.nextToken = .ok (none, l) := by
  have hstate : l.scanner.state = none := Option.isNone_iff_eq_none.1 ht
  have hover : l.scanner.Over l.scanner.failure := ⟨hstate, h.queue, rfl⟩
  exact nextToken_eq_ok_iff.2 hover.nextToken

/-! ## All answers of a text -/

/-- The answers that a lexer of the text has given, and what it says about itself after them. -/
structure Disciplined (text : String) (answers : List (Option (Token TokenKind))) (l : Lexer) :
    Prop where
  /-- It can be pulled again. -/
  returns : ∃ answer l', l.nextToken = .ok (answer, l')
  /-- At most one token reports a failure. -/
  once : (answers.filter reportsFailure).length ≤ 1
  /-- Behind it, and behind the first none, there is nothing. -/
  last : answers.Pairwise fun earlier later => IsLast earlier → later = none
  /-- No token is kept back. -/
  queue : l.scanner.workspace.queue = []
  /-- It has failed exactly if it has returned the token that says so: the failure in words, at its
      location. -/
  error (token : Token TokenKind) : some token ∈ answers ∧ token.kind = .error ↔
    ∃ e : LexError, l.error = some e ∧ token = ⟨.error, e.cause.message, e.location⟩
  /-- It has no state left exactly behind none, a failure, or a number that ends the text. -/
  terminated : l.isTerminated = true ↔ ∃ answer ∈ answers.getLast?, IsStop text answer
  /-- With no state left it returns none and stays as it is. -/
  ends : l.isTerminated = true → l.nextToken = .ok (none, l)

theorem Pulled.disciplined (h : Pulled text answers l) : Disciplined text answers l where
  returns := by
    obtain ⟨answer, l', hn, -⟩ := h.stands.pulls
    exact ⟨answer, l', hn⟩
  once := h.once
  last := h.pairwise
  queue := h.stands.queue
  error := h.stands.failure_iff
  terminated := h.stands.isTerminated_iff
  ends := h.stands.nextToken_of_isTerminated

/-- Whenever a lexer of a text is looked at between two pulls, its answers so far, its failure and
    its end agree. If its stream has a token that reports a failure, `tokenize` returns that
    failure, and otherwise the whole stream. -/
theorem answers_disciplined (text : String) :
    (∀ answers l, Pulled text answers l → Disciplined text answers l) ∧
    ∃ ts l, (ofString text).Yields ts l ∧
      ((∃ token ∈ ts, token.kind = .error) →
        ∃ e, l.error = some e ∧ tokenize text = .ok (.error e)) ∧
      ((∀ token ∈ ts, token.kind ≠ .error) → tokenize text = .ok (.ok ts)) := by
  refine ⟨fun answers l h => h.disciplined, ?_⟩
  obtain ⟨y, rest, cause, h⟩ := exists_reads (body text.toList)
  obtain ⟨l, hl, herror⟩ := yields_ofList h
  refine ⟨_, l, hl, ?_⟩
  rw [tokenize_reads h, herror]
  cases cause with
  | none =>
    rw [Layout.stream_none]
    refine ⟨?_, fun _ => rfl⟩
    rintro ⟨token, ht, hkind⟩
    exact absurd hkind (Layout.kind_ne_error ht)
  | some cause =>
    refine ⟨fun _ => ⟨_, rfl, rfl⟩, ?_⟩
    intro hkind
    exact absurd rfl (hkind _ (List.mem_append_right _ (List.mem_singleton_self _)))

end Lexer

end ExprLexer
