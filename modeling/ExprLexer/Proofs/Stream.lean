-- SUMMARY: The stream of tokens of a text, given how the text can be read.
import ExprLexer.Lexer
import ExprLexer.Proofs.Layout
import ExprLexer.Proofs.NextToken

/-!
# Streams

A lexer at the start of a text hands out the tokens of its layout one by one.
Then it reports what is malformed, if anything is, and ends
(`Lexer.yields_ofList`). Since any text can be read as a layout, this says all
that a lexer does, and with it what `tokenize` returns (`tokenize_reads`).
-/

namespace ExprLexer

/-! ## Taking tokens one by one -/

namespace Scanner

variable {κ ε σ : Type} [Vocabulary κ ε] {grammar : Grammar κ ε σ} {s s' s'' : Scanner κ ε σ}

/-- Pull by pull the scanner hands out the tokens, and then none: it is `s'`. -/
inductive Yields (grammar : Grammar κ ε σ) :
    Scanner κ ε σ → List (Token κ) → Scanner κ ε σ → Prop where
  | ended {s s' : Scanner κ ε σ} : s.nextToken grammar = .ok (none, s') → Yields grammar s [] s'
  | token {s s₁ s' : Scanner κ ε σ} {token : Token κ} {tokens : List (Token κ)} :
      s.nextToken grammar = .ok (some token, s₁) → Yields grammar s₁ tokens s' →
      Yields grammar s (token :: tokens) s'

theorem Yields.unique {tokens tokens' : List (Token κ)} (h : Yields grammar s tokens s')
    (h' : Yields grammar s tokens' s'') : tokens = tokens' ∧ s' = s'' := by
  induction h generalizing tokens' with
  | ended hn =>
    cases h' with
    | ended hn' =>
      cases hn.symm.trans hn'
      exact ⟨rfl, rfl⟩
    | token hn' _ => cases hn.symm.trans hn'
  | token hn _ ih =>
    cases h' with
    | ended hn' => cases hn.symm.trans hn'
    | token hn' h' =>
      cases hn.symm.trans hn'
      obtain ⟨rfl, rfl⟩ := ih h'
      exact ⟨rfl, rfl⟩

/-- Pull by pull the scanner hands out the tokens, and then it is `s'`. -/
inductive HandsOut (grammar : Grammar κ ε σ) :
    Scanner κ ε σ → List (Token κ) → Scanner κ ε σ → Prop where
  | nil {s : Scanner κ ε σ} : HandsOut grammar s [] s
  | cons {s s₁ s' : Scanner κ ε σ} {token : Token κ} {tokens : List (Token κ)} :
      s.nextToken grammar = .ok (some token, s₁) → HandsOut grammar s₁ tokens s' →
      HandsOut grammar s (token :: tokens) s'

namespace HandsOut

variable {tokens tokens' : List (Token κ)}

theorem append (h : HandsOut grammar s tokens s') (h' : HandsOut grammar s' tokens' s'') :
    HandsOut grammar s (tokens ++ tokens') s'' := by
  induction h with
  | nil => exact h'
  | cons hn _ ih => exact .cons hn (ih h')

theorem split (h : HandsOut grammar s (tokens ++ tokens') s'') :
    ∃ s', HandsOut grammar s tokens s' ∧ HandsOut grammar s' tokens' s'' := by
  induction tokens generalizing s with
  | nil => exact ⟨s, .nil, h⟩
  | cons token tokens ih =>
    cases h with
    | cons hn h =>
      obtain ⟨s', hs', h'⟩ := ih h
      exact ⟨s', .cons hn hs', h'⟩

/-- A scanner that hands out some tokens and then none yields them. -/
theorem yields (h : HandsOut grammar s tokens s') (hn : s'.nextToken grammar = .ok (none, s'')) :
    Yields grammar s tokens s'' := by
  induction h with
  | nil => exact .ended hn
  | cons htoken _ ih => exact .token htoken (ih hn)

/-- What is handed out depends on what the next pull comes to. -/
theorem of_nextToken_eq (h : HandsOut grammar s tokens s') (hne : tokens ≠ [])
    (heq : s''.nextToken grammar = s.nextToken grammar) : HandsOut grammar s'' tokens s' := by
  cases h with
  | nil => exact absurd rfl hne
  | cons hn h => exact .cons (heq.trans hn) h

end HandsOut

/-- A scanner after its queue was handed out. -/
def drained (s : Scanner κ ε σ) : Scanner κ ε σ := { s with workspace.queue := [] }

/-- Queued tokens are handed out first, and no state is run for them. -/
theorem handsOut_queue (s : Scanner κ ε σ) : HandsOut grammar s s.workspace.queue s.drained := by
  obtain ⟨⟨cursor, queue, failure⟩, state⟩ := s
  induction queue with
  | nil => exact .nil
  | cons token queue ih => exact .cons (nextToken_of_queue rfl) ih

theorem nextToken_drained (h : s.state = none) :
    s.drained.nextToken grammar = .ok (none, s.drained) := by
  have hover : s.drained.Over s.drained.failure := ⟨h, rfl, rfl⟩
  exact hover.nextToken

/-- With no state left the queue is all that comes. -/
theorem yields_queue (h : s.state = none) : Yields grammar s s.workspace.queue s.drained :=
  s.handsOut_queue.yields (nextToken_drained h)

theorem collectFrom_eq (taken : List (Token κ)) (n : Nat) (s : Scanner κ ε σ) :
    collectFrom grammar taken n s =
      (s.collect grammar n).map fun r => (taken.reverse ++ r.1, r.2) := by
  unfold collect
  induction n generalizing taken s with
  | zero => simp [collectFrom, Except.map]
  | succ n ih =>
    simp only [collectFrom]
    match s.nextToken grammar with
    | .error fault => rfl
    | .ok (none, s') => simp [Except.map]
    | .ok (some token, s') =>
      simp only
      rw [ih (token :: taken), ih [token]]
      cases collectFrom grammar [] n s' with
      | error fault => rfl
      | ok r => simp [Except.map]

theorem collect_token {token : Token κ} (h : s.nextToken grammar = .ok (some token, s'))
    (n : Nat) :
    s.collect grammar (n + 1) = (s'.collect grammar n).map fun r => (token :: r.1, r.2) := by
  rw [collect, collectFrom, h]
  exact collectFrom_eq [token] n s'

theorem collect_over {n : Nat} (h : s.nextToken grammar = .ok (none, s')) :
    s.collect grammar (n + 1) = .ok ([], s') := by
  rw [collect, collectFrom, h]
  rfl

theorem Over.collect {failure : Option (Failure ε)} (h : s.Over failure) (n : Nat) :
    s.collect grammar n = .ok ([], s) := by
  cases n with
  | zero => rfl
  | succ n => exact collect_over h.nextToken

/-- What is collected is all there is if the scanner has no more. -/
theorem yields_of_collect {n : Nat} {tokens : List (Token κ)}
    (h : s.collect grammar n = .ok (tokens, s')) (hs : s'.nextToken grammar = .ok (none, s')) :
    Yields grammar s tokens s' := by
  induction n generalizing s tokens with
  | zero =>
    cases h
    exact .ended hs
  | succ n ih =>
    match hn : s.nextToken grammar with
    | .error fault => simp [collect, collectFrom, hn] at h
    | .ok (none, s₁) =>
      rw [collect_over hn] at h
      cases h
      exact .ended hn
    | .ok (some token, s₁) =>
      rw [collect_token hn] at h
      obtain ⟨r, hc, hr⟩ := Except.map_eq_ok_iff.1 h
      cases hr
      exact .token hn (ih hc)

end Scanner

/-! ## From token to token -/

namespace Mode

open Scanner

/-- The scanner stands between two tokens, where `text` is left. A number that ended the text has
    left no state to go on with. -/
def Ready (s : Machine) (l : Location) (text : List Char) : Prop :=
  s.At (some .start) l [] text ∨ text = [] ∧ s.At none l [] text

variable {s : Machine} {l : Location} {gap rest : List Char}

theorem ready_of_stateAfter {kind : TokenKind} (h : s.At (stateAfter kind rest) l [] rest) :
    Ready s l rest := by
  unfold stateAfter at h
  split at h
  · rename_i hc
    exact .inr ⟨hc.2, h⟩
  · exact .inl h

theorem Ready.lexeme {kind : TokenKind} {v : List Char} (h : Ready s l (gap ++ (v ++ rest)))
    (hgap : IsGap gap) (hv : Lexeme kind v) (ha : Apart v rest) :
    ∃ s', s.nextToken grammar = .ok (some ⟨kind, String.ofList v, l.advance gap⟩, s') ∧
      s'.At (stateAfter kind rest) (l.advance (gap ++ v)) [] rest := by
  obtain ⟨c, run, heq, hc⟩ := hv.head
  rcases h with h | ⟨hnil, -⟩
  · obtain ⟨s₁, h₁, hs₁⟩ := start_gap h hgap (by simp [heq, hc])
    obtain ⟨s₂, h₂, hs₂⟩ := nextToken_lexeme hs₁ hv ha
    exact ⟨s₂, h₁.trans h₂, l.advance_append gap v ▸ hs₂⟩
  · simp [heq] at hnil

theorem Ready.malformed {cause : LexError.Cause} (h : Ready s l (gap ++ rest)) (hgap : IsGap gap)
    (hm : Malformed cause rest) :
    ∃ s', s.nextToken grammar = .ok (some (Failure.toToken ⟨cause, l.advance gap⟩), s') ∧
      s'.Over (some ⟨cause, l.advance gap⟩) := by
  obtain ⟨c, run, heq, hc⟩ := hm.head
  rcases h with h | ⟨hnil, -⟩
  · obtain ⟨s₁, h₁, hs₁⟩ := start_gap h hgap (by simp [heq, hc])
    obtain ⟨s₂, h₂, hs₂⟩ := nextToken_malformed hs₁ hm
    exact ⟨s₂, h₁.trans h₂, hs₂⟩
  · simp [heq] at hnil

theorem Ready.over (h : Ready s l gap) (hgap : IsGap gap) :
    ∃ s' : Machine, s.nextToken grammar = .ok (none, s') ∧ s'.Over none := by
  rcases h with h | ⟨-, h⟩
  · rw [← List.append_nil gap] at h
    obtain ⟨s₁, h₁, hs₁⟩ := start_gap h hgap (by simp)
    obtain ⟨s₂, h₂, hs₂⟩ := start_end hs₁
    exact ⟨s₂, h₁.trans h₂, hs₂.over⟩
  · exact ⟨s, h.over.nextToken, h.over⟩

end Mode

/-! ## All tokens of a text -/

/-- A token seen from where `base` is the location of the first char of its text. -/
def Token.moved {κ : Type} (base : Location) (token : Token κ) : Token κ :=
  { token with location := base.moved token.location }

/-- A failure seen from there. -/
def Failure.moved {ε : Type} (base : Location) (failure : Failure ε) : Failure ε :=
  { failure with location := base.moved failure.location }

namespace Layout

/-- What is reported behind a layout that starts at `l`. -/
def failure (y : Layout) (l : Location) (cause : Option LexError.Cause) : Option LexError :=
  cause.map fun cause => ⟨cause, l.advance y.text⟩

/-- The tokens of a layout, and one for what is reported behind it. -/
def stream (y : Layout) (l : Location) (cause : Option LexError.Cause) : List (Token TokenKind) :=
  y.tokens l ++ ((y.failure l cause).map Failure.toToken).toList

theorem stream_none (y : Layout) (l : Location) : y.stream l none = y.tokens l :=
  List.append_nil _

theorem tokens_cons (p : Piece) (y : Layout) (l : Location) :
    (cons p y).tokens l =
      ⟨p.kind, String.ofList p.value, l.advance p.gap⟩ :: y.tokens (l.advance p.text) :=
  rfl

theorem failure_cons (p : Piece) (y : Layout) (l : Location) (cause : Option LexError.Cause) :
    (cons p y).failure l cause = y.failure (l.advance p.text) cause := by
  simp [failure, Location.advance_append]

theorem stream_cons (p : Piece) (y : Layout) (l : Location) (cause : Option LexError.Cause) :
    (cons p y).stream l cause =
      ⟨p.kind, String.ofList p.value, l.advance p.gap⟩ :: y.stream (l.advance p.text) cause := by
  rw [stream, tokens_cons, failure_cons]
  rfl

/-- What is reported behind a layout is reported behind its last gap. -/
theorem failure_gap (y : Layout) (l : Location) (cause : Option LexError.Cause) :
    y.failure l cause =
      (ofGap y.gap y.isGap).failure (l.advance (Piece.textOf y.pieces)) cause := by
  rw [failure, text, Location.advance_append]
  rfl

theorem stream_gap (y : Layout) (l : Location) (cause : Option LexError.Cause) :
    y.stream l cause = y.tokens l ++
      (ofGap y.gap y.isGap).stream (l.advance (Piece.textOf y.pieces)) cause := by
  rw [stream, failure_gap]
  rfl

theorem failure_append (y z : Layout) (l : Location) (cause : Option LexError.Cause) :
    (y.append z).failure l cause = z.failure (l.advance y.text) cause := by
  simp [failure, Location.advance_append]

theorem tokens_moved (y : Layout) (base : Location) {l : Location} (hl : l.Counted) :
    y.tokens (base.moved l) = (y.tokens l).map (Token.moved base) := by
  induction y generalizing l with
  | ofGap gap hgap => rfl
  | cons p y ih =>
    rw [tokens_cons, tokens_cons, ← Location.moved_advance base hl,
      ← Location.moved_advance base hl, ih (hl.advance p.text), List.map_cons, Token.moved]

theorem failure_moved (y : Layout) (base : Location) {l : Location} (hl : l.Counted)
    (cause : Option LexError.Cause) :
    y.failure (base.moved l) cause = (y.failure l cause).map (Failure.moved base) := by
  cases cause with
  | none => rfl
  | some cause => simp [failure, Failure.moved, Location.moved_advance base hl]

theorem isLexeme {y : Layout} {l : Location} {token : Token TokenKind}
    (h : token ∈ y.tokens l) : Lexeme token.kind token.value.toList := by
  induction y generalizing l with
  | ofGap gap hgap => cases h
  | cons p y ih =>
    rcases List.mem_cons.1 h with rfl | h
    · rw [String.toList_ofList]
      exact p.isLexeme
    · exact ih h

theorem kind_ne_error {y : Layout} {l : Location} {token : Token TokenKind}
    (h : token ∈ y.tokens l) : token.kind ≠ .error :=
  (isLexeme h).kind_ne_error

/-- All tokens of a stream are those of the layout, except for the one that reports a failure. -/
theorem stream_getElem? {y : Layout} {l : Location} {cause : Option LexError.Cause} {i : Nat}
    {token : Token TokenKind} (h : (y.stream l cause)[i]? = some token)
    (hk : token.kind ≠ .error) : (y.tokens l)[i]? = some token := by
  rw [stream, List.getElem?_append] at h
  split at h
  · exact h
  · cases cause with
    | none => cases h
    | some cause =>
      have hm := List.mem_of_getElem? h
      rw [List.mem_singleton.1 hm] at hk
      exact absurd rfl hk

end Layout

namespace Mode

variable {s : Machine} {l : Location} {text gap rest : List Char}

theorem Ready.failure (h : Ready s l text) : s.failure = none := by
  rcases h with h | ⟨-, h⟩
  · exact h.workspace.failure
  · exact h.workspace.failure

/-- Each piece of a row takes one pull. -/
theorem Ready.collect_pieces {ps : List Piece} (h : Ready s l (Piece.textOf ps ++ rest))
    (hps : Piece.Separated ps rest) (n : Nat) :
    ∃ s', s.collect grammar (n + ps.length) =
        (s'.collect grammar n).map (fun r => (Piece.tokensFrom l ps ++ r.1, r.2)) ∧
      Ready s' (l.advance (Piece.textOf ps)) rest := by
  induction ps generalizing s l with
  | nil =>
    refine ⟨s, ?_, h⟩
    cases s.collect grammar (n + 0) <;> rfl
  | cons p ps ih =>
    obtain ⟨ha, hps⟩ := hps
    rw [Piece.textOf_cons, Piece.text, List.append_assoc, List.append_assoc] at h
    obtain ⟨s₁, h₁, hs₁⟩ := h.lexeme p.isGap p.isLexeme ha
    obtain ⟨s₂, h₂, hs₂⟩ := ih (ready_of_stateAfter hs₁) hps
    refine ⟨s₂, ?_, ?_⟩
    · rw [List.length_cons, ← Nat.add_assoc, Scanner.collect_token h₁, h₂]
      cases s₂.collect grammar n <;> rfl
    · rw [Piece.textOf_cons, Location.advance_append]
      exact hs₂

/-- Behind the last lexeme one pull more ends the scan. -/
theorem Ready.collect_ending {cause : Option LexError.Cause} (h : Ready s l (gap ++ rest))
    (hgap : IsGap gap) (hend : Ending rest cause) (n : Nat) :
    ∃ s', s.collect grammar (n + 1) = .ok ((Layout.ofGap gap hgap).stream l cause, s') ∧
      s'.Over ((Layout.ofGap gap hgap).failure l cause) := by
  cases hend with
  | ended =>
    rw [List.append_nil] at h
    obtain ⟨s', h', hs'⟩ := h.over hgap
    exact ⟨s', Scanner.collect_over h', hs'⟩
  | malformed hm =>
    obtain ⟨s', h', hs'⟩ := h.malformed hgap hm
    refine ⟨s', ?_, hs'⟩
    rw [Scanner.collect_token h', hs'.collect]
    rfl

end Mode

open Mode

variable {s : Machine} {l : Location} {text rest : List Char} {y : Layout}
  {cause : Option LexError.Cause} {n : Nat}

/-- Taking as many tokens as there are in front of `qs` leaves the scanner there. -/
theorem collect_within {ps qs : List Piece} (h : Reads text y rest cause) (hs : Ready s l text)
    (hy : y.pieces = ps ++ qs) :
    ∃ s', s.collect grammar ps.length = .ok (Piece.tokensFrom l ps, s') ∧
      Ready s' (l.advance (Piece.textOf ps)) (Piece.textOf qs ++ (y.gap ++ rest)) := by
  obtain ⟨rfl, hbefore, -⟩ := h
  rw [Layout.Before, hy, Piece.separated_append] at hbefore
  rw [Layout.text, hy, Piece.textOf_append, List.append_assoc, List.append_assoc] at hs
  obtain ⟨s', hc, hs'⟩ := hs.collect_pieces hbefore.1 0
  refine ⟨s', ?_, hs'⟩
  rw [← Nat.zero_add ps.length, hc]
  simp [Scanner.collect, Scanner.collectFrom, Except.map]

/-- Taking more tokens than a layout has takes all that there are and ends the scan. -/
theorem collect_reads (h : Reads text y rest cause) (hs : Ready s l text)
    (hn : y.pieces.length < n) :
    ∃ s', s.collect grammar n = .ok (y.stream l cause, s') ∧ s'.Over (y.failure l cause) := by
  obtain ⟨rfl, hbefore, hend⟩ := h
  obtain ⟨n, rfl⟩ : ∃ m, n = m + 1 + y.pieces.length := ⟨n - 1 - y.pieces.length, by omega⟩
  rw [Layout.text, List.append_assoc] at hs
  obtain ⟨s₁, h₁, hs₁⟩ := hs.collect_pieces hbefore (n + 1)
  obtain ⟨s₂, h₂, hs₂⟩ := hs₁.collect_ending y.isGap hend n
  refine ⟨s₂, ?_, ?_⟩
  · rw [h₁, h₂, y.stream_gap]
    rfl
  · rw [y.failure_gap]
    exact hs₂

/-! ## The whole lexer -/

/-- A text less a byte order mark that opens it. -/
def body : List Char → List Char
  | [] => []
  | x :: text => if x = byteOrderMark then text else x :: text

/-- Where the text behind such a mark starts. -/
def origin (text : List Char) : Location :=
  if text.head? = some byteOrderMark then ⟨byteOrderMark.utf8Size, 1, 1⟩ else .start

theorem byteLength_body (text : List Char) :
    (origin text).offset + byteLength (body text) = byteLength text := by
  cases text with
  | nil => rfl
  | cons x text => by_cases hx : x = byteOrderMark <;> simp [origin, body, hx, Location.start]

/-- Behind a text that is not empty a mark opens nothing. -/
theorem body_append {text w : List Char} (h : text = [] → w.head? ≠ some byteOrderMark) :
    body (text ++ w) = body text ++ w ∧ origin (text ++ w) = origin text := by
  cases text with
  | nil =>
    have hw := h rfl
    cases w with
    | nil => exact ⟨rfl, rfl⟩
    | cons x w => simp_all [body, origin]
  | cons x text => by_cases hx : x = byteOrderMark <;> simp [origin, body, hx]

/-- A mark that opens a text also opens what is in front of `v` there. -/
theorem exists_eq_append_of_body {text a v : List Char} (h : body text = a ++ v) :
    ∃ u, text = u ++ v ∧ body u = a ∧ origin u = origin text := by
  cases text with
  | nil =>
    obtain ⟨rfl, rfl⟩ := List.append_eq_nil_iff.1 h.symm
    exact ⟨[], rfl, rfl, rfl⟩
  | cons x text =>
    by_cases hx : x = byteOrderMark
    · have hbody : text = a ++ v := by simpa [body, hx] using h
      exact ⟨x :: a, by rw [hbody, List.cons_append], by simp [body, hx], rfl⟩
    · have hbody : x :: text = a ++ v := by simpa [body, hx] using h
      cases a with
      | nil => exact ⟨[], hbody, rfl, by simp [origin, hx]⟩
      | cons b a =>
        obtain ⟨rfl, -⟩ := List.cons.inj hbody
        exact ⟨x :: a, hbody, by simp [body, hx], rfl⟩

theorem body_length_le (text : List Char) : (body text).length ≤ text.length := by
  unfold body
  split
  · rfl
  · split <;> simp

namespace Lexer

theorem ready_ofList (text : List Char) :
    Mode.Ready (ofList text).scanner (origin text) (body text) := by
  refine .inl ⟨rfl, ?_⟩
  cases text with
  | nil => exact ⟨rfl, rfl, rfl, rfl, rfl⟩
  | cons x text =>
    by_cases hx : x = byteOrderMark
    · subst hx
      exact ⟨rfl, rfl, rfl, rfl, rfl⟩
    · have hm : (Cursor.ofList (x :: text)).skipMark = Cursor.ofList (x :: text) := by
        simp [Cursor.skipMark, Cursor.ofList, hx]
      have ho : origin (x :: text) = .start := by simp [origin, hx]
      have hb : body (x :: text) = x :: text := by simp [body, hx]
      rw [ho, hb, ofList, hm]
      exact ⟨rfl, rfl, rfl, rfl, rfl⟩

variable {text : List Char} {y : Layout} {rest : List Char} {cause : Option LexError.Cause}

/-- A lexer hands out the tokens of its text and one for what is malformed, and ends. -/
theorem drain_ofList (h : Reads (body text) y rest cause) :
    ∃ l, (ofList text).drain = .ok (y.stream (origin text) cause, l) ∧
      l.scanner.Over (y.failure (origin text) cause) := by
  have ht : (ofList text).scanner.workspace.cursor.text = text :=
    Cursor.skipMark_text (Cursor.ofList text)
  have hn : y.pieces.length < text.length + 1 := by
    have hbody := body_length_le text
    have hpieces := h.length_le
    omega
  obtain ⟨s, hs, hover⟩ := collect_reads h (ready_ofList text) hn
  refine ⟨⟨s⟩, ?_, hover⟩
  rw [drain, ht, hs]

/-- The lexer hands out the tokens, and then none: it is `l'`. -/
def Yields (l : Lexer) (tokens : List (Token TokenKind)) (l' : Lexer) : Prop :=
  l.scanner.Yields grammar tokens l'.scanner

/-- The stream of a text is what its lexer hands out, to the end. -/
theorem yields_ofList (h : Reads (body text) y rest cause) :
    ∃ l, (ofList text).Yields (y.stream (origin text) cause) l ∧
      l.error = y.failure (origin text) cause := by
  obtain ⟨s, hs, hover⟩ := collect_reads h (ready_ofList text) (Nat.lt_succ_self _)
  exact ⟨⟨s⟩, Scanner.yields_of_collect hs hover.nextToken, hover.failure⟩

end Lexer

/-- The tokens of a text that can be read to its end, or what is malformed in it. -/
theorem tokenize_reads {text : String} {y : Layout} {rest : List Char}
    {cause : Option LexError.Cause} (h : Reads (body text.toList) y rest cause) :
    tokenize text = .ok (match y.failure (origin text.toList) cause with
      | some e => .error e
      | none => .ok (y.tokens (origin text.toList))) := by
  obtain ⟨l, hl, hover⟩ := Lexer.drain_ofList h
  have he : l.error = y.failure (origin text.toList) cause := hover.failure
  rw [tokenize, Lexer.ofString, hl]
  simp only [he]
  cases cause with
  | some cause => rfl
  | none =>
    have hf : ∀ token ∈ y.tokens (origin text.toList), token.kind != .error :=
      fun token ht => bne_iff_ne.2 (Layout.kind_ne_error ht)
    simp [Layout.failure, Layout.stream, List.filter_eq_self.2 hf]

theorem exists_reads_of_tokens {text : String} {tokens : List (Token TokenKind)}
    (h : tokenize text = .ok (.ok tokens)) :
    ∃ y, Reads (body text.toList) y [] none ∧ tokens = y.tokens (origin text.toList) := by
  obtain ⟨y, rest, cause, hr⟩ := exists_reads (body text.toList)
  rw [tokenize_reads hr] at h
  obtain ⟨heq, hbefore, hend⟩ := hr
  cases hend with
  | ended =>
    cases h
    exact ⟨y, ⟨heq, hbefore, .ended⟩, rfl⟩
  | malformed hm => cases h

theorem exists_reads_of_failure {text : String} {e : LexError}
    (h : tokenize text = .ok (.error e)) :
    ∃ y rest, Reads (body text.toList) y rest (some e.cause) ∧
      e.location = (origin text.toList).advance y.text := by
  obtain ⟨y, rest, cause, hr⟩ := exists_reads (body text.toList)
  rw [tokenize_reads hr] at h
  cases cause with
  | none => cases h
  | some cause =>
    cases h
    exact ⟨y, rest, hr, rfl⟩

end ExprLexer
