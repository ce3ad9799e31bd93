-- SUMMARY: Texts whose lines end in two chars have the tokens that they would have with one.
import ExprLexer.Proofs.LongestMatch
import Mathlib.Data.List.Forall2

/-!
# Line ends

Some systems end a line by a carriage return and a line feed. `withLineFeeds`
leaves only the line feed of them. The carriage return takes a column, but the
last one of its line; it can be a blank, or the char that ends a number or a
name, or stand in a string, where a backslash may take it and then takes the line
feed instead. None of this moves a token to another line or column.

What carries the comparison is that a text is read as a layout with or without
the carriage returns, piece by piece (`Reads.withLineFeeds`). Main statement: the
two streams agree in all but the values of strings and offsets, and so do the two
failures, but for a dot in a name that a line end follows
(`Lexer.yields_withLineFeeds`).
-/

namespace ExprLexer

/-- A text with a line feed for every carriage return that a line feed follows, and that line
    feed. -/
def withLineFeeds : List Char → List Char
  | '\r' :: '\n' :: text => '\n' :: withLineFeeds text
  | c :: text => c :: withLineFeeds text
  | [] => []

example : withLineFeeds ['a', '\r', '\r', '\n', '\n', '\r'] = ['a', '\r', '\n', '\n', '\r'] := by
  decide

variable {u v text rest : List Char} {kind : TokenKind}

/-! ## Char by char -/

theorem withLineFeeds_returned (text : List Char) :
    withLineFeeds ('\r' :: '\n' :: text) = '\n' :: withLineFeeds text := by
  rw [withLineFeeds]

theorem withLineFeeds_cons {c : Char} (h : c = '\r' → text.head? ≠ some '\n') :
    withLineFeeds (c :: text) = c :: withLineFeeds text := by
  rw [withLineFeeds]
  rintro tail hc rfl
  exact h hc rfl

theorem withLineFeeds_cons_of_ne {c : Char} (h : c ≠ '\r') :
    withLineFeeds (c :: text) = c :: withLineFeeds text :=
  withLineFeeds_cons fun hc => absurd hc h

/-- The first char stays, or it is dropped before a line feed. -/
theorem withLineFeeds_cons_cases (c : Char) (text : List Char) :
    (∃ tail, c = '\r' ∧ text = '\n' :: tail ∧
      withLineFeeds (c :: text) = '\n' :: withLineFeeds tail) ∨
    withLineFeeds (c :: text) = c :: withLineFeeds text := by
  by_cases h : c = '\r' ∧ text.head? = some '\n'
  · obtain ⟨rfl, hhead⟩ := h
    obtain ⟨tail, rfl⟩ := List.head?_eq_some_iff.1 hhead
    exact .inl ⟨tail, rfl, rfl, withLineFeeds_returned tail⟩
  · exact .inr (withLineFeeds_cons fun hc hhead => h ⟨hc, hhead⟩)

theorem withLineFeeds_head {c : Char} (h : c ∈ (withLineFeeds text).head?) :
    c ∈ text.head? ∨ c = '\n' := by
  cases text with
  | nil => cases h
  | cons d text =>
    rcases withLineFeeds_cons_cases d text with ⟨tail, -, -, heq⟩ | heq
    · rw [heq] at h
      cases h
      exact .inr rfl
    · rw [heq] at h
      exact .inl h

theorem withLineFeeds_of_notMem (h : '\r' ∉ text) : withLineFeeds text = text := by
  induction text with
  | nil => rfl
  | cons c text ih =>
    rw [List.mem_cons, not_or] at h
    rw [withLineFeeds_cons_of_ne (Ne.symm h.1), ih h.2]

/-- Two texts in a row can be looked at one by one, unless a line end lies across their border. -/
theorem withLineFeeds_append (h : u.getLast? = some '\r' → v.head? ≠ some '\n') :
    withLineFeeds (u ++ v) = withLineFeeds u ++ withLineFeeds v := by
  induction u using withLineFeeds.induct with
  | case1 u ih =>
    have hu : u.getLast? = some '\r' → v.head? ≠ some '\n' := by
      intro hlast
      refine h ?_
      cases u with
      | nil => cases hlast
      | cons c u => simpa using hlast
    rw [List.cons_append, List.cons_append, withLineFeeds_returned, withLineFeeds_returned, ih hu,
      List.cons_append]
  | case2 c u hne ih =>
    cases u with
    | nil =>
      have hc : c = '\r' → v.head? ≠ some '\n' := by
        rintro rfl
        exact h rfl
      have hnil : c = '\r' → ([] : List Char).head? ≠ some '\n' := by simp
      rw [List.singleton_append, withLineFeeds_cons hc, withLineFeeds_cons hnil]
      rfl
    | cons d u =>
      have hd : ∀ w, c = '\r' → (d :: u ++ w).head? ≠ some '\n' := by
        rintro w rfl hd
        cases hd
        exact hne u rfl rfl
      have hc : withLineFeeds (c :: d :: u) = c :: withLineFeeds (d :: u) :=
        withLineFeeds_cons (by simpa using hd [])
      rw [List.cons_append, withLineFeeds_cons (hd v), ih (by simpa using h), hc, List.cons_append]
  | case3 => rfl

theorem withLineFeeds_append_of_notMem (h : '\r' ∉ u) :
    withLineFeeds (u ++ v) = u ++ withLineFeeds v := by
  rw [withLineFeeds_append fun hlast => absurd (List.mem_of_getLast? hlast) h,
    withLineFeeds_of_notMem h]

/-! ## Lexemes -/

theorem IsGap.withLineFeeds {gap : List Char} (h : IsGap gap) : IsGap (withLineFeeds gap) := by
  induction gap using ExprLexer.withLineFeeds.induct with
  | case1 gap ih =>
    rw [withLineFeeds_returned]
    obtain ⟨-, hgap⟩ := List.forall_mem_cons.1 (List.forall_mem_cons.1 h).2
    exact List.forall_mem_cons.2 ⟨by decide, ih hgap⟩
  | case2 c gap hne ih =>
    obtain ⟨hc, hgap⟩ := List.forall_mem_cons.1 h
    rw [ExprLexer.withLineFeeds]
    · exact List.forall_mem_cons.2 ⟨hc, ih hgap⟩
    · exact hne
  | case3 => exact isGap_nil

/-- A carriage return is a blank. -/
theorem notMem_return (h : ∀ c ∈ v, isSpace c = false) : '\r' ∉ v :=
  fun hm => absurd (h _ hm) (by decide)

/-- Only a string has a carriage return in it. -/
theorem Lexeme.string_or_notMem (h : Lexeme kind v) :
    (∃ body, StringBody body ∧ kind = .string ∧ v = '"' :: (body ++ ['"'])) ∨ '\r' ∉ v := by
  rcases h.string_or_not_space with ⟨hkind, body, hb, hv⟩ | ⟨-, hv⟩
  · exact .inl ⟨body, hb, hkind, hv⟩
  · exact .inr (notMem_return hv)

theorem StringBody.withLineFeeds {body : List Char} (h : StringBody body) :
    StringBody (withLineFeeds body) := by
  induction h with
  | nil => exact .nil
  | @plain c body hq hs _ ih =>
    rcases withLineFeeds_cons_cases c body with ⟨tail, -, rfl, heq⟩ | heq
    · rw [withLineFeeds_cons_of_ne (by decide)] at ih
      exact heq ▸ ih
    · exact heq ▸ .plain hq hs ih
  | @escape c body _ ih =>
    rw [withLineFeeds_cons_of_ne (by decide)]
    rcases withLineFeeds_cons_cases c body with ⟨tail, -, rfl, heq⟩ | heq
    · -- The backslash takes the line feed instead of the carriage return.
      rw [withLineFeeds_cons_of_ne (by decide)] at ih
      rw [heq]
      cases ih with
      | plain _ _ htail => exact .escape htail
    · exact heq ▸ .escape ih

theorem withLineFeeds_string (body : List Char) :
    withLineFeeds ('"' :: (body ++ ['"'])) = '"' :: (withLineFeeds body ++ ['"']) := by
  rw [withLineFeeds_cons_of_ne (by decide), withLineFeeds_append (by simp)]
  rfl

theorem Lexeme.withLineFeeds (h : Lexeme kind v) : Lexeme kind (withLineFeeds v) := by
  rcases h.string_or_notMem with ⟨body, hb, rfl, rfl⟩ | hv
  · rw [withLineFeeds_string]
    exact .string hb.withLineFeeds
  · rwa [withLineFeeds_of_notMem hv]

theorem Lexeme.apart_withLineFeeds (h : Lexeme kind v) (ha : Apart v rest) :
    Apart (ExprLexer.withLineFeeds v) (ExprLexer.withLineFeeds rest) := by
  intro c hc
  rcases h.string_or_notMem with ⟨body, hb, rfl, rfl⟩ | hv
  · rw [withLineFeeds_string]
    exact not_glues_string
  · rw [withLineFeeds_of_notMem hv]
    rcases withLineFeeds_head hc with hc | rfl
    · exact ha c hc
    · exact fun hg => absurd hg.not_space (by decide)

/-- A lexeme ends no line, nor does it start with the end of one. -/
theorem Lexeme.withLineFeeds_append (h : Lexeme kind v) (rest : List Char) :
    ExprLexer.withLineFeeds (v ++ rest) =
      ExprLexer.withLineFeeds v ++ ExprLexer.withLineFeeds rest := by
  refine ExprLexer.withLineFeeds_append ?_
  intro hlast
  rcases h.string_or_notMem with ⟨body, hb, rfl, rfl⟩ | hv
  · rw [← List.cons_append, List.getLast?_concat] at hlast
    cases hlast
  · exact absurd (List.mem_of_getLast? hlast) hv

theorem withLineFeeds_append_of_head (h : ∀ c ∈ v.head?, isSpace c = false) :
    withLineFeeds (u ++ v) = withLineFeeds u ++ withLineFeeds v := by
  refine withLineFeeds_append ?_
  intro _ hhead
  exact absurd (h _ hhead) (by decide)

/-! ## Malformed texts -/

/-- A quote that closes a string closes it with carriage returns, too. -/
theorem StringBody.of_withLineFeeds {body : List Char} (h : StringBody body)
    (heq : ExprLexer.withLineFeeds text = body ++ '"' :: rest) :
    ∃ body' rest', StringBody body' ∧ text = body' ++ '"' :: rest' := by
  induction h generalizing text with
  | nil =>
    cases text with
    | nil => cases heq
    | cons d text =>
      rcases withLineFeeds_cons_cases d text with ⟨tail, -, -, hd⟩ | hd
      · rw [hd] at heq
        cases heq
      · rw [hd] at heq
        cases heq
        exact ⟨[], text, .nil, rfl⟩
  | @plain c body hq hs _ ih =>
    cases text with
    | nil => cases heq
    | cons d text =>
      rcases withLineFeeds_cons_cases d text with ⟨tail, rfl, rfl, hd⟩ | hd
      · rw [hd, List.cons_append] at heq
        obtain ⟨body', rest', hb, rfl⟩ := ih (List.cons.inj heq).2
        exact ⟨'\r' :: '\n' :: body', rest', .plain (by decide) (by decide)
          (.plain (by decide) (by decide) hb), rfl⟩
      · rw [hd, List.cons_append] at heq
        obtain ⟨rfl, htail⟩ := List.cons.inj heq
        obtain ⟨body', rest', hb, rfl⟩ := ih htail
        exact ⟨d :: body', rest', .plain hq hs hb, rfl⟩
  | @escape c body _ ih =>
    match text with
    | [] => cases heq
    | [d] =>
      rcases withLineFeeds_cons_cases d [] with ⟨tail, -, htail, -⟩ | hd
      · cases htail
      · rw [hd] at heq
        cases heq
    | d :: e :: text =>
      rcases withLineFeeds_cons_cases d (e :: text) with ⟨tail, -, -, hd⟩ | hd
      · rw [hd] at heq
        cases heq
      · rw [hd, List.cons_append, List.cons_append] at heq
        obtain ⟨rfl, htaken⟩ := List.cons.inj heq
        rcases withLineFeeds_cons_cases e text with ⟨tail, rfl, rfl, he⟩ | he
        · rw [he] at htaken
          obtain ⟨body', rest', hb, rfl⟩ := ih (List.cons.inj htaken).2
          exact ⟨'\\' :: '\r' :: '\n' :: body', rest', .escape (.plain (by decide) (by decide) hb),
            rfl⟩
        · rw [he] at htaken
          obtain ⟨body', rest', hb, rfl⟩ := ih (List.cons.inj htaken).2
          exact ⟨'\\' :: e :: body', rest', .escape hb, rfl⟩

/-- A name at the front of the text is cut off by a line end of two chars behind its last dot. -/
def BreaksOff (text : List Char) : Prop :=
  ∃ v tail, IsName v ∧ text = v ++ '.' :: '\r' :: '\n' :: tail

/-- The cause for which a text fails, and the cause for which it does with line feeds alone. They
    are the same, but the char that a line end starts with is another one. -/
structure SameCause (text : List Char) (cause cause' : LexError.Cause) : Prop where
  breaks : BreaksOff text →
    cause = .malformedIdentifier (some '\r') ∧ cause' = .malformedIdentifier (some '\n')
  same : ¬ BreaksOff text → cause' = cause

theorem BreaksOff.cause_eq {cause : LexError.Cause} (h : BreaksOff text)
    (hm : Malformed cause text) : cause = .malformedIdentifier (some '\r') := by
  obtain ⟨v, tail, hv, rfl⟩ := h
  have hreturn : ∀ c ∈ ('\r' :: '\n' :: tail).head?, ¬ StartsSegment c := by
    simp only [List.head?_cons, Option.mem_def, Option.some.injEq, forall_eq']
    decide
  exact hm.unique (.name hv hreturn)

theorem sameCause_refl {cause : LexError.Cause} (hm : Malformed cause text)
    (h : cause ≠ .malformedIdentifier (some '\r')) : SameCause text cause cause where
  breaks hb := absurd (hb.cause_eq hm) h
  same _ := rfl

theorem sameCause_name (hv : IsName v) (hrest : ∀ c ∈ rest.head?, ¬ StartsSegment c) :
    SameCause (v ++ '.' :: rest) (.malformedIdentifier rest.head?)
      (.malformedIdentifier (withLineFeeds rest).head?) := by
  have hm : Malformed (.malformedIdentifier rest.head?) (v ++ '.' :: rest) := .name hv hrest
  -- The name ends before the first carriage return, so what follows its dot is determined.
  have htail : ∀ {w tail}, IsName w → v ++ '.' :: rest = w ++ '.' :: '\r' :: '\n' :: tail →
      ∃ tail, rest = '\r' :: '\n' :: tail := by
    intro w tail hw heq
    have hcause := BreaksOff.cause_eq ⟨w, tail, hw, heq⟩ hm
    obtain ⟨rest, rfl⟩ := List.head?_eq_some_iff.1 (LexError.Cause.malformedIdentifier.inj hcause)
    have hsplit : (v ++ ['.']) ++ '\r' :: rest = (w ++ ['.']) ++ '\r' :: '\n' :: tail := by
      simpa using heq
    have hv' : '\r' ∉ v ++ ['.'] := by simp [notMem_return hv.not_space]
    have hw' : '\r' ∉ w ++ ['.'] := by simp [notMem_return hw.not_space]
    have hrest := congrArg (List.dropWhile (· != '\r')) hsplit
    rw [List.dropWhile_append_of_pos (by grind), List.dropWhile_append_of_pos (by grind)] at hrest
    exact ⟨tail, by simpa using hrest⟩
  constructor
  · rintro ⟨w, tail, hw, heq⟩
    obtain ⟨tail', rfl⟩ := htail hw heq
    rw [withLineFeeds_returned]
    exact ⟨rfl, rfl⟩
  · intro hno
    cases rest with
    | nil => rfl
    | cons c rest =>
      rcases withLineFeeds_cons_cases c rest with ⟨tail, rfl, rfl, -⟩ | heq
      · exact absurd ⟨v, tail, hv, rfl⟩ hno
      · rw [heq]
        rfl

theorem Malformed.withLineFeeds {cause : LexError.Cause} (h : Malformed cause text) :
    ∃ cause', Malformed cause' (ExprLexer.withLineFeeds text) ∧ SameCause text cause cause' := by
  have hnot : ∀ {c : Char}, ¬ IsBlank c → c ≠ '\r' := by
    rintro c hc rfl
    exact hc (by decide)
  cases h with
  | @string text hno =>
    refine ⟨.unterminatedString, ?_, sameCause_refl (.string hno) (by decide)⟩
    rw [withLineFeeds_cons_of_ne (by decide)]
    refine .string ?_
    intro body rest hb heq
    obtain ⟨body', rest', hb', rfl⟩ := hb.of_withLineFeeds heq
    exact hno body' rest' hb' rfl
  | @number v rest c hv hd hc he =>
    refine ⟨.malformedNumber c, ?_, sameCause_refl (.number hv hd hc he) (by simp)⟩
    have hreturn : c ≠ '\r' := hnot fun hb => he (.inl hb)
    rw [withLineFeeds_append_of_notMem (notMem_return (number_not_space hv)),
      withLineFeeds_cons_of_ne hreturn]
    exact .number hv hd hc he
  | @point v rest hv =>
    refine ⟨.nestedDecimal, ?_, sameCause_refl (.point hv) (by decide)⟩
    rw [withLineFeeds_append_of_notMem (notMem_return (number_not_space (.inr hv))),
      withLineFeeds_cons_of_ne (by decide)]
    exact .point hv
  | @name v rest hv hrest =>
    refine ⟨_, ?_, sameCause_name hv hrest⟩
    rw [withLineFeeds_append_of_notMem (notMem_return hv.not_space),
      withLineFeeds_cons_of_ne (by decide)]
    refine .name hv ?_
    intro c hc
    rcases withLineFeeds_head hc with hc | rfl
    · exact hrest c hc
    · decide
  | @char c rest hblank hstart hdigit hmark =>
    refine ⟨.unexpectedChar c, ?_,
      sameCause_refl (.char hblank hstart hdigit hmark) (by simp)⟩
    rw [withLineFeeds_cons_of_ne (hnot hblank)]
    exact .char hblank hstart hdigit hmark

/-! ## Layouts -/

/-- The piece with line feeds alone. -/
def Piece.withLineFeeds (p : Piece) : Piece where
  gap := ExprLexer.withLineFeeds p.gap
  kind := p.kind
  value := ExprLexer.withLineFeeds p.value
  isGap := p.isGap.withLineFeeds
  isLexeme := p.isLexeme.withLineFeeds

namespace Layout

/-- The layout with line feeds alone. -/
def withLineFeeds (y : Layout) : Layout where
  pieces := y.pieces.map Piece.withLineFeeds
  gap := ExprLexer.withLineFeeds y.gap
  isGap := y.isGap.withLineFeeds

theorem withLineFeeds_consPiece (p : Piece) (y : Layout) :
    (cons p y).withLineFeeds = cons p.withLineFeeds y.withLineFeeds := rfl

theorem text_withLineFeeds (y : Layout) :
    y.withLineFeeds.text = ExprLexer.withLineFeeds y.text := by
  induction y with
  | ofGap gap hgap => rfl
  | cons p y ih =>
    rw [withLineFeeds_consPiece, text_cons, text_cons, Piece.text, Piece.text, List.append_assoc,
      List.append_assoc, withLineFeeds_append_of_head p.isLexeme.head_append,
      p.isLexeme.withLineFeeds_append, ih]
    rfl

theorem Before.withLineFeeds {y : Layout} (h : y.Before rest)
    (hrest : ∀ c ∈ rest.head?, isSpace c = false) :
    y.withLineFeeds.Before (ExprLexer.withLineFeeds rest) := by
  induction y with
  | ofGap gap hgap => trivial
  | cons p y ih =>
    obtain ⟨ha, hbefore⟩ := before_cons.1 h
    rw [withLineFeeds_consPiece]
    refine before_cons.2 ⟨?_, ih hbefore⟩
    rw [text_withLineFeeds, ← withLineFeeds_append_of_head hrest]
    exact p.isLexeme.apart_withLineFeeds ha

end Layout

theorem Ending.withLineFeeds {cause : Option LexError.Cause} (h : Ending rest cause) :
    ∃ cause', Ending (ExprLexer.withLineFeeds rest) cause' ∧
      Option.Rel (SameCause rest) cause cause' := by
  cases h with
  | ended => exact ⟨none, .ended, .none⟩
  | malformed hm =>
    obtain ⟨cause', hm', hc⟩ := hm.withLineFeeds
    exact ⟨some cause', .malformed hm', .some hc⟩

/-- A text is read with line feeds alone as it is read with carriage returns, piece by piece. -/
theorem Reads.withLineFeeds {y : Layout} {cause : Option LexError.Cause}
    (h : Reads text y rest cause) :
    ∃ cause', Reads (ExprLexer.withLineFeeds text) y.withLineFeeds
        (ExprLexer.withLineFeeds rest) cause' ∧
      Option.Rel (SameCause rest) cause cause' := by
  obtain ⟨rfl, hbefore, hend⟩ := h
  obtain ⟨cause', hend', hc⟩ := hend.withLineFeeds
  refine ⟨cause', ⟨?_, hbefore.withLineFeeds hend.head, hend'⟩, hc⟩
  rw [withLineFeeds_append_of_head hend.head, y.text_withLineFeeds]

/-! ## Lines and columns -/

/-- Two locations on the same line and at the same column. -/
structure Location.Aligned (l l' : Location) : Prop where
  line : l'.line = l.line
  column : l'.column = l.column

namespace Location.Aligned

variable {l l' : Location}

theorem step (h : l.Aligned l') (c : Char) : (l.step c).Aligned (l'.step c) := by
  obtain ⟨hline, hcolumn⟩ := h
  by_cases hc : c = '\n'
  · simp [Location.step, hc, hline, Aligned.mk]
  · simp [Location.step, hc, hline, hcolumn, Aligned.mk]

/-- A carriage return does not move what comes behind the line feed that follows it. -/
theorem withLineFeeds (h : l.Aligned l') (text : List Char) :
    (l.advance text).Aligned (l'.advance (ExprLexer.withLineFeeds text)) := by
  induction text using ExprLexer.withLineFeeds.induct generalizing l l' with
  | case1 text ih =>
    have hline : ((l.step '\r').step '\n').Aligned (l'.step '\n') :=
      ⟨congrArg (· + 1) h.line, rfl⟩
    rw [withLineFeeds_returned]
    exact ih hline
  | case2 c text hne ih =>
    rw [ExprLexer.withLineFeeds]
    · exact ih (h.step c)
    · exact hne
  | case3 => exact h

end Location.Aligned

/-- A token of a text, and the one that it is with line feeds alone. -/
structure Token.Aligned (token token' : Token TokenKind) : Prop where
  kind : token'.kind = token.kind
  location : token.location.Aligned token'.location
  value : token.kind ≠ .error → token'.value.toList = withLineFeeds token.value.toList

/-- A failure of a text, and the one that it is with line feeds alone. -/
structure Failure.Aligned (text : List Char) (e e' : LexError) : Prop where
  location : e.location.Aligned e'.location
  cause : ∃ rest, slice? text e.location.offset (byteLength text) = some rest ∧
    SameCause rest e.cause e'.cause

theorem Layout.tokens_withLineFeeds (y : Layout) {l l' : Location} (h : l.Aligned l') :
    List.Forall₂ Token.Aligned (y.tokens l) (y.withLineFeeds.tokens l') := by
  induction y generalizing l l' with
  | ofGap gap hgap => exact .nil
  | cons p y ih =>
    rw [withLineFeeds_consPiece, tokens_cons, tokens_cons]
    have htext : p.withLineFeeds.text = ExprLexer.withLineFeeds p.text := by
      have hhead : ∀ c ∈ p.value.head?, isSpace c = false := by
        obtain ⟨c, run, hvalue, hc⟩ := p.isLexeme.head
        simpa [hvalue] using hc
      exact (withLineFeeds_append_of_head hhead).symm
    refine .cons ⟨rfl, h.withLineFeeds p.gap, ?_⟩ (ih (htext ▸ h.withLineFeeds p.text))
    intro _
    rw [String.toList_ofList, String.toList_ofList]
    rfl

/-! ## Streams -/

theorem origin_aligned (text : List Char) :
    (origin text).Aligned (origin (withLineFeeds text)) := by
  unfold origin
  split <;> split <;> exact ⟨rfl, rfl⟩

theorem body_withLineFeeds (text : List Char) :
    body (withLineFeeds text) = withLineFeeds (body text) := by
  cases text with
  | nil => rfl
  | cons c text =>
    rcases withLineFeeds_cons_cases c text with ⟨tail, rfl, rfl, heq⟩ | heq
    · have hbody : body ('\r' :: '\n' :: tail) = '\r' :: '\n' :: tail := rfl
      rw [hbody, heq]
      rfl
    · by_cases hc : c = byteOrderMark
      · rw [heq, body, body, if_pos hc, if_pos hc]
      · rw [body, if_neg hc, heq, body, if_neg hc]

/-- With line feeds alone a text has as many tokens, of the same kinds, lines and columns, and it
    fails at the same place for the same cause, if it fails. -/
theorem Lexer.yields_withLineFeeds (text : String) :
    ∃ ts l ts' l', (ofString text).Yields ts l ∧
      (ofList (withLineFeeds text.toList)).Yields ts' l' ∧
      List.Forall₂ Token.Aligned ts ts' ∧
      Option.Rel (Failure.Aligned text.toList) l.error l'.error := by
  obtain ⟨y, rest, cause, h⟩ := exists_reads (body text.toList)
  obtain ⟨cause', h', hc⟩ := h.withLineFeeds
  rw [← body_withLineFeeds] at h'
  obtain ⟨l, hl, herror⟩ := yields_ofList h
  obtain ⟨l', hl', herror'⟩ := yields_ofList h'
  have hstart := origin_aligned text.toList
  have htokens := y.tokens_withLineFeeds hstart
  refine ⟨_, l, _, l', hl, hl', ?_⟩
  rw [herror, herror']
  cases hc with
  | none =>
    rw [Layout.stream_none, Layout.stream_none]
    exact ⟨htokens, .none⟩
  | @some cause cause' hc =>
    have hend := hstart.withLineFeeds y.text
    rw [← y.text_withLineFeeds] at hend
    refine ⟨?_, .some ⟨hend, rest, slice?_of_body h.text_eq, hc⟩⟩
    refine List.rel_append htokens (.cons ⟨rfl, hend, ?_⟩ .nil)
    intro hk
    exact absurd rfl hk

end ExprLexer
