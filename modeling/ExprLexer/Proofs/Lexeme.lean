-- SUMMARY: Lexemes of CE expressions, what continues them, and which texts start with none.
import ExprLexer.Proofs.Alphabet

/-!
# Lexemes

A lexeme is a piece of text that makes one token. What its shape is does not
depend on what follows, but whether it is read as a token does: a char that
`Glues` to it would have been read along. A text that starts with no such piece
is `Malformed`, for one of the causes of a lexical error.
-/

namespace ExprLexer

/-! ## Shapes -/

/-- A run of blanks, which may be empty. -/
def IsGap (gap : List Char) : Prop := ∀ c ∈ gap, IsBlank c

/-- A run of decimal digits, which may be empty. -/
def IsDigits (digits : List Char) : Prop := ∀ c ∈ digits, c.isDigit

/-- One segment of an identifier. -/
def IsSegment : List Char → Prop
  | [] => False
  | c :: rest => StartsSegment c ∧ ∀ x ∈ rest, ContinuesSegment x

/-- One or more segments, joined by dots. -/
inductive IsPath : List Char → Prop where
  | segment {s : List Char} : IsSegment s → IsPath s
  | join {s path : List Char} : IsSegment s → IsPath path → IsPath (s ++ '.' :: path)

/-- A path, or an annotation: a path behind an `@`. -/
inductive IsName : List Char → Prop where
  | path {path : List Char} : IsPath path → IsName path
  | marked {path : List Char} : IsPath path → IsName ('@' :: path)

/-- A number without a decimal point. -/
def IsInteger (v : List Char) : Prop := v ≠ [] ∧ IsDigits v

/-- A number with a decimal point, and with a digit before it or after it. -/
inductive IsDecimal : List Char → Prop where
  | point {whole fraction : List Char} :
      IsInteger whole → IsDigits fraction → IsDecimal (whole ++ '.' :: fraction)
  | bare {fraction : List Char} : IsInteger fraction → IsDecimal ('.' :: fraction)

/-- What may stand between the quotes of a string: a backslash takes the next char with it, and
    only a char that is taken can be a quote. -/
inductive StringBody : List Char → Prop where
  | nil : StringBody []
  | plain {c : Char} {body : List Char} :
      c ≠ '"' → c ≠ '\\' → StringBody body → StringBody (c :: body)
  | escape {c : Char} {body : List Char} : StringBody body → StringBody ('\\' :: c :: body)

/-- The lexemes of each kind. -/
inductive Lexeme : TokenKind → List Char → Prop where
  | name {v : List Char} : IsName v → Lexeme .identifier v
  | integer {v : List Char} : IsInteger v → Lexeme .integer v
  | decimal {v : List Char} : IsDecimal v → Lexeme .decimal v
  | string {body : List Char} : StringBody body → Lexeme .string ('"' :: (body ++ ['"']))
  | pair {c d : Char} {kind : TokenKind} : (c, d, kind) ∈ operators → Lexeme kind [c, d]
  | mark {c : Char} {kind : TokenKind} : (c, kind) ∈ marks → Lexeme kind [c]

/-! ## What follows -/

/-- Whether a char right after a lexeme is read along with it. -/
inductive Glues : List Char → Char → Prop where
  | name {v : List Char} {c : Char} : IsName v → ContinuesSegment c ∨ c = '.' → Glues v c
  | number {v : List Char} {c : Char} :
      IsInteger v ∨ IsDecimal v → c = '.' ∨ ¬ (IsBlank c ∨ IsPunctuation c) → Glues v c
  | point {c : Char} : c.isDigit → Glues ['.'] c
  | atSign {c : Char} : StartsSegment c → Glues ['@'] c
  | pair {c d : Char} {kind : TokenKind} : (c, d, kind) ∈ operators → Glues [c] d

/-- A lexeme is read up to its end when `rest` follows it. -/
def Apart (v rest : List Char) : Prop := ∀ c ∈ rest.head?, ¬ Glues v c

/-- The texts that start with no token, by what is wrong with them. -/
inductive Malformed : LexError.Cause → List Char → Prop where
  /-- No quote that is not taken by a backslash closes the string. -/
  | string {text : List Char} :
      (∀ body rest, StringBody body → text ≠ body ++ '"' :: rest) →
      Malformed .unterminatedString ('"' :: text)
  | number {v rest : List Char} {c : Char} :
      IsInteger v ∨ IsDecimal v → c.isDigit = false → c ≠ '.' → ¬ (IsBlank c ∨ IsPunctuation c) →
      Malformed (.malformedNumber c) (v ++ c :: rest)
  | point {v rest : List Char} : IsDecimal v → Malformed .nestedDecimal (v ++ '.' :: rest)
  | name {v rest : List Char} :
      IsName v → (∀ c ∈ rest.head?, ¬ StartsSegment c) →
      Malformed (.malformedIdentifier rest.head?) (v ++ '.' :: rest)
  | char {c : Char} {rest : List Char} :
      ¬ IsBlank c → ¬ StartsSegment c → c.isDigit = false → ¬ IsPunctuation c →
      Malformed (.unexpectedChar c) (c :: rest)

/-! ## Kinds -/

theorem Lexeme.kind_ne_error {kind : TokenKind} {v : List Char} (h : Lexeme kind v) :
    kind ≠ .error := by
  cases h with
  | pair h =>
    rintro rfl
    exact operator_kind h (by decide)
  | mark h =>
    rintro rfl
    exact mark_kind h (by decide)
  | _ => exact TokenKind.noConfusion

/-! ## First chars -/

theorem isGap_iff {gap : List Char} : IsGap gap ↔ ∀ c ∈ gap, isSpace c := by
  simp only [IsGap, isSpace_iff]

theorem isGap_nil : IsGap [] := List.forall_mem_nil _

theorem IsGap.append {gap gap' : List Char} (h : IsGap gap) (h' : IsGap gap') :
    IsGap (gap ++ gap') :=
  List.forall_mem_append.2 ⟨h, h'⟩

theorem isSegment_cons_iff {c : Char} {rest : List Char} :
    IsSegment (c :: rest) ↔ isIdentifierStart c ∧ ∀ x ∈ rest, isIdentifierPart x := by
  simp only [IsSegment, isIdentifierStart_iff, isIdentifierPart_iff]

theorem IsSegment.head {s : List Char} (h : IsSegment s) :
    ∃ c rest, s = c :: rest ∧ isIdentifierStart c ∧ ∀ x ∈ rest, isIdentifierPart x := by
  cases s with
  | nil => exact h.elim
  | cons c rest => exact ⟨c, rest, rfl, isSegment_cons_iff.1 h⟩

theorem IsPath.head {v : List Char} (h : IsPath v) :
    ∃ c rest, v = c :: rest ∧ isIdentifierStart c := by
  cases h with
  | segment hs =>
    obtain ⟨c, rest, rfl, hc, -⟩ := hs.head
    exact ⟨c, rest, rfl, hc⟩
  | join hs _ =>
    obtain ⟨c, rest, rfl, hc, -⟩ := hs.head
    exact ⟨c, _, List.cons_append, hc⟩

theorem IsName.head {v : List Char} (h : IsName v) :
    ∃ c rest, v = c :: rest ∧ (isIdentifierStart c ∨ c = '@' ∧ rest ≠ []) := by
  cases h with
  | path hp =>
    obtain ⟨c, rest, rfl, hc⟩ := hp.head
    exact ⟨c, rest, rfl, .inl hc⟩
  | marked hp =>
    obtain ⟨c, rest, rfl, -⟩ := hp.head
    exact ⟨'@', _, rfl, .inr ⟨rfl, List.cons_ne_nil _ _⟩⟩

theorem IsInteger.head {v : List Char} (h : IsInteger v) : ∃ c rest, v = c :: rest ∧ c.isDigit := by
  cases v with
  | nil => exact (h.1 rfl).elim
  | cons c rest => exact ⟨c, rest, rfl, h.2 c List.mem_cons_self⟩

theorem IsDecimal.head {v : List Char} (h : IsDecimal v) :
    ∃ c rest, v = c :: rest ∧ (c.isDigit ∨ c = '.' ∧ rest ≠ []) := by
  cases h with
  | point hw _ =>
    obtain ⟨c, rest, rfl, hc⟩ := hw.head
    exact ⟨c, _, List.cons_append, .inl hc⟩
  | bare hf => exact ⟨'.', _, rfl, .inr ⟨rfl, hf.1⟩⟩

theorem number_head {v : List Char} (h : IsInteger v ∨ IsDecimal v) :
    ∃ c rest, v = c :: rest ∧ (c.isDigit ∨ c = '.' ∧ rest ≠ []) := by
  rcases h with h | h
  · obtain ⟨c, rest, rfl, hc⟩ := h.head
    exact ⟨c, rest, rfl, .inl hc⟩
  · exact h.head

theorem IsName.head_not_space {v : List Char} (h : IsName v) :
    ∃ c rest, v = c :: rest ∧ isSpace c = false := by
  obtain ⟨c, rest, rfl, hc⟩ := h.head
  refine ⟨c, rest, rfl, ?_⟩
  rcases hc with hc | ⟨rfl, -⟩
  · exact isSpace_of_isIdentifierPart (isIdentifierPart_of_isIdentifierStart hc)
  · rfl

theorem number_head_not_space {v : List Char} (h : IsInteger v ∨ IsDecimal v) :
    ∃ c rest, v = c :: rest ∧ isSpace c = false := by
  obtain ⟨c, rest, rfl, hc⟩ := number_head h
  refine ⟨c, rest, rfl, ?_⟩
  rcases hc with hc | ⟨rfl, -⟩
  · exact isSpace_of_isDigit hc
  · rfl

/-- A lexeme is not empty and does not start with a blank, so a gap ends where it starts. -/
theorem Lexeme.head {kind : TokenKind} {v : List Char} (h : Lexeme kind v) :
    ∃ c rest, v = c :: rest ∧ isSpace c = false := by
  cases h with
  | name hv => exact hv.head_not_space
  | integer hv => exact number_head_not_space (.inl hv)
  | decimal hv => exact number_head_not_space (.inr hv)
  | string _ => exact ⟨'"', _, rfl, rfl⟩
  | pair h =>
    obtain ⟨⟨k, hc⟩, -⟩ := operator_marks h
    exact ⟨_, _, rfl, (mark_class hc).1⟩
  | mark h => exact ⟨_, _, rfl, (mark_class h).1⟩

theorem Malformed.head {cause : LexError.Cause} {text : List Char} (h : Malformed cause text) :
    ∃ c rest, text = c :: rest ∧ isSpace c = false := by
  cases h with
  | string _ => exact ⟨'"', _, rfl, rfl⟩
  | number hv _ _ _ =>
    obtain ⟨c, rest, rfl, hc⟩ := number_head_not_space hv
    exact ⟨c, _, List.cons_append, hc⟩
  | point hv =>
    obtain ⟨c, rest, rfl, hc⟩ := number_head_not_space (.inr hv)
    exact ⟨c, _, List.cons_append, hc⟩
  | name hv _ =>
    obtain ⟨c, rest, rfl, hc⟩ := hv.head_not_space
    exact ⟨c, _, List.cons_append, hc⟩
  | char hc _ _ _ => exact ⟨_, _, rfl, isSpace_eq_false_iff.2 hc⟩

theorem Malformed.ne_nil {cause : LexError.Cause} {text : List Char} (h : Malformed cause text) :
    text ≠ [] := by
  obtain ⟨c, rest, rfl, -⟩ := h.head
  exact List.cons_ne_nil c rest

/-! ## Blanks inside -/

theorem IsSegment.mem {s : List Char} (h : IsSegment s) : ∀ c ∈ s, isIdentifierPart c := by
  obtain ⟨c, run, rfl, hc, hrun⟩ := h.head
  exact List.forall_mem_cons.2 ⟨isIdentifierPart_of_isIdentifierStart hc, hrun⟩

theorem IsPath.mem {path : List Char} (h : IsPath path) :
    ∀ c ∈ path, isIdentifierPart c ∨ c = '.' := by
  induction h with
  | segment hs => exact fun c hc => .inl (hs.mem c hc)
  | join hs _ ih =>
    intro c hc
    rcases List.mem_append.1 hc with hc | hc
    · exact .inl (hs.mem c hc)
    · rcases List.mem_cons.1 hc with hc | hc
      · exact .inr hc
      · exact ih c hc

theorem IsName.not_space {v : List Char} (h : IsName v) : ∀ c ∈ v, isSpace c = false := by
  have hpath : ∀ {path : List Char}, IsPath path → ∀ c ∈ path, isSpace c = false := by
    intro path hp c hc
    rcases hp.mem c hc with hc | rfl
    · exact isSpace_of_isIdentifierPart hc
    · rfl
  cases h with
  | path hp => exact hpath hp
  | marked hp => exact List.forall_mem_cons.2 ⟨rfl, hpath hp⟩

theorem number_not_space {v : List Char} (h : IsInteger v ∨ IsDecimal v) :
    ∀ c ∈ v, isSpace c = false := by
  have hdigits : ∀ {digits : List Char}, IsDigits digits → ∀ c ∈ digits, isSpace c = false :=
    fun hd c hc => isSpace_of_isDigit (hd c hc)
  rcases h with h | h
  · exact hdigits h.2
  · cases h with
    | point hw hf =>
      exact List.forall_mem_append.2 ⟨hdigits hw.2, List.forall_mem_cons.2 ⟨rfl, hdigits hf⟩⟩
    | bare hf => exact List.forall_mem_cons.2 ⟨rfl, hdigits hf.2⟩

/-- A lexeme is a string, or there is no blank in it. -/
theorem Lexeme.string_or_not_space {kind : TokenKind} {v : List Char} (h : Lexeme kind v) :
    (kind = .string ∧ ∃ body, StringBody body ∧ v = '"' :: (body ++ ['"'])) ∨
      (kind ≠ .string ∧ ∀ c ∈ v, isSpace c = false) := by
  cases h with
  | name hv => exact .inr ⟨TokenKind.noConfusion, hv.not_space⟩
  | integer hv => exact .inr ⟨TokenKind.noConfusion, number_not_space (.inl hv)⟩
  | decimal hv => exact .inr ⟨TokenKind.noConfusion, number_not_space (.inr hv)⟩
  | string hb => exact .inl ⟨rfl, _, hb, rfl⟩
  | pair h =>
    obtain ⟨⟨k, hc⟩, ⟨k', hd⟩, -⟩ := operator_marks h
    refine .inr ⟨?_, by simp [(mark_class hc).1, (mark_class hd).1]⟩
    rintro rfl
    exact operator_kind h (by decide)
  | mark h =>
    refine .inr ⟨?_, by simp [(mark_class h).1]⟩
    rintro rfl
    exact mark_kind h (by decide)

/-! ## What glues to a lexeme of each kind -/

theorem IsName.not_number {v : List Char} (h : IsName v) : ¬ (IsInteger v ∨ IsDecimal v) := by
  intro hn
  obtain ⟨a, rest, rfl, ha⟩ := h.head
  obtain ⟨b, tail, hb, hd⟩ := number_head hn
  cases hb
  rcases ha with ha | ⟨rfl, -⟩
  · rcases hd with hd | ⟨rfl, -⟩
    · simp [isIdentifierStart_of_isDigit hd] at ha
    · exact absurd ha (by decide)
  · rcases hd with hd | ⟨hd, -⟩
    · exact absurd hd (by decide)
    · exact absurd hd (by decide)

theorem glues_name_iff {v : List Char} {c : Char} (h : IsName v) :
    Glues v c ↔ isIdentifierPart c ∨ c = '.' := by
  rw [isIdentifierPart_iff]
  refine ⟨fun hg => ?_, .name h⟩
  obtain ⟨a, rest, rfl, ha⟩ := h.head
  cases hg with
  | name _ hc => exact hc
  | number hn _ => exact absurd hn h.not_number
  | point _ => exact absurd ha (by decide)
  | atSign _ => exact absurd ha (by decide)
  | pair ho =>
    obtain ⟨⟨k, hm⟩, -⟩ := operator_marks ho
    rcases ha with ha | ⟨-, ha⟩
    · simp [(mark_class hm).2.1] at ha
    · exact absurd rfl ha

theorem glues_number_iff {v : List Char} {c : Char} (h : IsInteger v ∨ IsDecimal v) :
    Glues v c ↔ c = '.' ∨ endsNumber c = false := by
  rw [← Bool.not_eq_true, endsNumber_iff]
  refine ⟨fun hg => ?_, .number h⟩
  obtain ⟨a, rest, rfl, ha⟩ := number_head h
  cases hg with
  | name hn _ => exact absurd h hn.not_number
  | number _ hc => exact hc
  | point _ => exact absurd ha (by decide)
  | atSign _ => exact absurd ha (by decide)
  | pair ho =>
    obtain ⟨⟨k, hm⟩, -⟩ := operator_marks ho
    rcases ha with ha | ⟨-, ha⟩
    · simp [(mark_class hm).2.2.1] at ha
    · exact absurd rfl ha

/-- A lexeme of two or more chars is closed unless it is a name or a number. -/
theorem not_glues_of_first {c x : Char} {rest : List Char} (hs : isIdentifierStart c = false)
    (hd : c.isDigit = false) (hc : c ∉ ['.', '@']) (hr : rest ≠ []) : ¬ Glues (c :: rest) x := by
  simp only [List.mem_cons, List.not_mem_nil, or_false, not_or] at hc
  intro h
  cases h with
  | name hn _ =>
    obtain ⟨a, tail, ha, h⟩ := hn.head
    cases ha
    rcases h with h | ⟨h, -⟩
    · simp [hs] at h
    · exact hc.2 h
  | number hn _ =>
    obtain ⟨a, tail, ha, h⟩ := number_head hn
    cases ha
    rcases h with h | ⟨h, -⟩
    · simp [hd] at h
    · exact hc.1 h
  | point _ => exact hr rfl
  | atSign _ => exact hr rfl
  | pair _ => exact hr rfl

theorem not_glues_string {body : List Char} {x : Char} : ¬ Glues ('"' :: (body ++ ['"'])) x :=
  not_glues_of_first (by decide) (by decide) (by decide) (by simp)

theorem not_glues_pair {c d x : Char} {kind : TokenKind} (h : (c, d, kind) ∈ operators) :
    ¬ Glues [c, d] x := by
  obtain ⟨⟨k, hm⟩, -, hdot, hat⟩ := operator_marks h
  obtain ⟨-, hs, hd, -⟩ := mark_class hm
  exact not_glues_of_first hs hd (by simp [hdot, hat]) (List.cons_ne_nil _ _)

theorem glues_mark_iff {c x : Char} {kind : TokenKind} (h : (c, kind) ∈ marks) :
    Glues [c] x ↔ (c = '.' ∧ x.isDigit) ∨ (c = '@' ∧ isIdentifierStart x) ∨
      ∃ k, (c, x, k) ∈ operators := by
  obtain ⟨-, hs, hd, -⟩ := mark_class h
  rw [isIdentifierStart_iff]
  refine ⟨fun hg => ?_, ?_⟩
  · cases hg with
    | name hn _ =>
      obtain ⟨a, tail, ha, hfirst⟩ := hn.head
      cases ha
      rcases hfirst with hfirst | ⟨-, hfirst⟩
      · simp [hs] at hfirst
      · exact absurd rfl hfirst
    | number hn _ =>
      obtain ⟨a, tail, ha, hfirst⟩ := number_head hn
      cases ha
      rcases hfirst with hfirst | ⟨-, hfirst⟩
      · simp [hd] at hfirst
      · exact absurd rfl hfirst
    | point hx => exact .inl ⟨rfl, hx⟩
    | atSign hx => exact .inr (.inl ⟨rfl, hx⟩)
    | pair ho => exact .inr (.inr ⟨_, ho⟩)
  · rintro (⟨rfl, hx⟩ | ⟨rfl, hx⟩ | ⟨k, ho⟩)
    · exact .point hx
    · exact .atSign hx
    · exact .pair ho

/-- No lexeme goes on behind a blank. -/
theorem Glues.not_space {v : List Char} {c : Char} (h : Glues v c) : isSpace c = false := by
  cases h with
  | name _ hc =>
    rcases hc with hc | rfl
    · exact isSpace_of_isIdentifierPart (isIdentifierPart_iff.2 hc)
    · rfl
  | number _ hc =>
    rcases hc with rfl | hc
    · rfl
    · exact isSpace_eq_false_iff.2 fun hb => hc (.inl hb)
  | point hc => exact isSpace_of_isDigit hc
  | atSign hc =>
    have hpart := isIdentifierPart_of_isIdentifierStart (isIdentifierStart_iff.2 hc)
    exact isSpace_of_isIdentifierPart hpart
  | pair ho =>
    obtain ⟨-, ⟨k, hd⟩, -⟩ := operator_marks ho
    exact (mark_class hd).1

/-! ## What more text changes -/

theorem Apart.append {v rest w : List Char} (h : Apart v rest)
    (hw : rest = [] → ∀ c ∈ w.head?, isSpace c) : Apart v (rest ++ w) := by
  cases rest with
  | nil =>
    intro c hc hg
    simpa [hg.not_space] using hw rfl c hc
  | cons x rest => exact h

/-- More text mends no more than a string or an identifier that meets the end of the text. -/
theorem Malformed.append {cause : LexError.Cause} {text : List Char} (h : Malformed cause text)
    (hs : cause ≠ .unterminatedString) (hn : cause ≠ .malformedIdentifier none) (w : List Char) :
    Malformed cause (text ++ w) := by
  cases h with
  | string _ => exact absurd rfl hs
  | @number v rest c hv hd hc he =>
    rw [List.append_assoc, List.cons_append]
    exact .number hv hd hc he
  | @point v rest hv =>
    rw [List.append_assoc, List.cons_append]
    exact .point hv
  | @name v rest hv hrest =>
    rw [List.append_assoc, List.cons_append]
    cases rest with
    | nil => exact absurd rfl hn
    | cons x rest =>
      have hw : ∀ c ∈ (x :: (rest ++ w)).head?, ¬ StartsSegment c := hrest
      exact .name hv hw
  | @char c rest hblank hstart hdigit hmark => exact .char hblank hstart hdigit hmark

end ExprLexer
