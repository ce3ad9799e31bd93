-- SUMMARY: What each char can be in a CE expression, and that the grammar asks for just that.
import ExprLexer.Proofs.CharClass

/-!
# The alphabet

What a char can be in a CE expression is said here without the grammar: which
chars are blanks, which are in names, which marks there are, and which two of
them make an operator. The tests of the grammar decide these classes, one lemma
for each; the marks are all the punctuation of ASCII but the quote and the
underscore, which start strings and names (`exists_mark_iff`).
-/

namespace ExprLexer

/-! ## Classes -/

/-- The blanks that stand between lexemes. -/
def IsBlank (c : Char) : Prop := c ∈ [' ', '\t', '\r', '\n']

/-- The chars that a segment of a name starts with. -/
def StartsSegment (c : Char) : Prop := c = '_' ∨ isAlphabetic c

/-- The chars that a segment of a name goes on with. -/
def ContinuesSegment (c : Char) : Prop := c = '_' ∨ isAlphabetic c ∨ isNumeric c

/-- The punctuation of ASCII: what leaves a mark there and is neither a letter nor a digit. -/
def IsPunctuation (c : Char) : Prop := '!' ≤ c ∧ c ≤ '~' ∧ c.isAlphanum = false

instance : DecidablePred IsBlank := fun _ => inferInstanceAs (Decidable (_ ∈ _))
instance : DecidablePred StartsSegment := fun _ => inferInstanceAs (Decidable (_ ∨ _))
instance : DecidablePred ContinuesSegment := fun _ => inferInstanceAs (Decidable (_ ∨ _ ∨ _))
instance : DecidablePred IsPunctuation := fun _ => inferInstanceAs (Decidable (_ ∧ _ ∧ _))

/-- The marks that can stand alone, with their kinds. -/
def marks : List (Char × TokenKind) :=
  [('(', .leftParen), (')', .rightParen), ('[', .leftSquare), (']', .rightSquare),
   ('\x7b', .leftCurly), ('\x7d', .rightCurly), ('\x27', .quote), (',', .comma),
   (';', .semicolon), (':', .colon), ('.', .dot), ('+', .plus), ('-', .minus),
   ('*', .multiply), ('/', .divide), ('%', .modulo), ('^', .power), ('!', .not), ('=', .equal),
   ('<', .lessThan), ('>', .greaterThan), ('&', .bitwiseAnd), ('|', .bitwiseOr),
   ('@', .punctuation), ('#', .punctuation), ('$', .punctuation), ('?', .punctuation),
   ('\\', .punctuation), ('\x60', .punctuation), ('~', .punctuation)]

/-- The operators of two marks, with their kinds. -/
def operators : List (Char × Char × TokenKind) :=
  [('<', '=', .lessThanOrEqual), ('<', '>', .notEqual), ('<', '/', .tagClose),
   ('>', '=', .greaterThanOrEqual), ('=', '=', .equalTo), ('!', '=', .notEqual),
   ('/', '>', .selfClose), ('&', '&', .logicalAnd), ('|', '|', .logicalOr)]

variable {c d : Char} {kind : TokenKind}

/-! ## The tests of the grammar -/

theorem isSpace_iff : isSpace c ↔ IsBlank c := by
  simp [isSpace, IsBlank, or_assoc]

theorem isSpace_eq_false_iff : isSpace c = false ↔ ¬ IsBlank c := by
  rw [← isSpace_iff, Bool.not_eq_true]

theorem isIdentifierStart_iff : isIdentifierStart c ↔ StartsSegment c := by
  simp [isIdentifierStart, StartsSegment]

theorem isIdentifierPart_iff : isIdentifierPart c ↔ ContinuesSegment c := by
  simp [isIdentifierPart, ContinuesSegment, or_assoc]

theorem IsPunctuation.toNat_lt (h : IsPunctuation c) : c.toNat < 128 :=
  Nat.lt_of_le_of_lt (UInt32.le_iff_toNat_le.1 h.2.1) (by decide)

theorem isAsciiPunctuation_iff : isAsciiPunctuation c ↔ IsPunctuation c := by
  have hascii : c.toNat < 128 → isAsciiPunctuation c = decide (IsPunctuation c) := by
    intro hc
    have hp := forall_ascii (p := fun c => isAsciiPunctuation c == decide (IsPunctuation c))
      (by decide) hc
    simpa using hp
  constructor
  · intro h
    simpa [h] using hascii (toNat_lt_of_isAsciiPunctuation h)
  · intro h
    simpa [h] using hascii h.toNat_lt

theorem endsNumber_iff : endsNumber c ↔ IsBlank c ∨ IsPunctuation c := by
  rw [endsNumber, Bool.or_eq_true, isSpace_iff, isAsciiPunctuation_iff]

/-! ## Marks and operators -/

/-- No punctuation is left out but the quote and the underscore. -/
theorem exists_mark_iff :
    (∃ kind, (c, kind) ∈ marks) ↔ IsPunctuation c ∧ c ≠ '"' ∧ c ≠ '_' := by
  constructor
  · rintro ⟨kind, h⟩
    have hall : ∀ m ∈ marks, IsPunctuation m.1 ∧ m.1 ≠ '"' ∧ m.1 ≠ '_' := by decide
    exact hall _ h
  · rintro ⟨hp, hquote, hscore⟩
    have hmem := forall_ascii
      (p := fun c => !decide (IsPunctuation c) || c == '"' || c == '_' ||
        marks.any fun m => m.1 == c) (by decide) hp.toNat_lt
    simpa [hp, hquote, hscore] using hmem

/-- A mark stands for nothing else: it is in no name and no number, and no blank. -/
theorem mark_class (h : (c, kind) ∈ marks) :
    isSpace c = false ∧ isIdentifierStart c = false ∧ c.isDigit = false ∧
      isAsciiPunctuation c ∧ c ≠ '"' := by
  obtain ⟨hp, hquote, hscore⟩ := exists_mark_iff.1 ⟨kind, h⟩
  have hp := isAsciiPunctuation_iff.2 hp
  exact ⟨isSpace_of_isAsciiPunctuation hp, isIdentifierStart_of_isAsciiPunctuation hp hscore,
    isDigit_of_isAsciiPunctuation hp, hp, hquote⟩

theorem mark_kind (h : (c, kind) ∈ marks) :
    kind ∉ [TokenKind.error, .string, .identifier, .integer, .decimal] := by
  have hall : ∀ m ∈ marks, m.2 ∉ [TokenKind.error, .string, .identifier, .integer, .decimal] := by
    decide
  exact hall _ h

theorem operator_kind (h : (c, d, kind) ∈ operators) :
    kind ∉ [TokenKind.error, .string, .identifier, .integer, .decimal] := by
  have hall : ∀ o ∈ operators,
      o.2.2 ∉ [TokenKind.error, .string, .identifier, .integer, .decimal] := by decide
  exact hall _ h

/-- Operators are made of marks, and no dot and no `@` starts one. -/
theorem operator_marks (h : (c, d, kind) ∈ operators) :
    (∃ k, (c, k) ∈ marks) ∧ (∃ k, (d, k) ∈ marks) ∧ c ≠ '.' ∧ c ≠ '@' := by
  have hall : ∀ o ∈ operators,
      o.1 ∈ marks.map Prod.fst ∧ o.2.1 ∈ marks.map Prod.fst ∧ o.1 ≠ '.' ∧ o.1 ≠ '@' := by decide
  simpa using hall _ h

/-- The second marks of the operators that `c` starts. -/
def operatorsFrom (c : Char) : List (Char × TokenKind) :=
  operators.filterMap fun o => if o.1 = c then some o.2 else none

theorem lookup_operatorsFrom (h : (c, d, kind) ∈ operators) :
    (operatorsFrom c).lookup d = some kind := by
  have hall : ∀ o ∈ operators, (operatorsFrom o.1).lookup o.2.1 = some o.2.2 := by decide
  exact hall _ h

theorem lookup_operatorsFrom_eq_none (h : ∀ kind, (c, d, kind) ∉ operators) :
    (operatorsFrom c).lookup d = none := by
  rw [List.lookup_eq_none_iff]
  intro pair hpair
  obtain ⟨o, ho, hc⟩ := List.mem_filterMap.1 hpair
  obtain ⟨hfirst, hsecond⟩ := Option.ite_none_right_eq_some.1 hc
  cases hsecond
  refine bne_iff_ne.2 ?_
  rintro rfl
  exact h o.2.2 (hfirst ▸ ho)

end ExprLexer
