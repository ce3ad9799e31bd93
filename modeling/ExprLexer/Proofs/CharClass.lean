-- SUMMARY: How the classes of chars of the grammar overlap.
import ExprLexer.Grammar

/-!
# Classes of chars

The grammar tells tokens apart by their first chars, so it matters which classes
share a char. Blanks, digits and ASCII punctuation lie in ASCII; letters do not.
The only char of two classes that start different tokens is `_`, which is
punctuation and starts an identifier.
-/

namespace ExprLexer

/-! ## Chars of ASCII -/

/-- What holds of the 128 chars of ASCII, one by one, holds of each of them. -/
theorem forall_ascii {p : Char → Bool} (h : ∀ n < 128, p (Char.ofNat n)) {c : Char}
    (hc : c.toNat < 128) : p c := by
  have hp := h c.toNat hc
  rwa [Char.ofNat_toNat] at hp

theorem toNat_lt_of_isDigit {c : Char} (h : c.isDigit) : c.toNat < 128 := by
  simp only [Char.isDigit, Bool.and_eq_true, decide_eq_true_eq, ge_iff_le, UInt32.le_iff_toNat_le]
    at h
  exact Nat.lt_of_le_of_lt h.2 (by decide)

theorem toNat_lt_of_isAsciiPunctuation {c : Char} (h : isAsciiPunctuation c) :
    c.toNat < 128 := by
  simp only [isAsciiPunctuation, Bool.or_eq_true, Bool.and_eq_true, decide_eq_true_eq,
    Char.le_def, UInt32.le_iff_toNat_le] at h
  rcases h with ((h | h) | h) | h <;> exact Nat.lt_of_le_of_lt h.2 (by decide)

/-! ## Blanks -/

theorem eq_of_isSpace {c : Char} (h : isSpace c) : c = ' ' ∨ c = '\t' ∨ c = '\r' ∨ c = '\n' := by
  simpa [isSpace, or_assoc] using h

theorem isIdentifierPart_of_isSpace {c : Char} (h : isSpace c) : isIdentifierPart c = false := by
  rcases eq_of_isSpace h with rfl | rfl | rfl | rfl <;> decide

theorem isDigit_of_isSpace {c : Char} (h : isSpace c) : c.isDigit = false := by
  rcases eq_of_isSpace h with rfl | rfl | rfl | rfl <;> decide

theorem isAsciiPunctuation_of_isSpace {c : Char} (h : isSpace c) :
    isAsciiPunctuation c = false := by
  rcases eq_of_isSpace h with rfl | rfl | rfl | rfl <;> decide

/-! ## Identifiers -/

theorem isIdentifierPart_of_isIdentifierStart {c : Char} (h : isIdentifierStart c) :
    isIdentifierPart c := by
  simp only [isIdentifierStart, Bool.or_eq_true] at h
  simp only [isIdentifierPart, Bool.or_eq_true]
  exact .inl h

theorem isSpace_of_isIdentifierPart {c : Char} (h : isIdentifierPart c) : isSpace c = false := by
  cases hs : isSpace c with
  | false => rfl
  | true => simp [isIdentifierPart_of_isSpace hs] at h

/-! ## Digits -/

theorem isIdentifierStart_of_isDigit {c : Char} (h : c.isDigit) : isIdentifierStart c = false := by
  have hp := forall_ascii (p := fun c => !c.isDigit || !isIdentifierStart c) (by decide)
    (toNat_lt_of_isDigit h)
  simpa [h] using hp

theorem endsNumber_of_isDigit {c : Char} (h : c.isDigit) : endsNumber c = false := by
  have hp := forall_ascii (p := fun c => !c.isDigit || !endsNumber c) (by decide)
    (toNat_lt_of_isDigit h)
  simpa [h] using hp

theorem isSpace_of_isDigit {c : Char} (h : c.isDigit) : isSpace c = false := by
  cases hs : isSpace c with
  | false => rfl
  | true => simp [isDigit_of_isSpace hs] at h

/-! ## Punctuation -/

theorem isSpace_of_isAsciiPunctuation {c : Char} (h : isAsciiPunctuation c) :
    isSpace c = false := by
  cases hs : isSpace c with
  | false => rfl
  | true => simp [isAsciiPunctuation_of_isSpace hs] at h

theorem isDigit_of_isAsciiPunctuation {c : Char} (h : isAsciiPunctuation c) :
    c.isDigit = false := by
  cases hd : c.isDigit with
  | false => rfl
  | true => simpa [endsNumber, h] using endsNumber_of_isDigit hd

theorem isIdentifierPart_of_isAsciiPunctuation {c : Char} (h : isAsciiPunctuation c)
    (hc : c ≠ '_') : isIdentifierPart c = false := by
  have hp := forall_ascii
    (p := fun c => !isAsciiPunctuation c || c == '_' || !isIdentifierPart c) (by decide)
    (toNat_lt_of_isAsciiPunctuation h)
  simpa [h, hc] using hp

theorem isIdentifierStart_of_isAsciiPunctuation {c : Char} (h : isAsciiPunctuation c)
    (hc : c ≠ '_') : isIdentifierStart c = false := by
  cases hs : isIdentifierStart c with
  | false => rfl
  | true =>
    simpa [isIdentifierPart_of_isAsciiPunctuation h hc] using
      isIdentifierPart_of_isIdentifierStart hs

end ExprLexer
