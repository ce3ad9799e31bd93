-- SUMMARY: Sets of chars given as ranges of code points, and the punctuation of ASCII.

/-!
# Ranges of code points

The classes of Unicode are given as lists of ranges, in order and with gaps
between them. The chars of ASCII that leave a mark and are neither letters nor
digits come in four blocks.
-/

namespace ExprLexer

/-- The code points from the first to the second, both included. -/
abbrev CodeRange : Type := Nat × Nat

/-- Whether one of the ranges has the char. -/
def CodeRange.cover (ranges : List CodeRange) (c : Char) : Bool :=
  ranges.any fun r => r.1 ≤ c.toNat && c.toNat ≤ r.2

/-- Whether a char is one of the punctuation marks and symbols of ASCII. -/
def isAsciiPunctuation (c : Char) : Bool :=
  ('!' ≤ c && c ≤ '/') || (':' ≤ c && c ≤ '@') || ('[' ≤ c && c ≤ '\x60') ||
    ('\x7b' ≤ c && c ≤ '~')

end ExprLexer
