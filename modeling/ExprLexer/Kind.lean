-- SUMMARY: The kinds of tokens of a CE expression, their names and their order.

/-!
# Token kinds

CE is a small language of configuration and conditional expressions. Its tokens
are strings, identifiers, numbers and punctuation, where most punctuation marks
have a kind of their own. The kinds are ordered as they are declared, and each
is known by its name.
-/

namespace ExprLexer

/-- The kind of a token. -/
inductive TokenKind where
  /-- No token at all. The lexer never emits it. -/
  | empty
  /-- A lexical error, reported by the value of the token. -/
  | error
  /-- A text in double quotes, quotes and escapes included. -/
  | string
  /-- A name, a dotted path, or an annotation. -/
  | identifier
  | integer
  /-- A number with a decimal point, which may come first or last. -/
  | decimal
  /-- A punctuation mark with no kind of its own. -/
  | punctuation
  | leftParen | rightParen
  | leftSquare | rightSquare
  | leftCurly | rightCurly
  | quote | comma | semicolon | colon | dot
  | plus | minus | multiply | divide | modulo | power
  | not
  | equal | equalTo | notEqual
  | lessThan | lessThanOrEqual | greaterThan | greaterThanOrEqual
  | tagClose | selfClose
  | bitwiseAnd | logicalAnd | bitwiseOr | logicalOr
deriving DecidableEq, Inhabited, Repr

namespace TokenKind

/-- Every kind, in order. -/
def all : List TokenKind :=
  [empty, error, string, identifier, integer, decimal, punctuation,
   leftParen, rightParen, leftSquare, rightSquare, leftCurly, rightCurly,
   quote, comma, semicolon, colon, dot,
   plus, minus, multiply, divide, modulo, power,
   not, equal, equalTo, notEqual,
   lessThan, lessThanOrEqual, greaterThan, greaterThanOrEqual,
   tagClose, selfClose,
   bitwiseAnd, logicalAnd, bitwiseOr, logicalOr]

/-- The name of a kind. -/
def name : TokenKind → String
  | empty => "Empty"
  | error => "Error"
  | string => "String"
  | identifier => "Identifier"
  | integer => "Integer"
  | decimal => "Decimal"
  | punctuation => "Punctuation"
  | leftParen => "LParen"
  | rightParen => "RParen"
  | leftSquare => "SquareLParen"
  | rightSquare => "SquareRParen"
  | leftCurly => "CurlyLParen"
  | rightCurly => "CurlyRParen"
  | quote => "Quote"
  | comma => "Comma"
  | semicolon => "Semicolon"
  | colon => "Colon"
  | dot => "Dot"
  | plus => "Plus"
  | minus => "Minus"
  | multiply => "Multiply"
  | divide => "Divide"
  | modulo => "Modulo"
  | power => "Power"
  | not => "Not"
  | equal => "Equal"
  | equalTo => "EqualTo"
  | notEqual => "NotEqual"
  | lessThan => "LessThan"
  | lessThanOrEqual => "LessThanOrEqual"
  | greaterThan => "GreaterThan"
  | greaterThanOrEqual => "GreaterThanOrEqual"
  | tagClose => "TagClose"
  | selfClose => "SelfClose"
  | bitwiseAnd => "BitwiseAnd"
  | logicalAnd => "LogicalAnd"
  | bitwiseOr => "BitwiseOr"
  | logicalOr => "LogicalOr"

/-- The kind of a given name. -/
def ofName? (name : String) : Option TokenKind := all.find? (·.name == name)

/-- A kind is found under its name, so no two kinds share one. -/
theorem ofName?_name (kind : TokenKind) : ofName? kind.name = some kind := by
  cases kind <;> rfl

/-- The place of a kind in the order. -/
def ordinal (kind : TokenKind) : Nat := all.idxOf kind

instance : Ord TokenKind where
  compare a b := compare a.ordinal b.ordinal

/-! ## Punctuation -/

/-- The kind of a punctuation mark that never joins with the char after it. -/
def ofPunctuation (c : Char) : TokenKind :=
  match c with
  | '(' => leftParen
  | ')' => rightParen
  | '[' => leftSquare
  | ']' => rightSquare
  | '\x7b' => leftCurly
  | '\x7d' => rightCurly
  | '\x27' => quote
  | ',' => comma
  | ';' => semicolon
  | ':' => colon
  | '+' => plus
  | '-' => minus
  | '*' => multiply
  | '%' => modulo
  | '^' => power
  | _ => punctuation

end TokenKind

end ExprLexer
