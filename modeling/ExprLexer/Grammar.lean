-- SUMMARY: The lexical grammar of CE expressions as states of a scanner.
import ExprLexer.LexError
import ExprLexer.Scanner.Script
import ExprLexer.Text.Alphabetic
import ExprLexer.Text.Numeric

/-!
# The lexical grammar

The states of the CE grammar and their scripts. A token is recognised by its
first char and read as far as it goes. Its end is known by the char behind it:
a number, or a mark that may start an operator of two, reads that char and gives
it back, an identifier asks for a dot, and no state ever gives back more than
one char.

Only a number can end the scan while it is emitted: when the text ends with it
there is nothing left to decide.
-/

namespace ExprLexer

/-! ## Classes of chars -/

/-- The blanks that separate tokens. -/
def isSpace (c : Char) : Bool := c == ' ' || c == '\t' || c == '\r' || c == '\n'

/-- The chars that can start a segment of an identifier. -/
def isIdentifierStart (c : Char) : Bool := c == '_' || isAlphabetic c

/-- The chars that can continue a segment of an identifier. -/
def isIdentifierPart (c : Char) : Bool := c == '_' || isAlphabetic c || isNumeric c

/-- The chars that may stand right after a number without being part of it. -/
def endsNumber (c : Char) : Bool := isSpace c || isAsciiPunctuation c

/-! ## States -/

/-- A state of the grammar, by what has been read of the pending token. -/
inductive Mode where
  /-- Nothing. -/
  | start
  /-- A blank. -/
  | blanks
  /-- A digit, and nothing but digits. -/
  | integer
  /-- A number with its decimal point. -/
  | fraction
  /-- An identifier up to some char of a segment. -/
  | identifier
  /-- An identifier up to a dot. -/
  | segment
  /-- The `@` of an annotation. -/
  | atSign
  /-- The opening quote of a string. -/
  | string
deriving DecidableEq, Repr

namespace Mode

/-- What a state does. Its result is the state to go on with. -/
abbrev Task : Type 1 := Script TokenKind LexError.Cause (Option Mode)

/-- Queues the pending text as a token and goes on with the next one. -/
def finish (kind : TokenKind) : Task := do
  Script.emit kind
  return some start

/-- Reads the char behind a mark. If one of the pairs names it, the two make an operator of the
    kind that the pair gives. If not, it is given back, and the mark stands alone. -/
def lookahead (pairs : List (Char × TokenKind)) (single : TokenKind) :
    Script TokenKind LexError.Cause TokenKind := do
  match (← Script.next).bind fun c => pairs.lookup c with
  | some kind => return kind
  | none =>
    Script.rewind
    return single

/-- The kind of the operator or the mark that starts with `c`, which has been read. -/
def readOperator (c : Char) : Script TokenKind LexError.Cause TokenKind :=
  match c with
  | '<' => lookahead [('=', .lessThanOrEqual), ('>', .notEqual), ('/', .tagClose)] .lessThan
  | '>' => lookahead [('=', .greaterThanOrEqual)] .greaterThan
  | '=' => lookahead [('=', .equalTo)] .equal
  | '!' => lookahead [('=', .notEqual)] .not
  | '/' => lookahead [('>', .selfClose)] .divide
  | '&' => lookahead [('&', .logicalAnd)] .bitwiseAnd
  | '|' => lookahead [('|', .logicalOr)] .bitwiseOr
  | '.' => return .dot
  | c => return TokenKind.ofPunctuation c

/-- Tells by its first char what token starts here. -/
def readStart : Task := do
  match ← Script.next with
  | none => return none
  | some c =>
    if isSpace c then return some blanks
    else if isIdentifierStart c then return some identifier
    else if c.isDigit then return some integer
    else if c = '"' then return some string
    else
      let following ← Script.peek
      if c = '@' ∧ following.any isIdentifierStart then return some atSign
      else if c = '.' ∧ following.any Char.isDigit then return some fraction
      else if isAsciiPunctuation c then finish (← readOperator c)
      else Script.fail (.unexpectedChar c)

/-- Passes the blanks between two tokens. -/
def readBlanks : Task := do
  let _ ← Script.takeWhile isSpace
  Script.ignore
  return some start

/-- Ends a number of the given kind, where `following` has been read behind it. A char that may
    stand there is given back. -/
def endNumber (kind : TokenKind) (following : Option Char) : Task := do
  match following with
  | none =>
    Script.emit kind
    return none
  | some c =>
    if endsNumber c then
      Script.rewind
      finish kind
    else Script.fail (.malformedNumber c)

/-- Reads the digits of a number of the given kind up to its end, or up to a point: then `atPoint`
    says what to do. -/
def readDigits (kind : TokenKind) (atPoint : Task) : Task := do
  let _ ← Script.takeWhile Char.isDigit
  match ← Script.next with
  | some '.' => atPoint
  | following => endNumber kind following

/-- Reads the digits of a number up to its end or its decimal point. -/
def readInteger : Task := readDigits .integer (return some fraction)

/-- Reads the digits after a decimal point. A second point is an error. -/
def readFraction : Task := readDigits .decimal (Script.fail .nestedDecimal)

/-- Reads a segment of an identifier. A dot right after it joins the next segment to it. -/
def readIdentifier : Task := do
  let _ ← Script.takeWhile isIdentifierPart
  if ← Script.accept '.' then return some segment
  finish .identifier

/-- Reads the first char of a segment. -/
def readSegment : Task := do
  match ← Script.next with
  | some c =>
    if isIdentifierStart c then return some identifier
    else Script.fail (.malformedIdentifier (some c))
  | none => Script.fail (.malformedIdentifier none)

/-- Reads the first char of an annotation's name, which is known to start an identifier. -/
def readAtSign : Task := do
  let _ ← Script.next
  return some identifier

/-- Whether a char stands inside a string, and whether it takes the next char with it: a backslash
    does, unless it was itself taken (`escaped`). -/
def insideString (escaped : Bool) (c : Char) : Bool × Bool :=
  if escaped then (true, false)
  else if c = '\\' then (true, true)
  else (c != '"', false)

/-- Reads a string up to its closing quote. -/
def readString : Task := do
  let _ ← Script.takeWhileState insideString false
  match ← Script.next with
  | some _ => finish .string
  | none => Script.fail .unterminatedString

end Mode

/-- The lexical grammar of CE expressions. -/
def grammar : Grammar TokenKind LexError.Cause Mode
  | .start => Mode.readStart
  | .blanks => Mode.readBlanks
  | .integer => Mode.readInteger
  | .fraction => Mode.readFraction
  | .identifier => Mode.readIdentifier
  | .segment => Mode.readSegment
  | .atSign => Mode.readAtSign
  | .string => Mode.readString

end ExprLexer
