-- SUMMARY: What can be wrong with a CE expression, and how it is reported.
import ExprLexer.Kind
import ExprLexer.Text.Quoted
import ExprLexer.Token

/-!
# Lexical errors

A lexical error is a failure with one of five causes, at the place where the
token starts that could not be read.
-/

namespace ExprLexer

/-- Why a token could not be read. -/
inductive LexError.Cause where
  /-- The text ends inside a string. -/
  | unterminatedString
  /-- A number is followed by a char that can neither continue nor end it. -/
  | malformedNumber (c : Char)
  /-- A number has a second decimal point. -/
  | nestedDecimal
  /-- A dot in an identifier is followed by a char that can not start a segment, or by the end
      of the text. -/
  | malformedIdentifier (c : Option Char)
  /-- A char starts no token at all. -/
  | unexpectedChar (c : Char)
deriving DecidableEq, Repr

/-- A cause in words. -/
def LexError.Cause.message : LexError.Cause → String
  | unterminatedString => "string not properly terminated"
  | malformedNumber c => "malformed number: unexpected character " ++ Quoted.quote c
  | nestedDecimal => "malformed number: more than one '.'"
  | malformedIdentifier (some c) =>
    "malformed identifier: segment cannot start with " ++ Quoted.quote c
  | malformedIdentifier none => "malformed identifier: empty segment at end of input"
  | unexpectedChar c => "unexpected character: " ++ Quoted.quote c

/-- What is wrong with a text, and where. -/
abbrev LexError : Type := Failure LexError.Cause

/-- An error in words: its cause and the line and column of the token. -/
def LexError.message (e : LexError) : String :=
  s!"{e.cause.message} at line {e.location.line}, column {e.location.column}"

instance : Vocabulary TokenKind LexError.Cause where
  errorKind := .error
  describe := LexError.Cause.message

end ExprLexer
