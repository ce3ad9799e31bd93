-- SUMMARY: The lexer of CE expressions: tokens on demand, or all at once.
import ExprLexer.Grammar
import ExprLexer.Scanner.Pull

/-!
# The lexer

A lexer is a scanner over the CE grammar. A byte order mark that opens the text
is passed first. Tokens come one at a time (`Lexer.nextToken`); a text that can
not be read to its end yields one error token, the last one. `tokenize` reads a
whole text and returns either all of its tokens or what is wrong with it.

The faults of a scanner stay in the types here. Whether the CE grammar can cause
one is a statement about it, not something its type assumes.
-/

namespace ExprLexer

/-- A scanner over the CE grammar. -/
structure Lexer where
  scanner : Scanner TokenKind LexError.Cause Mode

namespace Lexer

/-- A lexer at the start of a text. -/
def ofList (text : List Char) : Lexer where
  scanner := .ofCursor (Cursor.ofList text).skipMark .start

/-- A lexer at the start of a text. -/
def ofString (text : String) : Lexer := ofList text.toList

/-- The next token, if there is one, and the lexer after it. -/
def nextToken (l : Lexer) : Except Fault (Option (Token TokenKind) × Lexer) :=
  match l.scanner.nextToken grammar with
  | .error fault => .error fault
  | .ok (token, scanner) => .ok (token, ⟨scanner⟩)

/-- What ended the lexer early, if anything did. -/
def error (l : Lexer) : Option LexError := l.scanner.failure

/-- Whether no state is left to run, so that no more tokens will be found. -/
def isTerminated (l : Lexer) : Bool := l.scanner.isTerminated

/-- All remaining tokens, and the lexer after them. A text has no more tokens than chars, so one
    pull more than that is enough to see the end. -/
def drain (l : Lexer) : Except Fault (List (Token TokenKind) × Lexer) :=
  match l.scanner.collect grammar (l.scanner.workspace.cursor.text.length + 1) with
  | .error fault => .error fault
  | .ok (tokens, scanner) => .ok (tokens, ⟨scanner⟩)

end Lexer

/-- The tokens of a text, or what is wrong with it. -/
def tokenize (text : String) : Except Fault (Except LexError (List (Token TokenKind))) :=
  match (Lexer.ofString text).drain with
  | .error fault => .error fault
  | .ok (tokens, l) =>
    match l.error with
    | some e => .ok (.error e)
    | none => .ok (.ok (tokens.filter (·.kind != .error)))

end ExprLexer
