-- SUMMARY: How a char is shown inside a message.
import ExprLexer.Text.Extender
import ExprLexer.Text.Hidden

/-!
# Quoted chars

A message shows a char between single quotes. A few chars have an escape of two
letters; a char that leaves no mark of its own, or that would attach to the
quote before it, is shown by its code point; every other char stands for itself.
-/

namespace ExprLexer.Quoted

/-- The letter that follows the backslash for a char with an escape of its own. -/
def shortEscape? (c : Char) : Option Char :=
  if c = '\x00' then some '0'
  else if c = '\t' then some 't'
  else if c = '\r' then some 'r'
  else if c = '\n' then some 'n'
  else if c = '\x27' then some '\x27'
  else if c = '\\' then some '\\'
  else none

/-- Whether a char without an escape of its own is shown by its code point. -/
def needsCode (c : Char) : Bool := isExtender c || isHidden c

/-- The code point of a char: lowercase hexadecimal digits in braces. -/
def codeEscape (c : Char) : List Char :=
  ['\\', 'u', '\x7b'] ++ Nat.toDigits 16 c.toNat ++ ['\x7d']

/-- What stands between the quotes. -/
def body (c : Char) : List Char :=
  match shortEscape? c with
  | some letter => ['\\', letter]
  | none => if needsCode c then codeEscape c else [c]

/-- A char between single quotes. -/
def quote (c : Char) : String := String.ofList ('\x27' :: body c ++ ['\x27'])

end ExprLexer.Quoted
