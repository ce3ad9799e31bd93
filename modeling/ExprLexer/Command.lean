-- SUMMARY: The command line of the lexer: what it is asked to do and what it reports.
import ExprLexer.Lexer

/-!
# The command line

The command `celex` prints the tokens of its inputs or checks that they can be
read. Its inputs are files, or one expression given in place. The files are
reached through a function that returns their text or the reason why there is
none, so all that is written here is a matter of values.
-/

namespace ExprLexer

/-! ## Files -/

/-- Why a file has no text. -/
inductive ReadError where
  /-- Nothing of that name. -/
  | missing
  /-- The path goes through a file as if it were a folder. -/
  | notFolder
  /-- The path ends at a folder. -/
  | isFolder
  /-- The path or a name in it is too long. -/
  | nameTooLong
  /-- The bytes of the file stand for no text. -/
  | notUtf8
  /-- Something else that the system reports in its own words. -/
  | failed (reason : String)
deriving DecidableEq, Repr

namespace ReadError

/-- The report of a file that has no text. -/
def message : ReadError → String
  | missing => "No such file or directory (os error 2)"
  | notFolder => "Not a directory (os error 20)"
  | isFolder => "Is a directory (os error 21)"
  | nameTooLong => "File name too long (os error 36)"
  | notUtf8 => "stream did not contain valid UTF-8"
  | failed reason => reason

/-- The text that some bytes stand for. -/
def decode (bytes : ByteArray) : Except ReadError String :=
  match String.fromUTF8? bytes with
  | some text => .ok text
  | none => .error .notUtf8

end ReadError

namespace Command

/-- How files are reached: by a path, to their text. -/
abbrev Reader : Type := String → Except ReadError String

/-! ## What is asked for -/

/-- What to do with each input. -/
inductive Task where
  /-- Print its tokens. -/
  | tokens
  /-- Check that it can be read. -/
  | check
deriving DecidableEq, Repr

/-- The inputs. -/
inductive Input where
  | expression (text : String)
  | files (paths : List String)
deriving DecidableEq, Repr

/-- Why a command line asks for nothing that can be done. -/
inductive UsageError where
  | help
  | unknownCommand (name : String)
  | noFiles
  | noExpression
deriving DecidableEq, Repr

/-- What the command prints when it is called without arguments. -/
def usage : String :=
  "Usage: celex <command> [files...]\n" ++
  "       celex <command> -e <expression>\n" ++
  "\n" ++
  "Commands:\n" ++
  "  tokens  Print the tokens of each input\n" ++
  "  check   Check that each input lexes without errors\n" ++
  "\n" ++
  "Examples:\n" ++
  "  celex tokens rules.ce\n" ++
  "  celex check -e 'a.b >= 1.5 && @enabled'\n"

/-- The report of a usage error. -/
def UsageError.message : UsageError → String
  | help => usage
  | unknownCommand name => s!"Unknown command: {name}\n"
  | noFiles => "Error: no files specified\n"
  | noExpression => "Error: -e requires an expression\n"

/-- The task of a given name. -/
def Task.ofName? (name : String) : Option Task :=
  if name = "tokens" then some .tokens
  else if name = "check" then some .check
  else none

/-- The inputs that the arguments after the task name. Only as the first of them `-e` announces an
    expression, and what follows the expression is ignored. -/
def Input.parse : List String → Except UsageError Input
  | [] => .error .noFiles
  | first :: rest =>
    if first = "-e" then
      match rest with
      | [] => .error .noExpression
      | text :: _ => .ok (.expression text)
    else .ok (.files (first :: rest))

/-- What a command line asks for. -/
def parse : List String → Except UsageError (Task × Input)
  | [] => .error .help
  | name :: rest =>
    if name = "--help" ∨ name = "-h" then .error .help
    else
      match Task.ofName? name with
      | none => .error (.unknownCommand name)
      | some task => (Input.parse rest).map fun input => (task, input)

/-! ## What is reported -/

/-- What is written for some inputs, and whether all of them could be read. -/
structure Report where
  out : String
  err : String
  ok : Bool
deriving DecidableEq, Repr

namespace Report

/-- The report on no inputs. -/
def empty : Report := ⟨"", "", true⟩

/-- The report on some inputs and then on others. -/
def append (r s : Report) : Report := ⟨r.out ++ s.out, r.err ++ s.err, r.ok && s.ok⟩

instance : Append Report := ⟨append⟩

end Report

/-- The line that shows a token. -/
def record (token : Token TokenKind) : String :=
  s!"{token.location.display}\t{token.kind.name}\t{token.value}\n"

/-- What the line shows: line and column in decimal with a colon between them, the name of the kind
    and the value, each behind a tab. -/
theorem toList_record (token : Token TokenKind) :
    (record token).toList =
      Nat.toDigits 10 token.location.line ++ ':' :: (Nat.toDigits 10 token.location.column ++
        '\t' :: (token.kind.name.toList ++ '\t' :: (token.value.toList ++ ['\n']))) := by
  have hcolon : ":".toList = [':'] := rfl
  have htab : "\t".toList = ['\t'] := rfl
  have hfeed : "\n".toList = ['\n'] := rfl
  simp only [record, Location.display, toString, String.toList_append, hcolon, htab, hfeed,
    Nat.toList_repr, List.append_assoc, List.cons_append, List.nil_append]

/-- The report on one input that has a text. -/
def reportText (task : Task) (name text : String) : Except Fault Report :=
  match (Lexer.ofString text).drain with
  | .error fault => .error fault
  | .ok (tokens, l) =>
    let good := tokens.filter (·.kind != .error)
    let out := match task with
      | .tokens => String.join (good.map record)
      | .check => ""
    match l.error with
    | some e => .ok ⟨out, s!"{name}: {e.message}\n", false⟩
    | none =>
      match task with
      | .tokens => .ok ⟨out, "", true⟩
      | .check => .ok ⟨out, s!"{name}: valid ({good.length} token(s))\n", true⟩

/-- The report on one file. -/
def reportFile (read : Reader) (task : Task) (path : String) :
    Except Fault Report :=
  match read path with
  | .ok text => reportText task path text
  | .error e => .ok ⟨"", s!"{path}: {e.message}\n", false⟩

/-- The report on files, one after the other. -/
def reportFiles (read : Reader) (task : Task) :
    List String → Except Fault Report
  | [] => .ok .empty
  | path :: paths => do
    let report ← reportFile read task path
    let rest ← reportFiles read task paths
    return report ++ rest

/-- The report on the inputs. -/
def report (read : Reader) (task : Task) : Input → Except Fault Report
  | .expression text => reportText task "<expression>" text
  | .files paths => reportFiles read task paths

/-! ## The whole command -/

/-- What a command leaves behind. -/
structure Outcome where
  exitCode : Nat
  out : String
  err : String
deriving DecidableEq, Repr

/-- The outcome of a command line. The exit code is 2 if it asks for nothing that can be done, 1 if
    some input could not be read, and 0 otherwise. -/
def run (read : Reader) (args : List String) : Except Fault Outcome :=
  match parse args with
  | .error e => .ok ⟨2, "", e.message⟩
  | .ok (task, input) =>
    (report read task input).map fun r => ⟨if r.ok then 0 else 1, r.out, r.err⟩

end Command

end ExprLexer
