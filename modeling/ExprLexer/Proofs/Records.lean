-- SUMMARY: What `tokens` writes can be read back, although nothing in it is escaped.
import ExprLexer.Proofs.Reports

/-!
# Records

`tokens` writes a record for each token: its line and column, its kind and its value,
with a tab or a line feed behind each. A string is written as it stands in the text,
so its value may hold tabs, line feeds and what looks like more records. Still the
records can be told apart. A string ends at the first quote that no backslash takes,
and the value of any other token has no blank in it, so the kind says how far the
value goes (`value?_append`).

Main statement: what is written for a text is read back as the records of its tokens,
so the same is written for two texts exactly if their tokens agree in kind, value,
line and column (`Command.tokens_recoverable`).
-/

namespace ExprLexer.Command

/-- What is written of a token. -/
structure Record where
  line : Nat
  column : Nat
  kind : TokenKind
  value : String
deriving DecidableEq, Repr

namespace Record

def ofToken (token : Token TokenKind) : Record :=
  ⟨token.location.line, token.location.column, token.kind, token.value⟩

/-- A record as it is written. -/
def write (r : Record) : String := s!"{r.line}:{r.column}\t{r.kind.name}\t{r.value}\n"

theorem write_ofToken (token : Token TokenKind) : (ofToken token).write = record token := rfl

end Record

/-- The records of the tokens that are written: an error is no token here. -/
def recordsOf (tokens : List (Token TokenKind)) : List Record :=
  (tokens.filter (·.kind != .error)).map Record.ofToken

/-! ## Reading -/

/-- The text up to the first `stop`, and the text behind it. -/
def field? (stop : Char) (text : List Char) : Option (List Char × List Char) :=
  match text.dropWhile (· != stop) with
  | [] => none
  | _ :: rest => some (text.takeWhile (· != stop), rest)

/-- What is left of a string behind its opening quote, and the text behind the string. -/
def stringEnd? : List Char → Option (List Char × List Char)
  | [] => none
  | '"' :: rest => some (['"'], rest)
  | '\\' :: c :: text => (stringEnd? text).map fun (tail, rest) => ('\\' :: c :: tail, rest)
  | c :: text => (stringEnd? text).map fun (tail, rest) => (c :: tail, rest)

/-- A string, and the text behind it. -/
def string? : List Char → Option (List Char × List Char)
  | '"' :: text => (stringEnd? text).map fun (tail, rest) => ('"' :: tail, rest)
  | _ => none

/-- A value of the given kind, and the text behind it. -/
def value? (kind : TokenKind) (text : List Char) : Option (List Char × List Char) :=
  if kind = .string then string? text
  else some (text.takeWhile (· != '\n'), text.dropWhile (· != '\n'))

/-- A number, and the text behind the `stop` that follows it. -/
def number? (stop : Char) (text : List Char) : Option (Nat × List Char) := do
  let (digits, rest) ← field? stop text
  if digits ≠ [] ∧ digits.all Char.isDigit then
    return (Nat.ofDigitChars 10 digits 0, rest)
  else none

/-- The first record of a text, and the text behind it. -/
def record? (text : List Char) : Option (Record × List Char) := do
  let (line, text) ← number? ':' text
  let (column, text) ← number? '\t' text
  let (name, text) ← field? '\t' text
  let kind ← TokenKind.ofName? (String.ofList name)
  match ← value? kind text with
  | (value, '\n' :: rest) => return (⟨line, column, kind, String.ofList value⟩, rest)
  | _ => none

/-- All records of a text, if it consists of records. -/
def decode (text : List Char) : Option (List Record) :=
  if text = [] then some []
  else
    match record? text with
    | none => none
    | some (r, rest) =>
      if rest.length < text.length then (decode rest).map (r :: ·) else none
termination_by text.length

/-! ## Reading what is written -/

variable {stop : Char} {piece rest v : List Char} {kind : TokenKind}

theorem span_append (h : stop ∉ piece) :
    (piece ++ stop :: rest).takeWhile (· != stop) = piece ∧
      (piece ++ stop :: rest).dropWhile (· != stop) = stop :: rest := by
  have hpiece : ∀ c ∈ piece, c != stop := by
    intro c hc
    exact bne_iff_ne.2 fun heq => h (heq ▸ hc)
  rw [List.takeWhile_append_of_pos hpiece, List.dropWhile_append_of_pos hpiece]
  simp

theorem field?_append (h : stop ∉ piece) :
    field? stop (piece ++ stop :: rest) = some (piece, rest) := by
  obtain ⟨hbefore, hbehind⟩ := span_append h
  rw [field?, hbefore, hbehind]

theorem stringEnd?_append {body : List Char} (h : StringBody body) (rest : List Char) :
    stringEnd? (body ++ '"' :: rest) = some (body ++ ['"'], rest) := by
  induction h with
  | nil => rfl
  | @plain c body hquote hslash _ ih =>
    rw [List.cons_append, stringEnd?, ih]
    · rfl
    · exact hquote
    · rintro d text rfl
      exact absurd rfl hslash
  | @escape c body _ ih =>
    rw [List.cons_append, List.cons_append, stringEnd?, ih]
    rfl

/-- The value of a token is read up to its end. -/
theorem value?_append (h : Lexeme kind v) (rest : List Char) :
    value? kind (v ++ '\n' :: rest) = some (v, '\n' :: rest) := by
  rcases h.string_or_not_space with ⟨rfl, body, hbody, rfl⟩ | ⟨hkind, hv⟩
  · have htext : '"' :: (body ++ ['"']) ++ '\n' :: rest =
        '"' :: (body ++ '"' :: '\n' :: rest) := by simp
    rw [value?, if_pos rfl, htext, string?, stringEnd?_append hbody]
    rfl
  · have hfeed : '\n' ∉ v := fun hm => absurd (hv _ hm) (by decide)
    obtain ⟨hbefore, hbehind⟩ := span_append hfeed
    rw [value?, if_neg hkind, hbefore, hbehind]

theorem number?_append (hstop : stop.isDigit = false) (n : Nat) (rest : List Char) :
    number? stop (Nat.toDigits 10 n ++ stop :: rest) = some (n, rest) := by
  have hdigits : ∀ c ∈ Nat.toDigits 10 n, c.isDigit := fun c hc =>
    Nat.isDigit_of_mem_toDigits (by decide) (by decide) hc
  have hmem : stop ∉ Nat.toDigits 10 n := fun hm => by simp [hdigits _ hm] at hstop
  have hnumber : Nat.toDigits 10 n ≠ [] ∧ (Nat.toDigits 10 n).all Char.isDigit :=
    ⟨Nat.toDigits_ne_nil, List.all_eq_true.2 hdigits⟩
  rw [number?, field?_append hmem]
  simp only [Option.bind_eq_bind, Option.bind_some, if_pos hnumber, Nat.ofDigitChars_ten_toDigits]
  rfl

theorem tab_notMem_name (kind : TokenKind) : '\t' ∉ kind.name.toList := by
  cases kind <;> decide

/-- The record of a token is read up to its end. -/
theorem record?_append {token : Token TokenKind} (h : Lexeme token.kind token.value.toList)
    (rest : List Char) :
    record? ((record token).toList ++ rest) = some (Record.ofToken token, rest) := by
  have hpieces : (record token).toList ++ rest =
      Nat.toDigits 10 token.location.line ++ ':' :: (Nat.toDigits 10 token.location.column ++
        '\t' :: (token.kind.name.toList ++ '\t' :: (token.value.toList ++ '\n' :: rest))) := by
    simp only [toList_record, List.append_assoc, List.cons_append, List.nil_append]
  rw [hpieces, record?, number?_append (by decide)]
  simp [number?_append, field?_append (tab_notMem_name token.kind), TokenKind.ofName?_name,
    value?_append h, Record.ofToken]

/-- A text that starts with a record is read on behind it. -/
theorem decode_append {token : Token TokenKind} (h : Lexeme token.kind token.value.toList)
    (rest : List Char) :
    decode ((record token).toList ++ rest) = (decode rest).map (Record.ofToken token :: ·) := by
  have hpos : 0 < (record token).toList.length := by
    rw [toList_record, List.length_append, List.length_cons]
    omega
  have hne : (record token).toList ++ rest ≠ [] := by
    intro hnil
    rw [(List.append_eq_nil_iff.1 hnil).1] at hpos
    exact Nat.lt_irrefl 0 hpos
  have hlt : rest.length < ((record token).toList ++ rest).length := by
    rw [List.length_append]
    omega
  rw [decode, if_neg hne, record?_append h]
  exact if_pos hlt

theorem decode_records {tokens : List (Token TokenKind)}
    (h : ∀ token ∈ tokens, Lexeme token.kind token.value.toList) :
    decode (String.join (tokens.map record)).toList = some (tokens.map Record.ofToken) := by
  induction tokens with
  | nil =>
    rw [decode]
    rfl
  | cons token tokens ih =>
    obtain ⟨htoken, htokens⟩ := List.forall_mem_cons.1 h
    rw [List.map_cons, String.join_cons, String.toList_append, decode_append htoken, ih htokens]
    rfl

/-! ## What is written for a text -/

variable {text : String} {y : Layout} {cause : Option LexError.Cause}

/-- `tokens` writes `out` for a text, on the command line or in a file. -/
structure Prints (text out : String) : Prop where
  expression (read : Reader) (more : List String) :
    ∃ code err, run read ("tokens" :: "-e" :: text :: more) = .ok ⟨code, out, err⟩
  file {read : Reader} {path : String} : path ≠ "-e" → read path = .ok text →
    ∃ code err, run read ["tokens", path] = .ok ⟨code, out, err⟩

theorem reportText_tokens (h : Reads (body text.toList) y rest cause) (name : String) :
    ∃ err ok, reportText .tokens name text =
      .ok ⟨String.join ((y.tokens (origin text.toList)).map record), err, ok⟩ := by
  obtain ⟨l, hl, -⟩ := Lexer.drain_ofList h
  simp only [reportText, Lexer.ofString, hl, y.filter_stream]
  cases l.error with
  | none => exact ⟨_, _, rfl⟩
  | some e => exact ⟨_, _, rfl⟩

theorem prints_records (h : Reads (body text.toList) y rest cause) :
    Prints text (String.join ((y.tokens (origin text.toList)).map record)) where
  expression read more := by
    obtain ⟨err, ok, hr⟩ := reportText_tokens h "<expression>"
    have hi : Input.parse ("-e" :: text :: more) = .ok (.expression text) := rfl
    have hrun : run read (Task.tokens.name :: "-e" :: text :: more) = _ := run_of_report hi hr
    exact ⟨_, _, hrun⟩
  file {read path} hpath hread := by
    obtain ⟨err, ok, hr⟩ := reportText_tokens h path
    have hi : Input.parse [path] = .ok (.files [path]) := if_neg hpath
    have hfile : reportFile read .tokens path = reportText .tokens path text := by
      rw [reportFile, hread]
    have hfiles : report read .tokens (.files [path]) =
        .ok (⟨String.join ((y.tokens (origin text.toList)).map record), err, ok⟩ ++ .empty) := by
      rw [report, reportFiles, hfile, hr]
      rfl
    rw [Report.append_eq, Report.empty, String.append_empty] at hfiles
    have hrun : run read [Task.tokens.name, path] = _ := run_of_report hi hfiles
    exact ⟨_, _, hrun⟩

/-- What is written for a text, and what can be read back from it. -/
theorem exists_prints (text : String) :
    ∃ ts l, (Lexer.ofString text).Yields ts l ∧
      Prints text (String.join ((recordsOf ts).map Record.write)) ∧
      decode (String.join ((recordsOf ts).map Record.write)).toList = some (recordsOf ts) := by
  obtain ⟨y, rest, cause, h⟩ := exists_reads (body text.toList)
  obtain ⟨l, hl, -⟩ := Lexer.yields_ofList h
  have hrecords : recordsOf (y.stream (origin text.toList) cause) =
      (y.tokens (origin text.toList)).map Record.ofToken := by
    rw [recordsOf, y.filter_stream]
  have hwritten : (recordsOf (y.stream (origin text.toList) cause)).map Record.write =
      (y.tokens (origin text.toList)).map record := by
    simp only [hrecords, List.map_map, Function.comp_def, Record.write_ofToken]
  refine ⟨_, l, hl, ?_, ?_⟩
  · rw [hwritten]
    exact prints_records h
  · rw [hwritten, hrecords]
    exact decode_records fun token ht => Layout.isLexeme ht

/-- What `tokens` writes for a text is read back as the records of its tokens. So it writes the same
    for two texts exactly if their tokens agree, one by one, in line, column, kind and value. -/
theorem tokens_recoverable (text text' : String) :
    ∃ out out' ts ts' l l', Prints text out ∧ Prints text' out' ∧
      (Lexer.ofString text).Yields ts l ∧ (Lexer.ofString text').Yields ts' l' ∧
      decode out.toList = some (recordsOf ts) ∧ decode out'.toList = some (recordsOf ts') ∧
      (out = out' ↔ recordsOf ts = recordsOf ts') := by
  obtain ⟨ts, l, hl, hprints, hdecode⟩ := exists_prints text
  obtain ⟨ts', l', hl', hprints', hdecode'⟩ := exists_prints text'
  refine ⟨_, _, ts, ts', l, l', hprints, hprints', hl, hl', hdecode, hdecode', ?_, ?_⟩
  · intro hout
    rw [hout, hdecode'] at hdecode
    exact (Option.some.inj hdecode).symm
  · intro hrecords
    rw [hrecords]

/-- A string whose value looks like the end of a record and one more. -/
example : decode "1:1\tString\t\"\n2:1\tInteger\t7\n\"\n2:3\tDot\t.\n".toList =
    some [⟨1, 1, .string, "\"\n2:1\tInteger\t7\n\""⟩, ⟨2, 3, .dot, "."⟩] := by
  cbv

end ExprLexer.Command
