-- SUMMARY: What the two commands write for any inputs, and the exit code that they agree on.
import ExprLexer.Command
import ExprLexer.Proofs.Stream

/-!
# Reports

Each input of a command line is looked at on its own: it has no text, or its text
has tokens, or some tokens come before something malformed. This is its
`Verdict`. Whatever else is asked for, an input adds the same lines to what is
written, in the order of the inputs, and both commands write the same lines about
inputs that are not valid.

Main statement: what `tokens` and `check` write is put together from the verdicts
on the inputs, and the exit code is 0 exactly if all of them are valid
(`Command.run_reports`).
-/

namespace ExprLexer

theorem Layout.filter_stream (y : Layout) (l : Location) (cause : Option LexError.Cause) :
    (y.stream l cause).filter (·.kind != .error) = y.tokens l := by
  have hy : ∀ token ∈ y.tokens l, token.kind != .error :=
    fun token ht => bne_iff_ne.2 (kind_ne_error ht)
  rw [stream, List.filter_append, List.filter_eq_self.2 hy]
  cases cause <;> simp [failure, Failure.toToken, Vocabulary.errorKind]

namespace Command

/-! ## Verdicts -/

/-- An input: the name that it is reported under, and its text or the reason why it has none. -/
structure Source where
  name : String
  text : Except ReadError String

/-- What can be said of an input. -/
inductive Verdict where
  /-- It has no text. -/
  | unreadable (reason : ReadError)
  /-- Its text has tokens. -/
  | valid (tokens : List (Token TokenKind))
  /-- Its text has some tokens before something malformed. -/
  | invalid (tokens : List (Token TokenKind)) (e : LexError)

/-- The verdict on an input, by the stream of its text and by `tokenize`. -/
inductive Judged : Source → Verdict → Prop where
  | unreadable {name : String} {reason : ReadError} :
      Judged ⟨name, .error reason⟩ (.unreadable reason)
  | valid {name text : String} {tokens : List (Token TokenKind)} {l : Lexer} :
      tokenize text = .ok (.ok tokens) → (Lexer.ofString text).Yields tokens l →
      Judged ⟨name, .ok text⟩ (.valid tokens)
  | invalid {name text : String} {tokens : List (Token TokenKind)} {e : LexError} {l : Lexer} :
      tokenize text = .ok (.error e) →
      (Lexer.ofString text).Yields (tokens ++ [Failure.toToken e]) l →
      (∀ token ∈ tokens, token.kind ≠ .error) → Judged ⟨name, .ok text⟩ (.invalid tokens e)

namespace Verdict

def tokens : Verdict → List (Token TokenKind)
  | unreadable _ => []
  | valid tokens => tokens
  | invalid tokens _ => tokens

/-- The line that says why an input is not valid. -/
def errorLine? (name : String) : Verdict → Option String
  | unreadable reason => some s!"{name}: {reason.message}\n"
  | valid _ => none
  | invalid _ e => some s!"{name}: {e.message}\n"

/-- The line that `check` writes for an input. -/
def checkLine (name : String) (v : Verdict) : String :=
  (v.errorLine? name).getD s!"{name}: valid ({v.tokens.length} token(s))\n"

end Verdict

/-! ## One input -/

/-- What a command reports on an input of which the verdict is known. -/
def Verdict.report (name : String) (v : Verdict) : Task → Report
  | .tokens =>
    ⟨String.join (v.tokens.map record), String.join (v.errorLine? name).toList,
      (v.errorLine? name).isNone⟩
  | .check => ⟨"", v.checkLine name, (v.errorLine? name).isNone⟩

def Source.report (source : Source) (task : Task) : Except Fault Report :=
  match source.text with
  | .ok text => reportText task source.name text
  | .error e => .ok ⟨"", s!"{source.name}: {e.message}\n", false⟩

/-- Every input has a verdict, and that is what is reported on it. -/
theorem Source.exists_judged (source : Source) :
    ∃ v, Judged source v ∧ ∀ task, source.report task = .ok (v.report source.name task) := by
  obtain ⟨name, text⟩ := source
  cases text with
  | error reason =>
    refine ⟨_, .unreadable, ?_⟩
    intro task
    cases task <;> rfl
  | ok text =>
    obtain ⟨y, rest, cause, h⟩ := exists_reads (body text.toList)
    obtain ⟨l, hl, hover⟩ := Lexer.drain_ofList h
    obtain ⟨l', hyields, -⟩ := Lexer.yields_ofList h
    have herror : l.error = y.failure (origin text.toList) cause := hover.failure
    have htokenize := tokenize_reads h
    cases cause with
    | none =>
      rw [Layout.stream_none] at hyields
      refine ⟨_, .valid htokenize hyields, ?_⟩
      intro task
      simp only [report, reportText, Lexer.ofString, hl, y.filter_stream, herror]
      cases task <;> rfl
    | some cause =>
      refine ⟨_, .invalid htokenize hyields fun token ht => Layout.kind_ne_error ht, ?_⟩
      intro task
      simp only [report, reportText, Lexer.ofString, hl, y.filter_stream, herror]
      cases task <;> rfl

/-- An input is valid exactly if it has a text that has tokens. -/
theorem Judged.errorLine?_eq_none_iff {source : Source} {v : Verdict} (h : Judged source v) :
    v.errorLine? source.name = none ↔
      ∃ text tokens, source.text = .ok text ∧ tokenize text = .ok (.ok tokens) := by
  cases h with
  | unreadable => simp [Verdict.errorLine?]
  | valid htokenize _ => simp [Verdict.errorLine?, htokenize]
  | invalid htokenize _ _ => simp [Verdict.errorLine?, htokenize]

/-! ## All inputs -/

theorem Report.append_eq (r s : Report) :
    r ++ s = ⟨r.out ++ s.out, r.err ++ s.err, r.ok && s.ok⟩ := rfl

/-- The reports on inputs with known verdicts, one after the other. -/
def reportAll (task : Task) (judged : List (Source × Verdict)) : Report :=
  judged.foldr (fun p r => p.2.report p.1.name task ++ r) .empty

theorem reportAll_cons (task : Task) (p : Source × Verdict) (judged : List (Source × Verdict)) :
    reportAll task (p :: judged) = p.2.report p.1.name task ++ reportAll task judged := rfl

section Lines

variable (judged : List (Source × Verdict))

/-- The records that `tokens` writes. -/
def records : List String := judged.flatMap fun p => p.2.tokens.map record

theorem records_cons (p : Source × Verdict) :
    records (p :: judged) = p.2.tokens.map record ++ records judged := rfl

/-- The lines about the inputs that are not valid. -/
def errorLines : List String := judged.filterMap fun p => p.2.errorLine? p.1.name

theorem errorLines_cons (p : Source × Verdict) :
    errorLines (p :: judged) = (p.2.errorLine? p.1.name).toList ++ errorLines judged := by
  cases h : p.2.errorLine? p.1.name <;> simp [errorLines, h]

/-- The lines that `check` writes. -/
def checkLines : List String := judged.map fun p => p.2.checkLine p.1.name

theorem checkLines_cons (p : Source × Verdict) :
    checkLines (p :: judged) = p.2.checkLine p.1.name :: checkLines judged := rfl

theorem reportAll_tokens :
    reportAll .tokens judged =
      ⟨String.join (records judged), String.join (errorLines judged),
        (errorLines judged).isEmpty⟩ := by
  induction judged with
  | nil => rfl
  | cons p judged ih =>
    rw [reportAll_cons, ih, errorLines_cons, records_cons, String.join_append,
      String.join_append, Report.append_eq]
    cases h : p.2.errorLine? p.1.name <;> simp [Verdict.report, h]

theorem reportAll_check :
    reportAll .check judged =
      ⟨"", String.join (checkLines judged), (errorLines judged).isEmpty⟩ := by
  induction judged with
  | nil => rfl
  | cons p judged ih =>
    rw [reportAll_cons, ih, errorLines_cons, checkLines_cons, String.join_cons,
      Report.append_eq]
    cases h : p.2.errorLine? p.1.name <;> simp [Verdict.report, h]

end Lines

/-- The input that a path names. -/
def Source.ofPath (read : Reader) (path : String) : Source := ⟨path, read path⟩

theorem exists_reportFiles (read : Reader) (paths : List String) :
    ∃ judged : List (Source × Verdict), judged.map Prod.fst = paths.map (Source.ofPath read) ∧
      (∀ p ∈ judged, Judged p.1 p.2) ∧
      ∀ task, reportFiles read task paths = .ok (reportAll task judged) := by
  induction paths with
  | nil => exact ⟨[], rfl, List.forall_mem_nil _, fun _ => rfl⟩
  | cons path paths ih =>
    obtain ⟨judged, hsources, hjudged, hreport⟩ := ih
    obtain ⟨v, hv, hr⟩ := (Source.ofPath read path).exists_judged
    refine ⟨(Source.ofPath read path, v) :: judged, ?_, ?_, ?_⟩
    · rw [List.map_cons, List.map_cons, hsources]
    · exact List.forall_mem_cons.2 ⟨hv, hjudged⟩
    · intro task
      have hfile : reportFile read task path = .ok (v.report path task) := hr task
      rw [reportFiles, hreport, hfile]
      rfl

/-! ## The two commands -/

/-- The name of a task on the command line. -/
def Task.name : Task → String
  | tokens => "tokens"
  | check => "check"

theorem parse_name (task : Task) (args : List String) :
    parse (task.name :: args) = (Input.parse args).map fun input => (task, input) := by
  cases task <;> simp [parse, Task.name, Task.ofName?]

theorem run_of_report {read : Reader} {task : Task} {args : List String} {input : Input}
    {r : Report} (hi : Input.parse args = .ok input) (hr : report read task input = .ok r) :
    run read (task.name :: args) = .ok ⟨if r.ok then 0 else 1, r.out, r.err⟩ := by
  rw [run, parse_name, hi, Except.map]
  simp only [hr, Except.map]

/-- What the two commands leave behind for some arguments, where the verdicts on the inputs are
    known. -/
structure Reported (read : Reader) (args : List String) (judged : List (Source × Verdict))
    (code : Nat) : Prop where
  verdicts : ∀ p ∈ judged, Judged p.1 p.2
  tokens : run read ("tokens" :: args) =
    .ok ⟨code, String.join (records judged), String.join (errorLines judged)⟩
  check : run read ("check" :: args) = .ok ⟨code, "", String.join (checkLines judged)⟩
  code_le : code ≤ 1
  code_eq_zero_iff : code = 0 ↔ ∀ p ∈ judged, ∃ text tokens,
    p.1.text = .ok text ∧ tokenize text = .ok (.ok tokens)

theorem reported_of_report {read : Reader} {args : List String} {input : Input}
    {judged : List (Source × Verdict)} (hi : Input.parse args = .ok input)
    (hj : ∀ p ∈ judged, Judged p.1 p.2)
    (hr : ∀ task, report read task input = .ok (reportAll task judged)) :
    ∃ code, Reported read args judged code := by
  have htokens := run_of_report hi (hr .tokens)
  have hcheck := run_of_report hi (hr .check)
  rw [reportAll_tokens] at htokens
  rw [reportAll_check] at hcheck
  refine ⟨_, hj, htokens, hcheck, ?_, ?_⟩
  · split <;> decide
  · have hvalid : errorLines judged = [] ↔ ∀ p ∈ judged, ∃ text tokens,
        p.1.text = .ok text ∧ tokenize text = .ok (.ok tokens) := by
      rw [errorLines, List.filterMap_eq_nil_iff]
      exact forall₂_congr fun p hp => (hj p hp).errorLine?_eq_none_iff
    rw [← hvalid, ← List.isEmpty_iff]
    cases (errorLines judged).isEmpty <;> simp

/-- Both commands look at each input on its own, write what there is to say of it in the order of
    the inputs, and succeed exactly if every input can be read and has tokens. The inputs are files,
    or one expression, behind which nothing counts. -/
theorem run_reports (read : Reader) :
    (∀ path paths, path ≠ "-e" → ∃ judged code,
      judged.map Prod.fst = (path :: paths).map (Source.ofPath read) ∧
        Reported read (path :: paths) judged code) ∧
    ∀ expression more, ∃ judged code,
      judged.map Prod.fst = [(⟨"<expression>", .ok expression⟩ : Source)] ∧
        Reported read ("-e" :: expression :: more) judged code := by
  constructor
  · intro path paths hpath
    have hi : Input.parse (path :: paths) = .ok (.files (path :: paths)) := if_neg hpath
    obtain ⟨judged, hsources, hjudged, hreport⟩ := exists_reportFiles read (path :: paths)
    obtain ⟨code, h⟩ := reported_of_report hi hjudged hreport
    exact ⟨judged, code, hsources, h⟩
  · intro expression more
    have hi : Input.parse ("-e" :: expression :: more) = .ok (.expression expression) := rfl
    obtain ⟨v, hv, hr⟩ := Source.exists_judged ⟨"<expression>", .ok expression⟩
    have hjudged : ∀ p ∈ [((⟨"<expression>", .ok expression⟩ : Source), v)], Judged p.1 p.2 :=
      List.forall_mem_singleton.2 hv
    have hreport : ∀ task, report read task (.expression expression) =
        .ok (reportAll task [(⟨"<expression>", .ok expression⟩, v)]) := by
      intro task
      have hone : reportText task "<expression>" expression = .ok (v.report _ task) := hr task
      rw [report, hone, reportAll_cons, Report.append_eq]
      simp [reportAll, Report.empty]
    obtain ⟨code, h⟩ := reported_of_report hi hjudged hreport
    exact ⟨_, code, rfl, h⟩

/-- Two files, one of them malformed, where no others can be read. -/
def twoFiles : Reader
  | "good.ce" => .ok "a.b >= 1.5"
  | "bad.ce" => .ok "1 $"
  | _ => .error .missing

theorem run_reports_twoFiles :
    "good.ce" ≠ "-e" ∧ ∃ judged,
      judged.map Prod.fst =
        [(⟨"good.ce", .ok "a.b >= 1.5"⟩ : Source), ⟨"no.ce", .error .missing⟩,
          ⟨"bad.ce", .ok "1 $"⟩] ∧
      Reported twoFiles ["good.ce", "no.ce", "bad.ce"] judged 1 := by
  refine ⟨by decide, ?_⟩
  obtain ⟨judged, code, hsources, h⟩ :=
    (run_reports twoFiles).1 "good.ce" ["no.ce", "bad.ce"] (by decide)
  have hmissing : (⟨"no.ce", .error .missing⟩ : Source) ∈ judged.map Prod.fst := by
    rw [hsources]
    exact List.mem_cons_of_mem _ (List.mem_cons_self ..)
  obtain ⟨p, hp, hpsource⟩ := List.mem_map.1 hmissing
  have hcode : code ≠ 0 := by
    intro h₀
    obtain ⟨text, tokens, htext, -⟩ := h.code_eq_zero_iff.1 h₀ p hp
    rw [hpsource] at htext
    cases htext
  obtain rfl : code = 1 := Nat.le_antisymm h.code_le (Nat.one_le_iff_ne_zero.2 hcode)
  exact ⟨judged, hsources, h⟩

end Command

end ExprLexer
