-- SUMMARY: A byte order mark in front of a text moves a lexer's answers and changes nothing else.
import ExprLexer.Proofs.Answers

/-!
# A leading byte order mark

A lexer that has passed a mark stands in front of the same text as one that had
none to pass, only some bytes further on. From there on the two go abreast: pull by
pull they are in the same state and give the same answers, and all that differs is
the offsets (`Mode.Abreast.nextToken`). Lines and columns start at one for both.

Main statement: a mark in front of a text is transparent, but only one of them, and
a second one is a char that starts no token (`Lexer.leading_mark_transparent`).
-/

namespace ExprLexer

/-! ## Places further on -/

/-- The place `n` bytes further on, on the same line and in the same column. -/
def Location.shifted (n : Nat) (l : Location) : Location := { l with offset := l.offset + n }

/-- A token whose text starts there. -/
def Token.shifted {κ : Type} (n : Nat) (token : Token κ) : Token κ :=
  { token with location := token.location.shifted n }

/-- A failure of such a token. -/
def Failure.shifted {ε : Type} (n : Nat) (failure : Failure ε) : Failure ε :=
  { failure with location := failure.location.shifted n }

theorem Location.shifted_step (n : Nat) (l : Location) (c : Char) :
    (l.step c).shifted n = (l.shifted n).step c := by
  by_cases h : c = '\n' <;> simp [shifted, step, h, Nat.add_right_comm]

/-- How far on a reader stands makes no difference to how its location moves. -/
theorem Location.shifted_advance (n : Nat) (l : Location) (text : List Char) :
    (l.advance text).shifted n = (l.shifted n).advance text := by
  induction text generalizing l with
  | nil => rfl
  | cons c text ih => rw [advance_cons, ih, shifted_step, advance_cons]

/-! ## Scanners that go abreast -/

namespace Mode

/-- The second scanner is in the same state as the first, in front of the same text, but `n` bytes
    further on. -/
inductive Abreast (n : Nat) (s s' : Machine) : Prop where
  | between (l : Location) (text : List Char) :
      Ready s l text → Ready s' (l.shifted n) text → s'.state = s.state → Abreast n s s'
  | ended (failure : Option LexError) :
      s.Over failure → s'.Over (failure.map (Failure.shifted n)) → Abreast n s s'

namespace Abreast

variable {n : Nat} {s s' t : Machine}

theorem isTerminated (h : Abreast n s s') : s'.isTerminated = s.isTerminated := by
  have hstate : s'.state = s.state := by
    cases h with
    | between _ _ _ _ hstate => exact hstate
    | ended _ hs hs' => rw [hs.state, hs'.state]
  rw [Scanner.isTerminated, hstate, Scanner.isTerminated]

theorem failure (h : Abreast n s s') : s'.failure = s.failure.map (Failure.shifted n) := by
  cases h with
  | between _ _ hs hs' _ =>
    rw [hs.failure, hs'.failure]
    rfl
  | ended _ hs hs' => rw [hs.failure, hs'.failure]

/-- Both scanners can be pulled, they give the same answer, and they stay abreast. -/
theorem nextToken (h : Abreast n s s') :
    ∃ answer t t', s.nextToken grammar = .ok (answer, t) ∧
      s'.nextToken grammar = .ok (answer.map (Token.shifted n), t') ∧ Abreast n t t' := by
  cases h with
  | ended failure hs hs' => exact ⟨none, s, s', hs.nextToken, hs'.nextToken, .ended failure hs hs'⟩
  | between l text hs hs' _ =>
    cases Ahead.of_text text with
    | nothing hgap =>
      obtain ⟨t, hn, ht⟩ := hs.over hgap
      obtain ⟨t', hn', ht'⟩ := hs'.over hgap
      exact ⟨none, t, t', hn, hn', .ended none ht ht'⟩
    | malformed hgap hm =>
      obtain ⟨t, hn, ht⟩ := hs.malformed hgap hm
      obtain ⟨t', hn', ht'⟩ := hs'.malformed hgap hm
      rw [← Location.shifted_advance] at hn' ht'
      exact ⟨_, t, t', hn, hn', .ended _ ht ht'⟩
    | lexeme hgap hv ha =>
      obtain ⟨t, hn, ht⟩ := hs.lexeme hgap hv ha
      obtain ⟨t', hn', ht'⟩ := hs'.lexeme hgap hv ha
      rw [← Location.shifted_advance] at hn' ht'
      refine ⟨_, t, t', hn, hn', .between _ _ (ready_of_stateAfter ht) (ready_of_stateAfter ht') ?_⟩
      rw [ht.state, ht'.state]

/-- So the second scanner yields what the first does. -/
theorem yields {tokens : List (Token TokenKind)} (h : Abreast n s s')
    (hs : s.Yields grammar tokens t) :
    ∃ t', s'.Yields grammar (tokens.map (Token.shifted n)) t' ∧ Abreast n t t' := by
  induction hs generalizing s' with
  | ended hn =>
    obtain ⟨_, t, t', ht, ht', hnext⟩ := h.nextToken
    cases hn.symm.trans ht
    exact ⟨t', .ended ht', hnext⟩
  | token hn _ ih =>
    obtain ⟨_, t, t', ht, ht', hnext⟩ := h.nextToken
    cases hn.symm.trans ht
    obtain ⟨u, hu, hend⟩ := ih hnext
    exact ⟨u, .token ht' hu, hend⟩

end Abreast

end Mode

/-! ## Lexers -/

namespace Lexer

open Mode

/-- A text with a byte order mark in front of it. -/
def marked (text : String) : String := String.singleton byteOrderMark ++ text

theorem toList_marked (text : String) : (marked text).toList = byteOrderMark :: text.toList := by
  simp [marked]

/-- A lexer starts behind the mark that opens its text. -/
theorem ready_marked (text : String) :
    Ready (ofString (marked text)).scanner ⟨3, 1, 1⟩ text.toList := by
  have hwidth : byteOrderMark.utf8Size = 3 := rfl
  have h := ready_ofList (byteOrderMark :: text.toList)
  rw [ofString, toList_marked]
  simpa [origin, body, hwidth] using h

theorem abreast_marked {text : String} (h : text.toList.head? ≠ some byteOrderMark) :
    Abreast 3 (ofString text).scanner (ofString (marked text)).scanner := by
  have hready := ready_ofList text.toList
  obtain ⟨hbody, horigin⟩ : body text.toList = text.toList ∧ origin text.toList = .start :=
    @body_append [] _ fun _ => h
  rw [hbody, horigin] at hready
  exact .between _ _ hready (ready_marked text) rfl

/-- A mark alone starts no token. -/
theorem malformed_mark (rest : List Char) :
    Malformed (.unexpectedChar byteOrderMark) (byteOrderMark :: rest) :=
  .char (by decide +kernel) (by decide +kernel) (by decide +kernel) (by decide +kernel)

variable {text text' : String} {answers : List (Option (Token TokenKind))} {l : Lexer} {n : Nat}

/-- Lexers that start abreast are abreast whenever both have given the same number of answers, and
    the answers are the same. -/
theorem Pulled.abreast (h : Pulled text answers l)
    (hs : Abreast n (ofString text).scanner (ofString text').scanner) :
    ∃ l', Pulled text' (answers.map (Option.map (Token.shifted n))) l' ∧
      Abreast n l.scanner l'.scanner := by
  induction h with
  | fresh => exact ⟨_, .fresh, hs⟩
  | pull _ hn ih =>
    obtain ⟨l₁, hl₁, habreast⟩ := ih
    obtain ⟨answer, t, t', ht, ht', hnext⟩ := habreast.nextToken
    cases (nextToken_eq_ok_iff.1 hn).symm.trans ht
    refine ⟨⟨t'⟩, ?_, hnext⟩
    rw [List.map_append]
    exact .pull hl₁ (nextToken_eq_ok_iff.2 ht')

/-- A byte order mark in front of a text that has none yet makes no difference to the stream, to the
    failure, and to whether a state is left after each pull, except that all offsets grow by its
    three bytes. Where the text has one already, the second mark is reported as a char that is not
    expected, and nothing else is read. -/
theorem leading_mark_transparent (text : String) :
    (text.toList.head? ≠ some byteOrderMark →
      (∃ ts l l', (ofString text).Yields ts l ∧
        (ofString (marked text)).Yields (ts.map (Token.shifted 3)) l' ∧
        l'.error = l.error.map (Failure.shifted 3)) ∧
      ∀ answers l, Pulled text answers l →
        ∃ l', Pulled (marked text) (answers.map (Option.map (Token.shifted 3))) l' ∧
          l'.isTerminated = l.isTerminated ∧ l'.error = l.error.map (Failure.shifted 3)) ∧
    (text.toList.head? = some byteOrderMark →
      ∃ l, (ofString (marked text)).Yields
          [⟨.error, LexError.Cause.message (.unexpectedChar byteOrderMark), ⟨3, 1, 1⟩⟩] l ∧
        l.error = some ⟨.unexpectedChar byteOrderMark, ⟨3, 1, 1⟩⟩) := by
  constructor
  · intro hmark
    have habreast := abreast_marked hmark
    constructor
    · obtain ⟨y, rest, cause, hr⟩ := exists_reads (body text.toList)
      obtain ⟨l, hl, -⟩ := yields_ofList hr
      obtain ⟨s', hs', hend⟩ := habreast.yields hl
      exact ⟨_, l, ⟨s'⟩, hl, hs', hend.failure⟩
    · intro answers l h
      obtain ⟨l', hl', hend⟩ := h.abreast habreast
      exact ⟨l', hl', hend.isTerminated, hend.failure⟩
  · intro hmark
    obtain ⟨rest, hrest⟩ := List.head?_eq_some_iff.1 hmark
    have hready : Ready (ofString (marked text)).scanner ⟨3, 1, 1⟩ ([] ++ text.toList) :=
      ready_marked text
    have hm : Malformed (.unexpectedChar byteOrderMark) text.toList := hrest ▸ malformed_mark rest
    obtain ⟨s, hn, hs⟩ := hready.malformed isGap_nil hm
    exact ⟨⟨s⟩, .token hn (.ended hs.nextToken), hs.failure⟩

end Lexer

end ExprLexer
