-- SUMMARY: A string ends at the first quote with an even number of backslashes right before it.
import ExprLexer.Proofs.Answers
import ExprLexer.Proofs.TrueLocation
import ExprLexer.Proofs.Usage
import Mathlib.Algebra.Group.Nat.Even
import Mathlib.Data.Nat.Find

/-!
# Quotes and backslashes

A string is read from the front: a backslash takes the next char with it, whatever
that is. Where the string ends can also be told from the back: a quote closes it
if the backslashes right before the quote are even in number, since then they take
each other in pairs.

What ties the two is that, wherever a reader has come to, it has a backslash in hand
exactly if the text behind it ends with an odd number of them
(`inHand_iff_not_even`). So the body of a string is what comes before the first
closing quote (`firstClosingQuote_iff`).

Main statement: whenever a lexer comes to a quote, its next token is the string up
to the first closing quote, or it fails there and ends
(`Lexer.string_closes_by_parity`).
-/

namespace ExprLexer

/-! ## Backslashes in a row -/

/-- How many backslashes a text ends with. -/
def trailingBackslashes (text : List Char) : Nat := (text.rtakeWhile (· = '\\')).length

@[simp] theorem trailingBackslashes_nil : trailingBackslashes [] = 0 := rfl

theorem trailingBackslashes_concat (text : List Char) (c : Char) :
    trailingBackslashes (text ++ [c]) = if c = '\\' then trailingBackslashes text + 1 else 0 := by
  by_cases h : c = '\\' <;> simp [trailingBackslashes, h]

/-- Whether a reader that has passed the text inside a string takes the next char along with a
    backslash. -/
def inHand (text : List Char) : Bool :=
  text.foldl (fun escaped c => (Mode.insideString escaped c).2) false

@[simp] theorem inHand_nil : inHand [] = false := rfl

theorem inHand_concat (text : List Char) (c : Char) :
    inHand (text ++ [c]) = (!inHand text && c = '\\') := by
  rw [inHand, List.foldl_append]
  change (Mode.insideString (inHand text) c).2 = _
  by_cases hc : c = '\\' <;> cases inHand text <;> simp [Mode.insideString, hc]

theorem inHand_cons {c : Char} (h : c ≠ '\\') (text : List Char) :
    inHand (c :: text) = inHand text := by
  simp [inHand, Mode.insideString, h]

theorem inHand_escape (c : Char) (text : List Char) :
    inHand ('\\' :: c :: text) = inHand text := by
  simp [inHand, Mode.insideString]

/-- Backslashes take each other in pairs. -/
theorem inHand_iff_not_even (text : List Char) :
    inHand text ↔ ¬ Even (trailingBackslashes text) := by
  induction text using List.reverseRecOn with
  | nil => simp
  | append_singleton text c ih =>
    rw [inHand_concat, trailingBackslashes_concat]
    by_cases hc : c = '\\'
    · simp only [hc, decide_true, Bool.and_true, if_true, Nat.even_add_one, ← ih]
      simp
    · simp [hc]

theorem inHand_eq_false_iff (text : List Char) :
    inHand text = false ↔ Even (trailingBackslashes text) := by
  rw [← Bool.not_eq_true, inHand_iff_not_even, not_not]

/-! ## Bodies of strings -/

/-- All quotes of the body of a string have been taken by a backslash, and no backslash is left in
    hand at its end. -/
theorem StringBody.inHand {body : List Char} (h : StringBody body) :
    ExprLexer.inHand body = false ∧
      ∀ before after, body = before ++ '"' :: after → ExprLexer.inHand before = true := by
  induction h with
  | nil => exact ⟨rfl, by simp⟩
  | @plain c body hquote hslash _ ih =>
    refine ⟨(inHand_cons hslash body).trans ih.1, ?_⟩
    intro before after heq
    rcases List.cons_eq_append_iff.1 heq with ⟨-, hc⟩ | ⟨before', rfl, hbody⟩
    · exact absurd (List.cons.inj hc).1.symm hquote
    · exact (inHand_cons hslash before').trans (ih.2 before' after hbody)
  | @escape c body _ ih =>
    refine ⟨(inHand_escape c body).trans ih.1, ?_⟩
    intro before after heq
    rcases List.cons_eq_append_iff.1 heq with ⟨-, hc⟩ | ⟨before', rfl, hrest⟩
    · exact absurd (List.cons.inj hc).1 (by decide)
    · rcases List.cons_eq_append_iff.1 hrest with ⟨rfl, -⟩ | ⟨before'', rfl, hbody⟩
      · rfl
      · exact (inHand_escape c before'').trans (ih.2 before'' after hbody)

theorem StringBody.of_inHand (body : List Char) (hend : ExprLexer.inHand body = false)
    (hquotes : ∀ before after, body = before ++ '"' :: after → ExprLexer.inHand before = true) :
    StringBody body := by
  match hbody : body with
  | [] => exact .nil
  | c :: tail =>
    by_cases hslash : c = '\\'
    · match htail : tail with
      | [] => exact absurd hend (by rw [hslash]; decide)
      | d :: rest =>
        rw [hslash, inHand_escape] at hend
        rw [hslash]
        refine .escape (of_inHand rest hend ?_)
        rintro before after rfl
        rw [← inHand_escape d before]
        exact hquotes _ after (by rw [hslash]; rfl)
    · rw [inHand_cons hslash] at hend
      have hquote : c ≠ '"' := by
        rintro rfl
        exact absurd (hquotes [] tail rfl) (by decide)
      refine .plain hquote hslash (of_inHand tail hend ?_)
      rintro before after rfl
      rw [← inHand_cons hslash before]
      exact hquotes _ after rfl
termination_by body.length

/-! ## Closing quotes -/

/-- In `body` a quote stands behind `inside` and before `rest`, and the backslashes right before it
    are even in number. -/
def ClosingQuote (body inside rest : List Char) : Prop :=
  body = inside ++ '"' :: rest ∧ Even (trailingBackslashes inside)

/-- And no quote before that one is such a quote. -/
structure FirstClosingQuote (body inside rest : List Char) : Prop where
  closing : ClosingQuote body inside rest
  first : ∀ inside' rest', ClosingQuote body inside' rest' → inside.length ≤ inside'.length

variable {body inside rest : List Char}

theorem ClosingQuote.exists_first (h : ClosingQuote body inside rest) :
    ∃ inside rest, FirstClosingQuote body inside rest := by
  classical
  have hsome : ∃ n inside rest, ClosingQuote body inside rest ∧ inside.length = n :=
    ⟨_, inside, rest, h, rfl⟩
  obtain ⟨inside', rest', hclosing, hlength⟩ := Nat.find_spec hsome
  refine ⟨inside', rest', hclosing, ?_⟩
  intro inside'' rest'' hclosing'
  rw [hlength]
  exact Nat.find_min' hsome ⟨_, _, hclosing', rfl⟩

theorem FirstClosingQuote.unique {inside' rest' : List Char}
    (h : FirstClosingQuote body inside rest) (h' : FirstClosingQuote body inside' rest') :
    inside = inside' ∧ rest = rest' := by
  have hlength : inside.length = inside'.length :=
    Nat.le_antisymm (h.first _ _ h'.closing) (h'.first _ _ h.closing)
  have heq : inside ++ '"' :: rest = inside' ++ '"' :: rest' :=
    h.closing.1.symm.trans h'.closing.1
  obtain ⟨hinside, hrest⟩ := List.append_inj heq hlength
  exact ⟨hinside, (List.cons.inj hrest).2⟩

/-- What comes before the first closing quote is the body of a string. -/
theorem firstClosingQuote_iff :
    FirstClosingQuote body inside rest ↔ body = inside ++ '"' :: rest ∧ StringBody inside := by
  constructor
  · rintro ⟨⟨rfl, heven⟩, hfirst⟩
    refine ⟨rfl, .of_inHand inside ((inHand_eq_false_iff inside).2 heven) ?_⟩
    rintro before after rfl
    rw [inHand_iff_not_even]
    intro heven'
    have hle := hfirst before (after ++ '"' :: rest) ⟨by simp, heven'⟩
    rw [List.length_append, List.length_cons] at hle
    omega
  · rintro ⟨rfl, hbody⟩
    obtain ⟨hend, hquotes⟩ := hbody.inHand
    refine ⟨⟨rfl, (inHand_eq_false_iff inside).1 hend⟩, ?_⟩
    rintro inside' rest' ⟨heq, heven⟩
    by_contra hlt
    -- A quote before the end of the body has been taken by a backslash.
    obtain ⟨after, hinside⟩ : ∃ after, inside = inside' ++ '"' :: after := by
      rcases List.append_eq_append_iff.1 heq with ⟨more, rfl, -⟩ | ⟨more, rfl, hmore⟩
      · exact absurd (List.length_append ▸ Nat.le_add_right _ _) hlt
      · cases more with
        | nil => simp at hlt
        | cons c more =>
          cases hmore
          exact ⟨more, rfl⟩
    have htaken := hquotes inside' after hinside
    exact (inHand_iff_not_even inside').1 htaken heven

/-! ## The location of what is next -/

/-- Between two tokens a cursor tells the place of what comes behind a gap. -/
theorem Cursor.Located.ahead {text gap rest : List Char} {b : Nat} {c : Cursor}
    (h : c.Located text b) (hcurrent : c.current = []) (hafter : c.after = gap ++ rest) :
    slice? text (c.location.advance gap).offset (byteLength text) = some rest ∧
      ExprLexer.locate? text b (c.location.advance gap).offset =
        some (c.location.advance gap) := by
  obtain ⟨htext, mark, passed, hbefore, rfl, hlocation⟩ := h
  have hplace : c.location.advance gap =
      Location.advance ⟨byteLength mark, 1, 1⟩ (passed ++ gap) := by
    rw [Location.advance_append, ← hlocation]
  have htext' : text = mark ++ ((passed ++ gap) ++ rest) := by
    rw [current] at hcurrent
    rw [← htext, Cursor.text, hbefore, hcurrent, hafter]
    simp only [List.nil_append, List.append_assoc]
  rw [hplace, Location.advance_offset, htext']
  refine ⟨?_, locate?_eq_advance mark (passed ++ gap) rest⟩
  refine slice?_eq_some_iff.2 ⟨mark ++ (passed ++ gap), [], by simp, ?_, ?_⟩
  · rw [byteLength_append]
  · simp only [byteLength_append]
    omega

namespace Mode

/-- The next token starts where the lexer stands, or behind. -/
theorem Ready.offset_le {s s' : Machine} {l : Location} {text : List Char}
    {token : Token TokenKind} (h : Ready s l text)
    (hn : s.nextToken grammar = .ok (some token, s')) : l.offset ≤ token.location.offset := by
  cases Ahead.of_text text with
  | nothing hgap =>
    obtain ⟨s₁, hn₁, -⟩ := h.over hgap
    cases hn.symm.trans hn₁
  | @malformed gap _ _ hgap hm =>
    obtain ⟨s₁, hn₁, -⟩ := h.malformed hgap hm
    cases hn.symm.trans hn₁
    exact Location.advance_offset l gap ▸ Nat.le_add_right _ _
  | @lexeme gap _ _ _ hgap hv ha =>
    obtain ⟨s₁, hn₁, -⟩ := h.lexeme hgap hv ha
    cases hn.symm.trans hn₁
    exact Location.advance_offset l gap ▸ Nat.le_add_right _ _

end Mode

/-! ## Lexers -/

namespace Lexer

open Mode

variable {text : String} {answers : List (Option (Token TokenKind))} {l : Lexer}

theorem Pulled.reaches (h : Pulled text answers l) :
    ∃ log, (ofString text).scanner.workspace.Reaches log l.scanner.workspace := by
  induction h with
  | fresh => exact ⟨[], .refl⟩
  | pull _ hn ih =>
    obtain ⟨log, hlog⟩ := ih
    obtain ⟨log', hlog'⟩ := Scanner.trail_of_nextToken (nextToken_eq_ok_iff.1 hn)
    exact ⟨_, hlog.trans hlog'.workspace⟩

/-- Where a lexer stands that has a state left, and where it comes to behind a gap. -/
theorem Pulled.ready {gap rest : List Char} (h : Pulled text answers l)
    (hgoes : l.isTerminated = false)
    (hafter : l.scanner.workspace.cursor.after = gap ++ rest) :
    ∃ start, Mode.Ready l.scanner start (gap ++ rest) ∧
      slice? text.toList (start.advance gap).offset (byteLength text.toList) = some rest ∧
      locate? text.toList (if text.toList.head? = some byteOrderMark then 3 else 0)
        (start.advance gap).offset = some (start.advance gap) := by
  cases h.stands with
  | ended failure hs _ _ =>
    rw [isTerminated, Scanner.isTerminated, hs.state] at hgoes
    cases hgoes
  | between start rest' _ hs _ _ =>
    have hrest : rest' = gap ++ rest := hs.workspace.after.symm.trans hafter
    subst hrest
    obtain ⟨log, hlog⟩ := h.reaches
    obtain ⟨hlocated, -⟩ := hlog.located (Lexer.located text.toList)
    have hahead := hlocated.ahead hs.workspace.current hafter
    rw [hs.workspace.location] at hahead
    exact ⟨start, ready_of_stateBehind hs, hahead⟩

/-- Whenever a lexer goes on with a quote, behind a gap or right away, the token that starts there
    is the string up to the first quote with an even number of backslashes right before it, and
    what comes next is read from behind that quote. If there is no such quote, a token reports that
    at the opening quote and the lexer ends. -/
theorem string_closes_by_parity {gap body : List Char} (h : Pulled text answers l)
    (hgoes : l.isTerminated = false) (hgap : IsGap gap)
    (hafter : l.scanner.workspace.cursor.after = gap ++ '"' :: body) :
    ∃ start : Location,
      slice? text.toList start.offset (byteLength text.toList) = some ('"' :: body) ∧
      locate? text.toList (if text.toList.head? = some byteOrderMark then 3 else 0) start.offset =
        some start ∧
      ((∃ inside rest, ClosingQuote body inside rest) →
        ∃ (inside rest : List Char) (l' : Lexer), FirstClosingQuote body inside rest ∧
          l.nextToken =
            .ok (some ⟨.string, String.ofList ('"' :: (inside ++ ['"'])), start⟩, l') ∧
          l'.scanner.workspace.cursor.after = rest ∧
          ∀ next l'', l'.nextToken = .ok (some next, l'') →
            start.offset + byteLength ('"' :: (inside ++ ['"'])) ≤ next.location.offset) ∧
      ((∀ inside rest, ¬ ClosingQuote body inside rest) →
        ∃ l' : Lexer, l.nextToken =
            .ok (some ⟨.error, LexError.Cause.message .unterminatedString, start⟩, l') ∧
          l'.error = some ⟨.unterminatedString, start⟩ ∧ l'.isTerminated = true ∧
          l'.nextToken = .ok (none, l')) := by
  obtain ⟨start, hready, hslice, hlocate⟩ := h.ready hgoes hafter
  refine ⟨start.advance gap, hslice, hlocate, ?_, ?_⟩
  · rintro ⟨inside₀, rest₀, hclosing⟩
    obtain ⟨inside, rest, hfirst⟩ := hclosing.exists_first
    obtain ⟨hbody, hinside⟩ := firstClosingQuote_iff.1 hfirst
    have htext : '"' :: body = '"' :: (inside ++ ['"']) ++ rest := by simp [hbody]
    rw [htext] at hready
    obtain ⟨s', hn, hs'⟩ := hready.lexeme hgap (.string hinside) fun _ _ => not_glues_string
    refine ⟨inside, rest, ⟨s'⟩, hfirst, nextToken_eq_ok_iff.2 hn, hs'.workspace.after, ?_⟩
    intro next l'' hn'
    have hle := (ready_of_stateAfter hs').offset_le (nextToken_eq_ok_iff.1 hn')
    rwa [Location.advance_append, Location.advance_offset] at hle
  · intro hnone
    have hm : Malformed .unterminatedString ('"' :: body) := by
      refine .string ?_
      intro inside rest hinside hbody
      exact hnone inside rest (firstClosingQuote_iff.2 ⟨hbody, hinside⟩).closing
    obtain ⟨s', hn, hs'⟩ := hready.malformed hgap hm
    have hends : (⟨s'⟩ : Lexer).isTerminated = true := Option.isNone_iff_eq_none.2 hs'.state
    exact ⟨⟨s'⟩, nextToken_eq_ok_iff.2 hn, hs'.failure, hends,
      nextToken_eq_ok_iff.2 hs'.nextToken⟩

/-- The quote behind a single backslash closes nothing, and the one behind two does. -/
theorem string_closes_by_parity_pairs :
    Pulled " \"a\\\"\né\\\\\"!\"" [] (ofString " \"a\\\"\né\\\\\"!\"") ∧
      (ofString " \"a\\\"\né\\\\\"!\"").isTerminated = false ∧ IsGap [' '] ∧
      (ofString " \"a\\\"\né\\\\\"!\"").scanner.workspace.cursor.after =
        [' '] ++ '"' :: ['a', '\\', '"', '\n', 'é', '\\', '\\', '"', '!', '"'] ∧
      ∃ l', (ofString " \"a\\\"\né\\\\\"!\"").nextToken =
          .ok (some ⟨.string, "\"a\\\"\né\\\\\"", ⟨1, 1, 2⟩⟩, l') ∧
        l'.scanner.workspace.cursor.after = ['!', '"'] := by
  have hfresh : Pulled " \"a\\\"\né\\\\\"!\"" [] (ofString " \"a\\\"\né\\\\\"!\"") := .fresh
  have hgap : IsGap [' '] := by simp [IsGap, IsBlank]
  have hafter : (ofString " \"a\\\"\né\\\\\"!\"").scanner.workspace.cursor.after =
      [' '] ++ '"' :: ['a', '\\', '"', '\n', 'é', '\\', '\\', '"', '!', '"'] := rfl
  obtain ⟨start, hslice, hlocate, hcloses, -⟩ := string_closes_by_parity hfresh rfl hgap hafter
  have hfirst : FirstClosingQuote ['a', '\\', '"', '\n', 'é', '\\', '\\', '"', '!', '"']
      ['a', '\\', '"', '\n', 'é', '\\', '\\'] ['!', '"'] := by
    refine firstClosingQuote_iff.2 ⟨rfl, ?_⟩
    exact .plain (by decide) (by decide) (.escape (.plain (by decide) (by decide)
      (.plain (by decide) (by decide) (.escape .nil))))
  obtain ⟨inside, rest, l', hfirst', hn, hrest, -⟩ := hcloses ⟨_, _, hfirst.closing⟩
  obtain ⟨rfl, rfl⟩ := hfirst'.unique hfirst
  have hoffset : start.offset = 1 := by
    obtain ⟨_, _, _, _, hend⟩ := slice?_eq_some_iff.1 hslice
    exact Nat.add_right_cancel (m := 12) hend
  have hstart : start = ⟨1, 1, 2⟩ := by
    rw [hoffset] at hlocate
    exact (Option.some.inj hlocate).symm
  subst hstart
  exact ⟨hfresh, rfl, hgap, hafter, l', hn, hrest⟩

end Lexer

end ExprLexer
