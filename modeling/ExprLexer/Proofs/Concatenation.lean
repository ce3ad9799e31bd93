-- SUMMARY: The tokens of two texts in a row, where the second one starts with a blank.
import ExprLexer.Proofs.Stream

/-!
# Texts in a row

A blank continues no lexeme, so a text that has tokens keeps them when a text
that starts with a blank comes behind it. The tokens of the second text are
moved by where the first one ends, and so is its failure (`tokenize_append`).
-/

namespace ExprLexer

/-! ## Where a text ends -/

/-- The location behind a text: all of its bytes and lines count, but for the column a byte order
    mark that opens it does not. -/
def endOf (text : List Char) : Location where
  offset := byteLength text
  line := text.count '\n' + 1
  column := (lastLine (body text)).length + 1

theorem count_body (text : List Char) : (body text).count '\n' = text.count '\n' := by
  cases text with
  | nil => rfl
  | cons x text =>
    by_cases hx : x = byteOrderMark
    · subst hx
      simp [body, byteOrderMark]
    · simp [body, hx]

theorem advance_body (text : List Char) : (origin text).advance (body text) = endOf text := by
  have hline : (origin text).line = 1 := by
    unfold origin
    split <;> rfl
  have hcolumn : (origin text).column = 1 := by
    unfold origin
    split <;> rfl
  rw [Location.advance_eq hcolumn, byteLength_body, count_body, hline, Nat.add_comm 1, endOf]

/-! ## Behind a text that has tokens -/

/-- What starts with a blank puts no mark in front of a text, not even of an empty one. -/
theorem body_append_of_space (text : List Char) {w : List Char}
    (hw : ∀ c ∈ w.head?, isSpace c) :
    body (text ++ w) = body text ++ w ∧ origin (text ++ w) = origin text := by
  refine body_append ?_
  intro _ hm
  exact absurd (hw _ hm) (by decide)

variable {u v rest : List Char} {y z : Layout} {cause : Option LexError.Cause}

/-- What starts with a blank is read behind another text as it is read alone. -/
theorem reads_append (hy : Reads (body u) y [] none) (hz : Reads v z rest cause)
    (hv : ∀ c ∈ v.head?, isSpace c) : Reads (body (u ++ v)) (y.append z) rest cause := by
  have hbefore : y.Before v := hy.before.append fun _ => hv
  have hbody : body u = y.text := hy.text_eq.trans (List.append_nil _)
  rw [(body_append_of_space u hv).1, hbody]
  exact hz.behind hbefore

/-- Reading a text that has tokens ends where the text does. -/
theorem advance_text_of_reads (hy : Reads (body u) y [] none) :
    (origin u).advance y.text = (endOf u).moved .start := by
  have hbody : body u = y.text := hy.text_eq.trans (List.append_nil _)
  rw [← hbody, advance_body, Location.moved_start]

theorem tokens_behind (hy : Reads (body u) y [] none) (z : Layout) :
    (y.append z).tokens (origin u) =
      y.tokens (origin u) ++ (z.tokens .start).map (Token.moved (endOf u)) := by
  rw [Layout.tokens_append, advance_text_of_reads hy,
    Layout.tokens_moved z _ Location.counted_start]

theorem failure_behind (hy : Reads (body u) y [] none) (z : Layout)
    (cause : Option LexError.Cause) :
    (y.append z).failure (origin u) cause =
      (z.failure .start cause).map (Failure.moved (endOf u)) := by
  rw [Layout.failure_append, advance_text_of_reads hy,
    Layout.failure_moved z _ Location.counted_start]

/-- A text that has tokens keeps them when something comes behind it that starts with a blank. What
    that has for tokens, or what is wrong with it, is moved by where the text ends. -/
theorem tokenize_append {u v : String} {tokens : List (Token TokenKind)}
    (hu : tokenize u = .ok (.ok tokens)) (hv : ∀ c ∈ v.toList.head?, isSpace c) :
    (∀ tokens', tokenize v = .ok (.ok tokens') →
      tokenize (u ++ v) = .ok (.ok (tokens ++ tokens'.map (Token.moved (endOf u.toList))))) ∧
    ∀ e : LexError, tokenize v = .ok (.error e) →
      tokenize (u ++ v) = .ok (.error (e.moved (endOf u.toList))) := by
  obtain ⟨y, hy, rfl⟩ := exists_reads_of_tokens hu
  obtain ⟨hbody, horigin⟩ : body v.toList = v.toList ∧ origin v.toList = .start :=
    body_append_of_space [] hv
  obtain ⟨-, horigin'⟩ := body_append_of_space u.toList hv
  constructor
  · intro tokens' h
    obtain ⟨z, hz, rfl⟩ := exists_reads_of_tokens h
    rw [hbody] at hz
    rw [tokenize_reads (String.toList_append ▸ reads_append hy hz hv), String.toList_append,
      horigin', horigin, failure_behind hy, tokens_behind hy]
    rfl
  · intro e h
    obtain ⟨z, rest, hz, hl⟩ := exists_reads_of_failure h
    rw [hbody] at hz
    rw [tokenize_reads (String.toList_append ▸ reads_append hy hz hv), String.toList_append,
      horigin', failure_behind hy]
    rw [horigin] at hl
    simp only [Layout.failure, Option.map_some, ← hl]

/-- A number that ends its text ends the scan too, but not when a blank comes behind it. -/
theorem tokenize_append_number :
    tokenize "a\n12" = .ok (.ok [⟨.identifier, "a", ⟨0, 1, 1⟩⟩, ⟨.integer, "12", ⟨2, 2, 1⟩⟩]) ∧
    tokenize ("a\n12" ++ " +") = .ok (.ok [⟨.identifier, "a", ⟨0, 1, 1⟩⟩,
      ⟨.integer, "12", ⟨2, 2, 1⟩⟩, ⟨.plus, "+", ⟨5, 2, 4⟩⟩]) ∧
    tokenize ("a\n12" ++ " 1..") = .ok (.error ⟨.nestedDecimal, ⟨5, 2, 4⟩⟩) := by
  have hu : tokenize "a\n12" =
      .ok (.ok [⟨.identifier, "a", ⟨0, 1, 1⟩⟩, ⟨.integer, "12", ⟨2, 2, 1⟩⟩]) := by decide +kernel
  have hv : tokenize " +" = .ok (.ok [⟨.plus, "+", ⟨1, 1, 2⟩⟩]) := by decide +kernel
  have he : tokenize " 1.." = .ok (.error ⟨.nestedDecimal, ⟨1, 1, 2⟩⟩) := by decide +kernel
  have hspace : ∀ c ∈ " +".toList.head?, isSpace c := by simp [isSpace]
  have hspace' : ∀ c ∈ " 1..".toList.head?, isSpace c := by simp [isSpace]
  refine ⟨hu, ?_, ?_⟩
  · rw [(tokenize_append hu hspace).1 _ hv]
    rfl
  · rw [(tokenize_append hu hspace').2 _ he]
    rfl

end ExprLexer
