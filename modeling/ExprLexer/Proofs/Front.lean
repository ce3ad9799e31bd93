-- SUMMARY: What a text starts with: a lexeme that ends there, or something malformed.
import ExprLexer.Proofs.Lexeme
import Mathlib.Data.List.TakeWhile

/-!
# The front of a text

Whatever is left of a text behind a gap starts with a lexeme that the next char
does not glue to, or is malformed for some cause (`Front.of_first`). So the
shapes of `Lexeme` and `Malformed` leave nothing out (`Ahead.of_text`).
-/

namespace ExprLexer

/-- A text starts with a lexeme that ends there, or it is malformed. -/
inductive Front : List Char → Prop where
  | lexeme {kind : TokenKind} {v rest : List Char} :
      Lexeme kind v → Apart v rest → Front (v ++ rest)
  | malformed {cause : LexError.Cause} {text : List Char} : Malformed cause text → Front text

/-- The longest run of a class of chars, and what is behind it. -/
theorem exists_run (p : Char → Bool) (text : List Char) :
    ∃ run rest, text = run ++ rest ∧ (∀ c ∈ run, p c) ∧ ∀ c ∈ rest.head?, p c = false := by
  refine ⟨text.takeWhile p, text.dropWhile p, List.takeWhile_append_dropWhile.symm,
    fun c hc => List.mem_takeWhile_imp hc, fun c hc => ?_⟩
  have h := List.head?_dropWhile_not p text
  rw [Option.mem_def.1 hc] at h
  simpa using h

namespace Front

/-! ## Identifiers -/

/-- A path read as far as it goes ends before a char that neither continues a segment nor starts
    a new one, or at a dot that no segment follows. -/
theorem exists_path {c : Char} (hc : StartsSegment c) (text : List Char) :
    ∃ path rest, c :: text = path ++ rest ∧ IsPath path ∧
      ((∀ x ∈ rest.head?, isIdentifierPart x = false ∧ x ≠ '.') ∨
        ∃ tail, rest = '.' :: tail ∧ ∀ x ∈ tail.head?, ¬ StartsSegment x) := by
  induction hn : text.length using Nat.strong_induction_on generalizing c text with
  | _ n ih =>
    obtain ⟨run, rest, rfl, hrun, hrest⟩ := exists_run isIdentifierPart text
    have hs : IsSegment (c :: run) := isSegment_cons_iff.2 ⟨isIdentifierStart_iff.2 hc, hrun⟩
    match rest, hrest with
    | [], _ => exact ⟨c :: run, [], rfl, .segment hs, .inl (by simp)⟩
    | x :: tail, hrest =>
      by_cases hx : x = '.'
      · subst hx
        match tail with
        | [] => exact ⟨c :: run, ['.'], rfl, .segment hs, .inr ⟨[], rfl, by simp⟩⟩
        | y :: tail =>
          by_cases hy : StartsSegment y
          · obtain ⟨path, rest, heq, hp, hr⟩ := ih tail.length (by simp at hn; omega) hy tail rfl
            exact ⟨c :: run ++ '.' :: path, rest, by simp [heq], .join hs hp, hr⟩
          · refine ⟨c :: run, '.' :: y :: tail, rfl, .segment hs, .inr ⟨y :: tail, rfl, ?_⟩⟩
            simp [hy]
      · exact ⟨c :: run, x :: tail, rfl, .segment hs, .inl (by simpa [hx] using hrest x rfl)⟩

/-- What starts with a name is that name, or it ends at a dot that no segment follows. -/
theorem of_name {v rest : List Char} (hv : IsName v)
    (h : (∀ x ∈ rest.head?, isIdentifierPart x = false ∧ x ≠ '.') ∨
      ∃ tail, rest = '.' :: tail ∧ ∀ x ∈ tail.head?, ¬ StartsSegment x) :
    Front (v ++ rest) := by
  rcases h with h | ⟨tail, rfl, h⟩
  · refine .lexeme (.name hv) fun x hx hg => ?_
    have hx := h x hx
    rcases (glues_name_iff hv).1 hg with hg | hg
    · simp [hx.1] at hg
    · exact hx.2 hg
  · exact .malformed (.name hv h)

/-! ## Numbers -/

/-- A number that has all its digits and its point is a lexeme, or it has no end. -/
theorem of_number {kind : TokenKind} {v rest : List Char} (hl : Lexeme kind v)
    (hv : IsInteger v ∨ IsDecimal v)
    (h : ∀ x ∈ rest.head?, x.isDigit = false ∧ x ≠ '.') : Front (v ++ rest) := by
  match rest, h with
  | [], _ => exact .lexeme hl (by simp [Apart])
  | x :: rest, h =>
    obtain ⟨hd, hx⟩ := h x rfl
    by_cases he : IsBlank x ∨ IsPunctuation x
    · refine .lexeme hl fun y hy hg => ?_
      cases hy
      rcases (glues_number_iff hv).1 hg with hg | hg
      · exact hx hg
      · simp [endsNumber_iff.2 he] at hg
    · exact .malformed (.number hv hd hx he)

theorem of_decimal {v rest : List Char} (hv : IsDecimal v)
    (h : ∀ x ∈ rest.head?, x.isDigit = false) : Front (v ++ rest) := by
  match rest, h with
  | [], _ => exact of_number (.decimal hv) (.inr hv) (by simp)
  | x :: rest, h =>
    by_cases hx : x = '.'
    · subst hx
      exact .malformed (.point hv)
    · exact of_number (.decimal hv) (.inr hv) (by simpa [hx] using h x rfl)

theorem of_digit {c : Char} {text : List Char} (hc : c.isDigit) : Front (c :: text) := by
  obtain ⟨run, rest, rfl, hrun, hrest⟩ := exists_run Char.isDigit text
  have hv : IsInteger (c :: run) := ⟨List.cons_ne_nil _ _, List.forall_mem_cons.2 ⟨hc, hrun⟩⟩
  match rest, hrest with
  | [], _ =>
    have hr : ∀ y ∈ ([] : List Char).head?, y.isDigit = false ∧ y ≠ '.' := by simp
    exact of_number (.integer hv) (.inl hv) hr
  | x :: rest, hrest =>
    by_cases hx : x = '.'
    · subst hx
      obtain ⟨fraction, rest, rfl, hf, hrest⟩ := exists_run Char.isDigit rest
      simpa using of_decimal (.point hv hf) hrest
    · have hr : ∀ y ∈ (x :: rest).head?, y.isDigit = false ∧ y ≠ '.' := by
        simpa [hx] using hrest x rfl
      exact of_number (.integer hv) (.inl hv) hr

theorem of_point {c : Char} {text : List Char} (hc : c.isDigit) : Front ('.' :: c :: text) := by
  obtain ⟨run, rest, rfl, hrun, hrest⟩ := exists_run Char.isDigit text
  have hv : IsInteger (c :: run) := ⟨List.cons_ne_nil _ _, List.forall_mem_cons.2 ⟨hc, hrun⟩⟩
  exact of_decimal (.bare hv) hrest

/-! ## Strings and marks -/

theorem of_quote (text : List Char) : Front ('"' :: text) := by
  by_cases h : ∃ body rest, StringBody body ∧ text = body ++ '"' :: rest
  · obtain ⟨body, rest, hb, rfl⟩ := h
    have ha : Apart ('"' :: (body ++ ['"'])) rest := fun _ _ => not_glues_string
    simpa using Front.lexeme (.string hb) ha
  · exact .malformed (.string fun body rest hb heq => h ⟨body, rest, hb, heq⟩)

theorem of_mark {c : Char} {kind : TokenKind} {text : List Char} (hm : (c, kind) ∈ marks)
    (hpoint : c = '.' → ∀ x ∈ text.head?, x.isDigit = false)
    (hat : c = '@' → ∀ x ∈ text.head?, isIdentifierStart x = false) : Front (c :: text) := by
  by_cases h : ∃ x ∈ text.head?, ∃ k, (c, x, k) ∈ operators
  · obtain ⟨x, hx, k, ho⟩ := h
    obtain ⟨rest, rfl⟩ : ∃ rest, text = x :: rest := List.head?_eq_some_iff.1 hx
    have ha : Apart [c, x] rest := fun _ _ => not_glues_pair ho
    exact .lexeme (.pair ho) ha
  · have ha : Apart [c] text := by
      intro x hx hg
      rcases (glues_mark_iff hm).1 hg with ⟨rfl, hd⟩ | ⟨rfl, hs⟩ | ⟨k, ho⟩
      · exact Bool.eq_false_iff.1 (hpoint rfl x hx) hd
      · exact Bool.eq_false_iff.1 (hat rfl x hx) hs
      · exact h ⟨x, hx, k, ho⟩
    exact .lexeme (.mark hm) ha

/-! ## Any text behind a gap -/

theorem of_atSign {c : Char} {text : List Char} (hc : StartsSegment c) :
    Front ('@' :: c :: text) := by
  obtain ⟨path, rest, heq, hp, h⟩ := exists_path hc text
  rw [heq]
  exact of_name (.marked hp) h

/-- The first char tells what can start here. Only for `@` and `.` the second one does. -/
theorem of_first {c : Char} {text : List Char} (hc : ¬ IsBlank c) : Front (c :: text) := by
  by_cases hs : StartsSegment c
  · obtain ⟨path, rest, heq, hp, h⟩ := exists_path hs text
    rw [heq]
    exact of_name (.path hp) h
  by_cases hd : c.isDigit
  · exact of_digit hd
  by_cases hp : IsPunctuation c
  · by_cases hq : c = '"'
    · exact hq ▸ of_quote text
    by_cases hat : c = '@' ∧ ∃ x ∈ text.head?, isIdentifierStart x
    · obtain ⟨rfl, x, hx, hs⟩ := hat
      obtain ⟨rest, rfl⟩ := List.head?_eq_some_iff.1 hx
      exact of_atSign (isIdentifierStart_iff.1 hs)
    by_cases hpoint : c = '.' ∧ ∃ x ∈ text.head?, x.isDigit
    · obtain ⟨rfl, x, hx, hd⟩ := hpoint
      obtain ⟨rest, rfl⟩ := List.head?_eq_some_iff.1 hx
      exact of_point hd
    have hscore : c ≠ '_' := fun h => hs (.inl h)
    obtain ⟨kind, hm⟩ := exists_mark_iff.2 ⟨hp, hq, hscore⟩
    refine of_mark hm (fun h x hx => ?_) (fun h x hx => ?_)
    · exact Bool.eq_false_iff.2 fun hd => hpoint ⟨h, x, hx, hd⟩
    · exact Bool.eq_false_iff.2 fun hs => hat ⟨h, x, hx, hs⟩
  · exact .malformed (.char hc hs (Bool.eq_false_iff.2 hd) hp)

end Front

/-- What a text goes on with behind its gap, if it goes on. -/
inductive Ahead : List Char → Prop where
  | nothing {gap : List Char} : IsGap gap → Ahead gap
  | lexeme {gap v rest : List Char} {kind : TokenKind} :
      IsGap gap → Lexeme kind v → Apart v rest → Ahead (gap ++ (v ++ rest))
  | malformed {gap rest : List Char} {cause : LexError.Cause} :
      IsGap gap → Malformed cause rest → Ahead (gap ++ rest)

theorem Ahead.of_text (text : List Char) : Ahead text := by
  obtain ⟨gap, rest, rfl, hgap, hrest⟩ := exists_run isSpace text
  have hgap := isGap_iff.2 hgap
  cases rest with
  | nil =>
    rw [List.append_nil]
    exact .nothing hgap
  | cons c rest =>
    have hf : Front (c :: rest) := Front.of_first (isSpace_eq_false_iff.1 (hrest c rfl))
    generalize c :: rest = front at hf
    cases hf with
    | lexeme hv ha => exact .lexeme hgap hv ha
    | malformed hm => exact .malformed hgap hm

end ExprLexer
