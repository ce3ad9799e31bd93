-- SUMMARY: A text as lexemes with gaps between them, and how any text can be read that way.
import ExprLexer.Proofs.Front

/-!
# Layouts

A `Layout` is a text cut into lexemes: each stands behind a gap, and one more gap
ends it. A text is read as a layout when no lexeme is continued by the char after
it (`Layout.Before`), up to the end of the text or to something malformed.

Main statement: every text can be read that way (`exists_reads`).
-/

namespace ExprLexer

/-! ## Pieces -/

/-- A lexeme behind a gap. -/
@[ext]
structure Piece where
  gap : List Char
  kind : TokenKind
  value : List Char
  isGap : IsGap gap
  isLexeme : Lexeme kind value

namespace Piece

def text (p : Piece) : List Char := p.gap ++ p.value

/-- The text of pieces that stand in a row. -/
def textOf (ps : List Piece) : List Char := ps.flatMap text

@[simp] theorem textOf_nil : textOf [] = [] := rfl

@[simp] theorem textOf_cons (p : Piece) (ps : List Piece) :
    textOf (p :: ps) = p.text ++ textOf ps := rfl

@[simp] theorem textOf_append (ps qs : List Piece) : textOf (ps ++ qs) = textOf ps ++ textOf qs :=
  List.flatMap_append

/-- The tokens of pieces that stand in a row from `l` on. -/
def tokensFrom (l : Location) : List Piece → List (Token TokenKind)
  | [] => []
  | p :: ps =>
    ⟨p.kind, String.ofList p.value, l.advance p.gap⟩ :: tokensFrom (l.advance p.text) ps

/-- No lexeme of the row is continued by the char after it, where `rest` follows the last one. -/
def Separated : List Piece → List Char → Prop
  | [], _ => True
  | p :: ps, rest => Apart p.value (textOf ps ++ rest) ∧ Separated ps rest

/-- The same lexeme behind a longer gap. -/
def widen (gap : List Char) (h : IsGap gap) (p : Piece) : Piece :=
  { p with gap := gap ++ p.gap, isGap := h.append p.isGap }

variable {ps qs : List Piece} {rest w : List Char}

@[simp] theorem length_tokensFrom (l : Location) (ps : List Piece) :
    (tokensFrom l ps).length = ps.length := by
  induction ps generalizing l with
  | nil => rfl
  | cons p ps ih => exact congrArg (· + 1) (ih _)

theorem length_le_textOf (ps : List Piece) : ps.length ≤ (textOf ps).length := by
  induction ps with
  | nil => exact Nat.le_refl 0
  | cons p ps ih =>
    obtain ⟨c, run, hv, -⟩ := p.isLexeme.head
    simp only [textOf_cons, text, hv, List.length_append, List.length_cons]
    omega

/-- A row of pieces can be cut behind any of its tokens. -/
theorem exists_append {l : Location} {i : Nat} {token : Token TokenKind}
    (h : (tokensFrom l ps)[i]? = some token) :
    ∃ qs rs : List Piece, ps = qs ++ rs ∧ qs.length = i + 1 ∧
      (tokensFrom l qs)[i]? = some token ∧
      l.advance (textOf qs) = token.location.advance token.value.toList := by
  induction ps generalizing l i with
  | nil => cases h
  | cons p ps ih =>
    cases i with
    | zero =>
      cases h
      refine ⟨[p], ps, rfl, rfl, rfl, ?_⟩
      simp [text, Location.advance_append]
    | succ i =>
      obtain ⟨qs, rs, rfl, hn, hi, hend⟩ := ih h
      refine ⟨p :: qs, rs, rfl, congrArg (· + 1) hn, hi, ?_⟩
      rw [textOf_cons, Location.advance_append, hend]

theorem tokensFrom_append (l : Location) (ps qs : List Piece) :
    tokensFrom l (ps ++ qs) = tokensFrom l ps ++ tokensFrom (l.advance (textOf ps)) qs := by
  induction ps generalizing l with
  | nil => rfl
  | cons p ps ih =>
    rw [textOf_cons, Location.advance_append]
    exact congrArg (List.cons _) (ih _)

theorem separated_append :
    Separated (ps ++ qs) rest ↔ Separated ps (textOf qs ++ rest) ∧ Separated qs rest := by
  induction ps with
  | nil => exact (and_iff_right trivial).symm
  | cons p ps ih =>
    rw [List.cons_append, Separated, Separated, ih, textOf_append, List.append_assoc, and_assoc]

/-- More text continues no lexeme, unless the text ended with a lexeme and the rest does not start
    with a blank. -/
theorem Separated.append (h : Separated ps rest) (hw : rest = [] → ∀ c ∈ w.head?, isSpace c) :
    Separated ps (rest ++ w) := by
  induction ps with
  | nil => trivial
  | cons p ps ih =>
    refine ⟨?_, ih h.2⟩
    rw [← List.append_assoc]
    exact h.1.append fun hnil => hw (List.append_eq_nil_iff.1 hnil).2

end Piece

/-! ## Layouts -/

/-- A text cut into lexemes. -/
@[ext]
structure Layout where
  pieces : List Piece
  /-- What is behind the last lexeme. -/
  gap : List Char
  isGap : IsGap gap

namespace Layout

def text (y : Layout) : List Char := Piece.textOf y.pieces ++ y.gap

/-- The tokens of a layout that starts at `l`. -/
def tokens (y : Layout) (l : Location) : List (Token TokenKind) := Piece.tokensFrom l y.pieces

/-- The lexemes of the layout are read up to their ends when `rest` follows it. -/
def Before (y : Layout) (rest : List Char) : Prop := Piece.Separated y.pieces (y.gap ++ rest)

/-- The layout of a gap alone. -/
def ofGap (gap : List Char) (h : IsGap gap) : Layout := ⟨[], gap, h⟩

/-- The layout with one more piece in front. -/
def cons (p : Piece) (y : Layout) : Layout := { y with pieces := p :: y.pieces }

/-- Layouts are built from a gap, piece by piece from the right. -/
@[elab_as_elim, induction_eliminator]
theorem ind {motive : Layout → Prop} (ofGap : ∀ gap h, motive (ofGap gap h))
    (cons : ∀ p y, motive y → motive (cons p y)) (y : Layout) : motive y := by
  obtain ⟨ps, gap, hgap⟩ := y
  induction ps with
  | nil => exact ofGap gap hgap
  | cons p ps ih => exact cons p ⟨ps, gap, hgap⟩ ih

@[elab_as_elim, cases_eliminator]
theorem split {motive : Layout → Prop} (ofGap : ∀ gap h, motive (ofGap gap h))
    (cons : ∀ p y, motive (cons p y)) (y : Layout) : motive y :=
  ind ofGap (fun p y _ => cons p y) y

@[simp] theorem text_ofGap {gap : List Char} (h : IsGap gap) : (ofGap gap h).text = gap := rfl

@[simp] theorem text_cons (p : Piece) (y : Layout) : (cons p y).text = p.text ++ y.text :=
  List.append_assoc ..

theorem before_cons {p : Piece} {y : Layout} {rest : List Char} :
    (cons p y).Before rest ↔ Apart p.value (y.text ++ rest) ∧ y.Before rest := by
  rw [Before, cons, Piece.Separated, text, List.append_assoc, Before]

/-! ## One layout behind another -/

/-- The layout of two texts in a row. The gap behind the first one comes before what is next. -/
def append (y : Layout) : Layout → Layout
  | ⟨[], gap, h⟩ => ⟨y.pieces, y.gap ++ gap, y.isGap.append h⟩
  | ⟨q :: qs, gap, h⟩ => ⟨y.pieces ++ q.widen y.gap y.isGap :: qs, gap, h⟩

variable (y z : Layout)

@[simp] theorem text_append : (y.append z).text = y.text ++ z.text := by
  match z with
  | ⟨[], gap, h⟩ => simp [append, text]
  | ⟨q :: qs, gap, h⟩ => simp [append, text, Piece.text, Piece.widen]

theorem tokens_append (l : Location) :
    (y.append z).tokens l = y.tokens l ++ z.tokens (l.advance y.text) := by
  match z with
  | ⟨[], gap, h⟩ => exact (List.append_nil _).symm
  | ⟨q :: qs, gap, h⟩ =>
    simp [append, tokens, Piece.tokensFrom_append, Piece.tokensFrom, text, Piece.text, Piece.widen,
      Location.advance_append]

variable {y z}

/-- A layout can be cut behind any of its tokens. -/
theorem exists_append {l : Location} {i : Nat} {token : Token TokenKind}
    (h : (y.tokens l)[i]? = some token) :
    ∃ x z : Layout, y = x.append z ∧ (x.tokens l)[i]? = some token ∧
      (x.tokens l).length = i + 1 ∧
      l.advance x.text = token.location.advance token.value.toList := by
  obtain ⟨ps, gap, hgap⟩ := y
  obtain ⟨qs, rs, rfl, hn, hi, hend⟩ := Piece.exists_append h
  refine ⟨⟨qs, [], isGap_nil⟩, ⟨rs, gap, hgap⟩, ?_, hi, ?_, ?_⟩
  · cases rs with
    | nil => simp [append]
    | cons r rs => rfl
  · rw [tokens, Piece.length_tokensFrom, hn]
  · rw [text, List.append_nil, hend]

theorem before_append {rest : List Char} :
    (y.append z).Before rest ↔ y.Before (z.text ++ rest) ∧ z.Before rest := by
  match z with
  | ⟨[], gap, h⟩ =>
    rw [Before, append, List.append_assoc]
    exact (and_iff_left trivial).symm
  | ⟨q :: qs, gap, h⟩ =>
    simp only [Before, append, Piece.separated_append, Piece.Separated, Piece.textOf_cons, text,
      Piece.text, Piece.widen, List.append_assoc]

/-- More text continues no lexeme of a layout that something follows, or behind which the text
    starts with a blank. -/
theorem Before.append {rest w : List Char} (h : y.Before rest)
    (hw : rest = [] → ∀ c ∈ w.head?, isSpace c) : y.Before (rest ++ w) := by
  rw [Before, ← List.append_assoc]
  exact Piece.Separated.append h fun hnil => hw (List.append_eq_nil_iff.1 hnil).2

end Layout

/-! ## Readings -/

/-- Where a reading ends: at the end of the text, or at something malformed. -/
inductive Ending : List Char → Option LexError.Cause → Prop where
  | ended : Ending [] none
  | malformed {cause : LexError.Cause} {rest : List Char} :
      Malformed cause rest → Ending rest (some cause)

/-- The text is read as the layout, and the reading ends before `rest`. -/
structure Reads (text : List Char) (y : Layout) (rest : List Char) (cause : Option LexError.Cause) :
    Prop where
  text_eq : text = y.text ++ rest
  before : y.Before rest
  ending : Ending rest cause

/-- A reading takes the first lexeme up to its end, and the rest is read on. -/
theorem Reads.of_cons {text rest : List Char} {p : Piece} {y : Layout}
    {cause : Option LexError.Cause} (h : Reads text (.cons p y) rest cause) :
    text = p.gap ++ (p.value ++ (y.text ++ rest)) ∧ Apart p.value (y.text ++ rest) ∧
      Reads (y.text ++ rest) y rest cause := by
  obtain ⟨ha, hbefore⟩ := Layout.before_cons.1 h.before
  refine ⟨?_, ha, rfl, hbefore, h.ending⟩
  rw [h.text_eq, Layout.text_cons, Piece.text, List.append_assoc, List.append_assoc]

/-- A layout that ends where a text is read on comes before what is read there. -/
theorem Reads.behind {text rest : List Char} {x y : Layout} {cause : Option LexError.Cause}
    (h : Reads text y rest cause) (hx : x.Before text) :
    Reads (x.text ++ text) (x.append y) rest cause := by
  obtain ⟨rfl, hbefore, hend⟩ := h
  refine ⟨?_, Layout.before_append.2 ⟨hx, hbefore⟩, hend⟩
  rw [Layout.text_append, List.append_assoc]

/-- A reading does not end before a blank. -/
theorem Ending.head {rest : List Char} {cause : Option LexError.Cause} (h : Ending rest cause) :
    ∀ c ∈ rest.head?, isSpace c = false := by
  cases h with
  | ended => simp
  | malformed hm =>
    obtain ⟨c, run, rfl, hc⟩ := hm.head
    simpa using hc

theorem Reads.ne_nil {text rest : List Char} {y : Layout} {cause : LexError.Cause}
    (h : Reads text y rest (some cause)) : text ≠ [] := by
  obtain ⟨rfl, -, hend⟩ := h
  cases hend with
  | malformed hm =>
    intro hnil
    exact hm.ne_nil (List.append_eq_nil_iff.1 hnil).2

/-- A text has no more lexemes than chars. -/
theorem Reads.length_le {text rest : List Char} {y : Layout} {cause : Option LexError.Cause}
    (h : Reads text y rest cause) : y.pieces.length ≤ text.length := by
  have hle := Piece.length_le_textOf y.pieces
  rw [h.text_eq, Layout.text, List.length_append, List.length_append]
  omega

/-- Any text can be read. -/
theorem exists_reads (text : List Char) : ∃ y rest cause, Reads text y rest cause := by
  -- A lexeme is not empty, so what is behind it is shorter.
  induction hn : text.length using Nat.strong_induction_on generalizing text with
  | _ n ih =>
    cases Ahead.of_text text with
    | nothing hgap =>
      exact ⟨.ofGap text hgap, [], none, (List.append_nil text).symm, trivial, .ended⟩
    | malformed hgap hm => exact ⟨.ofGap _ hgap, _, _, rfl, trivial, .malformed hm⟩
    | @lexeme gap v tail kind hgap hv ha =>
      obtain ⟨d, run, rfl, -⟩ := hv.head
      obtain ⟨y, rest, cause, h⟩ := ih tail.length (by simp at hn; omega) tail rfl
      refine ⟨.cons ⟨gap, kind, d :: run, hgap, hv⟩ y, rest, cause, ?_, ?_, h.ending⟩
      · rw [h.text_eq]
        simp [Piece.text]
      · exact Layout.before_cons.2 ⟨h.text_eq ▸ ha, h.before⟩

end ExprLexer
