-- SUMMARY: Every token is the longest lexeme where it stands, and a lexeme of no other kind.
import ExprLexer.Proofs.Language
import ExprLexer.Proofs.Tiling

/-!
# Longest matches

The grammar looks one char ahead and never takes back more than that one, and
yet no token could have been longer. This follows from texts being read in one
way only: if a lexeme that the next char does not glue to were the front of a
longer lexeme, then the text of the longer one alone could be read in two ways,
with one token or with two (`Lexeme.isLongest`).

Main statement: each token of a stream is the longest lexeme at its offset and a
lexeme of its own kind only, and where a char is unexpected no lexeme starts
(`Lexer.yields_longest`).
-/

namespace ExprLexer

/-- `v` is the longest piece at the front of a text that is a lexeme, of whatever kind. -/
structure IsLongestLexeme (text v : List Char) : Prop where
  front : v <+: text
  isLexeme : ∃ kind, Lexeme kind v
  longest : ∀ kind w, w <+: text → Lexeme kind w → w.length ≤ v.length

variable {kind kind' : TokenKind} {v rest text : List Char}

/-! ## The front of a text -/

theorem apart_nil (v : List Char) : Apart v [] := by
  intro c hc
  cases hc

/-- No lexeme is of two kinds. -/
theorem Lexeme.kind_unique (h : Lexeme kind v) (h' : Lexeme kind' v) : kind = kind' :=
  (h.unique (apart_nil v) h' (apart_nil v) rfl).1

/-- A lexeme that the next char does not glue to is not the front of a longer one. -/
theorem Lexeme.isLongest (h : Lexeme kind v) (ha : Apart v rest) :
    IsLongestLexeme (v ++ rest) v where
  front := List.prefix_append v rest
  isLexeme := ⟨kind, h⟩
  longest := by
    intro kind' w hw hlexeme
    by_contra hlt
    -- What makes `w` longer starts with the char behind `v`.
    have hv : v <+: w := List.prefix_of_prefix_length_le (List.prefix_append v rest) hw (by omega)
    obtain ⟨more, rfl⟩ := hv
    have hmore : more <+: rest := (List.prefix_append_right_inj v).1 hw
    have hne : more ≠ [] := by
      rintro rfl
      simp at hlt
    have hapart : Apart v more := by
      intro c hc
      obtain ⟨tail, rfl⟩ := hmore
      exact ha c (by rwa [List.head?_append_of_ne_nil more hne])
    obtain ⟨-, -, hnil⟩ := h.unique hapart hlexeme (apart_nil _) (List.append_nil _).symm
    exact hne hnil

/-- Where a char is unexpected no lexeme starts. -/
theorem Malformed.no_lexeme {c : Char} (h : Malformed (.unexpectedChar c) text)
    (hv : v <+: text) : ¬ Lexeme kind v := by
  intro hlexeme
  obtain ⟨rest, rfl⟩ := hv
  obtain ⟨d, run, rfl, -⟩ := hlexeme.head
  cases h with
  | char hblank hstart hdigit hmark =>
    have hm : Malformed (.unexpectedChar c) (c :: run ++ []) := .char hblank hstart hdigit hmark
    exact hlexeme.not_malformed (apart_nil _) hm

/-! ## The tokens of a text -/

/-- A token of a reading is a lexeme that stands in the text behind what was passed before it. -/
theorem Reads.exists_front {y : Layout} {cause : Option LexError.Cause} {l : Location}
    {token : Token TokenKind} (h : Reads text y rest cause) (ht : token ∈ y.tokens l) :
    ∃ u v rest', text = u ++ (v ++ rest') ∧ token.location = l.advance u ∧
      token.value.toList = v ∧ Lexeme token.kind v ∧ Apart v rest' := by
  induction y generalizing text l with
  | ofGap gap hgap => cases ht
  | cons p y ih =>
    obtain ⟨rfl, ha, hreads⟩ := h.of_cons
    rw [Layout.tokens_cons] at ht
    rcases List.mem_cons.1 ht with rfl | ht
    · exact ⟨p.gap, p.value, _, rfl, rfl, String.toList_ofList, p.isLexeme, ha⟩
    · obtain ⟨u, v, rest', heq, hl, hv⟩ := ih hreads ht
      refine ⟨p.text ++ u, v, rest', ?_, ?_, hv⟩
      · rw [heq, Piece.text, List.append_assoc, List.append_assoc]
      · rw [hl, Location.advance_append]

/-- What a reader has in front of it behind a piece of the text is a slice up to the end. -/
theorem slice?_of_body {text u rest : List Char} (h : body text = u ++ rest) :
    slice? text ((origin text).advance u).offset (byteLength text) = some rest := by
  obtain ⟨mark, htext, hmark⟩ := eq_append_body text
  rw [h] at htext
  refine slice?_eq_some_iff.2 ⟨mark ++ u, [], ?_, ?_, ?_⟩
  · simpa using htext
  · rw [byteLength_append, hmark, Location.advance_offset]
  · rw [← byteLength_body text, h, byteLength_append, Location.advance_offset, Nat.add_assoc]

/-- Each token is the longest lexeme at its offset, and a lexeme of its own kind only. Where a char
    is unexpected nothing at the front of what is left is a lexeme. -/
theorem Lexer.yields_longest (text : String) :
    ∃ ts l, (ofString text).Yields ts l ∧
      (∀ token ∈ ts, token.kind ≠ .error → ∃ rest,
        slice? text.toList token.location.offset (byteLength text.toList) = some rest ∧
        IsLongestLexeme rest token.value.toList ∧
        ∀ kind, Lexeme kind token.value.toList ↔ kind = token.kind) ∧
      ∀ e c, l.error = some e → e.cause = .unexpectedChar c → ∃ rest,
        slice? text.toList e.location.offset (byteLength text.toList) = some rest ∧ rest ≠ [] ∧
        ∀ kind v, v <+: rest → ¬ Lexeme kind v := by
  obtain ⟨y, rest, cause, h⟩ := exists_reads (body text.toList)
  obtain ⟨l, hl, herror⟩ := yields_ofList h
  refine ⟨_, l, hl, ?_, ?_⟩
  · intro token ht hk
    obtain ⟨i, hi⟩ := List.mem_iff_getElem?.1 ht
    have hmem := List.mem_of_getElem? (Layout.stream_getElem? hi hk)
    obtain ⟨u, v, rest', htext, hlocation, hvalue, hlexeme, ha⟩ := h.exists_front hmem
    rw [hlocation, hvalue]
    refine ⟨v ++ rest', slice?_of_body htext, hlexeme.isLongest ha, ?_⟩
    intro kind
    constructor
    · exact fun hkind => hkind.kind_unique hlexeme
    · rintro rfl
      exact hlexeme
  · intro e c he hcause
    rw [herror, Layout.failure] at he
    obtain ⟨cause', rfl, rfl⟩ := Option.map_eq_some_iff.1 he
    cases hcause
    obtain ⟨htext, -, hend⟩ := h
    cases hend with
    | malformed hm =>
      exact ⟨rest, slice?_of_body htext, hm.ne_nil, fun kind v hv => hm.no_lexeme hv⟩

end ExprLexer
