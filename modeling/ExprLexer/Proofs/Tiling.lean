-- SUMMARY: How the tokens of a stream cover their text: in order, verbatim, with blanks between.
import ExprLexer.Proofs.Slice
import ExprLexer.Proofs.Stream

/-!
# Tilings

The tokens of a text `Tile` it: each of them is the piece of the text at its
offset, and between one and the next there are only blanks. So nothing of a text
is lost, repeated or moved by reading it. Where reading fails, the token that
reports it stands before something that is left of the text.

Main statement: the stream of any text tiles it from behind the byte order mark
on (`Lexer.yields_tiles`).
-/

namespace ExprLexer

/-- The byte behind a token that is a piece of the text. -/
def Token.endOffset {κ : Type} (token : Token κ) : Nat :=
  token.location.offset + byteLength token.value.toList

/-- From byte `i` on, a text consists of blanks up to byte `j`. -/
def BlankBetween (text : List Char) (i j : Nat) : Prop :=
  ∃ gap, slice? text i j = some gap ∧ IsGap gap

/-- The tokens cover the text from byte `i` on. -/
inductive Tiles (text : List Char) : Nat → List (Token TokenKind) → Prop where
  /-- Only blanks are left. -/
  | ended {i : Nat} : BlankBetween text i (byteLength text) → Tiles text i []
  /-- What is left behind some blanks could not be read. -/
  | failed {i : Nat} {token : Token TokenKind} :
      token.kind = .error → BlankBetween text i token.location.offset →
      token.location.offset < byteLength text → Tiles text i [token]
  /-- A token is the piece of the text behind some blanks, and the others follow it. -/
  | token {i : Nat} {token : Token TokenKind} {tokens : List (Token TokenKind)} :
      token.kind ≠ .error → BlankBetween text i token.location.offset → token.value ≠ "" →
      slice? text token.location.offset token.endOffset = some token.value.toList →
      Tiles text token.endOffset tokens → Tiles text i (token :: tokens)

variable {text u v rest : List Char} {i : Nat}

/-- Each token takes a char at least, and so does what could not be read. -/
theorem Tiles.length_le {tokens : List (Token TokenKind)} (h : Tiles text i tokens)
    (htext : text = u ++ v) (hu : byteLength u = i) : tokens.length ≤ v.length := by
  induction h generalizing u v with
  | ended _ => exact Nat.zero_le _
  | failed _ hblank hlt =>
    obtain ⟨gap, hgap, -⟩ := hblank
    obtain ⟨-, -, -, -, hj⟩ := slice?_eq_some_iff.1 hgap
    have hv : v ≠ [] := by
      rintro rfl
      rw [htext, List.append_nil] at hlt
      omega
    exact List.length_pos_iff.2 hv
  | @token i token tokens _ hblank hne hvalue _ ih =>
    obtain ⟨gap, hgap, -⟩ := hblank
    obtain ⟨-, -, -, -, hj⟩ := slice?_eq_some_iff.1 hgap
    obtain ⟨u', w, htext', hu', hend⟩ := slice?_eq_some_iff.1 hvalue
    have hle := length_le_of_append_eq (htext.symm.trans htext') (by omega)
    have hpos : 0 < token.value.toList.length := by
      rw [List.length_pos_iff]
      exact mt String.toList_eq_nil_iff.1 hne
    have htokens : tokens.length ≤ w.length := by
      refine ih (u := u' ++ token.value.toList) ?_ ?_
      · rw [htext', List.append_assoc]
      · rw [byteLength_append, hu', hend]
    rw [List.length_append] at hle
    rw [List.length_cons]
    omega

theorem BlankBetween.of_text {gap : List Char} {l : Location} (htext : text = u ++ (gap ++ rest))
    (hl : byteLength u = l.offset) (hgap : IsGap gap) :
    BlankBetween text l.offset (l.advance gap).offset :=
  ⟨gap, slice?_eq_some_iff.2 ⟨u, rest, htext, hl, (Location.advance_offset l gap).symm⟩, hgap⟩

/-- The stream of a layout tiles the text in which the layout is read behind `u`. -/
theorem Layout.stream_tiles {y : Layout} {cause : Option LexError.Cause} {l : Location}
    (hend : Ending rest cause) (htext : text = u ++ (y.text ++ rest))
    (hl : byteLength u = l.offset) : Tiles text l.offset (y.stream l cause) := by
  induction y generalizing u l with
  | ofGap gap hgap =>
    rw [text_ofGap] at htext
    have hblank := BlankBetween.of_text htext hl hgap
    have hlength : byteLength text = (l.advance gap).offset + byteLength rest := by
      rw [htext, byteLength_append, byteLength_append, hl, Location.advance_offset, Nat.add_assoc]
    cases hend with
    | ended =>
      rw [byteLength_nil, Nat.add_zero] at hlength
      exact .ended (hlength ▸ hblank)
    | malformed hm =>
      refine .failed rfl hblank ?_
      have hpos := byteLength_pos hm.ne_nil
      change (l.advance gap).offset < byteLength text
      omega
  | cons p y ih =>
    obtain ⟨c, run, hv, -⟩ := p.isLexeme.head
    rw [text_cons, Piece.text, List.append_assoc, List.append_assoc] at htext
    have hvalue : byteLength (u ++ p.gap) = (l.advance p.gap).offset := by
      rw [byteLength_append, hl, Location.advance_offset]
    have hnext : (l.advance p.text).offset =
        (l.advance p.gap).offset + byteLength p.value := by
      rw [Piece.text, Location.advance_append, Location.advance_offset]
    rw [stream_cons]
    refine .token p.isLexeme.kind_ne_error (BlankBetween.of_text htext hl p.isGap) ?_ ?_ ?_
    · simp [hv]
    · refine slice?_eq_some_iff.2 ⟨u ++ p.gap, y.text ++ rest, ?_, hvalue, ?_⟩
      · simp [htext]
      · rfl
    · rw [Token.endOffset, String.toList_ofList, ← hnext]
      refine ih (u := u ++ p.text) ?_ ?_
      · simp [htext, Piece.text]
      · rw [byteLength_append, hl, Location.advance_offset]

theorem eq_append_body (text : List Char) :
    ∃ u, text = u ++ body text ∧ byteLength u = (origin text).offset := by
  obtain ⟨u, htext, hbody, horigin⟩ := exists_eq_append_of_body (List.nil_append (body text)).symm
  refine ⟨u, htext, ?_⟩
  have hu := byteLength_body u
  rw [hbody, horigin] at hu
  simpa using hu.symm

/-- The tokens of a text cover it: each is the piece of the text at its offset, and between them
    are only blanks. A text has no more tokens than chars. -/
theorem Lexer.yields_tiles (text : String) :
    ∃ ts l, (ofString text).Yields ts l ∧
      Tiles text.toList (if text.toList.head? = some byteOrderMark then 3 else 0) ts ∧
      ts.length ≤ text.toList.length := by
  obtain ⟨y, rest, cause, h⟩ := exists_reads (body text.toList)
  obtain ⟨l, hl, -⟩ := yields_ofList h
  obtain ⟨u, htext, hu⟩ := eq_append_body text.toList
  have horigin : (origin text.toList).offset =
      if text.toList.head? = some byteOrderMark then 3 else 0 := by
    unfold origin
    split <;> rfl
  have htiles := Layout.stream_tiles h.ending (h.text_eq ▸ htext) hu
  refine ⟨_, l, hl, horigin ▸ htiles, ?_⟩
  have hle := htiles.length_le htext hu
  have hbody := body_length_le text.toList
  omega

end ExprLexer
