-- SUMMARY: What stays as it was when a text goes on: tokens before its end, and most failures.
import ExprLexer.Proofs.Language

/-!
# Longer texts

No token is decided by more than one char behind it, so a token stays when text
is added behind the end of the text. A failure stays too, unless it came from
the end of the text: a string that is not closed, or a dot at the end of a name.

Main statement: this comparison of the two streams (`Lexer.yields_append`).
-/

namespace ExprLexer

variable {u w rest rest' : List Char} {y y' : Layout} {l : Location}

/-- A token that ends before the text does stays where it is when the text goes on. -/
theorem Reads.token_stays {cause cause' : Option LexError.Cause} {i : Nat}
    {token : Token TokenKind} (h : Reads u y rest cause) (h' : Reads (u ++ w) y' rest' cause')
    (hi : (y.tokens l)[i]? = some token)
    (hlt : (token.location.advance token.value.toList).offset < (l.advance u).offset) :
    (y'.tokens l)[i]? = some token := by
  obtain ⟨x, z, rfl, hx, hn, hend⟩ := Layout.exists_append hi
  obtain ⟨rfl, hbefore, -⟩ := h
  obtain ⟨hbefore, -⟩ := Layout.before_append.1 hbefore
  -- `x` is the layout up to the token. The char behind it is the same in the longer text.
  have hne : z.text ++ rest ≠ [] := by
    intro hnil
    rw [Layout.text_append, List.append_assoc, hnil, List.append_nil, hend] at hlt
    exact Nat.lt_irrefl _ hlt
  have hx' : x.Before (z.text ++ rest ++ w) := hbefore.append fun hnil => absurd hnil hne
  obtain ⟨z', rest'', cause'', hz⟩ := exists_reads (z.text ++ rest ++ w)
  have heq : (x.append z).text ++ rest ++ w = x.text ++ (z.text ++ rest ++ w) := by
    simp only [Layout.text_append, List.append_assoc]
  rw [heq] at h'
  obtain ⟨rfl, -, -⟩ := h'.unique (hz.behind hx')
  rw [Layout.tokens_append, List.getElem?_append_left (by omega), hx]

/-- What is malformed before the end of a text is so when the text goes on. -/
theorem Reads.failure_stays {cause : LexError.Cause} {cause' : Option LexError.Cause}
    (h : Reads u y rest (some cause)) (h' : Reads (u ++ w) y' rest' cause')
    (hs : cause ≠ .unterminatedString) (hn : cause ≠ .malformedIdentifier none) :
    y' = y ∧ cause' = some cause := by
  obtain ⟨rfl, hbefore, hend⟩ := h
  cases hend with
  | malformed hm =>
    have hbefore' : y.Before (rest ++ w) := hbefore.append fun hnil => absurd hnil hm.ne_nil
    have hr : Reads (y.text ++ rest ++ w) y (rest ++ w) (some cause) :=
      ⟨List.append_assoc .., hbefore', .malformed (hm.append hs hn w)⟩
    obtain ⟨hy, -, hc⟩ := h'.unique hr
    exact ⟨hy, hc⟩

/-- The stream of a text and that of a longer one have the tokens in common that end before the
    shorter text does. They are the same, with the same failure, if the shorter text fails for any
    cause but a string or an identifier that meets its end. -/
theorem Lexer.yields_append (u w : String) :
    ∃ ts l ts' l', (ofString u).Yields ts l ∧ (ofString (u ++ w)).Yields ts' l' ∧
      (∀ (i : Nat) (token : Token TokenKind), ts[i]? = some token → token.kind ≠ .error →
        token.location.offset + byteLength token.value.toList < byteLength u.toList →
        ts'[i]? = some token) ∧
      ((∃ token, ts.getLast? = some token ∧ token.kind = .error) →
        (∀ e, l.error = some e →
          e.cause ≠ .unterminatedString ∧ e.cause ≠ .malformedIdentifier none) →
        ts' = ts ∧ l'.error = l.error) := by
  obtain ⟨y, rest, cause, h⟩ := exists_reads (body u.toList)
  obtain ⟨y', rest', cause', h'⟩ := exists_reads (body (u ++ w).toList)
  obtain ⟨l, hl, herror⟩ := yields_ofList h
  obtain ⟨l', hl', herror'⟩ := yields_ofList h'
  refine ⟨_, l, _, l', hl, hl', ?_, ?_⟩
  · intro i token hi hk hlt
    have hne : u.toList ≠ [] := by
      intro hnil
      simp [hnil] at hlt
    obtain ⟨hbody, horigin⟩ := body_append (w := w.toList) fun hnil => absurd hnil hne
    rw [String.toList_append, hbody] at h'
    rw [String.toList_append, horigin]
    have hend : (token.location.advance token.value.toList).offset <
        ((origin u.toList).advance (body u.toList)).offset := by
      rwa [Location.advance_offset, Location.advance_offset, byteLength_body]
    have hi' := h.token_stays h' (Layout.stream_getElem? hi hk) hend
    rw [Layout.stream, List.getElem?_append_left (List.getElem?_eq_some_iff.1 hi').1, hi']
  · rintro ⟨token, hlast, hk⟩ he
    cases cause with
    | none =>
      have hm := List.mem_of_getLast? hlast
      rw [Layout.stream_none] at hm
      exact absurd hk (Layout.kind_ne_error hm)
    | some cause =>
      obtain ⟨hs, hn⟩ := he _ herror
      have hne : u.toList ≠ [] := by
        intro hnil
        rw [hnil] at h
        exact h.ne_nil rfl
      obtain ⟨hbody, horigin⟩ := body_append (w := w.toList) fun hnil => absurd hnil hne
      rw [String.toList_append, hbody] at h'
      obtain ⟨rfl, rfl⟩ := h.failure_stays h' hs hn
      rw [herror, herror', String.toList_append, horigin]
      exact ⟨rfl, rfl⟩

end ExprLexer
