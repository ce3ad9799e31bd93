-- SUMMARY: What comes behind a token, as a fresh lexer finds it in the rest of the text.
import ExprLexer.Proofs.Concatenation

/-!
# Behind a token

A lexer that has handed out a token remembers nothing of the text before it but
where it stands. Two scanners in front of the same text hand out the same, up to
that place (`Mode.Ready.collect_moved`). So behind each token a lexer goes on as
one does that starts with the rest of the text, unless a byte order mark would
open that (`Lexer.yields_behind`).
-/

namespace ExprLexer

theorem Piece.tokensFrom_moved (base : Location) {l : Location} (hl : l.Counted)
    (ps : List Piece) :
    tokensFrom (base.moved l) ps = (tokensFrom l ps).map (Token.moved base) :=
  Layout.tokens_moved ⟨ps, [], isGap_nil⟩ base hl

theorem Layout.stream_moved (y : Layout) (base : Location) {l : Location} (hl : l.Counted)
    (cause : Option LexError.Cause) :
    y.stream (base.moved l) cause = (y.stream l cause).map (Token.moved base) := by
  rw [stream, stream, tokens_moved y base hl, failure_moved y base hl, List.map_append]
  cases y.failure l cause <;> rfl

namespace Mode

variable {s s' : Machine} {base : Location} {text : List Char}

/-- Two scanners in front of the same text hand out the same tokens, pull by pull, and fail for the
    same cause. All locations are moved by where the text starts. -/
theorem Ready.collect_moved (h : Ready s base text) (h' : Ready s' .start text) (n : Nat) :
    ∃ tokens s₁ s₂, s.collect grammar n = .ok (tokens.map (Token.moved base), s₁) ∧
      s'.collect grammar n = .ok (tokens, s₂) ∧
      s₁.failure = s₂.failure.map (Failure.moved base) := by
  obtain ⟨y, rest, cause, hr⟩ := exists_reads text
  rw [← base.moved_start] at h
  rcases Nat.lt_or_ge y.pieces.length n with hn | hn
  · obtain ⟨s₁, h₁, hs₁⟩ := collect_reads hr h hn
    obtain ⟨s₂, h₂, hs₂⟩ := collect_reads hr h' hn
    rw [Layout.stream_moved y base Location.counted_start] at h₁
    rw [Layout.failure_moved y base Location.counted_start] at hs₁
    exact ⟨_, s₁, s₂, h₁, h₂, by rw [hs₁.failure, hs₂.failure]⟩
  · -- The scan is not over yet: both scanners stand behind the same lexeme.
    have hlen : (y.pieces.take n).length = n := List.length_take_of_le hn
    have hy := (List.take_append_drop n y.pieces).symm
    obtain ⟨s₁, h₁, hs₁⟩ := collect_within hr h hy
    obtain ⟨s₂, h₂, hs₂⟩ := collect_within hr h' hy
    rw [hlen, Piece.tokensFrom_moved base Location.counted_start] at h₁
    rw [hlen] at h₂
    exact ⟨_, s₁, s₂, h₁, h₂, by rw [hs₁.failure, hs₂.failure, Option.map_none]⟩

end Mode

/-- Behind each of its tokens a lexer hands out, pull by pull, what a lexer of the rest `v` of the
    text does, and fails for the same cause. All locations are moved by where that rest starts. -/
theorem Lexer.yields_behind (text : String) :
    ∃ ts l, (ofString text).Yields ts l ∧
      ∀ (i : Nat) (token : Token TokenKind), ts[i]? = some token → token.kind ≠ .error →
        ∃ u v s, text.toList = u ++ v ∧
          byteLength u = token.location.offset + byteLength token.value.toList ∧
          (ofString text).scanner.collect grammar (i + 1) = .ok (ts.take (i + 1), s) ∧
          (v.head? ≠ some byteOrderMark → ∀ n, ∃ tokens s₁ s₂,
            s.collect grammar n = .ok (tokens.map (Token.moved (endOf u)), s₁) ∧
            (ofList v).scanner.collect grammar n = .ok (tokens, s₂) ∧
            s₁.failure = s₂.failure.map (Failure.moved (endOf u))) := by
  obtain ⟨y, rest, cause, h⟩ := exists_reads (body text.toList)
  obtain ⟨l, hl, -⟩ := yields_ofList h
  refine ⟨_, l, hl, ?_⟩
  intro i token hi hk
  obtain ⟨qs, rs, hy, hlen, -, hend⟩ := Piece.exists_append (Layout.stream_getElem? hi hk)
  -- `v` is what the lexer has not passed when it hands out the token, which ends `qs`.
  have hbody : body text.toList = Piece.textOf qs ++ (Piece.textOf rs ++ (y.gap ++ rest)) := by
    rw [h.text_eq, Layout.text, hy, Piece.textOf_append, List.append_assoc, List.append_assoc]
  obtain ⟨u, htext, hu, horigin⟩ := exists_eq_append_of_body hbody
  obtain ⟨s, hs, hready⟩ := collect_within h (ready_ofList text.toList) hy
  rw [← horigin, ← hu, advance_body] at hready hend
  refine ⟨u, _, s, htext, ?_, ?_, ?_⟩
  · have hoffset := congrArg Location.offset hend
    rwa [Location.advance_offset] at hoffset
  · rw [ofString, ← hlen, hs, Layout.stream, Layout.tokens, hy, Piece.tokensFrom_append,
      List.append_assoc, List.take_left' (Piece.length_tokensFrom _ qs)]
  · intro hv n
    have hmark : body (Piece.textOf rs ++ (y.gap ++ rest)) = Piece.textOf rs ++ (y.gap ++ rest) ∧
        origin (Piece.textOf rs ++ (y.gap ++ rest)) = .start := @body_append [] _ fun _ => hv
    have hready' := ready_ofList (Piece.textOf rs ++ (y.gap ++ rest))
    rw [hmark.1, hmark.2] at hready'
    exact hready.collect_moved hready' n

end ExprLexer
