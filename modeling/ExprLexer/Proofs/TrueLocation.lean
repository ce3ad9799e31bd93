-- SUMMARY: Kept locations are the ones that counting the text from its front gives.
import ExprLexer.Lexer
import ExprLexer.Proofs.Session
import ExprLexer.Proofs.Slice
import ExprLexer.Proofs.Trace

/-!
# True locations

A cursor never counts lines and columns of the whole text. It moves the location
of the pending token by each piece that it closes, whatever the pieces are. What
carries the comparison is that the location is always where reading from the
first line on comes to (`Cursor.Located`), which no operation changes.

Main statement: this holds of every cursor of a session, of every scanner over
any grammar at any moment, and of every token that one queues or hands out
(`locations_true`).
-/

namespace ExprLexer

/-! ## Cursors -/

/-- The pending token is the piece of the text where it is said to be, and its location is the one
    that counting from byte `b` on gives. -/
def Cursor.TrueLocation (text : List Char) (b : Nat) (c : Cursor) : Prop :=
  slice? text c.tokenStart c.position = some c.current ∧
    locate? text b c.tokenStart = some c.location

/-- The location of the pending token of a cursor is where reading comes to that starts a line at
    byte `b` of the text. -/
structure Cursor.Located (text : List Char) (b : Nat) (c : Cursor) : Prop where
  text_eq : c.text = text
  exists_passed : ∃ mark passed, c.before.reverse = mark ++ passed ∧ byteLength mark = b ∧
    c.location = Location.advance ⟨b, 1, 1⟩ passed

namespace Cursor.Located

variable {text : List Char} {b : Nat} {c c' : Cursor}

theorem ofList (text : List Char) : (Cursor.ofList text).Located text 0 :=
  ⟨rfl, [], [], rfl, rfl, rfl⟩

theorem locate? (h : c.Located text b) :
    ExprLexer.locate? text b c.tokenStart = some c.location := by
  obtain ⟨rfl, mark, passed, hbefore, rfl, hlocation⟩ := h
  have hstart : c.tokenStart = byteLength mark + byteLength passed := by
    rw [c.tokenStart_eq, ← byteLength_reverse, hbefore, byteLength_append]
  rw [Cursor.text, hbefore, List.append_assoc, hstart, locate?_eq_advance, hlocation]

theorem trueLocation (h : c.Located text b) : c.TrueLocation text b :=
  ⟨h.text_eq ▸ c.slice?_current, h.locate?⟩

theorem of_boundary (h : c.Located text b) (htext : c'.text = c.text)
    (hboundary : c'.before = c.before ∧ c'.location = c.location) : c'.Located text b := by
  obtain ⟨hbefore, hlocation⟩ := hboundary
  refine ⟨htext.trans h.text_eq, ?_⟩
  rw [hbefore, hlocation]
  exact h.exists_passed

theorem move {β : Type} {m : Move β} {r : β × Cursor} (h : c.Located text b)
    (hm : m.apply c = .ok r) : r.2.Located text b :=
  h.of_boundary (Move.apply_text hm) (Move.apply_boundary hm)

theorem skip (h : c.Located text b) : c.skip.Located text b := by
  obtain ⟨mark, passed, hbefore, hmark, hlocation⟩ := h.exists_passed
  refine ⟨c.skip_text.trans h.text_eq, mark, passed ++ c.current, ?_, hmark, ?_⟩
  · rw [Cursor.skip, List.reverse_append, hbefore, List.append_assoc, current]
  · rw [Location.advance_append, ← hlocation, Cursor.skip]

/-- Behind a byte order mark a line starts where none has started before. -/
theorem skipMark_of_atMark (h : c.Located text b) (hc : c.atMark) :
    c.skipMark.Located text 3 := by
  obtain ⟨hbefore, hlocation⟩ := Cursor.skipMark_of_atMark hc
  obtain ⟨mark, passed, hempty, rfl, hstart⟩ := h.exists_passed
  rw [(atMark_iff.1 hc).1] at hempty
  obtain ⟨rfl, rfl⟩ := List.append_eq_nil_iff.1 hempty.symm
  refine ⟨c.skipMark_text.trans h.text_eq, [byteOrderMark], [], ?_, rfl, ?_⟩
  · rw [hbefore]
    rfl
  · rw [hlocation, hstart]
    rfl

theorem skipMark_of_not_atMark (h : c.Located text b) (hc : ¬ c.atMark) :
    c.skipMark.Located text b := by
  rw [Cursor.skipMark_of_not_atMark hc]
  exact h

/-- A tracked cursor knows from where on its lines count. -/
theorem apply {t t' : Tracked} {operation : Operation}
    (h : t.cursor.Located text t.markLength) (ht : t.apply operation = .ok t') :
    t'.cursor.Located text t'.markLength := by
  refine Tracked.apply_preserves (P := fun t => t.cursor.Located text t.markLength) ?_ ?_ ?_ h ht
  · exact fun h hm => h.move hm
  · exact fun h => h.skip
  · intro t h
    by_cases hc : t.cursor.atMark
    · simpa [Tracked.markLength, hc] using h.skipMark_of_atMark hc
    · simpa [Tracked.markLength, hc] using h.skipMark_of_not_atMark hc

end Cursor.Located

/-! ## Workspaces -/

section Scans

variable {κ ε σ β : Type} [Vocabulary κ ε] {text : List Char} {b : Nat}

/-- A token that is queued has the location of the first char of the text it was queued for, and if
    it reports no failure that text is its value. -/
def Event.Located (text : List Char) (b : Nat) : Event κ → Prop
  | .queued start piece token =>
    slice? text start (start + byteLength piece) = some piece ∧
      locate? text b start = some token.location ∧
      (token.kind = Vocabulary.errorKind ∨ token.value = String.ofList piece)
  | .dropped _ _ => True
  | .taken _ => True

variable {w w' : Workspace κ ε} {log : List (Event κ)}

theorem Action.perform_located {a : Action κ ε β} {r : β × Workspace κ ε}
    (h : w.cursor.Located text b) (ha : a.perform w = .ok r) : r.2.cursor.Located text b := by
  cases a with
  | cursor =>
    cases ha
    exact h
  | failure =>
    cases ha
    exact h
  | move m =>
    obtain ⟨r', hm, rfl⟩ := Except.map_eq_ok_iff.1 ha
    exact h.move hm
  | ignore =>
    cases ha
    exact h.skip
  | emit kind =>
    cases ha
    exact h.skip
  | fail cause =>
    cases ha
    exact h.skip
  | takeToken =>
    cases ha
    exact h

theorem Action.events_located (a : Action κ ε β) (h : w.cursor.Located text b) :
    ∀ event ∈ a.events w, event.Located text b := by
  intro event hevent
  cases a with
  | cursor => cases hevent
  | failure => cases hevent
  | move m => cases hevent
  | ignore =>
    cases List.mem_singleton.1 hevent
    trivial
  | emit kind =>
    cases List.mem_singleton.1 hevent
    exact ⟨w.cursor.position_eq_add ▸ h.trueLocation.1, h.trueLocation.2, .inr rfl⟩
  | fail cause =>
    cases List.mem_singleton.1 hevent
    exact ⟨w.cursor.position_eq_add ▸ h.trueLocation.1, h.trueLocation.2, .inl rfl⟩
  | takeToken =>
    obtain ⟨token, -, rfl⟩ := List.mem_map.1 hevent
    trivial

/-- Whatever is done to a workspace, the location of its pending token stays the true one, and the
    tokens that are queued have theirs. -/
theorem Workspace.Reaches.located (h : w.Reaches log w') (hw : w.cursor.Located text b) :
    w'.cursor.Located text b ∧ ∀ event ∈ log, event.Located text b := by
  induction h with
  | refl => exact ⟨hw, List.forall_mem_nil _⟩
  | @tail _ a log w r _ ha ih =>
    obtain ⟨hw, hlog⟩ := ih
    exact ⟨Action.perform_located hw ha, List.forall_mem_append.2 ⟨hlog, a.events_located hw⟩⟩

/-! ## Scanners -/

/-- Whatever is done with a scanner over a text, its locations are the true ones, where lines and
    columns count from byte `b` on. -/
structure Scanner.TrueLocations (text : List Char) (b : Nat) (grammar : Grammar κ ε σ)
    (s₀ : Scanner κ ε σ) : Prop where
  /-- The pending token has its true location between two turns. -/
  pending {log : List (Event κ)} {s : Scanner κ ε σ} : Reaches grammar s₀ log s →
    s.workspace.cursor.TrueLocation text b
  /-- And so it has while a state is running. -/
  running {log log' : List (Event κ)} {s : Scanner κ ε σ} {q : σ} {w : Workspace κ ε} :
    Reaches grammar s₀ log s → s.state = some q → (grammar q).Reaches s.workspace log' w →
    w.cursor.TrueLocation text b
  /-- A token has the true location of the text that it is queued for. -/
  queued {log : List (Event κ)} {s : Scanner κ ε σ} {start : Nat} {piece : List Char}
    {token : Token κ} : Reaches grammar s₀ log s → .queued start piece token ∈ log →
    slice? text start (start + byteLength piece) = some piece ∧
      locate? text b start = some token.location ∧
      (token.kind = Vocabulary.errorKind ∨ token.value = String.ofList piece)
  /-- No other tokens are handed out, neither to a state nor outside. -/
  taken {log : List (Event κ)} {s : Scanner κ ε σ} {token : Token κ} :
    Reaches grammar s₀ log s → .taken token ∈ log → ∃ start piece, .queued start piece token ∈ log
  /-- What a pull returns is handed out. -/
  pulled {log : List (Event κ)} {s s' : Scanner κ ε σ} {token : Token κ} :
    Reaches grammar s₀ log s → s.nextToken grammar = .ok (some token, s') →
    ∃ log', Reaches grammar s₀ (log ++ log') s' ∧ .taken token ∈ log'

theorem Scanner.trueLocations_of_located {grammar : Grammar κ ε σ} {s₀ : Scanner κ ε σ}
    (h : s₀.workspace.cursor.Located text b) (hqueue : s₀.workspace.queue = []) :
    TrueLocations text b grammar s₀ where
  pending hr := (hr.workspace.located h).1.trueLocation
  running hr _ hq := ((hr.workspace.trans hq.workspace).located h).1.trueLocation
  queued hr hq := (hr.workspace.located h).2 _ hq
  taken {log s token} hr ht := by
    have hqueued := hr.workspace.queue
    rw [hqueue, List.nil_append] at hqueued
    refine Event.exists_queued ?_
    rw [hqueued]
    exact List.mem_append_left _ (List.mem_filterMap.2 ⟨_, ht, rfl⟩)
  pulled hr hn := hr.nextToken hn

end Scans

/-! ## Lexers -/

theorem Lexer.located (text : List Char) :
    (ofList text).scanner.workspace.cursor.Located text
      (if text.head? = some byteOrderMark then 3 else 0) := by
  have hmark : (Cursor.ofList text).atMark = (text.head? == some byteOrderMark) := rfl
  have h := Cursor.Located.ofList text
  by_cases hc : text.head? = some byteOrderMark
  · rw [if_pos hc]
    exact h.skipMark_of_atMark (by simp [hmark, hc])
  · rw [if_neg hc]
    exact h.skipMark_of_not_atMark (by simp [hmark, hc])

/-- The location that is kept of a pending token is the one counted from the text: after any
    operations on a cursor, at any moment of a scan over any grammar, and of a lexer. Every token
    that is handed out has the location of the first char of its text. -/
theorem locations_true (text : List Char) :
    (∀ (requests : List Cursor.Request) (s : Cursor.Session),
      (Cursor.Session.start text).run requests = .ok s →
      s.current.cursor.TrueLocation text s.current.markLength) ∧
    (∀ {κ ε σ : Type} [Vocabulary κ ε] (grammar : Grammar κ ε σ) (q : σ),
      Scanner.TrueLocations text 0 grammar (.ofCursor (.ofList text) q)) ∧
    Scanner.TrueLocations text (if text.head? = some byteOrderMark then 3 else 0) grammar
      (Lexer.ofList text).scanner := by
  refine ⟨?_, ?_, ?_⟩
  · intro requests s h
    have hstart : (Cursor.Session.start text).All fun t => t.cursor.Located text t.markLength :=
      ⟨.ofList text, List.forall_mem_nil _⟩
    have hs := Cursor.Session.run_preserves (fun _ _ _ ht ha => ht.apply ha) hstart h
    exact hs.1.trueLocation
  · intro κ ε σ _ grammar q
    exact Scanner.trueLocations_of_located (.ofList text) rfl
  · exact Scanner.trueLocations_of_located (Lexer.located text) rfl

end ExprLexer
