-- SUMMARY: No text and no token is lost, repeated or reordered, whatever is done with a scanner.
import ExprLexer.Proofs.Slice
import ExprLexer.Proofs.Usage

/-!
# Conservation

A token is closed by emitting it, by dropping it or by a failure, and each of
these takes the pending text as it is at that moment. Reading and giving back
moves the end of the pending text only, so the pieces that are closed stand in
the text one behind the other (`Consecutive`). Tokens are put into the queue at
one end, and handed out at the other, whoever takes them.

Main statement: at any moment of any use of a scanner over any grammar, the
pieces closed so far and the pending text make up the text that has been read,
and the tokens returned so far and those in the queue are the ones that were
queued (`Scanner.conserves`).
-/

namespace ExprLexer

/-! ## Pieces in a row -/

/-- The pieces stand in the text one behind the other, from its front up to byte `j`. Each comes
    with the byte where it starts. -/
inductive Consecutive (text : List Char) : List (Nat × List Char) → Nat → Prop where
  | nil : Consecutive text [] 0
  | concat {pieces : List (Nat × List Char)} {piece : List Char} {i j : Nat} :
      Consecutive text pieces i → slice? text i j = some piece →
      Consecutive text (pieces ++ [(i, piece)]) j

/-- Slices that meet make up a slice. -/
theorem slice?_trans {text u v : List Char} {i j k : Nat} (hu : slice? text i j = some u)
    (hv : slice? text j k = some v) : slice? text i k = some (u ++ v) := by
  obtain ⟨a, w, rfl, rfl, rfl⟩ := slice?_eq_some_iff.1 hu
  obtain ⟨b, w', htext, hb, rfl⟩ := slice?_eq_some_iff.1 hv
  have hsplit := splitBytes?_append (a ++ u) w
  rw [List.append_assoc, htext, byteLength_append, ← hb, splitBytes?_append] at hsplit
  obtain ⟨rfl, rfl⟩ : b = a ++ u ∧ v ++ w' = w := by simpa using hsplit
  exact slice?_eq_some_iff.2 ⟨a, w', by simp, rfl, by rw [byteLength_append, Nat.add_assoc]⟩

theorem Consecutive.slice? {text : List Char} {pieces : List (Nat × List Char)} {j : Nat}
    (h : Consecutive text pieces j) :
    ExprLexer.slice? text 0 j = some (pieces.map Prod.snd).flatten := by
  induction h with
  | nil => exact slice?_append [] [] text
  | concat _ hpiece ih => simpa using slice?_trans ih hpiece

section Conservation

variable {κ ε σ : Type} [Vocabulary κ ε] {grammar : Grammar κ ε σ} {m m' : Moment κ ε σ}
  {log entries : List (Entry κ ε σ)} {text : List Char}

/-! ## Moment by moment -/

/-- Nothing was lost on the way to a moment, if the text was to be read from its front. -/
structure Conserved (text : List Char) (log : List (Entry κ ε σ)) (m : Moment κ ε σ) : Prop where
  /-- The pieces that were closed stand one behind the other, and then comes the pending text. -/
  pieces : Consecutive text (log.filterMap Entry.piece?) m.workspace.cursor.tokenStart
  /-- Together they are what has been read of the text. -/
  text : slice? text 0 m.workspace.cursor.position =
    some (((log.filterMap Entry.piece?).map Prod.snd).flatten ++ m.workspace.cursor.current)
  /-- The tokens that were queued are those that pulls have returned, one pull after the other has
      done so, and then those that are left. -/
  tokens : log.filterMap Entry.queued? = log.filterMap Entry.returned? ++ m.workspace.queue

theorem Use.consecutive (h : Use grammar m entries m')
    (htext : m.workspace.cursor.text = text)
    (hp : Consecutive text (log.filterMap Entry.piece?) m.workspace.cursor.tokenStart) :
    Consecutive text ((log ++ entries).filterMap Entry.piece?)
      m'.workspace.cursor.tokenStart := by
  rw [List.filterMap_append]
  rcases h.closes_or_keeps with ⟨entry, rfl, hc⟩ | hk
  · have hstart : m'.workspace.cursor.tokenStart = m.workspace.cursor.position := by
      rw [hc.cursor, Cursor.position_eq_add]
      exact Location.advance_offset _ _
    rw [List.filterMap_cons, hc.piece, hstart]
    exact hp.concat (htext ▸ m.workspace.cursor.slice?_current)
  · rw [hk.pieces, List.append_nil, hk.tokenStart]
    exact hp

theorem Trail.consecutive {m₀ : Moment κ ε σ} (h : Trail (Use grammar) m₀ log m)
    (htext : m₀.workspace.cursor.text = text) (hstart : m₀.workspace.cursor.tokenStart = 0) :
    Consecutive text (log.filterMap Entry.piece?) m.workspace.cursor.tokenStart := by
  induction h with
  | refl =>
    rw [hstart]
    exact .nil
  | tail h hu ih => exact hu.consecutive (h.workspace.text.trans htext) ih

theorem Trail.tokens {m₀ : Moment κ ε σ} (h : Trail (Use grammar) m₀ log m) :
    m₀.workspace.queue ++ log.filterMap Entry.queued? =
      log.filterMap Entry.returned? ++ m.workspace.queue := by
  have hqueue := h.workspace.queue
  simpa only [List.filterMap_flatMap, Entry.queued?_events, Entry.taken?_events,
    ← List.filterMap_eq_flatMap_toList] using hqueue

theorem Trail.conserved {m₀ : Moment κ ε σ} (h : Trail (Use grammar) m₀ log m)
    (htext : m₀.workspace.cursor.text = text) (hstart : m₀.workspace.cursor.tokenStart = 0)
    (hqueue : m₀.workspace.queue = []) : Conserved text log m where
  pieces := h.consecutive htext hstart
  text := by
    have hcurrent := m.workspace.cursor.slice?_current
    rw [h.workspace.text, htext] at hcurrent
    exact slice?_trans (h.consecutive htext hstart).slice? hcurrent
  tokens := by
    have htokens := h.tokens
    rwa [hqueue, List.nil_append] at htokens

/-! ## From the front of a text -/

/-- Nothing is lost in any use of the scanner over the text that starts in state `q`. -/
structure Scanner.Conserves (text : List Char) (grammar : Grammar κ ε σ) (q : σ) : Prop where
  conserved {log : List (Entry κ ε σ)} {m : Moment κ ε σ} :
    Trail (Use grammar) (.idle (.ofCursor (.ofList text) q)) log m → Conserved text log m
  /-- A piece that is closed is the pending one: what has been read of the text since the latest
      piece was closed. -/
  closed {log : List (Entry κ ε σ)} {m m' : Moment κ ε σ} {entry : Entry κ ε σ} {start : Nat}
    {piece : List Char} :
    Trail (Use grammar) (.idle (.ofCursor (.ofList text) q)) log m → Use grammar m [entry] m' →
    entry.piece? = some (start, piece) →
    start = m.workspace.cursor.tokenStart ∧ slice? text start m.workspace.cursor.position = some piece
  /-- Emitting a piece queues one token: the piece, at the location where it starts. -/
  emitted {m m' : Moment κ ε σ} {kind : κ} {location : Location} {piece : List Char} :
    Use grammar m [.emitted kind location piece] m' →
    m'.workspace.queue = m.workspace.queue ++ [⟨kind, String.ofList piece, location⟩]
  /-- So does a failure: the failure in words, at that location. -/
  failed {m m' : Moment κ ε σ} {cause : ε} {location : Location} {piece : List Char} :
    Use grammar m [.failed cause location piece] m' →
    m'.workspace.queue =
      m.workspace.queue ++ [⟨Vocabulary.errorKind, Vocabulary.describe κ cause, location⟩]
  /-- Dropping a piece queues nothing. -/
  ignored {m m' : Moment κ ε σ} {location : Location} {piece : List Char} :
    Use grammar m [.ignored location piece] m' → m'.workspace.queue = m.workspace.queue
  /-- A pull from outside is a row of such uses, and what it returns is logged last. -/
  pulled {s s' : Scanner κ ε σ} {answer : Option (Token κ)} :
    s.nextToken grammar = .ok (answer, s') →
    ∃ log, Trail (Use grammar) (.idle s) (log ++ [.returned answer]) (.idle s')

/-- Every scanner over every grammar and text conserves text and tokens. -/
theorem Scanner.conserves (text : List Char) (grammar : Grammar κ ε σ) (q : σ) :
    Conserves text grammar q where
  conserved h := h.conserved rfl rfl rfl
  closed := by
    intro log m m' entry start piece h hu hpiece
    have hc := hu.closes (by simp [hpiece])
    cases hpiece.symm.trans hc.piece
    have htext : m.workspace.cursor.text = text := h.workspace.text
    exact ⟨rfl, htext ▸ m.workspace.cursor.slice?_current⟩
  emitted hu := (hu.closes rfl).queue
  failed hu := (hu.closes rfl).queue
  ignored hu := (hu.closes rfl).queue.trans (List.append_nil _)
  pulled h := trail_of_nextToken h

end Conservation

end ExprLexer
