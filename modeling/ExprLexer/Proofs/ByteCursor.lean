-- SUMMARY: Cursors that keep byte offsets into a text, and how they follow cursors that keep pieces.
import ExprLexer.Proofs.Reading
import ExprLexer.Proofs.Session
import ExprLexer.Proofs.Slice
import Mathlib.Algebra.Group.Nat.Defs

/-!
# Byte cursors

A `ByteCursor` reads a text in place. It keeps two byte offsets and the width of
what can be given back, and nothing in it says that these offsets lie between
two chars or that its counts are small. Each operation looks at the text through
`slice?` and holds its results in machine words, so it may run into `Trouble`.

`Cursor.bytes` are the offsets of a cursor. Main statement: on the offsets of a
consistent cursor over a text of less than 2^63 bytes an operation does what it
does on the cursor itself, so it fails only where the cursor does
(`Cursor.apply_bytes`).
-/

namespace ExprLexer

/-! ## Trouble -/

/-- What a byte cursor can run into. -/
inductive Trouble where
  /-- Misuse, which no cursor allows. -/
  | fault (fault : Fault)
  /-- Two offsets that bound no piece of the text. -/
  | noSlice (start stop : Nat)
  /-- A number that fits no machine word. -/
  | noWord
deriving DecidableEq, Repr

/-- How many numbers there are in a machine word. -/
def wordSize : Nat := 2 ^ 64

/-- A text with offsets into it. -/
structure ByteCursor where
  text : List Char
  /-- The offset of the next char. -/
  position : Nat
  /-- The offset of the pending token. -/
  start : Nat
  /-- Where the pending token starts. -/
  location : Location
  /-- The width of what can be given back, which is 0 for the end of the text. -/
  slot : Option Nat
deriving DecidableEq, Repr

namespace ByteCursor

/-! ## Words and slices -/

/-- A number in a machine word. -/
def word (n : Nat) : Except Trouble Nat := if n < wordSize then .ok n else .error .noWord

/-- A difference in a machine word. -/
def minus (m n : Nat) : Except Trouble Nat := if n ≤ m then .ok (m - n) else .error .noWord

/-- The text between two offsets. -/
def cut (text : List Char) (i j : Nat) : Except Trouble (List Char) :=
  match slice? text i j with
  | some piece => .ok piece
  | none => .error (.noSlice i j)

theorem ok_bind {α β : Type} (a : α) (f : α → Except Trouble β) :
    (Except.ok a >>= f : Except Trouble β) = f a := rfl

theorem word_of_lt {n : Nat} (h : n < wordSize) : word n = .ok n := if_pos h

theorem minus_of_le {m n : Nat} (h : n ≤ m) : minus m n = .ok (m - n) := if_pos h

theorem cut_of_slice? {text piece : List Char} {i j : Nat} (h : slice? text i j = some piece) :
    cut text i j = .ok piece := by
  rw [cut, h]

/-! ## Operations -/

/-- A byte cursor at the start of a text. -/
def ofList (text : List Char) : ByteCursor := ⟨text, 0, 0, .start, none⟩

/-- The pending token as read so far. -/
def current (c : ByteCursor) : Except Trouble (List Char) := cut c.text c.start c.position

/-- The next char, which stays unread. -/
def peek (c : ByteCursor) : Except Trouble (Option Char) := do
  let rest ← cut c.text c.position (byteLength c.text)
  return rest.head?

/-- Reads the next char, if there is one. -/
def next (c : ByteCursor) : Except Trouble (Option Char × ByteCursor) := do
  match ← c.peek with
  | none => return (none, { c with slot := some 0 })
  | some x =>
    let position ← word (c.position + x.utf8Size)
    return (some x, { c with position := position, slot := some x.utf8Size })

/-- Gives back what the latest read returned. -/
def rewind (c : ByteCursor) : Except Trouble ByteCursor :=
  match c.slot with
  | none => .error (.fault (.nothingToRewind c.position))
  | some width => do
    let position ← minus c.position width
    return { c with position := position, slot := none }

/-- Reads the next char, and gives it back if it is not the expected one. -/
def accept (expected : Char) (c : ByteCursor) : Except Trouble (Bool × ByteCursor) := do
  let (x, c) ← c.next
  if x = some expected then
    return (true, c)
  else
    let c ← c.rewind
    return (false, c)

/-- Reads on as long as a predicate with a state of its own accepts the next char. The chars are
    counted on from `n`. -/
def takeWhile {τ : Type} (ask : τ → Char → Bool × τ) (n : Nat) (t : τ) (c : ByteCursor) :
    Except Trouble ((Nat × τ) × ByteCursor) :=
  match c.peek with
  | .error trouble => .error trouble
  | .ok none => .ok ((n, t), c)
  | .ok (some x) =>
    match ask t x with
    | (false, t) => .ok ((n, t), c)
    | (true, t) =>
      match c.next with
      | .error trouble => .error trouble
      | .ok (_, c) =>
        if n + 1 < wordSize then takeWhile ask (n + 1) t c else .error .noWord
termination_by wordSize - n

/-- Reads the longest run of chars of `charset`. -/
def take (charset : List Char) (c : ByteCursor) : Except Trouble ((Nat × Unit) × ByteCursor) :=
  c.takeWhile (fun _ x => (charset.contains x, ())) 0 ()

/-- The line and the column that reading a text leads to. -/
def walk (line column : Nat) : List Char → Except Trouble (Nat × Nat)
  | [] => .ok (line, column)
  | x :: text =>
    if x = '\n' then do
      let line ← word (line + 1)
      walk line 1 text
    else do
      let column ← word (column + 1)
      walk line column text

/-- Drops the pending token: the next one starts here. -/
def skip (c : ByteCursor) : Except Trouble ByteCursor := do
  let piece ← c.current
  let (line, column) ← walk c.location.line c.location.column piece
  return { c with start := c.position, location := ⟨c.position, line, column⟩, slot := none }

/-- Closes the pending token and returns its text and the place where it starts. -/
def commit (c : ByteCursor) : Except Trouble ((List Char × Location) × ByteCursor) := do
  let piece ← c.current
  let c' ← c.skip
  return ((piece, c.location), c')

/-- Passes a byte order mark that opens the text. -/
def skipMark (c : ByteCursor) : ByteCursor :=
  if c.position = 0 ∧ c.text.head? = some byteOrderMark then
    { c with
      position := byteOrderMark.utf8Size
      start := byteOrderMark.utf8Size
      location := { c.location with offset := byteOrderMark.utf8Size } }
  else c

/-- Makes a move. -/
def move {β : Type} : Cursor.Move β → ByteCursor → Except Trouble (β × ByteCursor)
  | .next, c => c.next
  | .rewind, c => do
    let c ← c.rewind
    return ((), c)
  | .accept expected, c => c.accept expected
  | .takeWhile ask t, c => c.takeWhile ask 0 t

/-- Does an operation. -/
def apply (c : ByteCursor) : Cursor.Operation → Except Trouble ByteCursor
  | .move m => (move m c).map Prod.snd
  | .take charset => (c.take charset).map Prod.snd
  | .commit => c.commit.map Prod.snd
  | .skip => c.skip
  | .skipMark => .ok c.skipMark

end ByteCursor

/-! ## The offsets of a cursor -/

namespace Cursor

/-- The width of what can be given back. -/
def width? (c : Cursor) : Option Nat :=
  match c.lastRead with
  | .nothing => none
  | .endOfText => some 0
  | .char => some (c.pending.head?.elim 0 Char.utf8Size)

/-- The same place in the same text, in byte offsets. -/
def bytes (c : Cursor) : ByteCursor := ⟨c.text, c.position, c.tokenStart, c.location, c.width?⟩

/-- What can be given back is there. -/
def Holds (c : Cursor) : Prop :=
  match c.lastRead with
  | .nothing => True
  | .endOfText => c.after = []
  | .char => c.pending ≠ []

/-- A cursor over a text that holds what it can give back. It has come to no more lines and to no
    more columns than there are bytes before the pending token. -/
structure Consistent (text : List Char) (c : Cursor) : Prop where
  text_eq : c.text = text
  holds : c.Holds
  line_le : c.location.line ≤ byteLength c.before + 1
  column_le : c.location.column ≤ byteLength c.before + 1

/-! ## Reading and giving back -/

open ByteCursor

variable {text : List Char} {c : Cursor}

theorem peek_bytes (c : Cursor) : c.bytes.peek = .ok c.peek := by
  rw [ByteCursor.peek, bytes, cut_of_slice? c.slice?_after]
  rfl

theorem current_bytes (c : Cursor) : c.bytes.current = .ok c.current :=
  cut_of_slice? c.slice?_current

theorem next_bytes (h : byteLength c.text < wordSize) :
    c.bytes.next = .ok (c.next.1, c.next.2.bytes) := by
  have hposition : c.next.2.position < wordSize :=
    Nat.lt_of_le_of_lt (c.next_text ▸ c.next.2.position_le) h
  have htext := c.next_text
  rw [ByteCursor.next, peek_bytes, ok_bind]
  obtain ⟨before, pending, after, position, location, lastRead, hp, ho⟩ := c
  cases after with
  | nil => rfl
  | cons x rest =>
    have hword : word (position + x.utf8Size) = .ok (position + x.utf8Size) := word_of_lt hposition
    simp only [bytes, peek, List.head?_cons, hword, ok_bind]
    rw [← htext]
    rfl

theorem width?_le (c : Cursor) : ∀ width ∈ c.width?, width ≤ c.position := by
  intro width hwidth
  have hposition := c.position_eq
  unfold width? at hwidth
  split at hwidth
  · cases hwidth
  · cases hwidth
    exact Nat.zero_le _
  · cases hwidth
    cases hp : c.pending with
    | nil => exact Nat.zero_le _
    | cons x pending =>
      rw [hp, byteLength_cons] at hposition
      simp only [List.head?_cons, Option.elim_some]
      omega

theorem rewind_of_width?_eq_none (h : c.width? = none) :
    c.rewind = .error (.nothingToRewind c.position) := by
  obtain ⟨before, pending, after, position, location, lastRead, hp, ho⟩ := c
  cases lastRead with
  | nothing => rfl
  | endOfText => cases h
  | char => cases h

/-- Giving back moves the position by the width that is kept. -/
theorem exists_rewind {width : Nat} (h : c.width? = some width) :
    ∃ c', c.rewind = .ok c' ∧
      c'.bytes = { c.bytes with position := c.position - width, slot := none } := by
  obtain ⟨before, pending, after, position, location, lastRead, hp, ho⟩ := c
  cases lastRead with
  | nothing => cases h
  | endOfText =>
    cases h
    exact ⟨_, rfl, rfl⟩
  | char =>
    cases h
    cases pending with
    | nil => exact ⟨_, rfl, rfl⟩
    | cons x pending =>
      refine ⟨_, rfl, ?_⟩
      simp [bytes, text, tokenStart, width?]

theorem rewind_bytes (c : Cursor) : c.bytes.rewind = (c.rewind.map bytes).mapError .fault := by
  cases hwidth : c.width? with
  | none =>
    rw [rewind_of_width?_eq_none hwidth, ByteCursor.rewind]
    simp only [bytes, hwidth]
    rfl
  | some width =>
    obtain ⟨c', hc', hbytes⟩ := exists_rewind hwidth
    have hminus : minus c.position width = .ok (c.position - width) :=
      minus_of_le (c.width?_le width hwidth)
    rw [hc', ByteCursor.rewind]
    simp only [bytes, hwidth, hminus, ok_bind]
    exact congrArg Except.ok hbytes.symm

theorem accept_bytes (h : byteLength c.text < wordSize) (expected : Char) :
    c.bytes.accept expected = .ok ((c.accept expected).1, (c.accept expected).2.bytes) := by
  have hpeek : c.next.1 = c.peek := by
    unfold next peek
    split <;> simp [*]
  rw [ByteCursor.accept, next_bytes h, ok_bind]
  simp only [hpeek]
  by_cases hx : c.peek = some expected
  · rw [accept, if_pos hx, if_pos hx]
    rfl
  · rw [accept, if_neg hx, if_neg hx, rewind_bytes, rewind_next]
    rfl

/-! ## Runs -/

theorem advance_eq_self {n : Nat} (h : n = 0 ∨ c.after = []) : c.advance n = c := by
  obtain ⟨before, pending, after, position, location, lastRead, hp, ho⟩ := c
  rcases h with rfl | rfl
  · simp [advance]
  · simp [advance]

theorem advance_zero (c : Cursor) : c.advance 0 = c := advance_eq_self (.inl rfl)

/-- Reading `n + 1` chars is reading one and then `n` more. -/
theorem advance_next {x : Char} {rest : List Char} (h : c.after = x :: rest) (n : Nat) :
    c.next.2.advance n = c.advance (n + 1) := by
  obtain ⟨before, pending, after, position, location, lastRead, hp, ho⟩ := c
  cases h
  by_cases hn : n = 0 ∨ rest = [] <;> simp [next, advance, Nat.add_assoc, hn]

theorem le_acceptedRun {τ : Type} (ask : τ → Char → Bool × τ) (n : Nat) (t : τ)
    (text : List Char) : n ≤ (acceptedRun ask n t text).1 := by
  induction text generalizing n t with
  | nil => exact Nat.le_refl n
  | cons x text ih =>
    rw [acceptedRun]
    split
    · exact Nat.le_of_succ_le (ih _ _)
    · exact Nat.le_refl n

theorem takeWhile_bytes_from {τ : Type} (ask : τ → Char → Bool × τ) {n : Nat} (t : τ)
    (h : byteLength c.text < wordSize) (hn : n + c.after.length < wordSize) :
    c.bytes.takeWhile ask n t =
      .ok (acceptedRun ask n t c.after,
        (c.advance ((acceptedRun ask n t c.after).1 - n)).bytes) := by
  induction hafter : c.after generalizing c n t with
  | nil =>
    rw [ByteCursor.takeWhile, peek_bytes, peek, hafter]
    simp [acceptedRun, advance_zero]
  | cons x rest ih =>
    rw [ByteCursor.takeWhile, peek_bytes, peek, hafter, next_bytes h]
    simp only [List.head?_cons, acceptedRun]
    cases hask : ask t x with
    | mk accepted t' =>
      cases accepted with
      | false => simp [advance_zero]
      | true =>
        have hafter' : c.next.2.after = rest := (next_spec hafter).2.2.1
        have hlt : n + 1 + c.next.2.after.length < wordSize := by
          rw [hafter', Nat.add_right_comm, Nat.add_assoc, ← List.length_cons, ← hafter]
          exact hn
        have hle := le_acceptedRun ask (n + 1) t' rest
        have hmoved := ih t' (c.next_text ▸ h) hlt hafter'
        have hcount : (acceptedRun ask (n + 1) t' rest).1 - (n + 1) + 1 =
            (acceptedRun ask (n + 1) t' rest).1 - n := by omega
        rw [advance_next hafter, hcount] at hmoved
        have hword : n + 1 < wordSize := by omega
        simp only [hword, if_true, hmoved]

theorem takeWhile_bytes {τ : Type} (ask : τ → Char → Bool × τ) (t : τ)
    (h : byteLength c.text < wordSize) :
    c.bytes.takeWhile ask 0 t =
      .ok ((c.takeWhileState ask t).1, (c.takeWhileState ask t).2.bytes) := by
  have hafter : c.after.length ≤ byteLength c.text := by
    have hle := length_le_byteLength c.after
    simp only [text, byteLength_append]
    omega
  rw [takeWhile_bytes_from ask t h (by omega)]
  rfl

/-! ## Closing a token -/

theorem walk_advance (l : Location) (text : List Char) (hl : l.line + byteLength text < wordSize)
    (hc : l.column + byteLength text < wordSize) :
    walk l.line l.column text = .ok ((l.advance text).line, (l.advance text).column) := by
  induction text generalizing l with
  | nil => rfl
  | cons x text ih =>
    have hx := x.utf8Size_pos
    rw [byteLength_cons] at hl hc
    rw [walk, Location.advance_cons]
    by_cases hn : x = '\n'
    · have hstep : (l.step x).line = l.line + 1 ∧ (l.step x).column = 1 := by simp [Location.step, hn]
      rw [if_pos hn, word_of_lt (by omega), ok_bind, ← hstep.1, ← hstep.2]
      exact ih _ (by omega) (by omega)
    · have hstep : (l.step x).line = l.line ∧ (l.step x).column = l.column + 1 := by
        simp [Location.step, hn]
      rw [if_neg hn, word_of_lt (by omega), ok_bind, ← hstep.1, ← hstep.2]
      exact ih _ (by omega) (by omega)

theorem skip_bytes (h : c.Consistent text) (htext : byteLength text < 2 ^ 63) :
    c.bytes.skip = .ok c.skip.bytes := by
  have hposition := c.position_eq_add
  have hstart := c.tokenStart_eq
  have hle := h.text_eq ▸ c.position_le
  have hline := h.line_le
  have hcolumn := h.column_le
  have hwalk := walk_advance c.location c.current (by unfold wordSize; omega)
    (by unfold wordSize; omega)
  have hoffset : (c.location.advance c.current).offset = c.position := by
    rw [Location.advance_offset, hposition, tokenStart]
  have hlocation : c.location.advance c.current =
      ⟨c.position, (c.location.advance c.current).line, (c.location.advance c.current).column⟩ := by
    rw [← hoffset]
  have hskip : c.skip.bytes =
      ⟨c.text, c.position, c.position, c.location.advance c.current, none⟩ := by
    have hstart : c.skip.tokenStart = c.position := hoffset
    rw [bytes, skip_text, hstart]
    rfl
  rw [ByteCursor.skip, current_bytes, ok_bind, hskip, hlocation]
  simp only [bytes, hwalk, ok_bind]
  rfl

theorem commit_bytes (h : c.Consistent text) (htext : byteLength text < 2 ^ 63) :
    c.bytes.commit = .ok (c.commit.1, c.commit.2.bytes) := by
  rw [ByteCursor.commit, current_bytes, ok_bind, skip_bytes h htext]
  rfl

theorem skipMark_bytes (c : Cursor) : c.bytes.skipMark = c.skipMark.bytes := by
  have hmark : c.atMark ↔ c.bytes.position = 0 ∧ c.bytes.text.head? = some byteOrderMark := by
    simp [atMark, bytes]
  by_cases hc : c.atMark
  · rw [ByteCursor.skipMark, if_pos (hmark.1 hc)]
    obtain ⟨hbefore, hpending, hafter⟩ := atMark_iff.1 hc
    obtain ⟨before, pending, after, position, location, lastRead, hp, ho⟩ := c
    obtain ⟨after, rfl⟩ := List.head?_eq_some_iff.1 hafter
    cases hbefore
    cases hpending
    simp [skipMark, bytes, text, tokenStart, width?]
  · rw [skipMark_of_not_atMark hc]
    exact if_neg fun h => hc (hmark.2 h)

/-! ## All operations -/

theorem move_bytes {β : Type} (m : Move β) (h : byteLength c.text < wordSize) :
    move m c.bytes = ((m.apply c).map fun r => (r.1, r.2.bytes)).mapError .fault := by
  cases m with
  | next => exact next_bytes h
  | rewind =>
    rw [move, rewind_bytes, Move.apply]
    cases c.rewind <;> rfl
  | accept expected => exact accept_bytes h expected
  | takeWhile ask t => exact takeWhile_bytes ask t h

/-- What an operation does to a consistent cursor it does to its offsets, and it runs into no other
    trouble than misuse of the cursor. -/
theorem apply_bytes {t : Tracked} (h : t.cursor.Consistent text) (htext : byteLength text < 2 ^ 63)
    (operation : Operation) :
    t.cursor.bytes.apply operation =
      ((t.apply operation).map fun t' => t'.cursor.bytes).mapError .fault := by
  have hword : byteLength t.cursor.text < wordSize := by
    rw [h.text_eq, wordSize]
    omega
  cases operation with
  | move m =>
    rw [ByteCursor.apply, move_bytes m hword, Tracked.apply]
    cases m.apply t.cursor <;> rfl
  | take charset =>
    rw [ByteCursor.apply, ByteCursor.take, takeWhile_bytes _ _ hword]
    rfl
  | commit =>
    rw [ByteCursor.apply, commit_bytes h htext]
    rfl
  | skip => exact skip_bytes h htext
  | skipMark => exact congrArg Except.ok (skipMark_bytes t.cursor)

end Cursor

end ExprLexer
