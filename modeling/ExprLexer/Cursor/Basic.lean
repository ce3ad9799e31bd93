-- SUMMARY: A place in a text with a pending token, read char by char, with one char of pushback.
import ExprLexer.Fault
import ExprLexer.Location

/-!
# Cursors

A `Cursor` is a place in a text, kept as three pieces: what lies before the
pending token, the pending token as read so far, and what has not been read.
The first two are kept nearest char first, so that reading, giving back and
closing a token only touch the ends that meet. The two counts that would take a
walk over the text, the position and the location, are kept along with it.

`next`, `rewind`, `accept` and `takeWhileState` move the end of the pending
token; `commit`, `skip` and `skipMark` move its start. By construction the
position is the number of bytes before the next char (`position_eq`) and the
offset of the location the number of bytes before the pending token
(`offset_eq`).
-/

namespace ExprLexer

/-- What the latest read left to give back. -/
inductive LastRead where
  /-- Nothing: no read since the last boundary, or it was given back already. -/
  | nothing
  /-- The end of the text, which takes no room. -/
  | endOfText
  /-- The last char of the pending token. -/
  | char
deriving DecidableEq, Repr

/-- A place in a text, with the token that is being read there. -/
structure Cursor where
  /-- The text before the pending token, nearest char first. -/
  before : List Char
  /-- The pending token, nearest char first. -/
  pending : List Char
  /-- The text that has not been read. -/
  after : List Char
  /-- The number of bytes before the next char. -/
  position : Nat
  /-- Where the pending token starts. -/
  location : Location
  /-- What can be given back. -/
  lastRead : LastRead
  position_eq : position = byteLength before + byteLength pending
  offset_eq : location.offset = byteLength before

/-- The byte order mark, which may open a text without being part of it. -/
def byteOrderMark : Char := '\uFEFF'

namespace Cursor

/-! ## Making and observing a cursor -/

/-- A cursor at the start of a text. -/
def ofList (text : List Char) : Cursor where
  before := []
  pending := []
  after := text
  position := 0
  location := .start
  lastRead := .nothing
  position_eq := rfl
  offset_eq := rfl

/-- The whole text. -/
def text (c : Cursor) : List Char := c.before.reverse ++ (c.pending.reverse ++ c.after)

/-- The pending token as read so far. -/
def current (c : Cursor) : List Char := c.pending.reverse

/-- The number of bytes before the pending token. -/
def tokenStart (c : Cursor) : Nat := c.location.offset

/-- Whether the whole text has been read. -/
def atEnd (c : Cursor) : Bool := c.after.isEmpty

/-- The next char, which stays unread. -/
def peek (c : Cursor) : Option Char := c.after.head?

/-! ## Moving the end of the pending token -/

/-- Reads the next char, if there is one. -/
def next (c : Cursor) : Option Char × Cursor :=
  match c.after with
  | [] => (none, { c with lastRead := .endOfText })
  | x :: after =>
    (some x,
      { c with
        pending := x :: c.pending
        after := after
        position := c.position + x.utf8Size
        lastRead := .char
        position_eq := by simp [c.position_eq]; omega })

/-- Gives back what the latest read returned. -/
def rewind (c : Cursor) : Except Fault Cursor :=
  match c.lastRead, hp : c.pending with
  | .nothing, _ => .error (.nothingToRewind c.position)
  | .char, x :: pending =>
    .ok
      { c with
        pending := pending
        after := x :: c.after
        position := c.position - x.utf8Size
        lastRead := .nothing
        position_eq := by simp [c.position_eq, hp]; omega }
  | _, _ => .ok { c with lastRead := .nothing }

/-- Reads the next char if it is the expected one. Otherwise nothing moves, and nothing is left
    to give back. -/
def accept (expected : Char) (c : Cursor) : Bool × Cursor :=
  if c.peek = some expected then (true, c.next.2)
  else (false, { c with lastRead := .nothing })

/-- Reads `n` chars, or all there are. -/
def advance (n : Nat) (c : Cursor) : Cursor :=
  { c with
    pending := (c.after.take n).reverse ++ c.pending
    after := c.after.drop n
    position := c.position + byteLength (c.after.take n)
    lastRead := if n = 0 ∨ c.after = [] then c.lastRead else .char
    position_eq := by simp [c.position_eq]; omega }

/-- How many chars in a row a predicate accepts, counted on from `n`, and the state it ends in.
    It is asked about each char once and in order, up to the first that it refuses. -/
def acceptedRun {τ : Type} (ask : τ → Char → Bool × τ) (n : Nat) (t : τ) : List Char → Nat × τ
  | [] => (n, t)
  | x :: rest =>
    match ask t x with
    | (true, t') => acceptedRun ask (n + 1) t' rest
    | (false, t') => (n, t')

/-- Reads the longest run of chars that a predicate with a state of its own accepts. Returns their
    number and the state the predicate is left in. -/
def takeWhileState {τ : Type} (ask : τ → Char → Bool × τ) (t : τ) (c : Cursor) :
    (Nat × τ) × Cursor :=
  let run := acceptedRun ask 0 t c.after
  (run, c.advance run.1)

/-- Reads the longest run of chars that satisfy `p`, and returns their number. -/
def takeWhile (p : Char → Bool) (c : Cursor) : Nat × Cursor :=
  let ((n, _), c) := c.takeWhileState (fun _ x => (p x, ())) ()
  (n, c)

/-- Reads the longest run of chars of `charset`, and returns their number. -/
def take (charset : List Char) (c : Cursor) : Nat × Cursor :=
  c.takeWhile charset.contains

/-! ## Moving the start of the pending token -/

/-- Drops the pending token: the next one starts here. -/
def skip (c : Cursor) : Cursor where
  before := c.pending ++ c.before
  pending := []
  after := c.after
  position := c.position
  location := c.location.advance c.current
  lastRead := .nothing
  position_eq := by
    simp only [c.position_eq, byteLength_append, byteLength_nil]
    omega
  offset_eq := by
    simp only [Location.advance_offset, c.offset_eq, current, byteLength_reverse,
      byteLength_append]
    omega

/-- Closes the pending token and returns its text and the place where it starts. -/
def commit (c : Cursor) : (List Char × Location) × Cursor :=
  ((c.current, c.location), c.skip)

/-- Passes a byte order mark that opens the text. It takes three bytes and no column. -/
def skipMark (c : Cursor) : Cursor :=
  match c.before, c.pending, c.after with
  | [], [], x :: after =>
    if x = byteOrderMark then
      { c with
        before := [x]
        pending := []
        after := after
        position := x.utf8Size
        location := { c.location with offset := x.utf8Size }
        position_eq := rfl
        offset_eq := rfl }
    else c
  | _, _, _ => c

end Cursor

end ExprLexer
