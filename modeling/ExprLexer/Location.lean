-- SUMMARY: Places in a text: byte offset, line and column, and how reading moves them.

/-!
# Locations

A `Location` says where a char stands: how many bytes come before it, on which
line it is, and at which column of that line. Lines and columns count from one.
A column counts chars, an offset counts the bytes of their UTF-8 form, and only
a line feed starts a new line. Main statement: moving over two texts in turn is
moving over both at once (`Location.advance_append`).
-/

namespace ExprLexer

/-! ## Length in bytes -/

/-- The number of bytes that a text takes in UTF-8. -/
def byteLength (text : List Char) : Nat := text.foldr (fun c n => c.utf8Size + n) 0

@[simp] theorem byteLength_nil : byteLength [] = 0 := rfl

@[simp] theorem byteLength_cons (c : Char) (text : List Char) :
    byteLength (c :: text) = c.utf8Size + byteLength text := rfl

@[simp] theorem byteLength_append (s t : List Char) :
    byteLength (s ++ t) = byteLength s + byteLength t := by
  induction s with
  | nil => simp
  | cons c s ih => simp [ih, Nat.add_assoc]

@[simp] theorem byteLength_reverse (text : List Char) :
    byteLength text.reverse = byteLength text := by
  induction text with
  | nil => rfl
  | cons c text ih => simp [ih, Nat.add_comm]

/-! ## Locations -/

/-- Where a char stands in a text. -/
structure Location where
  /-- The number of bytes before it. -/
  offset : Nat
  /-- The line it is on, from one. -/
  line : Nat
  /-- Its place in the line, in chars, from one. -/
  column : Nat
deriving DecidableEq, Inhabited, Repr

namespace Location

/-- The location of the first char of a text. -/
def start : Location := ⟨0, 1, 1⟩

/-- The location of the char after `c`, where `c` stands at `l`. -/
def step (l : Location) (c : Char) : Location :=
  if c = '\n' then ⟨l.offset + c.utf8Size, l.line + 1, 1⟩
  else ⟨l.offset + c.utf8Size, l.line, l.column + 1⟩

/-- The location of the char after a text that starts at `l`. -/
def advance (l : Location) (text : List Char) : Location := text.foldl step l

/-- A location is shown as its line and its column. -/
def display (l : Location) : String := s!"{l.line}:{l.column}"

@[simp] theorem step_offset (l : Location) (c : Char) :
    (l.step c).offset = l.offset + c.utf8Size := by
  unfold step
  split <;> rfl

@[simp] theorem advance_nil (l : Location) : l.advance [] = l := rfl

@[simp] theorem advance_cons (l : Location) (c : Char) (text : List Char) :
    l.advance (c :: text) = (l.step c).advance text := rfl

theorem advance_append (l : Location) (s t : List Char) :
    l.advance (s ++ t) = (l.advance s).advance t := by
  simp [advance, List.foldl_append]

@[simp] theorem advance_offset (l : Location) (text : List Char) :
    (l.advance text).offset = l.offset + byteLength text := by
  induction text generalizing l with
  | nil => simp
  | cons c text ih => simp [ih, Nat.add_assoc]

end Location

end ExprLexer
