-- SUMMARY: Pieces of a text between two byte offsets, and locations counted from the text alone.
import ExprLexer.Cursor.Move
import ExprLexer.Proofs.Location

/-!
# Slices

Offsets count bytes, and a piece can be cut out of a text only where both of its
ends lie between two chars. `slice?` cuts there and nowhere else: the piece is
the one with the right number of bytes before it and in it
(`slice?_eq_some_iff`). The pending token of a cursor and what is left behind it
are such pieces (`Cursor.slice?_current`, `Cursor.slice?_after`).

`locate?` counts the location of a byte offset from the slice before it, with no
regard to how a reader came there. A reader that passes the slice from its first
column on comes to the same location (`locate?_eq_advance`).
-/

namespace ExprLexer

/-! ## Cutting a text -/

/-- The text before byte `n` and the text from there on. There are none if that byte is inside of a
    char or behind the text. -/
def splitBytes? : List Char → Nat → Option (List Char × List Char)
  | text, 0 => some ([], text)
  | [], _ + 1 => none
  | c :: text, n + 1 =>
    if c.utf8Size ≤ n + 1 then
      (splitBytes? text (n + 1 - c.utf8Size)).map fun (u, v) => (c :: u, v)
    else none

/-- The piece of a text from byte `i` up to byte `j`, if both lie between two chars. -/
def slice? (text : List Char) (i j : Nat) : Option (List Char) := do
  let (_, rest) ← splitBytes? text i
  let (piece, _) ← splitBytes? rest (j - i)
  if i ≤ j then some piece else none

variable {text u v w : List Char} {i j n : Nat}

theorem splitBytes?_append (u v : List Char) :
    splitBytes? (u ++ v) (byteLength u) = some (u, v) := by
  induction u with
  | nil =>
    rw [byteLength_nil, splitBytes?]
    rfl
  | cons c u ih =>
    obtain ⟨n, hn⟩ : ∃ n, byteLength (c :: u) = n + 1 :=
      ⟨_, (Nat.sub_add_cancel (byteLength_pos (List.cons_ne_nil c u))).symm⟩
    have hu : byteLength u = n + 1 - c.utf8Size := by
      rw [← hn, byteLength_cons, Nat.add_sub_cancel_left]
    have hle : c.utf8Size ≤ n + 1 := by
      rw [← hn, byteLength_cons]
      exact Nat.le_add_right _ _
    rw [hn, List.cons_append, splitBytes?, if_pos hle, ← hu, ih]
    rfl

theorem eq_append_of_splitBytes? (h : splitBytes? text n = some (u, v)) :
    text = u ++ v ∧ byteLength u = n := by
  induction text generalizing n u with
  | nil =>
    cases n with
    | zero =>
      cases h
      exact ⟨rfl, rfl⟩
    | succ n => cases h
  | cons c text ih =>
    cases n with
    | zero =>
      cases h
      exact ⟨rfl, rfl⟩
    | succ n =>
      rw [splitBytes?] at h
      split at h
      · obtain ⟨⟨u', v'⟩, h', heq⟩ := Option.map_eq_some_iff.1 h
        cases heq
        obtain ⟨rfl, hu⟩ := ih h'
        refine ⟨rfl, ?_⟩
        rw [byteLength_cons, hu]
        omega
      · cases h

/-- A slice stands in the text with the right number of bytes before it and in it. -/
theorem slice?_eq_some_iff :
    slice? text i j = some v ↔
      ∃ u w, text = u ++ (v ++ w) ∧ byteLength u = i ∧ i + byteLength v = j := by
  constructor
  · intro h
    obtain ⟨⟨u, rest⟩, hu, h⟩ := Option.bind_eq_some_iff.1 h
    obtain ⟨⟨piece, w⟩, hv, h⟩ := Option.bind_eq_some_iff.1 h
    obtain ⟨hle, rfl⟩ : i ≤ j ∧ piece = v := by simpa using h
    obtain ⟨rfl, hi⟩ := eq_append_of_splitBytes? hu
    obtain ⟨rfl, hj⟩ := eq_append_of_splitBytes? hv
    exact ⟨u, w, rfl, hi, by omega⟩
  · rintro ⟨u, w, rfl, rfl, rfl⟩
    simp [slice?, splitBytes?_append]

example : slice? ['a', 'é', '!'] 1 3 = some ['é'] ∧ slice? ['a', 'é', '!'] 1 2 = none := by decide

theorem slice?_append (u v w : List Char) :
    slice? (u ++ (v ++ w)) (byteLength u) (byteLength u + byteLength v) = some v :=
  slice?_eq_some_iff.2 ⟨u, w, rfl, rfl, rfl⟩

/-- What is left from a later byte on is no longer. -/
theorem length_le_of_append_eq {u' v' : List Char} (h : u ++ v = u' ++ v')
    (hle : byteLength u ≤ byteLength u') : v'.length ≤ v.length := by
  rcases List.append_eq_append_iff.1 h with ⟨a, rfl, rfl⟩ | ⟨a, rfl, rfl⟩
  · rw [List.length_append]
    exact Nat.le_add_left _ _
  · have ha : a = [] := by
      rw [byteLength_append] at hle
      exact byteLength_eq_zero_iff.1 (by omega)
    rw [ha]
    exact Nat.le_refl _

/-! ## Cursors -/

namespace Cursor

variable (c : Cursor)

theorem position_eq_add : c.position = c.tokenStart + byteLength c.current := by
  rw [c.position_eq, c.tokenStart_eq, current, byteLength_reverse]

theorem slice?_current : slice? c.text c.tokenStart c.position = some c.current := by
  rw [c.position_eq_add, c.tokenStart_eq, ← byteLength_reverse]
  exact slice?_append _ _ _

theorem slice?_after : slice? c.text c.position (byteLength c.text) = some c.after := by
  refine slice?_eq_some_iff.2 ⟨c.before.reverse ++ c.current, [], ?_, ?_, ?_⟩
  · rw [text, current, List.append_nil, List.append_assoc]
  · rw [c.position_eq, current, byteLength_append, byteLength_reverse, byteLength_reverse]
  · rw [c.position_eq, text, byteLength_append, byteLength_append, byteLength_reverse,
      byteLength_reverse, Nat.add_assoc]

end Cursor

/-! ## Locations from scratch -/

/-- The location of byte `i` of a text whose lines and columns count from byte `b` on. -/
def locate? (text : List Char) (b i : Nat) : Option Location :=
  (slice? text b i).map fun passed =>
    ⟨i, passed.count '\n' + 1, (lastLine passed).length + 1⟩

/-- A reader that starts a line in front of a slice comes to where the slice ends. -/
theorem locate?_eq_advance (u v w : List Char) :
    locate? (u ++ (v ++ w)) (byteLength u) (byteLength u + byteLength v) =
      some (Location.advance ⟨byteLength u, 1, 1⟩ v) := by
  rw [locate?, slice?_append, Location.advance_eq rfl, Option.map_some, Nat.add_comm 1]

end ExprLexer
