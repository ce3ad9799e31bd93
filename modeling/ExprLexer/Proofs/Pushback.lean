-- SUMMARY: What a cursor gives back is settled by the calls made of it since it was last cleared.
import ExprLexer.Proofs.Offsets

/-!
# Pushback

A cursor has one slot of pushback, and its operations fill it, empty it or leave it
alone, some of them according to how they turn out. Seen from outside each call
reads, clears, or does neither (`Call.effect`). What the slot holds is then found by
the latest of the reads since the latest clear, whatever the calls were
(`Used.pushback_eq`), since one more call does the same to both.

Main statement: so the calls tell where giving back is a fault, and what is given
back where it is none (`Used.rewind_gives_latest`).
-/

namespace ExprLexer.Cursor

/-! ## Calls and their effects -/

/-- What a call does to what can be given back. -/
inductive Effect where
  /-- It reads. The last char that it passes can be given back, or the end of the text if that is
      what it finds. -/
  | reads (last : Option Char)
  /-- Nothing can be given back any more. -/
  | clears
  /-- It does neither. -/
  | neither
deriving DecidableEq, Repr

/-- Passing the next `n` chars is a read, unless there are none of them. -/
def passing (n : Nat) (c : Cursor) : Effect :=
  if n = 0 then .neither else .reads (c.after.take n).getLast?

/-- What a move does is told by its answer. -/
def Move.effect {β : Type} (c : Cursor) : Move β → Effect
  | .next => .reads c.next.1
  | .rewind => .clears
  | .accept expected => if (c.accept expected).1 then .reads (some expected) else .clears
  | .takeWhile ask t => c.passing (c.takeWhileState ask t).1.1

def Operation.effect (c : Cursor) : Operation → Effect
  | .move m => m.effect c
  | .take charset => c.passing (c.take charset).1
  | .commit => .clears
  | .skip => .clears
  | .skipMark => .neither

/-- Something that is asked of a cursor. -/
inductive Call : Type 1 where
  | use (operation : Operation)
  /-- Look at the next char. -/
  | peek
  /-- Look at the pending token. -/
  | current

def Call.effect (c : Cursor) : Call → Effect
  | .use operation => operation.effect c
  | .peek => .neither
  | .current => .neither

/-- A look at a cursor leaves it as it is. -/
def Call.apply (t : Tracked) : Call → Except Fault Tracked
  | .use operation => t.apply operation
  | .peek => .ok t
  | .current => .ok t

/-- A cursor over the text has answered calls with these effects, oldest first, and now it is
    `t`. -/
inductive Used (text : List Char) : List Effect → Tracked → Prop where
  | fresh : Used text [] ⟨ofList text, false⟩
  | call {log : List Effect} {t t' : Tracked} (call : Call) :
      Used text log t → call.apply t = .ok t' → Used text (log ++ [call.effect t.cursor]) t'

/-! ## Reads since the latest clear -/

/-- What was found by a read. -/
def Effect.last? : Effect → Option (Option Char)
  | .reads last => some last
  | .clears => none
  | .neither => none

/-- What was found by each of the reads behind the latest clear. -/
def readsSinceClear (log : List Effect) : List (Option Char) :=
  (log.rtakeWhile (· ≠ .clears)).filterMap Effect.last?

/-- What an effect makes of what could be given back before. -/
def Effect.after (slot : Option (Option Char)) : Effect → Option (Option Char)
  | .reads last => some last
  | .clears => none
  | .neither => slot

theorem readsSinceClear_concat (log : List Effect) (effect : Effect) :
    (readsSinceClear (log ++ [effect])).getLast? =
      effect.after (readsSinceClear log).getLast? := by
  cases effect <;> simp [readsSinceClear, Effect.last?, Effect.after]

/-! ## The slot -/

/-- What a cursor would give back: the last char of the pending token, or the end of the text. -/
def pushback (c : Cursor) : Option (Option Char) :=
  match c.lastRead, c.pending with
  | .nothing, _ => none
  | .char, x :: _ => some (some x)
  | _, _ => some none

variable {text : List Char} {log : List Effect} {c c' : Cursor} {t t' : Tracked}

theorem next_pushback (c : Cursor) : c.next.2.pushback = some c.next.1 := by
  unfold next
  split <;> rfl

theorem rewind_pushback (h : c.rewind = .ok c') : c'.pushback = none := by
  unfold rewind at h
  split at h
  · cases h
  · cases h
    rfl
  · cases h
    rfl

theorem accept_pushback (expected : Char) (c : Cursor) :
    (c.accept expected).2.pushback =
      if (c.accept expected).1 then some (some expected) else none := by
  unfold accept
  split
  · rename_i hpeek
    rw [next_pushback, if_pos rfl, ← hpeek]
    unfold next peek
    split <;> simp_all
  · rfl

/-- Passing chars leaves the last of them to give back, unless there is none to pass. -/
theorem advance_pushback {n : Nat} (hn : c.after = [] → n = 0) :
    (c.advance n).pushback = (c.passing n).after c.pushback := by
  by_cases hzero : n = 0
  · rw [passing, if_pos hzero, advance_eq_self (.inl hzero)]
    rfl
  · have hafter : c.after ≠ [] := fun h => hzero (hn h)
    have hpassed : (c.after.take n).reverse ≠ [] := by simp [hzero, hafter]
    obtain ⟨x, passed, hx⟩ := List.exists_cons_of_ne_nil hpassed
    have hlast : (c.after.take n).getLast? = some x := by
      rw [← List.head?_reverse, hx, List.head?_cons]
    rw [passing, if_neg hzero, hlast]
    simp [advance, pushback, hzero, hafter, hx, Effect.after]

theorem takeWhileState_pushback {τ : Type} (ask : τ → Char → Bool × τ) (t : τ) (c : Cursor) :
    (c.takeWhileState ask t).2.pushback =
      (c.passing (c.takeWhileState ask t).1.1).after c.pushback := by
  refine advance_pushback ?_
  intro hafter
  rw [hafter]
  rfl

theorem skipMark_pushback (c : Cursor) : c.skipMark.pushback = c.pushback := by
  unfold skipMark
  split
  · split
    · simp_all [pushback]
    · rfl
  · rfl

theorem Move.apply_pushback {β : Type} {m : Move β} {r : β × Cursor} (h : m.apply c = .ok r) :
    r.2.pushback = (m.effect c).after c.pushback := by
  cases m with
  | next =>
    cases h
    exact c.next_pushback
  | rewind => exact rewind_pushback (apply_rewind h)
  | accept expected =>
    cases h
    rw [effect, accept_pushback]
    split <;> rfl
  | takeWhile ask t =>
    cases h
    exact c.takeWhileState_pushback ask t

/-- A call changes what can be given back as its effect says. -/
theorem Call.apply_pushback {call : Call} (h : call.apply t = .ok t') :
    t'.cursor.pushback = (call.effect t.cursor).after t.cursor.pushback := by
  cases call with
  | use operation =>
    cases operation with
    | move m =>
      obtain ⟨r, hm, rfl⟩ := Except.map_eq_ok_iff.1 h
      exact Move.apply_pushback hm
    | take charset =>
      cases h
      exact t.cursor.takeWhileState_pushback _ ()
    | commit =>
      cases h
      rfl
    | skip =>
      cases h
      rfl
    | skipMark =>
      cases h
      exact t.cursor.skipMark_pushback
  | peek =>
    cases h
    rfl
  | current =>
    cases h
    rfl

theorem Call.apply_consistent {call : Call} (h : t.cursor.Consistent text)
    (ht : call.apply t = .ok t') : t'.cursor.Consistent text := by
  cases call with
  | use operation => exact h.apply ht
  | peek =>
    cases ht
    exact h
  | current =>
    cases ht
    exact h

/-- What can be given back is what the latest read since the latest clear has found. -/
theorem Used.pushback_eq (h : Used text log t) :
    t.cursor.pushback = (readsSinceClear log).getLast? := by
  induction h with
  | fresh => rfl
  | call _ _ ht ih => rw [readsSinceClear_concat, ← ih, Call.apply_pushback ht]

theorem Used.consistent (h : Used text log t) : t.cursor.Consistent text := by
  induction h with
  | fresh => exact .ofList text
  | call _ _ ht ih => exact Call.apply_consistent ih ht

/-! ## Giving back -/

theorem rewind_eq_error_iff :
    c.rewind = .error (.nothingToRewind c.position) ↔ c.pushback = none := by
  obtain ⟨before, pending, after, position, location, lastRead, hp, ho⟩ := c
  cases lastRead with
  | nothing => simp [rewind, pushback]
  | endOfText => simp [rewind, pushback]
  | char => cases pending <;> simp [rewind, pushback]

theorem accept_eq_false_iff {expected : Char} :
    (c.accept expected).1 = false ↔ c.peek ≠ some expected := by
  rw [accept]
  split <;> simp_all

theorem accept_refused {expected : Char} (h : (c.accept expected).1 = false) :
    c.accept expected = (false, { c with lastRead := .nothing }) := by
  rw [accept, if_neg (accept_eq_false_iff.1 h)]

/-- A cursor that has something to give back comes to stand before it, and finds it again. -/
theorem exists_rewind_of_pushback {latest : Option Char} (hc : c.Holds)
    (h : c.pushback = some latest) :
    ∃ c', c.rewind = .ok c' ∧ slice? c.text c'.position c.position = some latest.toList ∧
      c'.next.1 = latest := by
  obtain ⟨u, v, htext, hu⟩ := c.position_boundary
  obtain ⟨before, pending, after, position, location, lastRead, hp, ho⟩ := c
  cases lastRead with
  | nothing => cases h
  | endOfText =>
    cases h
    have hafter : after = [] := hc
    subst hafter
    exact ⟨_, rfl, slice?_eq_some_iff.2 ⟨u, v, htext, hu, rfl⟩, rfl⟩
  | char =>
    obtain ⟨x, pending, rfl⟩ := List.exists_cons_of_ne_nil hc
    cases h
    let c : Cursor := ⟨before, x :: pending, after, position, location, .char, hp, ho⟩
    obtain ⟨-, -, -, hslice⟩ := slice?_latest (c := c) rfl
    exact ⟨_, rfl, hslice, rfl⟩

/-- Whatever has been called, giving back is a fault exactly if there was no read since the latest
    clear. Otherwise the cursor goes back over the last char of the latest read, or over nothing if
    that read found the end of the text, changes nothing else that can be seen, and reads the same
    again. A char that is not the expected one is refused, as the end of the text is, and then
    nothing moves. -/
theorem Used.rewind_gives_latest (h : Used text log t) :
    (t.cursor.rewind = .error (.nothingToRewind t.cursor.position) ↔ readsSinceClear log = []) ∧
    (∀ latest, (readsSinceClear log).getLast? = some latest →
      ∃ c', t.cursor.rewind = .ok c' ∧
        slice? text c'.position t.cursor.position = some latest.toList ∧
        c'.tokenStart = t.cursor.tokenStart ∧ c'.location = t.cursor.location ∧ c'.text = text ∧
        c'.next.1 = latest) ∧
    ∀ expected, ((t.cursor.accept expected).1 = false ↔ t.cursor.peek ≠ some expected) ∧
      ∀ c', t.cursor.accept expected = (false, c') →
        c'.position = t.cursor.position ∧ c'.tokenStart = t.cursor.tokenStart ∧
        c'.location = t.cursor.location ∧ c'.text = text := by
  have hslot := h.pushback_eq
  have hc := h.consistent
  refine ⟨?_, ?_, ?_⟩
  · rw [rewind_eq_error_iff, hslot, List.getLast?_eq_none_iff]
  · intro latest hlatest
    obtain ⟨c', hc', hslice, hnext⟩ := exists_rewind_of_pushback hc.holds (hslot.trans hlatest)
    obtain ⟨-, hlocation⟩ := rewind_boundary hc'
    rw [hc.text_eq] at hslice
    refine ⟨c', hc', hslice, ?_, hlocation, (rewind_text hc').trans hc.text_eq, hnext⟩
    rw [tokenStart, hlocation, tokenStart]
  · intro expected
    refine ⟨accept_eq_false_iff, ?_⟩
    intro c' hc'
    rw [accept_refused (congrArg Prod.fst hc')] at hc'
    cases hc'
    exact ⟨rfl, rfl, rfl, hc.text_eq⟩

/-- A char of two bytes is given back behind a byte order mark, although nothing was found to pass
    in between and the next char was looked at. -/
theorem Used.rewind_gives_latest_behindMark :
    ∃ t, Used [byteOrderMark, 'é', '€'] [.neither, .reads (some 'é'), .neither, .neither] t ∧
      t.cursor.position = 5 ∧
      ∃ c', t.cursor.rewind = .ok c' ∧ c'.position = 3 ∧ c'.next.1 = some 'é' := by
  have hfresh : Used [byteOrderMark, 'é', '€'] [] ⟨ofList _, false⟩ := .fresh
  have hmark := hfresh.call (.use .skipMark) rfl
  have hread := hmark.call (.use (.take ['é'])) rfl
  have hempty := hread.call (.use (.take ['a'])) rfl
  have hused := hempty.call .peek rfl
  obtain ⟨-, hrewind, -⟩ := hused.rewind_gives_latest
  obtain ⟨c', hc', hslice, -, -, -, hnext⟩ := hrewind (some 'é') rfl
  obtain ⟨_, _, _, _, hend⟩ := slice?_eq_some_iff.1 hslice
  exact ⟨_, hused, rfl, c', hc', Nat.add_right_cancel (m := 2) hend, hnext⟩

end ExprLexer.Cursor
