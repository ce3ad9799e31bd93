-- SUMMARY: A run is read up to the first char that is refused, and each char is asked about once.
import ExprLexer.Proofs.ByteCursor

/-!
# Runs

A predicate with a state of its own may answer differently each time, so it matters
which chars it is asked about, and how often. What it makes of a text does not depend
on any cursor: it accepts some chars, one by one, and then refuses the next one or
meets the end of the text (`Accepts`, `exists_accepts`). A cursor that looks at the
next char, asks, and reads it if it is accepted, does that over and over
(`takeWhileState_of_accepted`), so it passes what the predicate accepts and no more
(`takeWhileState_of_accepts`).

Main statement: whatever the predicate, the run that is read is the longest that it
accepts, nothing else is asked, and all that changes is what reading changes
(`takes_longest_run`).
-/

namespace ExprLexer.Cursor

variable {τ : Type} {ask : τ → Char → Bool × τ} {t t' t'' : τ}
variable {c c' c'' : Cursor} {run rest u v : List Char} {next : Option Char} {x : Char}

/-! ## What a predicate accepts -/

/-- A predicate in state `t` is asked about the chars of `run`, once each and in order, and accepts
    them. Then it is asked about the next char and refuses it, or there is none. It is left in
    state `t'`. -/
inductive Accepts (ask : τ → Char → Bool × τ) : τ → List Char → Option Char → τ → Prop where
  | ended {t : τ} : Accepts ask t [] none t
  | refused {t t' : τ} {x : Char} : ask t x = (false, t') → Accepts ask t [] (some x) t'
  | accepted {t t' t'' : τ} {x : Char} {run : List Char} {next : Option Char} :
      ask t x = (true, t') → Accepts ask t' run next t'' → Accepts ask t (x :: run) next t''

/-- Any text starts with what a predicate accepts of it. -/
theorem exists_accepts (ask : τ → Char → Bool × τ) (t : τ) (text : List Char) :
    ∃ run rest t', text = run ++ rest ∧ Accepts ask t run rest.head? t' := by
  induction text generalizing t with
  | nil => exact ⟨[], [], t, rfl, .ended⟩
  | cons x text ih =>
    obtain ⟨answer, t', hx⟩ : ∃ answer t', ask t x = (answer, t') := ⟨_, _, rfl⟩
    cases answer with
    | false => exact ⟨[], x :: text, t', rfl, .refused hx⟩
    | true =>
      obtain ⟨run, rest, t'', rfl, h⟩ := ih t'
      exact ⟨x :: run, rest, t'', rfl, .accepted hx h⟩

/-- A predicate with no state accepts what satisfies it, and refuses what does not. -/
theorem Accepts.of_stateless {p : Char → Bool} {s s' : Unit}
    (h : Accepts (fun (_ : Unit) x => (p x, ())) s run next s') :
    (∀ x ∈ run, p x) ∧ ∀ x ∈ next, p x = false := by
  induction h with
  | ended => simp
  | refused hx => simpa using hx
  | accepted hx _ ih => exact ⟨List.forall_mem_cons.2 ⟨congrArg Prod.fst hx, ih.1⟩, ih.2⟩

/-- The same predicate, with a list of the chars that it has been asked about. -/
def logged (ask : τ → Char → Bool × τ) : τ × List Char → Char → Bool × (τ × List Char) :=
  fun (t, log) x => ((ask t x).1, ((ask t x).2, log ++ [x]))

theorem Accepts.logged (h : Accepts ask t run next t') (log : List Char) :
    Accepts (Cursor.logged ask) (t, log) run next (t', log ++ (run ++ next.toList)) := by
  induction h generalizing log with
  | ended => simpa using Accepts.ended
  | refused hx => exact .refused (by simp [Cursor.logged, hx])
  | @accepted t t' t'' x run next hx _ ih =>
    have hlogged : Cursor.logged ask (t, log) x = (true, t', log ++ [x]) := by
      simp [Cursor.logged, hx]
    refine .accepted hlogged ?_
    simpa using ih (log ++ [x])

/-! ## What reading a run changes -/

/-- `c'` is what is left of `c` when `run` has been read: the position is behind the run, and its
    last char can be given back, if there is one. Nothing else is different. -/
structure Passes (c : Cursor) (run : List Char) (c' : Cursor) : Prop where
  after_eq : c.after = run ++ c'.after
  position_eq : c'.position = c.position + byteLength run
  text_eq : c'.text = c.text
  tokenStart_eq : c'.tokenStart = c.tokenStart
  location_eq : c'.location = c.location
  slot_eq : c'.width? = (run.getLast?.map Char.utf8Size).or c.width?

theorem Passes.nothing (c : Cursor) : c.Passes [] c :=
  ⟨rfl, rfl, rfl, rfl, rfl, rfl⟩

theorem passes_next (h : c.after = x :: rest) : c.Passes [x] c.next.2 := by
  obtain ⟨-, -, hafter, hlocation⟩ := next_spec h
  have htext := c.next_text
  refine ⟨by rw [h, hafter]; rfl, ?_, htext, congrArg Location.offset hlocation, hlocation, ?_⟩
  all_goals
    obtain ⟨before, pending, after, position, location, lastRead, hp, ho⟩ := c
    cases h
    rfl

theorem Passes.trans (h : c.Passes u c') (h' : c'.Passes v c'') : c.Passes (u ++ v) c'' where
  after_eq := by rw [h.after_eq, h'.after_eq, List.append_assoc]
  position_eq := by rw [h'.position_eq, h.position_eq, byteLength_append, Nat.add_assoc]
  text_eq := h'.text_eq.trans h.text_eq
  tokenStart_eq := h'.tokenStart_eq.trans h.tokenStart_eq
  location_eq := h'.location_eq.trans h.location_eq
  slot_eq := by rw [h'.slot_eq, h.slot_eq, List.getLast?_append, Option.map_or, Option.or_assoc]

/-! ## One char at a time -/

/-- Accepted chars are counted on from wherever the count starts. -/
theorem acceptedRun_succ (ask : τ → Char → Bool × τ) (n : Nat) (t : τ) (text : List Char) :
    acceptedRun ask (n + 1) t text =
      ((acceptedRun ask n t text).1 + 1, (acceptedRun ask n t text).2) := by
  induction text generalizing n t with
  | nil => rfl
  | cons x text ih =>
    simp only [acceptedRun]
    split
    · exact ih (n + 1) _
    · rfl

theorem takeWhileState_of_end (h : c.after = []) : c.takeWhileState ask t = ((0, t), c) := by
  simp [takeWhileState, h, acceptedRun, advance_zero]

theorem takeWhileState_of_refused (h : c.after = x :: rest) (hx : ask t x = (false, t')) :
    c.takeWhileState ask t = ((0, t'), c) := by
  simp [takeWhileState, h, acceptedRun, hx, advance_zero]

/-- A char that is accepted is read, and then the run goes on behind it. -/
theorem takeWhileState_of_accepted {n : Nat} (h : c.after = x :: rest)
    (hx : ask t x = (true, t')) (hn : c.next.2.takeWhileState ask t' = ((n, t''), c')) :
    c.takeWhileState ask t = ((n + 1, t''), c') := by
  obtain ⟨-, -, hafter, -⟩ := next_spec h
  rw [takeWhileState, hafter] at hn
  obtain ⟨hrun, hc'⟩ := Prod.mk.inj hn
  have hcount : acceptedRun ask 0 t c.after = (n + 1, t'') := by
    simp only [h, acceptedRun, hx, acceptedRun_succ, hrun]
  rw [hrun, advance_next h] at hc'
  rw [takeWhileState, hcount, hc']

/-- A cursor passes what the predicate accepts of the text behind it, and no more. -/
theorem takeWhileState_of_accepts (h : Accepts ask t run rest.head? t')
    (hafter : c.after = run ++ rest) :
    ∃ c', c.takeWhileState ask t = ((run.length, t'), c') ∧ c.Passes run c' := by
  generalize hnext : rest.head? = next at h
  induction h generalizing c with
  | ended =>
    rw [List.head?_eq_none_iff.1 hnext] at hafter
    exact ⟨c, takeWhileState_of_end hafter, .nothing c⟩
  | refused hx =>
    obtain ⟨rest, rfl⟩ := List.head?_eq_some_iff.1 hnext
    exact ⟨c, takeWhileState_of_refused hafter hx, .nothing c⟩
  | accepted hx _ ih =>
    obtain ⟨-, -, hafter', -⟩ := next_spec hafter
    obtain ⟨c', hc', hpasses⟩ := ih hafter' hnext
    exact ⟨c', takeWhileState_of_accepted hafter hx hc', (passes_next hafter).trans hpasses⟩

/-! ## Longest runs -/

/-- Wherever a cursor stands, a predicate is asked about the chars behind it, once each and in
    order, up to the first that it refuses or to the end of the text. The run of those that it
    accepts is counted and read. So is the longest run of chars of a set. -/
theorem takes_longest_run (c : Cursor) :
    (∀ {τ : Type} (ask : τ → Char → Bool × τ) (t : τ), ∃ run t' c',
      c.takeWhileState ask t = ((run.length, t'), c') ∧ c.Passes run c' ∧
      Accepts ask t run c'.peek t' ∧
      (c.takeWhileState (logged ask) (t, [])).1 = (run.length, t', run ++ c'.peek.toList) ∧
      (byteLength c.text < wordSize →
        c.bytes.takeWhile ask 0 t = .ok ((run.length, t'), c'.bytes))) ∧
    ∀ charset : List Char, ∃ run c', c.take charset = (run.length, c') ∧ c.Passes run c' ∧
      (∀ x ∈ run, x ∈ charset) ∧ ∀ x ∈ c'.peek, x ∉ charset := by
  constructor
  · intro τ ask t
    obtain ⟨run, rest, t', hafter, h⟩ := exists_accepts ask t c.after
    obtain ⟨c', hc', hpasses⟩ := takeWhileState_of_accepts h hafter
    obtain ⟨_, hlog, -⟩ := takeWhileState_of_accepts (h.logged []) hafter
    obtain rfl : rest = c'.after := List.append_cancel_left (hafter.symm.trans hpasses.after_eq)
    refine ⟨run, t', c', hc', hpasses, h, congrArg Prod.fst hlog, ?_⟩
    intro htext
    rw [takeWhile_bytes ask t htext, hc']
  · intro charset
    obtain ⟨run, rest, _, hafter, h⟩ :=
      exists_accepts (fun (_ : Unit) x => (charset.contains x, ())) () c.after
    obtain ⟨c', hc', hpasses⟩ := takeWhileState_of_accepts h hafter
    obtain rfl : rest = c'.after := List.append_cancel_left (hafter.symm.trans hpasses.after_eq)
    obtain ⟨hrun, hnext⟩ := h.of_stateless
    refine ⟨run, c', ?_, hpasses, ?_, ?_⟩
    · rw [take, takeWhile, hc']
    · exact fun x hx => List.contains_iff_mem.1 (hrun x hx)
    · intro x hx hmem
      exact Bool.false_ne_true ((hnext x hx).symm.trans (List.contains_iff_mem.2 hmem))

/-- A predicate that accepts every other char it is asked about reads one char, although it would
    accept the one behind the next, too. -/
example :
    ((ofList ['é', '!', '€']).takeWhileState (fun asked _ => (asked % 2 = 0, asked + 1)) 0).1 =
      (1, 2) := by
  decide

end ExprLexer.Cursor
