-- SUMMARY: No two lexical errors are reported in the same words.
import ExprLexer.LexError
import Mathlib.Data.List.DropRight
import Mathlib.Data.List.Infix

/-!
# Messages

The message of a lexical error is put together from texts that are not marked off
from each other: an opening that says what is wrong, the offending char between
quotes, the line and the column. Yet it tells the error. The column is the run of
digits at the end, and the line the one before it (`eq_of_append_digits`); no
opening starts another one (`LexError.Cause.eq_of_prefix_openings`); and what stands
between the quotes is one char, two chars or more according to how the char is shown
(`Quoted.Shown.unique`).

Main statement: two errors are reported in the same words exactly if they have the
same cause, the same line and the same column, and two causes only if they are the
same (`LexError.message_eq_iff`).
-/

namespace ExprLexer

/-! ## Digits -/

theorem digitChar_inj {i j : Nat} (hi : i < 16) (hj : j < 16)
    (h : i.digitChar = j.digitChar) : i = j := by
  have hall : ∀ i < 16, ∀ j < 16, i.digitChar = j.digitChar → i = j := by decide
  exact hall i hi j hj h

theorem toDigits_ne_singleton {n : Nat} (hn : 16 ≤ n) (c : Char) : Nat.toDigits 16 n ≠ [c] := by
  rw [Nat.toDigits_of_base_le (by decide) hn, ← List.nil_append [c]]
  intro h
  exact Nat.toDigits_ne_nil (List.append_inj_left' h rfl)

/-- No two numbers have the same hexadecimal digits. -/
theorem toDigits_injective : Function.Injective (Nat.toDigits 16) := by
  intro m n h
  induction m using Nat.strong_induction_on generalizing n with
  | _ m ih =>
    rcases Nat.lt_or_ge m 16 with hm | hm
    · rw [Nat.toDigits_of_lt_base hm] at h
      rcases Nat.lt_or_ge n 16 with hn | hn
      · rw [Nat.toDigits_of_lt_base hn] at h
        exact digitChar_inj hm hn (List.singleton_inj.1 h)
      · exact absurd h.symm (toDigits_ne_singleton hn _)
    · rcases Nat.lt_or_ge n 16 with hn | hn
      · rw [Nat.toDigits_of_lt_base hn] at h
        exact absurd h (toDigits_ne_singleton hm _)
      · rw [Nat.toDigits_of_base_le (by decide) hm, Nat.toDigits_of_base_le (by decide) hn] at h
        obtain ⟨hfront, hlast⟩ := List.append_inj' h rfl
        have hdiv : m / 16 = n / 16 := ih (m / 16) (by omega) hfront
        have hmod : m % 16 = n % 16 :=
          digitChar_inj (Nat.mod_lt _ (by decide)) (Nat.mod_lt _ (by decide))
            (List.singleton_inj.1 hlast)
        omega

/-! ## Quoted chars -/

namespace Quoted

/-- The char that a letter behind a backslash stands for. -/
def ofLetter (letter : Char) : Char :=
  match letter with
  | '0' => '\x00'
  | 't' => '\t'
  | 'r' => '\r'
  | 'n' => '\n'
  | c => c

theorem eq_ofLetter_of_shortEscape? {c letter : Char} (h : shortEscape? c = some letter) :
    c = ofLetter letter := by
  unfold shortEscape? at h
  split_ifs at h <;> cases h <;> assumption

/-- The three ways to show a char. -/
inductive Shown : Char → List Char → Prop where
  | letter {c letter : Char} : shortEscape? c = some letter → Shown c ['\\', letter]
  | code {c : Char} :
      Shown c ('\\' :: 'u' :: '\x7b' :: (Nat.toDigits 16 c.toNat ++ ['\x7d']))
  | plain {c : Char} : Shown c [c]

theorem shown_body (c : Char) : Shown c (body c) := by
  unfold body
  split
  · exact .letter ‹_›
  · split
    · exact .code
    · exact .plain

/-- How long it is tells in which way a char is shown, and then the char can be read off. -/
theorem Shown.unique {c d : Char} {s t : List Char} (h : Shown c s) (h' : Shown d t)
    (heq : s = t) : c = d := by
  cases h with
  | letter hc =>
    cases h' with
    | letter hd =>
      cases heq
      rw [eq_ofLetter_of_shortEscape? hc, eq_ofLetter_of_shortEscape? hd]
    | code => cases heq
    | plain => cases heq
  | code =>
    cases h' with
    | letter hd => cases heq
    | code =>
      have hdigits : Nat.toDigits 16 c.toNat = Nat.toDigits 16 d.toNat := by simpa using heq
      exact Char.toNat_inj.1 (toDigits_injective hdigits)
    | plain => cases heq
  | plain =>
    cases h' with
    | letter hd => cases heq
    | code => cases heq
    | plain => exact List.singleton_inj.1 heq

theorem body_injective : Function.Injective body :=
  fun c d h => (shown_body c).unique (shown_body d) h

theorem quote_injective : Function.Injective quote := by
  intro c d h
  have hlist := List.append_cancel_right (String.ofList_inj.1 h)
  exact body_injective (List.cons.inj hlist).2

/-- A char that is shown differs from none that is. -/
theorem elim_quote_injective : Function.Injective fun c : Option Char => c.elim "" quote := by
  have hne : ∀ c, quote c ≠ "" := fun c => by simp [quote]
  intro c d h
  cases c with
  | none =>
    cases d with
    | none => rfl
    | some d => exact absurd h.symm (hne d)
  | some c =>
    cases d with
    | none => exact absurd h (hne c)
    | some d => exact congrArg some (quote_injective h)

end Quoted

/-! ## Causes -/

namespace LexError.Cause

/-- The words that a cause is reported with. -/
def opening : Cause → String
  | unterminatedString => "string not properly terminated"
  | malformedNumber _ => "malformed number: unexpected character "
  | nestedDecimal => "malformed number: more than one '.'"
  | malformedIdentifier (some _) => "malformed identifier: segment cannot start with "
  | malformedIdentifier none => "malformed identifier: empty segment at end of input"
  | unexpectedChar _ => "unexpected character: "

/-- The char that is shown behind them. -/
def shown? : Cause → Option Char
  | malformedNumber c => some c
  | malformedIdentifier c => c
  | unexpectedChar c => some c
  | _ => none

theorem message_eq (cause : Cause) :
    cause.message = cause.opening ++ cause.shown?.elim "" Quoted.quote := by
  cases cause with
  | malformedIdentifier c => cases c <;> rfl
  | _ => rfl

def openings : List String :=
  [opening .unterminatedString, opening (.malformedNumber 'x'), opening .nestedDecimal,
    opening (.malformedIdentifier (some 'x')), opening (.malformedIdentifier none),
    opening (.unexpectedChar 'x')]

theorem opening_mem (cause : Cause) : cause.opening ∈ openings := by
  cases cause with
  | malformedIdentifier c =>
    cases c <;> simp only [opening, openings, List.mem_cons, true_or, or_true]
  | _ => simp only [opening, openings, List.mem_cons, true_or, or_true]

/-- No opening starts another one. -/
theorem eq_of_prefix_openings :
    ∀ s ∈ openings, ∀ t ∈ openings, s.toList <+: t.toList → s = t := by
  decide +kernel

theorem eq_of_opening_eq {cause cause' : Cause} (hopening : cause.opening = cause'.opening)
    (hshown : cause.shown? = cause'.shown?) : cause = cause' := by
  rcases cause with _ | c | _ | (_ | c) | c <;> rcases cause' with _ | c' | _ | (_ | c') | c' <;>
    simp_all [opening, shown?]

/-- No two causes are reported in the same words. -/
theorem message_injective : Function.Injective message := by
  intro cause cause' h
  have hlist := congrArg String.toList h
  rw [message_eq, message_eq, String.toList_append, String.toList_append] at hlist
  -- Both openings start the same message, so one of them starts the other.
  have hprefix := List.prefix_append cause.opening.toList (cause.shown?.elim "" Quoted.quote).toList
  rw [hlist] at hprefix
  have hopening : cause.opening = cause'.opening := by
    rcases List.prefix_or_prefix_of_prefix hprefix (List.prefix_append ..) with hstarts | hstarts
    · exact eq_of_prefix_openings _ cause.opening_mem _ cause'.opening_mem hstarts
    · exact (eq_of_prefix_openings _ cause'.opening_mem _ cause.opening_mem hstarts).symm
  rw [hopening] at hlist
  have hshown := String.toList_inj.1 (List.append_cancel_left hlist)
  exact eq_of_opening_eq hopening (Quoted.elim_quote_injective hshown)

end LexError.Cause

/-! ## Errors -/

/-- A text that ends with a number behind a char that is no digit can be cut there in one way. -/
theorem eq_of_append_digits {u v : List Char} {x : Char} {m n : Nat} (hx : x.isDigit = false)
    (h : u ++ x :: Nat.toDigits 10 m = v ++ x :: Nat.toDigits 10 n) : u = v ∧ m = n := by
  have hlast : ∀ (w : List Char) (n : Nat),
      (w ++ x :: Nat.toDigits 10 n).rtakeWhile Char.isDigit = Nat.toDigits 10 n := by
    intro w n
    have hdigits : ∀ c ∈ (Nat.toDigits 10 n).reverse, c.isDigit := fun c hc =>
      Nat.isDigit_of_mem_toDigits (by decide) (by decide) (List.mem_reverse.1 hc)
    rw [List.rtakeWhile, List.reverse_append, List.reverse_cons, List.append_assoc,
      List.takeWhile_append_of_pos hdigits]
    simp [hx]
  have hdigits : Nat.toDigits 10 m = Nat.toDigits 10 n := by
    rw [← hlast u m, h, hlast v n]
  rw [hdigits] at h
  refine ⟨List.append_cancel_right h, ?_⟩
  calc
    m = Nat.ofDigitChars 10 (Nat.toDigits 10 m) 0 := Nat.ofDigitChars_ten_toDigits.symm
    _ = Nat.ofDigitChars 10 (Nat.toDigits 10 n) 0 := by rw [hdigits]
    _ = n := Nat.ofDigitChars_ten_toDigits

namespace LexError

theorem message_toList (e : LexError) :
    e.message.toList =
      e.cause.message.toList ++ " at line".toList ++ ' ' :: Nat.toDigits 10 e.location.line ++
        ", column".toList ++ ' ' :: Nat.toDigits 10 e.location.column := by
  have hline : " at line ".toList = " at line".toList ++ [' '] := rfl
  have hcolumn : ", column ".toList = ", column".toList ++ [' '] := rfl
  simp only [message, toString, String.toList_append, hline, hcolumn, Nat.toList_repr,
    List.append_assoc, List.cons_append, List.nil_append]

/-- Two errors are reported in the same words exactly if they have the same cause, the offending
    char included, and stand on the same line and at the same column. Two causes are put in the
    same words only if they are the same. -/
theorem message_eq_iff :
    (∀ e e' : LexError, e.message = e'.message ↔ e.cause = e'.cause ∧
      e.location.line = e'.location.line ∧ e.location.column = e'.location.column) ∧
    ∀ cause cause' : Cause, cause.message = cause'.message ↔ cause = cause' := by
  have hspace : ' '.isDigit = false := rfl
  refine ⟨fun e e' => ⟨?_, ?_⟩, fun cause cause' => Cause.message_injective.eq_iff⟩
  · intro h
    have hlist := congrArg String.toList h
    rw [message_toList, message_toList] at hlist
    obtain ⟨hfront, hcolumn⟩ := eq_of_append_digits hspace hlist
    obtain ⟨hcause, hline⟩ := eq_of_append_digits hspace (List.append_cancel_right hfront)
    have hmessage := String.toList_inj.1 (List.append_cancel_right hcause)
    exact ⟨Cause.message_injective hmessage, hline, hcolumn⟩
  · rintro ⟨hcause, hline, hcolumn⟩
    rw [message, message, hcause, hline, hcolumn]

end LexError

end ExprLexer
