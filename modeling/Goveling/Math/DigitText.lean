/-
# Numbers written with a fixed width

Numbers that are written with the same number of digits compare as texts like
they compare as numbers, and texts of several numbers compare by the first number
that differs.
-/

import Mathlib.Data.List.Lex
import Mathlib.Data.Nat.Digits.Defs
import Mathlib.Tactic.IntervalCases

namespace Goveling.Math

universe u

/-! ## Texts of one length -/

section Lex

variable {A : Type u} {r : A → A → Prop}

/-- What comes first decides. -/
theorem lex_append_of_lex {first second : List A} (hlex : List.Lex r first second)
    (hlength : first.length = second.length) (firstRest secondRest : List A) :
    List.Lex r (first ++ firstRest) (second ++ secondRest) := by
  induction hlex with
  | nil => simp at hlength
  | cons _ ih => exact List.Lex.cons (ih (by simpa using hlength))
  | rel hrel => exact List.Lex.rel hrel

end Lex

/-! ## Digits -/

/-- The last digits of a number, as many as the width asks for. -/
def paddedDigits : ℕ → ℕ → List Char
  | 0, _ => []
  | width + 1, n => paddedDigits width (n / 10) ++ [Nat.digitChar (n % 10)]

@[simp]
theorem length_paddedDigits (width n : ℕ) : (paddedDigits width n).length = width := by
  induction width generalizing n with
  | zero => rfl
  | succ width ih => simp [paddedDigits, ih]

theorem digitChar_lt_digitChar {c d : ℕ} (hlt : c < d) (hd : d < 10) :
    Nat.digitChar c < Nat.digitChar d := by
  interval_cases d <;> interval_cases c <;> decide

/-- A smaller number has the smaller digits. The induction takes the last digit
off, which decides when the others agree. -/
theorem lex_paddedDigits {width m n : ℕ} (hlt : m < n) (hn : n < 10 ^ width) :
    List.Lex (· < ·) (paddedDigits width m) (paddedDigits width n) := by
  induction width generalizing m n with
  | zero => omega
  | succ width ih =>
      have hsmall : n / 10 < 10 ^ width := by
        rw [pow_succ] at hn
        omega
      by_cases hsmaller : m / 10 < n / 10
      · apply lex_append_of_lex (ih hsmaller hsmall)
        simp
      · have hsame : m / 10 = n / 10 := by omega
        show List.Lex _ (paddedDigits width (m / 10) ++ _) (paddedDigits width (n / 10) ++ _)
        rw [hsame]
        apply List.Lex.append_left
        apply List.Lex.rel
        exact digitChar_lt_digitChar (by omega) (Nat.mod_lt _ (by omega))

theorem paddedDigits_zero (width : ℕ) : paddedDigits width 0 = List.replicate width '0' := by
  induction width with
  | zero => rfl
  | succ width ih =>
      rw [List.replicate_succ']
      simp only [paddedDigits, Nat.zero_div, ih]
      rfl

/-- The digits of a number, filled up with zeros on the left. -/
theorem leftpad_toDigits {width n : ℕ} (hpos : 0 < width) (hn : n < 10 ^ width) :
    (Nat.toDigits 10 n).leftpad width '0' = paddedDigits width n := by
  induction width generalizing n with
  | zero => omega
  | succ width ih =>
      have hn' : n / 10 < 10 ^ width := by
        rw [pow_succ] at hn
        omega
      by_cases hdigit : n < 10
      · rw [Nat.toDigits_of_lt_base hdigit]
        simp only [paddedDigits, Nat.div_eq_of_lt hdigit, Nat.mod_eq_of_lt hdigit,
          paddedDigits_zero]
        rfl
      · have hwidth : 0 < width := by
          by_contra hzero
          have hempty : width = 0 := by omega
          rw [hempty, pow_zero] at hn'
          omega
        rw [Nat.toDigits_of_base_le (by omega) (by omega)]
        simp only [paddedDigits, ← ih hwidth hn', List.leftpad, List.length_append,
          List.length_singleton, Nat.add_sub_add_right, List.append_assoc]

theorem paddedDigits_injOn {width m n : ℕ} (hm : m < 10 ^ width) (hn : n < 10 ^ width)
    (hsame : paddedDigits width m = paddedDigits width n) : m = n := by
  have hirrefl : ∀ text : List Char, ¬ List.Lex (· < ·) text text := fun text =>
    List.lt_irrefl text
  rcases Nat.lt_trichotomy m n with hlt | heq | hgt
  · exact absurd (hsame ▸ lex_paddedDigits hlt hn) (hirrefl _)
  · exact heq
  · exact absurd (hsame ▸ lex_paddedDigits hgt hm) (hirrefl _)

/-! ## Reading digits -/

/-- The digit that a character stands for. -/
def digitOf (c : Char) : Option ℕ := if c.isDigit then some (c.toNat - 48) else none

/-- The number that continues a number with more digits. -/
def readDigits (before : ℕ) (text : List Char) : Option ℕ :=
  text.foldlM (fun n c => (digitOf c).map fun digit => 10 * n + digit) before

/-- The number that a text of digits stands for. -/
def numberOf (text : List Char) : Option ℕ := if text = [] then none else readDigits 0 text

theorem digitOf_digitChar {d : ℕ} (hd : d < 10) : digitOf (Nat.digitChar d) = some d := by
  interval_cases d <;> rfl

theorem isDigit_digitChar {d : ℕ} (hd : d < 10) : (Nat.digitChar d).isDigit = true := by
  interval_cases d <;> rfl

theorem readDigits_append (before : ℕ) (first second : List Char) :
    readDigits before (first ++ second) =
      (readDigits before first).bind fun n => readDigits n second := by
  simp [readDigits, List.foldlM_append]

/-- The induction reads the digits of a number without the last one first. -/
theorem readDigits_toDigits (n : ℕ) : readDigits 0 (Nat.toDigits 10 n) = some n := by
  induction n using Nat.strong_induction_on with
  | h n ih =>
      by_cases hdigit : n < 10
      · rw [Nat.toDigits_of_lt_base hdigit]
        show (digitOf (Nat.digitChar n)).map (fun digit => 10 * 0 + digit) >>= pure = some n
        simp [digitOf_digitChar hdigit]
      · rw [Nat.toDigits_of_base_le (by omega) (by omega), readDigits_append,
          ih (n / 10) (Nat.div_lt_self (by omega) (by omega))]
        show (digitOf (Nat.digitChar (n % 10))).map (fun digit => 10 * (n / 10) + digit) >>= pure =
          some n
        simp only [digitOf_digitChar (Nat.mod_lt n (by omega)), Option.map_some, bind_pure]
        congr 1
        omega

/-- A number is read back from its digits. -/
theorem numberOf_toDigits (n : ℕ) : numberOf (Nat.toDigits 10 n) = some n := by
  unfold numberOf
  rw [if_neg Nat.toDigits_ne_nil, readDigits_toDigits]

/-- Leading zeros do not count. -/
theorem numberOf_append_zeros (m : ℕ) (digits : List Char) (hdigits : digits ≠ []) :
    numberOf (List.replicate m '0' ++ digits) = numberOf digits := by
  have hzeros : readDigits 0 (List.replicate m '0') = some 0 := by
    induction m with
    | zero => rfl
    | succ m ih =>
        rw [List.replicate_succ', readDigits_append, ih]
        rfl
  unfold numberOf
  rw [if_neg (by simp [hdigits]), if_neg hdigits, readDigits_append, hzeros]
  rfl

/-- A number is read back from the digits of a width that has room for it. -/
theorem numberOf_paddedDigits {width n : ℕ} (hpos : 0 < width) (hn : n < 10 ^ width) :
    numberOf (paddedDigits width n) = some n := by
  rw [← leftpad_toDigits hpos hn, List.leftpad, numberOf_append_zeros _ _ Nat.toDigits_ne_nil,
    numberOf_toDigits]

/-- What is no digit is not passed over. -/
theorem readDigits_eq_none_of_mem {c : Char} (hc : c.isDigit = false) {text : List Char}
    (hmem : c ∈ text) (before : ℕ) : readDigits before text = none := by
  induction text generalizing before with
  | nil => cases hmem
  | cons first rest ih =>
      unfold readDigits
      rw [List.foldlM_cons]
      by_cases hfirst : first.isDigit = true
      · have hrest : c ∈ rest := by
          rcases List.mem_cons.mp hmem with rfl | hrest
          · rw [hc] at hfirst
            cases hfirst
          · exact hrest
        rw [digitOf, if_pos hfirst]
        exact ih hrest _
      · rw [digitOf, if_neg hfirst]
        rfl

theorem numberOf_eq_none_of_mem {c : Char} (hc : c.isDigit = false) {text : List Char}
    (hmem : c ∈ text) : numberOf text = none := by
  unfold numberOf
  rw [if_neg (List.ne_nil_of_mem hmem), readDigits_eq_none_of_mem hc hmem]

theorem toDigits_injective : Function.Injective (Nat.toDigits 10) := by
  intro m n hsame
  have hread := congrArg numberOf hsame
  rw [numberOf_toDigits, numberOf_toDigits] at hread
  exact Option.some.inj hread

/-! ## Texts with a separator -/

/-- What stands before a separator can be told from what stands after it when the
separator is none of its characters. -/
theorem append_separator_inj {P : Char → Prop} {separator : Char} (hseparator : ¬ P separator)
    {first second firstRest secondRest : List Char} (hfirst : ∀ c ∈ first, P c)
    (hsecond : ∀ c ∈ second, P c)
    (hsame : first ++ separator :: firstRest = second ++ separator :: secondRest) :
    first = second ∧ firstRest = secondRest := by
  induction first generalizing second with
  | nil =>
      cases second with
      | nil => exact ⟨rfl, (List.cons.inj hsame).2⟩
      | cons c others =>
          obtain ⟨rfl, -⟩ := List.cons.inj hsame
          exact absurd (hsecond _ List.mem_cons_self) hseparator
  | cons c others ih =>
      cases second with
      | nil =>
          obtain ⟨rfl, -⟩ := List.cons.inj hsame
          exact absurd (hfirst _ List.mem_cons_self) hseparator
      | cons c' others' =>
          obtain ⟨rfl, hrest⟩ := List.cons.inj hsame
          obtain ⟨hothers, hafter⟩ := ih (List.forall_mem_cons.mp hfirst).2
            (List.forall_mem_cons.mp hsecond).2 hrest
          exact ⟨by rw [hothers], hafter⟩

end Goveling.Math
