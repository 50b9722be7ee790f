/-
# Glob patterns

In a pattern a star stands for any text and a question mark for any character; every other
character stands for itself. Brackets and escapes are no part of it, so what is said of a pattern
is about texts without them. A text of parts between separators meets a pattern that has one of
its parts between two stars just when one of the inner parts is this one.
-/

import Mathlib.Data.List.Infix

namespace Goveling.Math

/-! ## Patterns -/

/-- A part of a pattern. -/
inductive GlobToken
  | star
  | one
  | char (c : Char)
  deriving DecidableEq

/-- The pattern that a text is read as. -/
def globTokens (pattern : List Char) : List GlobToken :=
  pattern.map fun c => if c = '*' then .star else if c = '?' then .one else .char c

/-- The text meets the pattern. -/
def globMatch : List GlobToken → List Char → Bool
  | [], text => text.isEmpty
  | .star :: rest, text => text.tails.any (globMatch rest)
  | .one :: rest, text =>
      match text with
      | [] => false
      | _ :: later => globMatch rest later
  | .char d :: rest, text =>
      match text with
      | [] => false
      | c :: later => c = d && globMatch rest later

/-- The characters that a pattern reads as more than themselves. -/
def globSpecial : List Char := ['*', '?', '[', '\\']

/-- Every character stands for itself. -/
def isPlain (text : List Char) : Bool := text.all fun c => decide (c ∉ globSpecial)

section Patterns

variable {rest : List GlobToken} {text : List Char}

theorem not_mem_globSpecial (hplain : isPlain text = true) : ∀ c ∈ text, c ∉ globSpecial :=
  fun c hc => of_decide_eq_true (List.all_eq_true.mp hplain c hc)

theorem globMatch_star :
    globMatch (.star :: rest) text = true ↔
      ∃ head tail, text = head ++ tail ∧ globMatch rest tail = true := by
  simp only [globMatch, List.any_eq_true, List.mem_tails]
  constructor
  · rintro ⟨tail, ⟨head, htext⟩, hrest⟩
    exact ⟨head, tail, htext.symm, hrest⟩
  · rintro ⟨head, tail, htext, hrest⟩
    exact ⟨tail, ⟨head, htext.symm⟩, hrest⟩

theorem globMatch_star_last : globMatch [.star] text = true :=
  globMatch_star.mpr ⟨text, [], (List.append_nil text).symm, rfl⟩

/-- Characters stand for themselves. -/
theorem globMatch_chars (chars : List Char) :
    globMatch (chars.map GlobToken.char ++ rest) text = true ↔
      ∃ tail, text = chars ++ tail ∧ globMatch rest tail = true := by
  induction chars generalizing text with
  | nil => simp
  | cons c chars ih =>
      cases text with
      | nil => simp [globMatch]
      | cons d text =>
          simp only [List.map_cons, List.cons_append, globMatch, Bool.and_eq_true, ih,
            decide_eq_true_eq, List.cons.injEq]
          constructor
          · rintro ⟨rfl, tail, rfl, hrest⟩
            exact ⟨tail, ⟨rfl, rfl⟩, hrest⟩
          · rintro ⟨tail, ⟨rfl, rfl⟩, hrest⟩
            exact ⟨rfl, tail, rfl, hrest⟩

theorem globTokens_append (first second : List Char) :
    globTokens (first ++ second) = globTokens first ++ globTokens second :=
  List.map_append

/-- A text without special characters stands for itself. -/
theorem globTokens_of_plain {chars : List Char} (hplain : ∀ c ∈ chars, c ∉ globSpecial) :
    globTokens chars = chars.map GlobToken.char := by
  refine List.map_congr_left fun c hc => ?_
  have hspecial := hplain c hc
  rw [if_neg fun hstar => hspecial (by rw [hstar]; decide),
    if_neg fun hone => hspecial (by rw [hone]; decide)]

/-- A pattern of a beginning, a star, a middle and a star. -/
theorem globMatch_middle {first middle : List Char} (hfirst : ∀ c ∈ first, c ∉ globSpecial)
    (hmiddle : ∀ c ∈ middle, c ∉ globSpecial) :
    globMatch (globTokens (first ++ '*' :: (middle ++ ['*']))) text = true ↔
      ∃ before after, text = first ++ (before ++ (middle ++ after)) := by
  have htokens : globTokens (first ++ '*' :: (middle ++ ['*'])) =
      first.map GlobToken.char ++ (.star :: (middle.map GlobToken.char ++ [.star])) := by
    rw [globTokens_append, globTokens_of_plain hfirst, ← List.singleton_append, globTokens_append,
      globTokens_append, globTokens_of_plain hmiddle]
    rfl
  rw [htokens]
  constructor
  · intro hmatch
    obtain ⟨tail, rfl, hstar⟩ := (globMatch_chars first).mp hmatch
    obtain ⟨before, later, rfl, hlater⟩ := globMatch_star.mp hstar
    obtain ⟨after, rfl, -⟩ := (globMatch_chars middle).mp hlater
    exact ⟨before, after, rfl⟩
  · rintro ⟨before, after, rfl⟩
    refine (globMatch_chars first).mpr ⟨_, rfl, globMatch_star.mpr ⟨before, _, rfl, ?_⟩⟩
    exact (globMatch_chars middle).mpr ⟨after, rfl, globMatch_star_last⟩

end Patterns

/-! ## Texts of parts -/

section Parts

variable {separator : Char}

/-- Where a separator of a text can stand whose first part has none. -/
theorem append_separator_eq_iff {part rest before after : List Char} (hpart : separator ∉ part) :
    part ++ separator :: rest = before ++ separator :: after ↔
      (before = part ∧ after = rest) ∨
        ∃ later, before = part ++ separator :: later ∧ rest = later ++ separator :: after := by
  induction part generalizing before with
  | nil =>
      cases before with
      | nil => simp [eq_comm]
      | cons c before =>
          simp only [List.nil_append, List.cons_append, List.cons.injEq, reduceCtorEq, false_and,
            false_or]
          constructor
          · rintro ⟨rfl, hrest⟩
            exact ⟨before, ⟨rfl, rfl⟩, hrest⟩
          · rintro ⟨later, ⟨rfl, rfl⟩, hrest⟩
            exact ⟨rfl, hrest⟩
  | cons c part ih =>
      rw [List.mem_cons, not_or] at hpart
      cases before with
      | nil =>
          simp only [List.cons_append, List.nil_append, List.cons.injEq, List.nil_eq,
            reduceCtorEq, false_and, exists_false, or_self, iff_false, not_and]
          exact fun hsame => absurd hsame.symm hpart.1
      | cons d before =>
          simp only [List.cons_append, List.cons.injEq, ih hpart.2]
          constructor
          · rintro ⟨rfl, ⟨rfl, rfl⟩ | ⟨later, rfl, rfl⟩⟩
            · exact .inl ⟨⟨rfl, rfl⟩, rfl⟩
            · exact .inr ⟨later, ⟨rfl, rfl⟩, rfl⟩
          · rintro (⟨⟨rfl, rfl⟩, rfl⟩ | ⟨later, ⟨rfl, rfl⟩, rfl⟩)
            · exact ⟨rfl, .inl ⟨rfl, rfl⟩⟩
            · exact ⟨rfl, .inr ⟨later, rfl, rfl⟩⟩

/-- A part without separators in front of another one is this one. -/
theorem append_separator_eq_append {part other rest after : List Char} (hpart : separator ∉ part)
    (hother : separator ∉ other) :
    part ++ separator :: rest = other ++ separator :: after ↔ other = part ∧ after = rest := by
  rw [append_separator_eq_iff hpart]
  refine or_iff_left ?_
  rintro ⟨later, rfl, -⟩
  exact hother (List.mem_append_right _ List.mem_cons_self)

/-- Four parts between separators: an inner one that is followed by another is the second or the
third. -/
theorem fourParts_iff {first second third last part : List Char} (hfirst : separator ∉ first)
    (hsecond : separator ∉ second) (hthird : separator ∉ third) (hlast : separator ∉ last)
    (hpart : separator ∉ part) :
    (∃ before after, first ++ separator :: (second ++ separator :: (third ++ separator :: last)) =
        before ++ separator :: (part ++ separator :: after)) ↔ part = second ∨ part = third := by
  constructor
  · rintro ⟨before, after, htext⟩
    rcases (append_separator_eq_iff hfirst).mp htext with ⟨-, hrest⟩ | ⟨later, -, hrest⟩
    · exact .inl ((append_separator_eq_append hsecond hpart).mp hrest.symm).1
    · rcases (append_separator_eq_iff hsecond).mp hrest with ⟨-, hrest⟩ | ⟨later, -, hrest⟩
      · exact .inr ((append_separator_eq_append hthird hpart).mp hrest.symm).1
      · rcases (append_separator_eq_iff hthird).mp hrest with ⟨-, hrest⟩ | ⟨later, -, hrest⟩
        · refine absurd ?_ hlast
          rw [← hrest]
          exact List.mem_append_right _ List.mem_cons_self
        · refine absurd ?_ hlast
          rw [hrest]
          exact List.mem_append_right _ List.mem_cons_self
  · rintro (rfl | rfl)
    · exact ⟨first, third ++ separator :: last, rfl⟩
    · exact ⟨first ++ separator :: second, last, by simp⟩

end Parts

end Goveling.Math
