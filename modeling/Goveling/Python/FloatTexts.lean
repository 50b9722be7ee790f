/-
# Texts around numbers

A number is read from a text whatever blanks stand around it, and no other characters than those
of numbers can be read. Taking a unit out of a text leaves the characters that are not its own.
-/

import Goveling.Python.Numbers
import Mathlib.Data.List.DropRight
import Mathlib.Data.List.TakeWhile

namespace Goveling.Python

open Goveling.Math

/-! ## Blanks -/

/-- A text of blanks alone. -/
def Blank (text : List Char) : Prop := ∀ c ∈ text, c.isWhitespace = true

section Blanks

variable {text after : List Char}

theorem toList_stripText (text : String) :
    (stripText text).toList =
      (text.toList.dropWhile Char.isWhitespace).rdropWhile Char.isWhitespace := by
  rw [stripText, String.toList_ofList]
  rfl

/-- A text is what is left of it with blanks around. -/
theorem exists_blanks_around (text : String) :
    ∃ before after, Blank before ∧ Blank after ∧
      text.toList = before ++ (stripText text).toList ++ after := by
  refine ⟨text.toList.takeWhile Char.isWhitespace,
    (text.toList.dropWhile Char.isWhitespace).rtakeWhile Char.isWhitespace,
    fun c hc => List.mem_takeWhile_imp hc, fun c hc => List.mem_rtakeWhile_imp hc, ?_⟩
  rw [toList_stripText, List.append_assoc, List.rdropWhile_append_rtakeWhile,
    List.takeWhile_append_dropWhile]

theorem rdropWhile_append_blank (hafter : Blank after) (text : List Char) :
    (text ++ after).rdropWhile Char.isWhitespace = text.rdropWhile Char.isWhitespace := by
  unfold List.rdropWhile
  rw [List.reverse_append, List.dropWhile_append_of_pos]
  intro c hc
  exact hafter c (List.mem_reverse.mp hc)

/-- Blanks behind a text do not matter. -/
theorem stripText_append_blank (text : String) (hafter : Blank after) :
    stripText (String.ofList (text.toList ++ after)) = stripText text := by
  rw [← String.toList_inj, toList_stripText, toList_stripText, String.toList_ofList,
    List.dropWhile_append]
  split_ifs with hblank
  · rw [List.isEmpty_iff.mp hblank]
    have hnone : after.dropWhile Char.isWhitespace = [] := List.dropWhile_eq_nil_iff.mpr hafter
    rw [hnone]
  · exact rdropWhile_append_blank hafter _

/-- Stripping once is enough. -/
theorem stripText_stripText (text : String) : stripText (stripText text) = stripText text := by
  rw [← String.toList_inj, toList_stripText, toList_stripText]
  generalize hd : text.toList.dropWhile Char.isWhitespace = rest
  have hrest : rest.dropWhile Char.isWhitespace = rest := by
    rw [← hd]
    exact List.dropWhile_idempotent _ _
  have hkept : (rest.rdropWhile Char.isWhitespace).dropWhile Char.isWhitespace =
      rest.rdropWhile Char.isWhitespace := by
    rw [List.dropWhile_eq_self_iff]
    intro hlength
    -- the first character is the one of the longer text
    have hinitial := List.rdropWhile_prefix Char.isWhitespace (l := rest)
    rw [hinitial.getElem hlength]
    exact List.dropWhile_eq_self_iff.mp hrest _
  rw [hkept, List.rdropWhile_idempotent]

/-- A number is read with blanks around. -/
theorem finiteFloat?_stripText (text : String) :
    finiteFloat? (stripText text) = finiteFloat? text := by
  unfold finiteFloat?
  rw [stripText_stripText]

end Blanks

/-! ## The characters of a number -/

/-- The small letters, digits and signs that numbers are written with. -/
def isFloatChar (c : Char) : Bool :=
  c.isWhitespace || c.isDigit || ['e', '.', '_', '+', '-'].contains c

section FloatChars

theorem exists_mem_splitOn {α : Type*} [DecidableEq α] {sep item : α} {items : List α}
    (hitem : item ∈ items) (hne : item ≠ sep) : ∃ part ∈ items.splitOn sep, item ∈ part := by
  induction items with
  | nil => cases hitem
  | cons first rest ih =>
      rw [List.splitOn_cons_eq_if_modifyHead]
      split_ifs with hsep
      · have hrest : item ∈ rest := by
          rcases List.mem_cons.mp hitem with rfl | hrest
          · exact absurd (beq_iff_eq.mp hsep) hne
          · exact hrest
        obtain ⟨part, hpart, hmem⟩ := ih hrest
        exact ⟨part, List.mem_cons_of_mem _ hpart, hmem⟩
      · cases hparts : rest.splitOn sep with
        | nil => exact absurd hparts (List.splitOn_ne_nil sep rest)
        | cons head tail =>
            rw [List.modifyHead_cons]
            rcases List.mem_cons.mp hitem with rfl | hrest
            · exact ⟨item :: head, List.mem_cons_self, List.mem_cons_self⟩
            · obtain ⟨part, hpart, hmem⟩ := ih hrest
              rw [hparts] at hpart
              rcases List.mem_cons.mp hpart with rfl | htail
              · exact ⟨first :: part, List.mem_cons_self, List.mem_cons_of_mem _ hmem⟩
              · exact ⟨part, List.mem_cons_of_mem _ htail, hmem⟩

theorem isFloatChar_of_digitPart? {text digits : List Char}
    (hread : digitPart? text = some digits) : ∀ c ∈ text, isFloatChar c = true := by
  intro c hc
  by_cases hsep : c = '_'
  · rw [hsep]
    rfl
  · obtain ⟨part, hpart, hmem⟩ := exists_mem_splitOn hc hsep
    unfold digitPart? at hread
    dsimp only at hread
    split_ifs at hread with hall
    have hdigits := List.all_eq_true.mp hall part hpart
    rw [Bool.and_eq_true] at hdigits
    simp [isFloatChar, List.all_eq_true.mp hdigits.2 c hmem]

theorem isFloatChar_of_optionalDigits? {text digits : List Char}
    (hread : optionalDigits? text = some digits) : ∀ c ∈ text, isFloatChar c = true := by
  cases text with
  | nil => exact fun c hc => absurd hc List.not_mem_nil
  | cons first rest => exact isFloatChar_of_digitPart? hread

theorem isFloatChar_of_mantissa? {text : List Char} {value : ℚ}
    (hread : mantissa? text = some value) : ∀ c ∈ text, isFloatChar c = true := by
  intro c hc
  by_cases hsep : c = '.'
  · rw [hsep]
    rfl
  · obtain ⟨part, hpart, hmem⟩ := exists_mem_splitOn hc hsep
    unfold mantissa? at hread
    dsimp only at hread
    split at hread
    · rename_i whole hparts
      obtain ⟨read, hboth, hread⟩ := Option.bind_eq_some_iff.mp hread
      cases hboth
      obtain ⟨wholeDigits, hwhole, -⟩ := Option.bind_eq_some_iff.mp hread
      rw [hparts, List.mem_singleton] at hpart
      exact isFloatChar_of_optionalDigits? hwhole c (hpart ▸ hmem)
    · rename_i whole decimals hparts
      obtain ⟨read, hboth, hread⟩ := Option.bind_eq_some_iff.mp hread
      cases hboth
      obtain ⟨wholeDigits, hwhole, hread⟩ := Option.bind_eq_some_iff.mp hread
      obtain ⟨decimalDigits, hdecimals, -⟩ := Option.bind_eq_some_iff.mp hread
      rw [hparts, List.mem_cons, List.mem_singleton] at hpart
      rcases hpart with rfl | rfl
      · exact isFloatChar_of_optionalDigits? hwhole c hmem
      · exact isFloatChar_of_optionalDigits? hdecimals c hmem
    · cases hread

/-- What holds of the signs and of what follows them holds of all characters. -/
theorem forall_mem_of_signOf {P : Char → Prop} {text : List Char} (hminus : P '-') (hplus : P '+')
    (hrest : ∀ c ∈ (signOf text).2, P c) : ∀ c ∈ text, P c := by
  unfold signOf at hrest
  split at hrest
  · exact List.forall_mem_cons.mpr ⟨hminus, hrest⟩
  · exact List.forall_mem_cons.mpr ⟨hplus, hrest⟩
  · exact hrest

/-- A blank is no capital. -/
theorem toLower_of_isWhitespace {c : Char} (hc : c.isWhitespace = true) : c.toLower = c := by
  have hcases : c = ' ' ∨ c = '\t' ∨ c = '\r' ∨ c = '\n' := by
    simpa [Char.isWhitespace, or_assoc] using hc
  rcases hcases with rfl | rfl | rfl | rfl <;> decide

/-- A text has the characters of numbers if it has them between the blanks around it. -/
theorem isFloatChar_of_stripText {text : String}
    (hstripped : ∀ c ∈ (stripText text).toList, isFloatChar c.toLower = true) :
    ∀ c ∈ text.toList, isFloatChar c.toLower = true := by
  have hblank : ∀ c : Char, c.isWhitespace = true → isFloatChar c.toLower = true := by
    intro c hc
    rw [toLower_of_isWhitespace hc, isFloatChar, hc]
    rfl
  obtain ⟨before, after, hbefore, hafter, htext⟩ := exists_blanks_around text
  intro c hc
  rw [htext, List.mem_append, List.mem_append] at hc
  rcases hc with (hc | hc) | hc
  · exact hblank c (hbefore c hc)
  · exact hstripped c hc
  · exact hblank c (hafter c hc)

/-- A text that is read as a number has only characters of numbers. -/
theorem isFloatChar_of_finiteFloat? {text : String} {value : ℚ}
    (hread : finiteFloat? text = some value) :
    ∀ c ∈ text.toList, isFloatChar c.toLower = true := by
  apply isFloatChar_of_stripText
  apply forall_mem_of_signOf (P := fun c => isFloatChar c.toLower = true) rfl rfl
  unfold finiteFloat? at hread
  dsimp only at hread
  intro c hc
  have hlower : c.toLower ∈ (signOf (stripText text).toList).2.map Char.toLower :=
    List.mem_map_of_mem hc
  by_cases hsep : c.toLower = 'e'
  · rw [hsep]
    rfl
  · obtain ⟨part, hpart, hmem⟩ := exists_mem_splitOn hlower hsep
    split at hread
    · rename_i number hparts
      obtain ⟨mantissa, hmantissa, -⟩ := Option.map_eq_some_iff.mp hread
      rw [hparts, List.mem_singleton] at hpart
      exact isFloatChar_of_mantissa? hmantissa _ (hpart ▸ hmem)
    · rename_i number exponent hparts
      obtain ⟨mantissa, hmantissa, hread⟩ := Option.bind_eq_some_iff.mp hread
      obtain ⟨steps, hsteps, -⟩ := Option.bind_eq_some_iff.mp hread
      obtain ⟨digits, hdigits, -⟩ := Option.bind_eq_some_iff.mp hsteps
      rw [hparts, List.mem_cons, List.mem_singleton] at hpart
      rcases hpart with rfl | rfl
      · exact isFloatChar_of_mantissa? hmantissa _ hmem
      · have hall := isFloatChar_of_digitPart? hdigits
        exact forall_mem_of_signOf (P := fun c => isFloatChar c = true) rfl rfl hall _ hmem
    · cases hread

end FloatChars

/-! ## Taking a part out -/

section Replacing

variable {first c : Char} {part new before after text : List Char}

theorem replaceChars_skip (part new : List Char) (skip : ℕ) (text : List Char) :
    replaceChars part new skip text = replaceChars part new 0 (text.drop skip) := by
  induction text generalizing skip with
  | nil => cases skip <;> rfl
  | cons c rest ih =>
      cases skip with
      | zero => rfl
      | succ skip => exact ih skip

/-- A text without the first character of the part stays as it is. -/
theorem replaceChars_of_not_mem (hfirst : first ∉ text) :
    replaceChars (first :: part) new 0 text = text := by
  have happend := @replaceChars_append first part new text hfirst []
  rwa [List.append_nil, replaceChars, List.append_nil] at happend

/-- A part that stands in a text is replaced there. -/
theorem replaceChars_part (hbefore : first ∉ before) (hafter : first ∉ after) :
    replaceChars (first :: part) new 0 (before ++ (first :: part) ++ after) =
      before ++ new ++ after := by
  have hinitial : (first :: part).isPrefixOf (first :: (part ++ after)) = true :=
    List.isPrefixOf_iff_prefix.mpr ⟨after, rfl⟩
  rw [List.append_assoc, replaceChars_append hbefore, List.cons_append, replaceChars,
    if_pos hinitial, List.length_cons, Nat.add_sub_cancel, replaceChars_skip, List.drop_left,
    replaceChars_of_not_mem hafter, List.append_assoc]

/-- A character that the part does not have is not taken out. -/
theorem mem_replaceChars (hpart : c ∉ first :: part) {skip : ℕ} (hmem : c ∈ text.drop skip) :
    c ∈ replaceChars (first :: part) new skip text := by
  induction text generalizing skip with
  | nil =>
      rw [List.drop_nil] at hmem
      cases hmem
  | cons head rest ih =>
      cases skip with
      | succ skip => exact ih hmem
      | zero =>
          rw [replaceChars]
          split_ifs with hinitial
          · apply List.mem_append_right
            apply ih
            obtain ⟨after, hafter⟩ := List.isPrefixOf_iff_prefix.mp hinitial
            rw [List.drop_zero, ← hafter] at hmem
            have hrest : rest = part ++ after := (List.cons.inj hafter).2.symm
            rw [hrest, List.length_cons, Nat.add_sub_cancel, List.drop_left]
            exact (List.mem_append.mp hmem).resolve_left hpart
          · rcases List.mem_cons.mp hmem with rfl | hrest
            · exact List.mem_cons_self
            · exact List.mem_cons_of_mem _ (ih hrest)

/-- What is no blank is still there after stripping. -/
theorem mem_stripText {text : String} (hblank : c.isWhitespace = false) (hmem : c ∈ text.toList) :
    c ∈ (stripText text).toList := by
  obtain ⟨before, after, hbefore, hafter, htext⟩ := exists_blanks_around text
  rw [htext, List.mem_append, List.mem_append] at hmem
  rcases hmem with (hmem | hmem) | hmem
  · exact absurd (hbefore c hmem) (by rw [hblank]; exact Bool.false_ne_true)
  · exact hmem
  · exact absurd (hafter c hmem) (by rw [hblank]; exact Bool.false_ne_true)

end Replacing

end Goveling.Python
