/-
# The keys of the distance cache

A route is cached under the text of its rounded endpoints and its mode, with the
smaller endpoint first. Nothing is lost in that text besides the rounding and the
direction: two routes with the same key have the same rounded endpoints, in one
order or the other, and the same mode.
-/

import Goveling.Python.Text
import Mathlib.Data.Prod.Lex
import Mathlib.Data.Sym.Sym2

namespace Goveling.Optimizer

open Goveling.Math Goveling.Python

/-- A pair of latitude and longitude that nobody has checked. -/
abbrev Coordinates := ℚ × ℚ

/-- `round(x, 3)`: the sign and the thousandths. A zero keeps the sign of what was rounded. -/
structure Rounded where
  negative : Bool
  thousandths : ℕ
  deriving DecidableEq

/-- `round(x, 3)`. -/
def roundThree (x : ℚ) : Rounded where
  negative := x < 0
  thousandths := (roundHalfEven (|x| * 10 ^ 3)).toNat

namespace Rounded

/-- The value that comparisons see. -/
def value (rounded : Rounded) : ℤ :=
  if rounded.negative then -rounded.thousandths else rounded.thousandths

/-- The decimals of a number of thousandths, without zeros at their end but for the first. -/
def decimals (n : ℕ) : String :=
  if n % 100 = 0 then zeroPadded 1 (n / 100)
  else if n % 10 = 0 then zeroPadded 2 (n / 10)
  else zeroPadded 3 n

/-- The text of the number. -/
def text (rounded : Rounded) : String :=
  (if rounded.negative then "-" else "") ++ toString (rounded.thousandths / 1000) ++ "." ++
    decimals (rounded.thousandths % 1000)

end Rounded

/-- An endpoint as the cache sees it. -/
abbrev Endpoint := Rounded × Rounded

/-- The endpoint of some coordinates. -/
def endpointOf (coordinates : Coordinates) : Endpoint :=
  (roundThree coordinates.1, roundThree coordinates.2)

/-- `(lat1_r, lon1_r) <= (lat2_r, lon2_r)`. -/
def comesFirst (first second : Endpoint) : Bool :=
  toLex (first.1.value, first.2.value) ≤ toLex (second.1.value, second.2.value)

/-- The text of a key for endpoints in their order. -/
def keyText (first second : Endpoint) (mode : String) : String :=
  first.1.text ++ "," ++ first.2.text ++ "-" ++ second.1.text ++ "," ++ second.2.text ++ "-" ++ mode

/-- `_get_cache_key`. -/
def getCacheKey (origin destination : Coordinates) (mode : String) : String :=
  if comesFirst (endpointOf origin) (endpointOf destination) then
    keyText (endpointOf origin) (endpointOf destination) mode
  else keyText (endpointOf destination) (endpointOf origin) mode

example : getCacheKey (-33.4489, -70.6693) (-33.45, -70.7) "walk" =
    "-33.45,-70.7--33.449,-70.669-walk" := by
  decide +kernel

/-! ## A key says everything -/

namespace Rounded

/-- The characters of a number without its sign. -/
def IsNumeral (c : Char) : Prop := c.isDigit = true ∨ c = '.'

/-- The number without its sign. -/
def magnitude (thousandths : ℕ) : List Char :=
  Nat.toDigits 10 (thousandths / 1000) ++ '.' :: (decimals (thousandths % 1000)).toList

theorem toList_decimals {n : ℕ} (hn : n < 1000) :
    (decimals n).toList =
      if n % 100 = 0 then paddedDigits 1 (n / 100)
      else if n % 10 = 0 then paddedDigits 2 (n / 10)
      else paddedDigits 3 n := by
  unfold decimals
  split
  · exact toList_zeroPadded (by decide) (by omega)
  · split
    · exact toList_zeroPadded (by decide) (by omega)
    · exact toList_zeroPadded (by decide) (by omega)

theorem decimals_injOn {m n : ℕ} (hm : m < 1000) (hn : n < 1000)
    (hsame : (decimals m).toList = (decimals n).toList) : m = n := by
  rw [toList_decimals hm, toList_decimals hn] at hsame
  have hlength := congrArg List.length hsame
  -- the number of decimals says which of the three cases it is
  split_ifs at hsame hlength <;> simp only [length_paddedDigits] at hlength <;> try omega
  · have := paddedDigits_injOn (by omega) (by omega) hsame
    omega
  · have := paddedDigits_injOn (by omega) (by omega) hsame
    omega
  · exact paddedDigits_injOn hm hn hsame

theorem magnitude_injective : Function.Injective magnitude := by
  intro m n hsame
  have hdigits : ∀ k : ℕ, ∀ c ∈ Nat.toDigits 10 k, c.isDigit = true := fun k c hc =>
    Nat.isDigit_of_mem_toDigits (by decide) (by decide) hc
  obtain ⟨hwhole, hdecimals⟩ := append_separator_inj (P := fun c => c.isDigit = true)
    (by decide) (hdigits _) (hdigits _) hsame
  have hquotient := toDigits_injective hwhole
  have hremainder := decimals_injOn (Nat.mod_lt m (by decide)) (Nat.mod_lt n (by decide)) hdecimals
  omega

theorem isNumeral_of_mem_magnitude {n : ℕ} {c : Char} (hc : c ∈ magnitude n) : IsNumeral c := by
  have hpadded : ∀ width k : ℕ, c ∈ paddedDigits width k → IsNumeral c := by
    intro width k hmem
    induction width generalizing k with
    | zero => cases hmem
    | succ width ih =>
        rcases List.mem_append.mp hmem with hbefore | hlast
        · exact ih _ hbefore
        · rw [List.mem_singleton.mp hlast]
          exact .inl (isDigit_digitChar (Nat.mod_lt k (by decide)))
  rcases List.mem_append.mp hc with hwhole | hrest
  · exact .inl (Nat.isDigit_of_mem_toDigits (by decide) (by decide) hwhole)
  · rcases List.mem_cons.mp hrest with hpoint | hdecimals
    · exact .inr hpoint
    · rw [toList_decimals (Nat.mod_lt n (by decide))] at hdecimals
      split_ifs at hdecimals <;> exact hpadded _ _ hdecimals

/-- The sign, as characters. -/
def sign (negative : Bool) : List Char := if negative then ['-'] else []

theorem toList_text (rounded : Rounded) :
    rounded.text.toList = sign rounded.negative ++ magnitude rounded.thousandths := by
  have hsign : (if rounded.negative then "-" else "").toList = sign rounded.negative := by
    cases rounded.negative <;> rfl
  unfold text magnitude
  simp only [String.toList_append, hsign, toList_toString, List.append_assoc]
  rfl

theorem magnitude_ne_minus (n : ℕ) (rest : List Char) :
    ∀ others, magnitude n ++ rest ≠ '-' :: others := by
  intro others hsame
  have hne : magnitude n ≠ [] := by simp [magnitude]
  obtain ⟨c, digits, hdigits⟩ := List.exists_cons_of_ne_nil hne
  rw [hdigits, List.cons_append] at hsame
  have hminus : IsNumeral '-' := by
    rw [← (List.cons.inj hsame).1]
    exact isNumeral_of_mem_magnitude (hdigits ▸ List.mem_cons_self)
  rcases hminus with hdigit | hpoint
  · cases hdigit
  · cases hpoint

/-- A number can be read off in front of a separator. -/
theorem text_append_inj {separator : Char} (hseparator : ¬ IsNumeral separator)
    {first second : Rounded} {firstRest secondRest : List Char}
    (hsame : first.text.toList ++ separator :: firstRest =
      second.text.toList ++ separator :: secondRest) :
    first = second ∧ firstRest = secondRest := by
  obtain ⟨negative, m⟩ := first
  obtain ⟨negative', n⟩ := second
  rw [toList_text, toList_text, List.append_assoc, List.append_assoc] at hsame
  dsimp only at hsame
  have hmagnitudes : ∀ {m n : ℕ},
      magnitude m ++ separator :: firstRest = magnitude n ++ separator :: secondRest →
        m = n ∧ firstRest = secondRest := by
    intro m n hrest
    obtain ⟨hnumber, hafter⟩ := append_separator_inj hseparator
      (fun _ => isNumeral_of_mem_magnitude) (fun _ => isNumeral_of_mem_magnitude) hrest
    exact ⟨magnitude_injective hnumber, hafter⟩
  -- the first character tells the signs apart
  cases negative <;> cases negative'
  · obtain ⟨rfl, hafter⟩ := hmagnitudes hsame
    exact ⟨rfl, hafter⟩
  · exact absurd hsame (magnitude_ne_minus m _ _)
  · exact absurd hsame.symm (magnitude_ne_minus n _ _)
  · obtain ⟨rfl, hafter⟩ := hmagnitudes (List.cons.inj hsame).2
    exact ⟨rfl, hafter⟩

end Rounded

theorem keyText_inj {first second first' second' : Endpoint} {mode mode' : String}
    (hsame : keyText first second mode = keyText first' second' mode') :
    first = first' ∧ second = second' ∧ mode = mode' := by
  have hchars := congrArg String.toList hsame
  unfold keyText at hchars
  simp only [String.toList_append, List.append_assoc] at hchars
  have hcomma : ¬ Rounded.IsNumeral ',' := by
    rintro (hdigit | hpoint)
    · cases hdigit
    · cases hpoint
  have hdash : ¬ Rounded.IsNumeral '-' := by
    rintro (hdigit | hpoint)
    · cases hdigit
    · cases hpoint
  obtain ⟨hlat, hchars⟩ := Rounded.text_append_inj hcomma hchars
  obtain ⟨hlon, hchars⟩ := Rounded.text_append_inj hdash hchars
  obtain ⟨hlat', hchars⟩ := Rounded.text_append_inj hcomma hchars
  obtain ⟨hlon', hchars⟩ := Rounded.text_append_inj hdash hchars
  exact ⟨Prod.ext hlat hlon, Prod.ext hlat' hlon', String.toList_injective hchars⟩

/-- Routes with the same key have the same mode and the same endpoints after rounding, one
way or the other. -/
theorem getCacheKey_inj {origin destination origin' destination' : Coordinates}
    {mode mode' : String}
    (hsame : getCacheKey origin destination mode = getCacheKey origin' destination' mode') :
    mode = mode' ∧
      (endpointOf origin = endpointOf origin' ∧ endpointOf destination = endpointOf destination' ∨
        endpointOf origin = endpointOf destination' ∧
          endpointOf destination = endpointOf origin') := by
  unfold getCacheKey at hsame
  split_ifs at hsame
  all_goals
    obtain ⟨hfirst, hsecond, hmode⟩ := keyText_inj hsame
    refine ⟨hmode, ?_⟩
  · exact .inl ⟨hfirst, hsecond⟩
  · exact .inr ⟨hfirst, hsecond⟩
  · exact .inr ⟨hsecond, hfirst⟩
  · exact .inl ⟨hsecond, hfirst⟩

/-! ## Both ways -/

/-- A call of `_get_cache_key`. -/
structure KeyCall where
  origin : Coordinates
  destination : Coordinates
  mode : String

namespace KeyCall

/-- The key of a call. -/
def key (call : KeyCall) : String := getCacheKey call.origin call.destination call.mode

/-- The two rounded endpoints, in no order. Zero is zero, with or without a sign. -/
def ends (call : KeyCall) : Sym2 (ℤ × ℤ) :=
  let valuesOf (endpoint : Endpoint) : ℤ × ℤ := (endpoint.1.value, endpoint.2.value)
  s(valuesOf (endpointOf call.origin), valuesOf (endpointOf call.destination))

/-- The endpoints in the order of the key. -/
def ordered (call : KeyCall) : Endpoint × Endpoint :=
  if comesFirst (endpointOf call.origin) (endpointOf call.destination) then
    (endpointOf call.origin, endpointOf call.destination)
  else (endpointOf call.destination, endpointOf call.origin)

/-- The four coordinates in the order of the key. -/
def coordinates (call : KeyCall) : List Rounded :=
  [call.ordered.1.1, call.ordered.1.2, call.ordered.2.1, call.ordered.2.2]

end KeyCall

/-- Two calls have one key exactly when they have the same two endpoints, one way or the other,
and the same mode. -/
def TellsApart (first second : KeyCall) : Prop :=
  first.key = second.key ↔ first.ends = second.ends ∧ first.mode = second.mode

instance (first second : KeyCall) : Decidable (TellsApart first second) :=
  inferInstanceAs (Decidable (_ ↔ _ ∧ _))

/-- At some place of the keys one call has `0.0` and the other one `-0.0`. -/
def ZeroSignsDiffer (first second : KeyCall) : Prop :=
  ∃ pair ∈ first.coordinates.zip second.coordinates,
    pair.1.thousandths = 0 ∧ pair.2.thousandths = 0 ∧ pair.1.negative ≠ pair.2.negative

theorem Rounded.eq_or_zeros_of_value_eq {first second : Rounded}
    (hvalue : first.value = second.value) :
    first = second ∨
      first.thousandths = 0 ∧ second.thousandths = 0 ∧ first.negative ≠ second.negative := by
  obtain ⟨negative, m⟩ := first
  obtain ⟨negative', n⟩ := second
  unfold Rounded.value at hvalue
  cases negative <;> cases negative' <;> simp at hvalue ⊢ <;> omega

/-- Numbers with the same values are the same, zeros with different signs apart. -/
theorem Rounded.eq_of_map_value_eq {firsts seconds : List Rounded}
    (hvalues : firsts.map Rounded.value = seconds.map Rounded.value)
    (hsigns : ∀ pair ∈ firsts.zip seconds, pair.1.thousandths = 0 → pair.2.thousandths = 0 →
      pair.1.negative = pair.2.negative) : firsts = seconds := by
  induction firsts generalizing seconds with
  | nil => exact (List.map_eq_nil_iff.mp hvalues.symm).symm
  | cons first rest ih =>
      cases seconds with
      | nil => cases hvalues
      | cons second others =>
          obtain ⟨hvalue, hothers⟩ := List.cons.inj hvalues
          rw [List.zip_cons_cons, List.forall_mem_cons] at hsigns
          have hsame : first = second := by
            rcases Rounded.eq_or_zeros_of_value_eq hvalue with hsame | ⟨hzero, hzero', hdiffer⟩
            · exact hsame
            · exact absurd (hsigns.1 hzero hzero') hdiffer
          rw [hsame, ih hothers hsigns.2]

namespace KeyCall

theorem key_eq (call : KeyCall) :
    call.key = keyText call.ordered.1 call.ordered.2 call.mode := by
  unfold key ordered getCacheKey
  split <;> rfl

/-- Keys are the same exactly when the ordered endpoints and the modes are. -/
theorem key_eq_iff {first second : KeyCall} :
    first.key = second.key ↔ first.ordered = second.ordered ∧ first.mode = second.mode := by
  rw [key_eq, key_eq]
  constructor
  · intro hsame
    obtain ⟨hfirst, hsecond, hmode⟩ := keyText_inj hsame
    exact ⟨Prod.ext hfirst hsecond, hmode⟩
  · rintro ⟨hordered, hmode⟩
    rw [hordered, hmode]

/-- The endpoints of a key, the smaller one first. -/
theorem ends_eq (call : KeyCall) :
    call.ends = s((call.ordered.1.1.value, call.ordered.1.2.value),
        (call.ordered.2.1.value, call.ordered.2.2.value)) ∧
      toLex (call.ordered.1.1.value, call.ordered.1.2.value) ≤
        toLex (call.ordered.2.1.value, call.ordered.2.2.value) := by
  unfold ends ordered
  by_cases hfirst : comesFirst (endpointOf call.origin) (endpointOf call.destination) = true
  · rw [if_pos hfirst]
    exact ⟨rfl, of_decide_eq_true hfirst⟩
  · rw [if_neg hfirst]
    refine ⟨Sym2.eq_swap, (le_total _ _).resolve_right fun hle => hfirst ?_⟩
    exact decide_eq_true hle

/-- Two pairs that are in order are the same pair only if they agree side by side. -/
theorem values_eq_of_ends_eq {first second : KeyCall} (hends : first.ends = second.ends) :
    first.coordinates.map Rounded.value = second.coordinates.map Rounded.value := by
  obtain ⟨hfirst, hle⟩ := first.ends_eq
  obtain ⟨hsecond, hle'⟩ := second.ends_eq
  rw [hfirst, hsecond, Sym2.eq_iff] at hends
  rcases hends with ⟨hone, hother⟩ | ⟨hone, hother⟩
  · obtain ⟨hlat, hlon⟩ := Prod.mk.inj hone
    obtain ⟨hlat', hlon'⟩ := Prod.mk.inj hother
    simp [coordinates, hlat, hlon, hlat', hlon']
  · -- swapped pairs are both in order only if all four endpoints agree
    rw [hone, hother] at hle
    have hsame := toLex.injective (le_antisymm hle' hle)
    obtain ⟨hlat, hlon⟩ := Prod.mk.inj (hone.trans hsame.symm)
    obtain ⟨hlat', hlon'⟩ := Prod.mk.inj (hother.trans hsame)
    simp [coordinates, hlat, hlon, hlat', hlon']

theorem ordered_eq_of_coordinates_eq {first second : KeyCall}
    (hcoordinates : first.coordinates = second.coordinates) : first.ordered = second.ordered := by
  simp only [coordinates, List.cons.injEq, and_true] at hcoordinates
  obtain ⟨hlat, hlon, hlat', hlon'⟩ := hcoordinates
  exact Prod.ext (Prod.ext hlat hlon) (Prod.ext hlat' hlon')

theorem ends_eq_of_ordered_eq {first second : KeyCall} (hordered : first.ordered = second.ordered) :
    first.ends = second.ends := by
  rw [first.ends_eq.1, second.ends_eq.1, hordered]

end KeyCall

/-- The keys of two calls tell them apart up to the direction, except for calls with one mode and
the same endpoints that write a zero with different signs. -/
theorem getCacheKey_tellsApart_iff (first second : KeyCall) :
    TellsApart first second ↔
      ¬ (first.mode = second.mode ∧ first.ends = second.ends ∧ ZeroSignsDiffer first second) := by
  unfold TellsApart
  rw [KeyCall.key_eq_iff]
  constructor
  · rintro htells ⟨hmode, hends, pair, hpair, -, -, hsigns⟩
    have hordered := (htells.mpr ⟨hends, hmode⟩).1
    have hsame : first.coordinates = second.coordinates := by
      unfold KeyCall.coordinates
      rw [hordered]
    rw [hsame, List.zip_eq_zipWith, List.zipWith_self] at hpair
    obtain ⟨rounded, -, rfl⟩ := List.mem_map.mp hpair
    exact hsigns rfl
  · intro hno
    constructor
    · rintro ⟨hordered, hmode⟩
      exact ⟨KeyCall.ends_eq_of_ordered_eq hordered, hmode⟩
    · rintro ⟨hends, hmode⟩
      refine ⟨KeyCall.ordered_eq_of_coordinates_eq ?_, hmode⟩
      apply Rounded.eq_of_map_value_eq (KeyCall.values_eq_of_ends_eq hends)
      intro pair hpair hzero hzero'
      by_contra hdiffer
      exact hno ⟨hmode, hends, pair, hpair, hzero, hzero', hdiffer⟩

/-- Calls without a number that rounds to `-0.0` are told apart by their keys. -/
theorem tellsApart_of_unsigned {first second : KeyCall}
    (hfirst : ∀ rounded ∈ first.coordinates, rounded.thousandths = 0 → rounded.negative = false)
    (hsecond : ∀ rounded ∈ second.coordinates,
      rounded.thousandths = 0 → rounded.negative = false) : TellsApart first second := by
  rw [getCacheKey_tellsApart_iff]
  rintro ⟨-, -, pair, hpair, hzero, hzero', hsigns⟩
  apply hsigns
  rw [hfirst _ (List.of_mem_zip hpair).1 hzero, hsecond _ (List.of_mem_zip hpair).2 hzero']

/-- Two points on both sides of the equator that round to it: the way back has another key. -/
theorem not_tellsApart_acrossEquator :
    ¬ TellsApart ⟨(1 / 5000, 1), (-1 / 5000, 1), "walk"⟩
      ⟨(-1 / 5000, 1), (1 / 5000, 1), "walk"⟩ := by
  decide +kernel

end Goveling.Optimizer
