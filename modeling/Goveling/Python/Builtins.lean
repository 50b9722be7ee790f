/-
# The Python built-ins the optimizer leans on

Exceptions, number formatting, `min` and `sorted` with a key. Floats are exact
rationals here, so a formatted number is the rounding of its exact value.
-/

import Mathlib.Algebra.Order.Round
import Mathlib.Data.List.Infix
import Mathlib.Data.List.MinMax
import Mathlib.Data.List.Sort
import Mathlib.Data.Rat.Floor

namespace Goveling.Python

universe u v w

/-- The exceptions that modelled code can raise, with what their message names. -/
inductive PyError
  | valueError (message : String)
  | zeroDivisionError (message : String)
  | keyError (key : String)
  | indexError (message : String)
  | typeError (message : String)
  | attributeError (message : String)
  | nameError (name : String)
  | unboundLocalError (name : String)
  | exception (message : String)
  deriving DecidableEq, Repr

/-- The error an endpoint answers with. -/
structure HTTPException where
  statusCode : ℕ
  detail : String
  deriving DecidableEq, Repr

/-- A sequence of two steps returns when both do. -/
theorem exists_of_bind_eq_ok {ε : Type v} {α : Type u} {β : Type u} {step : Except ε α}
    {next : α → Except ε β} {b : β} (hbind : step >>= next = .ok b) :
    ∃ a, step = .ok a ∧ next a = .ok b := by
  cases step with
  | error e => cases hbind
  | ok a => exact ⟨a, rfl, hbind⟩

theorem exists_of_map_eq_ok {ε : Type w} {α : Type u} {β : Type v} {step : Except ε α}
    {f : α → β} {b : β} (hmap : step.map f = .ok b) : ∃ a, step = .ok a ∧ f a = b := by
  cases step with
  | error e => cases hmap
  | ok a => exact ⟨a, rfl, Except.ok.inj hmap⟩

theorem exists_eq_ok_of_isOk {ε : Type v} {α : Type u} {step : Except ε α}
    (hok : step.isOk = true) : ∃ a, step = .ok a := by
  cases step with
  | error e => cases hok
  | ok a => exact ⟨a, rfl⟩

theorem eq_ok_of_toOption {α : Type u} {step : Except PyError α} {value : α}
    (hvalue : step.toOption = some value) : step = .ok value := by
  cases step with
  | error e => cases hvalue
  | ok found =>
      cases hvalue
      rfl

/-- What holds of every turn of a loop that collects results holds of all results. -/
theorem map_eq_of_mapM_eq_ok {ε : Type w} {α : Type u} {β : Type u} {γ : Type v}
    {f : α → Except ε β} {g : β → γ} {h : α → γ}
    (hturn : ∀ item result, f item = .ok result → g result = h item) {items : List α}
    {results : List β} (hloop : items.mapM f = .ok results) :
    results.map g = items.map h := by
  induction items generalizing results with
  | nil =>
      cases hloop
      rfl
  | cons item rest ih =>
      rw [List.mapM_cons] at hloop
      obtain ⟨result, hresult, hloop⟩ := exists_of_bind_eq_ok hloop
      obtain ⟨others, hothers, hloop⟩ := exists_of_bind_eq_ok hloop
      cases hloop
      rw [List.map_cons, List.map_cons, hturn item result hresult, ih hothers]

/-- The results of a loop belong to its items in their order. -/
theorem forall₂_of_mapM_eq_ok {ε : Type w} {α : Type u} {β : Type u} {f : α → Except ε β}
    {items : List α} {results : List β} (hloop : items.mapM f = .ok results) :
    List.Forall₂ (fun item result => f item = .ok result) items results := by
  have hsame : results.map Except.ok = items.map f :=
    map_eq_of_mapM_eq_ok (fun _ _ hturn => hturn.symm) hloop
  rw [← List.forall₂_eq_eq_eq, List.forall₂_map_left_iff, List.forall₂_map_right_iff] at hsame
  exact hsame.flip.imp fun _ _ hturn => hturn.symm

/-- The results of a loop are what its turns return. -/
theorem mem_of_mapM_eq_ok {ε : Type w} {α : Type u} {β : Type u} {f : α → Except ε β}
    {items : List α} {results : List β} (hloop : items.mapM f = .ok results) {result : β} :
    result ∈ results ↔ ∃ item ∈ items, f item = .ok result := by
  have hsame : results.map Except.ok = items.map f :=
    map_eq_of_mapM_eq_ok (fun _ _ hturn => hturn.symm) hloop
  have hinjective : Function.Injective (Except.ok : β → Except ε β) :=
    fun _ _ hok => Except.ok.inj hok
  rw [← List.mem_map_of_injective hinjective, hsame, List.mem_map]

/-- A loop that raises has a turn that does. -/
theorem exists_of_mapM_eq_error {ε : Type w} {α : Type v} {β : Type u} {f : α → Except ε β}
    {items : List α} {e : ε} (hloop : items.mapM f = .error e) :
    ∃ item ∈ items, f item = .error e := by
  induction items with
  | nil => cases hloop
  | cons item rest ih =>
      rw [List.mapM_cons] at hloop
      cases hturn : f item with
      | error first =>
          rw [hturn] at hloop
          cases hloop
          exact ⟨item, List.mem_cons_self, hturn⟩
      | ok result =>
          cases hrest : rest.mapM f with
          | ok others =>
              rw [hturn, hrest] at hloop
              cases hloop
          | error later =>
              rw [hturn, hrest] at hloop
              cases hloop
              obtain ⟨other, hother, herror⟩ := ih hrest
              exact ⟨other, List.mem_cons_of_mem _ hother, herror⟩

/-- A loop that collects results returns the images of its items when every turn does. -/
theorem mapM_eq_ok_map_iff {ε : Type w} {α : Type v} {β : Type u} {f : α → Except ε β}
    {g : α → β} (items : List α) :
    items.mapM f = .ok (items.map g) ↔ ∀ item ∈ items, f item = .ok (g item) := by
  induction items with
  | nil => simp [pure, Except.pure]
  | cons item rest ih =>
      rw [List.mapM_cons, List.map_cons, List.forall_mem_cons, ← ih]
      constructor
      · intro hloop
        obtain ⟨result, hresult, hloop⟩ := exists_of_bind_eq_ok hloop
        obtain ⟨others, hothers, hloop⟩ := exists_of_bind_eq_ok hloop
        cases hloop
        exact ⟨hresult, hothers⟩
      · rintro ⟨hfirst, hrest⟩
        rw [hfirst, hrest]
        rfl

/-- A loop that collects results returns exactly when every turn does. -/
theorem exists_mapM_eq_ok_iff {ε : Type w} {α : Type v} {β : Type u} {f : α → Except ε β}
    (items : List α) :
    (∃ results, items.mapM f = .ok results) ↔ ∀ item ∈ items, ∃ result, f item = .ok result := by
  induction items with
  | nil => exact iff_of_true ⟨[], rfl⟩ nofun
  | cons item rest ih =>
      rw [List.mapM_cons, List.forall_mem_cons, ← ih]
      constructor
      · rintro ⟨results, hloop⟩
        obtain ⟨result, hresult, hloop⟩ := exists_of_bind_eq_ok hloop
        obtain ⟨others, hothers, -⟩ := exists_of_bind_eq_ok hloop
        exact ⟨⟨result, hresult⟩, others, hothers⟩
      · rintro ⟨⟨result, hresult⟩, others, hothers⟩
        rw [hresult, hothers]
        exact ⟨result :: others, rfl⟩

/-- A loop over items with their indices, against values that go by the index. -/
theorem mapM_zipIdx_eq_ok_iff {α : Type v} {β : Type u} {f : α × ℕ → Except PyError β}
    {g : ℕ → β} (items : List α) :
    items.zipIdx.mapM f = .ok ((List.range items.length).map g) ↔
      ∀ i item, items[i]? = some item → f (item, i) = .ok (g i) := by
  have hrange : (List.range items.length).map g = items.zipIdx.map fun x => g x.2 := by
    rw [List.range_eq_range', ← List.zipIdx_map_snd, List.map_map]
    rfl
  rw [hrange, mapM_eq_ok_map_iff]
  constructor
  · intro hturns i item hitem
    exact hturns (item, i) (List.mem_zipIdx_iff_getElem?.mpr hitem)
  · intro hturns indexed hmem
    exact hturns indexed.2 indexed.1 (List.mem_zipIdx_iff_getElem?.mp hmem)

/-! ## Numbers as text -/

/-- Rounding to the nearest integer, ties to the even one. -/
def roundHalfEven (q : ℚ) : ℤ :=
  if Int.fract q = 1 / 2 then
    if ⌊q⌋ % 2 = 0 then ⌊q⌋ else ⌊q⌋ + 1
  else round q

/-- Decimal digits, filled up with zeros on the left. -/
def zeroPadded (width n : ℕ) : String :=
  String.ofList ((toString n).toList.leftpad width '0')

/-- The format `:.{digits}f`. -/
def fixedText (digits : ℕ) (q : ℚ) : String :=
  let scaled := (roundHalfEven (|q| * 10 ^ digits)).toNat
  let sign := if q < 0 then "-" else ""
  let whole := toString (scaled / 10 ^ digits)
  if digits = 0 then sign ++ whole
  else sign ++ whole ++ "." ++ zeroPadded digits (scaled % 10 ^ digits)

/-- The format `:02d`. -/
def twoDigits (n : ℤ) : String :=
  if 0 ≤ n then zeroPadded 2 n.toNat else toString n

/-- The format `{t//60:02d}:{t%60:02d}` of a number of minutes. -/
def clockText (minutes : ℤ) : String :=
  twoDigits (minutes / 60) ++ ":" ++ twoDigits (minutes % 60)

example : clockText 545 = "09:05" := by decide +kernel

/-- `part in text`. -/
def textIn (part text : String) : Bool :=
  text.toList.tails.any fun rest => part.toList.isPrefixOf rest

theorem textIn_iff {part text : String} :
    textIn part text = true ↔ part.toList <:+: text.toList := by
  simp only [textIn, List.any_eq_true, List.mem_tails, List.isPrefixOf_iff_prefix,
    List.infix_iff_prefix_suffix, and_comm]

/-! ## Collections -/

variable {α : Type u} {κ : Type v}

/-- `min(items, key=key)`: the first of the smallest. -/
def minBy [LinearOrder κ] (key : α → κ) (items : List α) : Except PyError α :=
  match items.argmin key with
  | some a => .ok a
  | none => .error (.valueError "min() iterable argument is empty")

theorem exists_minBy_eq_ok [LinearOrder κ] (key : α → κ) {items : List α} (hne : items ≠ []) :
    ∃ a ∈ items, minBy key items = .ok a := by
  cases harg : items.argmin key with
  | none => exact absurd (List.argmin_eq_none.mp harg) hne
  | some a => exact ⟨a, List.argmin_mem harg, by simp only [minBy, harg]⟩

/-- `sorted(items, key=key)`, which is stable. -/
def sortedBy [LinearOrder κ] (key : α → κ) (items : List α) : List α :=
  items.insertionSort fun a b => key a ≤ key b

/-- `sorted(items, key=key, reverse=True)`, which keeps equal items in order. -/
def sortedByDescending [LinearOrder κ] (key : α → κ) (items : List α) : List α :=
  items.insertionSort fun a b => key b ≤ key a

theorem sortedBy_perm [LinearOrder κ] (key : α → κ) (items : List α) :
    (sortedBy key items).Perm items :=
  List.perm_insertionSort _ items

theorem pairwise_sortedByDescending [LinearOrder κ] (key : α → κ) (items : List α) :
    (sortedByDescending key items).Pairwise fun a b => key b ≤ key a := by
  have : IsTrans α fun a b => key b ≤ key a := ⟨fun _ _ _ hab hbc => hbc.trans hab⟩
  have : Std.Total fun a b : α => key b ≤ key a := ⟨fun a b => le_total (key b) (key a)⟩
  exact List.pairwise_insertionSort _ items

theorem sortedByDescending_perm [LinearOrder κ] (key : α → κ) (items : List α) :
    (sortedByDescending key items).Perm items :=
  List.perm_insertionSort _ items

end Goveling.Python
