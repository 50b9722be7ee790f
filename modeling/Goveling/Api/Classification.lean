/-
# Places and transfers of a day

Both itinerary endpoints split the items of a day into places and transfers. The
hybrid endpoint asks for the tag `transfer` or a word in the name and leaves
intercity activities out; the multimodal endpoint asks for the tag
`intercity_transfer`. They agree on a day exactly when every item of it is a
transfer for both of them or for neither.
-/

import Goveling.Api.HybridFormat

namespace Goveling.Api

open Goveling.Python Goveling.Ortools

/-- The items of a day that become places and those that become transfers. -/
structure DaySplit (A : Type) where
  places : List A
  transfers : List A

/-- The items that a test keeps, split by another test. -/
def splitBy {A : Type} (keep transfer : A → Bool) (items : List A) : DaySplit A where
  places := items.filter fun item => keep item && !transfer item
  transfers := items.filter fun item => keep item && transfer item

theorem splitBy_cons {A : Type} (keep transfer : A → Bool) (item : A) (rest : List A) :
    splitBy keep transfer (item :: rest) =
      if keep item then
        if transfer item then
          { splitBy keep transfer rest with
            transfers := item :: (splitBy keep transfer rest).transfers }
        else
          { splitBy keep transfer rest with
            places := item :: (splitBy keep transfer rest).places }
      else splitBy keep transfer rest := by
  unfold splitBy
  cases hkeep : keep item <;> cases htransfer : transfer item <;> simp [hkeep, htransfer]

/-- The items that the hybrid endpoint shows, in their two lists. -/
def hybridSplit (env : FormatEnv) (activities : List PyVal) : DaySplit PyVal :=
  splitBy (fun activity => !isIntercityActivity activity) (isTransfer env) activities

/-- The items that the multimodal endpoint shows, in their two lists. -/
def multimodalSplit (activities : List PyVal) : DaySplit PyVal :=
  splitBy (fun _ => true) isIntercityTransfer activities

/-! ## The splits are those of the loops -/

section HybridLoop

variable {env : FormatEnv} {context : FormatContext} {activities : List PyVal}

/-- Only an intercity activity has no format. -/
theorem formatActivityForFrontend_eq_ok {entry : PyVal × ℕ} {order : ℕ} {formatted : Option PyDict}
    (hformat : formatActivityForFrontend env context activities entry.2 entry.1 order =
      .ok formatted) :
    formatted.isSome = !isIntercityActivity entry.1 := by
  unfold formatActivityForFrontend at hformat
  split at hformat
  · rename_i hintercity
    cases hformat
    rw [hintercity]
    rfl
  · rename_i hintercity
    obtain ⟨duration, -, hformat⟩ := exists_of_bind_eq_ok hformat
    obtain ⟨estimatedTime, -, hformat⟩ := exists_of_bind_eq_ok hformat
    obtain ⟨recommendedDuration, -, hformat⟩ := exists_of_bind_eq_ok hformat
    obtain ⟨bestTime, -, hformat⟩ := exists_of_bind_eq_ok hformat
    cases hformat
    rw [Bool.eq_false_iff.mpr hintercity]
    rfl

/-- A place of the response is the format of an item. -/
def FormatsPlace (env : FormatEnv) (context : FormatContext) (activities : List PyVal)
    (entry : PyVal × ℕ) (place : PyDict) : Prop :=
  ∃ order, formatActivityForFrontend env context activities entry.2 entry.1 order =
    .ok (some place)

/-- A transfer of the response is the format of an item under its own number. -/
def FormatsTransfer (env : FormatEnv) (context : FormatContext) (activities : List PyVal)
    (entry : PyVal × ℕ) (transfer : PyDict) : Prop :=
  ∃ order formatted, formatActivityForFrontend env context activities entry.2 entry.1 order =
    .ok (some formatted) ∧ transfer = asTransfer formatted order

/-- The split of the items with their positions. -/
def entrySplit (env : FormatEnv) (entries : List (PyVal × ℕ)) : DaySplit (PyVal × ℕ) :=
  splitBy (fun entry => !isIntercityActivity entry.1) (fun entry => isTransfer env entry.1) entries

/-- What one turn of the loop can do: leave an activity between cities out, or add a transfer or
a place. -/
theorem formatItem_cases {entry : PyVal × ℕ} {items next : DayItems}
    (hnext : formatItem env context activities items entry = .ok next) :
    (isIntercityActivity entry.1 = true ∧ next = items) ∨
      (isIntercityActivity entry.1 = false ∧ isTransfer env entry.1 = true ∧
        ∃ transfer, FormatsTransfer env context activities entry transfer ∧
          next = { items with transfers := items.transfers ++ [transfer] }) ∨
      (isIntercityActivity entry.1 = false ∧ isTransfer env entry.1 = false ∧
        ∃ place, FormatsPlace env context activities entry place ∧
          next = { items with places := items.places ++ [place] }) := by
  unfold formatItem at hnext
  cases htransfer : isTransfer env entry.1 with
  | true =>
      rw [htransfer, if_pos rfl] at hnext
      obtain ⟨formatted, hformat, hnext⟩ := exists_of_bind_eq_ok hnext
      have hkept := formatActivityForFrontend_eq_ok hformat
      cases formatted with
      | none =>
          cases hnext
          exact .inl ⟨by simpa using hkept, rfl⟩
      | some formatted =>
          cases hnext
          exact .inr (.inl ⟨by simpa using hkept, rfl, _, ⟨_, formatted, hformat, rfl⟩, rfl⟩)
  | false =>
      rw [htransfer, if_neg Bool.false_ne_true] at hnext
      obtain ⟨formatted, hformat, hnext⟩ := exists_of_bind_eq_ok hnext
      have hkept := formatActivityForFrontend_eq_ok hformat
      cases formatted with
      | none =>
          cases hnext
          exact .inl ⟨by simpa using hkept, rfl⟩
      | some formatted =>
          cases hnext
          exact .inr (.inr ⟨by simpa using hkept, rfl, formatted, ⟨_, hformat⟩, rfl⟩)

/-- The loop of the hybrid endpoint adds the formats of the items of the split. -/
theorem foldlM_formatItem_eq_ok {entries : List (PyVal × ℕ)} {items result : DayItems}
    (hloop : entries.foldlM (formatItem env context activities) items = .ok result) :
    ∃ places transfers,
      result = { places := items.places ++ places, transfers := items.transfers ++ transfers } ∧
      List.Forall₂ (FormatsPlace env context activities) (entrySplit env entries).places places ∧
      List.Forall₂ (FormatsTransfer env context activities) (entrySplit env entries).transfers
        transfers := by
  induction entries generalizing items with
  | nil =>
      cases hloop
      exact ⟨[], [], by simp, List.Forall₂.nil, List.Forall₂.nil⟩
  | cons entry rest ih =>
      rw [List.foldlM_cons] at hloop
      obtain ⟨next, hnext, hloop⟩ := exists_of_bind_eq_ok hloop
      obtain ⟨places, transfers, rfl, hplaces, htransfers⟩ := ih hloop
      unfold entrySplit
      rw [splitBy_cons]
      rcases formatItem_cases hnext with ⟨hbetween, rfl⟩ |
        ⟨hkept, htransfer, transfer, hformat, rfl⟩ | ⟨hkept, htransfer, place, hformat, rfl⟩
      · rw [hbetween]
        exact ⟨places, transfers, rfl, hplaces, htransfers⟩
      · rw [hkept, Bool.not_false, if_pos rfl, if_pos htransfer]
        exact ⟨places, transfer :: transfers, by simp, hplaces,
          List.Forall₂.cons hformat htransfers⟩
      · rw [hkept, Bool.not_false, if_pos rfl, if_neg (by simp [htransfer])]
        exact ⟨place :: places, transfers, by simp, List.Forall₂.cons hformat hplaces,
          htransfers⟩

/-- The items of the split are those of the split with positions. -/
theorem map_fst_entrySplit (env : FormatEnv) (entries : List (PyVal × ℕ)) :
    (entrySplit env entries).places.map Prod.fst =
        (hybridSplit env (entries.map Prod.fst)).places ∧
      (entrySplit env entries).transfers.map Prod.fst =
        (hybridSplit env (entries.map Prod.fst)).transfers := by
  constructor
  · show List.map Prod.fst (List.filter _ entries) = List.filter _ (List.map Prod.fst entries)
    rw [List.filter_map]
    rfl
  · show List.map Prod.fst (List.filter _ entries) = List.filter _ (List.map Prod.fst entries)
    rw [List.filter_map]
    rfl

end HybridLoop

/-- The loop of the multimodal endpoint adds the formats of the items of its split. -/
theorem foldlM_readActivity_eq_ok {env : ConverterEnv} {activities : List PyVal}
    {items result : DayItems} (hloop : activities.foldlM (readActivity env) items = .ok result) :
    ∃ places transfers,
      result = { places := items.places ++ places, transfers := items.transfers ++ transfers } ∧
      List.Forall₂ (fun activity place => ∃ order, formatPlace env activity order = .ok place)
        (multimodalSplit activities).places places ∧
      List.Forall₂ (fun activity transfer => ∃ order, formatTransfer activity order = .ok transfer)
        (multimodalSplit activities).transfers transfers := by
  induction activities generalizing items with
  | nil =>
      cases hloop
      exact ⟨[], [], by simp, List.Forall₂.nil, List.Forall₂.nil⟩
  | cons activity rest ih =>
      rw [List.foldlM_cons] at hloop
      obtain ⟨next, hnext, hloop⟩ := exists_of_bind_eq_ok hloop
      obtain ⟨places, transfers, rfl, hplaces, htransfers⟩ := ih hloop
      unfold multimodalSplit
      rw [splitBy_cons, if_pos rfl]
      unfold readActivity at hnext
      split at hnext
      · rename_i htransfer
        obtain ⟨transfer, hformat, hnext⟩ := exists_of_bind_eq_ok hnext
        cases hnext
        rw [if_pos htransfer]
        exact ⟨places, transfer :: transfers, by simp, hplaces,
          List.Forall₂.cons ⟨_, hformat⟩ htransfers⟩
      · rename_i htransfer
        obtain ⟨place, hformat, hnext⟩ := exists_of_bind_eq_ok hnext
        cases hnext
        rw [if_neg htransfer]
        exact ⟨place :: places, transfers, by simp, List.Forall₂.cons ⟨_, hformat⟩ hplaces,
          htransfers⟩

/-! ## When the endpoints agree -/

/-- The type or the category of an item, under any of its keys, says that it is a
transfer. -/
def SaysTransfer (activity : PyVal) : Prop :=
  ∃ key ∈ ["type", "category", "activity_type"],
    getValue activity key .none = .str "transfer" ∨
      getValue activity key .none = .str "intercity_transfer"

/-- Both endpoints split a day in the same way, and what they take for a transfer is
what says so. -/
structure SplitsAlike (env : FormatEnv) (activities : List PyVal) : Prop where
  same : hybridSplit env activities = multimodalSplit activities
  hybrid : ∀ activity ∈ activities, isTransfer env activity = true ↔ SaysTransfer activity
  multimodal : ∀ activity ∈ activities,
    isIntercityTransfer activity = true ↔ SaysTransfer activity

/-- An item that is no transfer for any test: no key and no word says so. -/
def IsPlainPlace (env : FormatEnv) (activity : PyVal) : Prop :=
  ¬ SaysTransfer activity ∧ env.nameHas transferWords activity = false

/-- An item that is a transfer for every test: its type or its activity type is
`intercity_transfer`, and its type or its category is `transfer` or its name says so. -/
def IsFullTransfer (env : FormatEnv) (activity : PyVal) : Prop :=
  (getValue activity "type" .none = .str "intercity_transfer" ∨
      getValue activity "activity_type" .none = .str "intercity_transfer") ∧
    (getValue activity "type" .none = .str "transfer" ∨
      getValue activity "category" .none = .str "transfer" ∨
        env.nameHas transferWords activity = true)

section Agreement

variable {env : FormatEnv} {activities : List PyVal}

/-- A key with a default text that is not looked for. -/
theorem isText_getValue_iff (activity : PyVal) (key : String) {text : String} (hne : text ≠ "") :
    (getValue activity key (.str "")).isText text = true ↔
      getValue activity key .none = .str text := by
  rw [PyVal.isText_iff]
  cases activity with
  | dict entries =>
      show PyDict.get entries key (.str "") = _ ↔ PyDict.get entries key .none = _
      unfold PyDict.get
      cases entries.lookup key with
      | none => simp [hne.symm]
      | some value => simp
  | none | bool _ | int _ | float _ | str _ | list _ => simp [getValue, hne.symm]

theorem isTaggedTransfer_iff (activity : PyVal) :
    isTaggedTransfer activity = true ↔
      getValue activity "category" .none = .str "transfer" ∨
        getValue activity "type" .none = .str "transfer" := by
  unfold isTaggedTransfer
  rw [Bool.or_eq_true, isText_getValue_iff _ _ (by decide), isText_getValue_iff _ _ (by decide)]

theorem isIntercityTransfer_iff (activity : PyVal) :
    isIntercityTransfer activity = true ↔
      getValue activity "type" .none = .str "intercity_transfer" ∨
        getValue activity "activity_type" .none = .str "intercity_transfer" := by
  unfold isIntercityTransfer
  rw [List.any_eq_true]
  constructor
  · rintro ⟨key, hkey, hmatch⟩
    have hvalue : getValue activity key .none = .str "intercity_transfer" := by
      split at hmatch
      · rename_i text htext
        rw [htext, of_decide_eq_true hmatch]
      · cases hmatch
    simp only [List.mem_cons, List.not_mem_nil, or_false] at hkey
    obtain rfl | rfl := hkey
    · exact Or.inl hvalue
    · exact Or.inr hvalue
  · rintro (hvalue | hvalue)
    · exact ⟨"type", by simp, by rw [hvalue]; rfl⟩
    · exact ⟨"activity_type", by simp, by rw [hvalue]; rfl⟩

/-- A tag that one of the endpoints asks for says that the item is a transfer. -/
theorem saysTransfer_of_tag {activity : PyVal}
    (htag : isTaggedTransfer activity = true ∨ isIntercityTransfer activity = true) :
    SaysTransfer activity := by
  rw [isTaggedTransfer_iff, isIntercityTransfer_iff] at htag
  obtain (hcategory | htype) | (htype | hactivityType) := htag
  · exact ⟨"category", by simp, Or.inl hcategory⟩
  · exact ⟨"type", by simp, Or.inl htype⟩
  · exact ⟨"type", by simp, Or.inr htype⟩
  · exact ⟨"activity_type", by simp, Or.inr hactivityType⟩

/-- Equal splits classify every item alike, and leave none out. -/
theorem splitBy_eq_iff {A : Type} (keep first second : A → Bool) (items : List A) :
    splitBy keep first items = splitBy (fun _ => true) second items ↔
      ∀ item ∈ items, keep item = true ∧ first item = second item := by
  constructor
  · intro hsame item hitem
    have hplaces : (items.filter fun item => keep item && !first item) =
        items.filter fun item => true && !second item := congrArg DaySplit.places hsame
    have htransfers : (items.filter fun item => keep item && first item) =
        items.filter fun item => true && second item := congrArg DaySplit.transfers hsame
    cases hsecond : second item with
    | true =>
        have hmem : item ∈ items.filter fun item => true && second item :=
          List.mem_filter.mpr ⟨hitem, by simp [hsecond]⟩
        rw [← htransfers, List.mem_filter, Bool.and_eq_true] at hmem
        exact hmem.2
    | false =>
        have hmem : item ∈ items.filter fun item => true && !second item :=
          List.mem_filter.mpr ⟨hitem, by simp [hsecond]⟩
        rw [← hplaces, List.mem_filter, Bool.and_eq_true, Bool.not_eq_true'] at hmem
        exact hmem.2
  · intro hsame
    unfold splitBy
    rw [DaySplit.mk.injEq]
    constructor
    · apply List.filter_congr
      intro item hitem
      rw [(hsame item hitem).1, (hsame item hitem).2]
    · apply List.filter_congr
      intro item hitem
      rw [(hsame item hitem).1, (hsame item hitem).2]

end Agreement

theorem isTransfer_iff (env : FormatEnv) (activity : PyVal) :
    isTransfer env activity = true ↔
      (getValue activity "category" .none = .str "transfer" ∨
        getValue activity "type" .none = .str "transfer") ∨
        env.nameHas transferWords activity = true := by
  unfold isTransfer
  rw [Bool.or_eq_true, isTaggedTransfer_iff]

/-- Both tests go by what an item says exactly when it is a transfer for every test or
for none. -/
theorem classified_iff (env : FormatEnv) (activity : PyVal) :
    ((isTransfer env activity = true ↔ SaysTransfer activity) ∧
        (isIntercityTransfer activity = true ↔ SaysTransfer activity)) ↔
      IsPlainPlace env activity ∨ IsFullTransfer env activity := by
  constructor
  · rintro ⟨hhybrid, hmultimodal⟩
    by_cases hnamed : SaysTransfer activity
    · right
      refine ⟨(isIntercityTransfer_iff activity).mp (hmultimodal.mpr hnamed), ?_⟩
      obtain (hcategory | htype) | hword := (isTransfer_iff env activity).mp (hhybrid.mpr hnamed)
      · exact Or.inr (Or.inl hcategory)
      · exact Or.inl htype
      · exact Or.inr (Or.inr hword)
    · left
      refine ⟨hnamed, ?_⟩
      by_contra hword
      rw [Bool.not_eq_false] at hword
      apply hnamed
      exact hhybrid.mp ((isTransfer_iff env activity).mpr (Or.inr hword))
  · rintro (⟨hnamed, hword⟩ | ⟨htype, htransfer⟩)
    · refine ⟨⟨fun htransfer => ?_, fun hnamed' => absurd hnamed' hnamed⟩,
        fun htransfer => saysTransfer_of_tag (Or.inr htransfer),
        fun hnamed' => absurd hnamed' hnamed⟩
      unfold isTransfer at htransfer
      rw [hword, Bool.or_false] at htransfer
      exact saysTransfer_of_tag (Or.inl htransfer)
    · have hintercity := (isIntercityTransfer_iff activity).mpr htype
      refine ⟨⟨fun _ => saysTransfer_of_tag (Or.inr hintercity), fun _ => ?_⟩,
        fun htransfer => saysTransfer_of_tag (Or.inr htransfer), fun _ => hintercity⟩
      apply (isTransfer_iff env activity).mpr
      obtain htype | hcategory | hword := htransfer
      · exact Or.inl (Or.inr htype)
      · exact Or.inl (Or.inl hcategory)
      · exact Or.inr hword

/-- The endpoints split a day alike, and by what the items say, exactly when every
item is shown at all and is a transfer for every test or for none. -/
theorem splitsAlike_iff (env : FormatEnv) (activities : List PyVal) :
    SplitsAlike env activities ↔
      ∀ activity ∈ activities, isIntercityActivity activity = false ∧
        (IsPlainPlace env activity ∨ IsFullTransfer env activity) := by
  constructor
  · intro halike activity hactivity
    obtain ⟨hkept, -⟩ := (splitBy_eq_iff _ _ _ activities).mp halike.same activity hactivity
    refine ⟨by simpa using hkept, ?_⟩
    apply (classified_iff env activity).mp
    exact ⟨halike.hybrid activity hactivity, halike.multimodal activity hactivity⟩
  · intro hitems
    have hclassified := fun activity hactivity =>
      (classified_iff env activity).mpr (hitems activity hactivity).2
    refine ⟨?_, fun activity hactivity => (hclassified activity hactivity).1,
      fun activity hactivity => (hclassified activity hactivity).2⟩
    apply (splitBy_eq_iff _ _ _ activities).mpr
    intro activity hactivity
    obtain ⟨hhybrid, hmultimodal⟩ := hclassified activity hactivity
    refine ⟨by simp [(hitems activity hactivity).1], ?_⟩
    rw [Bool.eq_iff_iff, hhybrid, hmultimodal]

/-- A request for the hours from nine to six, on foot. -/
def walkingEnv : FormatEnv where
  textOf := fun _ => ""
  haversineKm := fun _ _ _ _ => 0
  transportMode := "walk"
  dailyStartHour := 9
  dailyEndHour := 18

/-- A museum with an unlucky name. -/
def viajeMuseum : PyVal :=
  .dict [("name", .str "Museo del Viaje"), ("type", .str "museum"), ("category", .str "museum")]

/-- The hybrid endpoint takes the museum for a transfer, although nothing but its name
says so. -/
theorem splitsAlike_not_viajeMuseum : ¬ SplitsAlike walkingEnv [viajeMuseum] := by
  intro halike
  obtain ⟨key, hkey, hvalue⟩ :=
    (halike.hybrid viajeMuseum (List.mem_singleton_self _)).mp (by decide +kernel)
  simp only [List.mem_cons, List.not_mem_nil, or_false] at hkey
  obtain rfl | rfl | rfl := hkey <;>
    simp [viajeMuseum, getValue, PyDict.get, List.lookup_cons] at hvalue

end Goveling.Api
