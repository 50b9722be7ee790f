/-
# What is promised of a decision

Every gate has to let a request pass, and then the number of its places decides: the
other factors change how confident the engine is and never the choice. The score of an
itinerary is a sum of weights that grow with what they weigh, so places and days that
are added never lower it.
-/

import Goveling.Ortools.DecisionEngine
import Mathlib.Data.List.Dedup
import Mathlib.Data.List.ReduceOption

namespace Goveling.Ortools

open Goveling.Math Goveling.Python

/-! ## The choice -/

/-- Every gate lets the request pass. -/
structure PassesGates (analysis : RequestAnalysis) (ortoolsHealthy : Bool) : Prop where
  enabled : analysis.featureFlags.enabled = true
  userEligible : analysis.featureFlags.userEligible = true
  geoEligible : analysis.featureFlags.geoEligible = true
  healthy : ortoolsHealthy = true
  appropriate : analysis.geoAnalysis.appropriate = true

/-- Three places are always enough, and fewer are if the setting says so. -/
def effectiveMinimum (settings : DecisionSettings) : ℤ := min settings.minPlaces 3

/-- What is promised of a verdict on a number of places. -/
structure Verdict.Fits (verdict : Verdict) (selects : Prop) : Prop where
  selects_iff : verdict.useOrtools = true ↔ selects
  nonneg : 0 ≤ verdict.confidenceScore
  le_one : verdict.confidenceScore ≤ 1

theorem Verdict.fits_of_refused {selects : Prop} (hrefused : ¬ selects) (reasons : List String) :
    Verdict.Fits ⟨false, 0, reasons⟩ selects :=
  ⟨iff_of_false Bool.false_ne_true hrefused, le_refl 0, zero_le_one⟩

/-- The verdict on a score selects OR-Tools from one half on. -/
theorem Verdict.fits_of_score {score : ℚ} {selects : Prop} (hnonneg : 0 ≤ score) (hle : score ≤ 1)
    (hselects : 1 / 2 ≤ score ↔ selects) (high medium low : List String) :
    Verdict.Fits (if 7 / 10 ≤ score then ⟨true, score, high⟩
      else if 5 / 10 ≤ score then ⟨true, score, medium⟩
      else ⟨false, max (1 / 10) score, low⟩) selects := by
  by_cases hhigh : 7 / 10 ≤ score
  · rw [if_pos hhigh]
    exact ⟨iff_of_true rfl (hselects.mp (by linarith)), hnonneg, hle⟩
  · rw [if_neg hhigh]
    by_cases hmedium : 5 / 10 ≤ score
    · rw [if_pos hmedium]
      exact ⟨iff_of_true rfl (hselects.mp (by linarith)), hnonneg, hle⟩
    · rw [if_neg hmedium]
      have hrefused : ¬ selects := fun h => hmedium (by linarith [hselects.mpr h])
      refine ⟨iff_of_false Bool.false_ne_true hrefused, le_max_of_le_right hnonneg, ?_⟩
      exact max_le (by norm_num) hle

/-- The places weigh more than the days and the complexity together. -/
theorem weighComplexity_fits (settings : DecisionSettings) (complexity : ItineraryComplexity) :
    (weighComplexity settings complexity).Fits
      (effectiveMinimum settings ≤ complexity.placesCount) := by
  unfold weighComplexity effectiveMinimum
  split
  rename_i placesReason placesScore hplaces
  split
  rename_i daysReason daysScore hdays
  split
  rename_i overallReasons overallScore hoverall
  have hdaysScore : 0 ≤ daysScore ∧ daysScore ≤ 1 / 10 := by
    split_ifs at hdays <;> cases hdays <;> norm_num
  have hoverallScore : 0 ≤ overallScore ∧ overallScore ≤ 1 / 10 := by
    split_ifs at hoverall <;> cases hoverall <;> norm_num
  have hplacesScore : (min settings.minPlaces 3 ≤ (complexity.placesCount : ℤ) ∧
        6 / 10 ≤ placesScore ∧ placesScore ≤ 8 / 10) ∨
      (¬ min settings.minPlaces 3 ≤ (complexity.placesCount : ℤ) ∧ placesScore = 0) := by
    split_ifs at hplaces with hmany hthree <;> cases hplaces
    · exact .inl ⟨(min_le_left _ _).trans hmany, by norm_num, by norm_num⟩
    · exact .inl ⟨by omega, by norm_num, by norm_num⟩
    · exact .inr ⟨by omega, rfl⟩
  obtain ⟨hselects, hlow, hhigh⟩ | ⟨hrefused, rfl⟩ := hplacesScore
  · exact Verdict.fits_of_score (by linarith) (by linarith)
      (iff_of_true (by linarith) hselects) _ _ _
  · exact Verdict.fits_of_score (by linarith) (by linarith)
      (iff_of_false (by linarith) hrefused) _ _ _

/-- A verdict selects OR-Tools when all gates are passed and the places are enough. -/
theorem verdictOn_fits (settings : DecisionSettings) (analysis : RequestAnalysis)
    (ortoolsHealthy : Bool) :
    (verdictOn settings analysis ortoolsHealthy).Fits
      (PassesGates analysis ortoolsHealthy ∧
        effectiveMinimum settings ≤ analysis.complexity.placesCount) := by
  unfold verdictOn
  split
  · rename_i henabled
    exact Verdict.fits_of_refused (fun hall => by simp [hall.1.enabled] at henabled) _
  · rename_i henabled
    split
    · rename_i huser
      exact Verdict.fits_of_refused (fun hall => by simp [hall.1.userEligible] at huser) _
    · rename_i huser
      split
      · rename_i hgeo
        exact Verdict.fits_of_refused (fun hall => by simp [hall.1.geoEligible] at hgeo) _
      · rename_i hgeo
        split
        · rename_i hhealthy
          exact Verdict.fits_of_refused (fun hall => by simp [hall.1.healthy] at hhealthy) _
        · rename_i hhealthy
          split
          · rename_i happropriate
            exact Verdict.fits_of_refused
              (fun hall => by simp [hall.1.appropriate] at happropriate) _
          · rename_i happropriate
            have hpasses : PassesGates analysis ortoolsHealthy :=
              ⟨by simpa using henabled, by simpa using huser, by simpa using hgeo,
                by simpa using hhealthy, by simpa using happropriate⟩
            have hfits := weighComplexity_fits settings analysis.complexity
            exact ⟨hfits.selects_iff.trans (and_iff_right hpasses).symm, hfits.nonneg,
              hfits.le_one⟩

/-! ## The score -/

/-- What holds of all weights and of zero holds of the weight of a value. -/
theorem weightOf_of_forall {steps : List (ℚ × ℚ)} (p : ℚ → Prop) (hzero : p 0)
    (hweights : ∀ step ∈ steps, p step.2) (value : ℚ) : p (weightOf value steps) := by
  induction steps with
  | nil => exact hzero
  | cons step rest ih =>
      rw [List.forall_mem_cons] at hweights
      unfold weightOf
      split
      · exact hweights.1
      · exact ih hweights.2

theorem weightOf_nonneg {steps : List (ℚ × ℚ)} (hweights : ∀ step ∈ steps, 0 ≤ step.2) (value : ℚ) :
    0 ≤ weightOf value steps :=
  weightOf_of_forall (fun weight => 0 ≤ weight) le_rfl hweights value

theorem weightOf_le {steps : List (ℚ × ℚ)} {bound : ℚ} (hbound : 0 ≤ bound)
    (hweights : ∀ step ∈ steps, step.2 ≤ bound) (value : ℚ) : weightOf value steps ≤ bound :=
  weightOf_of_forall (fun weight => weight ≤ bound) hbound hweights value

/-- Weights that fall with their bounds grow with the value. -/
theorem weightOf_mono {steps : List (ℚ × ℚ)} (hweights : ∀ step ∈ steps, 0 ≤ step.2)
    (hfalling : steps.Pairwise fun first second => second.2 ≤ first.2) {value larger : ℚ}
    (hle : value ≤ larger) : weightOf value steps ≤ weightOf larger steps := by
  induction steps with
  | nil => exact le_refl 0
  | cons step rest ih =>
      rw [List.forall_mem_cons] at hweights
      rw [List.pairwise_cons] at hfalling
      unfold weightOf
      by_cases hreached : step.1 ≤ value
      · rw [if_pos hreached, if_pos (hreached.trans hle)]
      · rw [if_neg hreached]
        split
        · exact weightOf_le hweights.1 hfalling.1 value
        · exact ih hweights.2 hfalling.2

/-- More places and days, farther apart and of more types, do not lower the score. -/
theorem calculateOverallComplexity_mono {places morePlaces : ℕ} {days moreDays : ℤ}
    {spread largerSpread : ℚ} {diversity moreDiversity : ℕ} (hplaces : places ≤ morePlaces)
    (hdays : days ≤ moreDays) (hspread : spread ≤ largerSpread)
    (hdiversity : diversity ≤ moreDiversity) (timeConstraints : ℕ) (transport : String) :
    calculateOverallComplexity places days spread diversity timeConstraints transport ≤
      calculateOverallComplexity morePlaces moreDays largerSpread moreDiversity timeConstraints
        transport := by
  have hplaces' : (places : ℚ) ≤ morePlaces := by exact_mod_cast hplaces
  have hdays' : (days : ℚ) ≤ moreDays := by exact_mod_cast hdays
  have hdiversity' : (diversity : ℚ) ≤ moreDiversity := by exact_mod_cast hdiversity
  unfold calculateOverallComplexity
  apply min_le_min_right
  gcongr ?_ + ?_ + ?_ + min (?_ * _) _ + _ + _
  · exact weightOf_mono (by simp) (by norm_num) hplaces'
  · exact weightOf_mono (by simp) (by norm_num) hdays'
  · exact weightOf_mono (by simp; norm_num) (by norm_num) hspread

theorem calculateOverallComplexity_mem (places : ℕ) (days : ℤ) (spread : ℚ)
    (diversity timeConstraints : ℕ) (transport : String) :
    0 ≤ calculateOverallComplexity places days spread diversity timeConstraints transport ∧
      calculateOverallComplexity places days spread diversity timeConstraints transport ≤ 10 := by
  unfold calculateOverallComplexity
  refine ⟨le_min ?_ (by norm_num), min_le_right _ _⟩
  have hplaces : 0 ≤ weightOf places [(10, 3), (6, 2), (3, 1)] := weightOf_nonneg (by simp) _
  have hdays : 0 ≤ weightOf days [(5, 2), (3, 1), (2, 1 / 2)] := weightOf_nonneg (by simp) _
  have hspread : 0 ≤ weightOf spread [(100, 2), (50, 3 / 2), (20, 1), (5, 1 / 2)] :=
    weightOf_nonneg (by simp; norm_num) _
  have hdiversity : 0 ≤ min ((diversity : ℚ) * (3 / 10)) (3 / 2) := by positivity
  have htime : 0 ≤ min ((timeConstraints : ℚ) * (2 / 10)) 1 := by positivity
  have htransport : (0 : ℚ) ≤
      if transport = "simple" then 0 else if transport = "complex" then 1 else 1 / 2 := by
    split_ifs <;> norm_num
  linarith

/-! ## Requests that grow -/

/-- The root of a larger number is larger, and none is negative. -/
structure RootLaws (sqrt : ℚ → ℚ) : Prop where
  nonneg : ∀ x, 0 ≤ x → 0 ≤ sqrt x
  mono : ∀ x y, 0 ≤ x → x ≤ y → sqrt x ≤ sqrt y

/-- A request that has the places of another one and perhaps more, and its days and perhaps
more. -/
structure Extends (library : AnalysisLibrary) (request larger : RequestData) : Prop where
  places : ∃ items more, placesOf request = .list items ∧ placesOf larger = .list more ∧
    items.Subperm more
  days : daysCountOf library request ≤ daysCountOf library larger
  others : ∀ key, key ≠ "places" → ∀ default, larger.get key default = request.get key default

variable {library : AnalysisLibrary}

/-- More places have all the coordinates of fewer. -/
theorem coordinateValues_subset {first second : String} {places more values found : List PyVal}
    (hsubset : places ⊆ more) (hvalues : coordinateValues first second places = .ok values)
    (hfound : coordinateValues first second more = .ok found) : values ⊆ found := by
  unfold coordinateValues at hvalues hfound
  obtain ⟨results, hloop, hreduce⟩ := exists_of_bind_eq_ok hvalues
  obtain ⟨others, hloop', hreduce'⟩ := exists_of_bind_eq_ok hfound
  cases hreduce
  cases hreduce'
  intro value hmem
  rw [List.reduceOption_mem_iff] at hmem ⊢
  rw [mem_of_mapM_eq_ok hloop] at hmem
  rw [mem_of_mapM_eq_ok hloop']
  obtain ⟨place, hplace, hturn⟩ := hmem
  exact ⟨place, hsubset hplace, hturn⟩

/-- The ends of the values of a list, and what lies between them. -/
theorem extent_eq_ok {values : List PyVal} {range : ℚ} (hrange : extent values = .ok range) :
    ∃ largest ∈ values, ∃ smallest ∈ values, ∃ high low,
      largest.number? = some high ∧ smallest.number? = some low ∧ range = high - low ∧
      ∀ value ∈ values, ∃ number, value.number? = some number ∧ low ≤ number ∧ number ≤ high := by
  unfold extent at hrange
  obtain ⟨largest, hlargest, hrest⟩ := exists_of_bind_eq_ok hrange
  obtain ⟨smallest, hsmallest, hminus⟩ := exists_of_bind_eq_ok hrest
  cases hhigh : largest.number? with
  | none => simp [PyVal.minus, hhigh] at hminus
  | some high =>
      cases hlow : smallest.number? with
      | none => simp [PyVal.minus, hhigh, hlow] at hminus
      | some low =>
          simp only [PyVal.minus, hhigh, hlow, Except.ok.injEq] at hminus
          refine ⟨largest, PyVal.mem_of_extreme hlargest, smallest,
            PyVal.mem_of_extreme hsmallest, high, low, hhigh, hlow, hminus.symm, ?_⟩
          intro value hmem
          obtain ⟨number, hnumber, hle⟩ := PyVal.bounds_of_extreme hlargest hhigh value hmem
          obtain ⟨again, hagain, hge⟩ := PyVal.bounds_of_extreme hsmallest hlow value hmem
          rw [hnumber] at hagain
          cases hagain
          exact ⟨number, hnumber, hge, hle⟩

/-- Larger lists of numbers lie no closer together. -/
theorem extent_mono {values more : List PyVal} (hsubset : values ⊆ more) {range larger : ℚ}
    (hrange : extent values = .ok range) (hlarger : extent more = .ok larger) :
    0 ≤ range ∧ range ≤ larger := by
  obtain ⟨largest, hlargest, smallest, hsmallest, high, low, hhigh, hlow, rfl, hwithin⟩ :=
    extent_eq_ok hrange
  obtain ⟨-, -, -, -, highest, lowest, -, -, rfl, hbounds⟩ := extent_eq_ok hlarger
  obtain ⟨number, hnumber, -, hle⟩ := hwithin smallest hsmallest
  obtain ⟨top, htop, -, htop_le⟩ := hbounds largest (hsubset hlargest)
  obtain ⟨bottom, hbottom, hle_bottom, -⟩ := hbounds smallest (hsubset hsmallest)
  rw [hlow] at hnumber hbottom
  rw [hhigh] at htop
  cases hnumber
  cases hbottom
  cases htop
  exact ⟨sub_nonneg.mpr hle, sub_le_sub htop_le hle_bottom⟩

/-- The spread comes from the extents of both coordinates, if two places or more have them. -/
theorem calculateGeographicSpread_eq_ok {items : List PyVal} {spread : ℚ}
    (hspread : calculateGeographicSpread library (.list items) = .ok spread) :
    (spread = 0 ∧ (items.length < 2 ∨ coordinateValues "lat" "latitude" items = .ok [] ∨
      coordinateValues "lon" "longitude" items = .ok [])) ∨
    ∃ lats lons lat lon, 2 ≤ items.length ∧
      coordinateValues "lat" "latitude" items = .ok lats ∧
      coordinateValues "lon" "longitude" items = .ok lons ∧ extent lats = .ok lat ∧
      extent lons = .ok lon ∧
      spread = library.sqrt ((lat * 111) ^ 2 + (lon * 111 * (8 / 10)) ^ 2) := by
  unfold calculateGeographicSpread at hspread
  rw [PyVal.len_list, PyVal.iterate_list] at hspread
  obtain ⟨count, hcount, hspread⟩ := exists_of_bind_eq_ok hspread
  cases hcount
  split at hspread
  · rename_i hfew
    cases hspread
    exact .inl ⟨rfl, .inl hfew⟩
  · rename_i hmany
    obtain ⟨places, hplaces, hspread⟩ := exists_of_bind_eq_ok hspread
    cases hplaces
    obtain ⟨lats, hlats, hspread⟩ := exists_of_bind_eq_ok hspread
    obtain ⟨lons, hlons, hspread⟩ := exists_of_bind_eq_ok hspread
    split at hspread
    · rename_i hempty
      cases hspread
      rw [Bool.or_eq_true, List.isEmpty_iff, List.isEmpty_iff] at hempty
      refine .inl ⟨rfl, .inr (hempty.imp ?_ ?_)⟩
      · rintro rfl
        exact hlats
      · rintro rfl
        exact hlons
    · obtain ⟨lat, hlat, hspread⟩ := exists_of_bind_eq_ok hspread
      obtain ⟨lon, hlon, hspread⟩ := exists_of_bind_eq_ok hspread
      cases hspread
      exact .inr ⟨lats, lons, lat, lon, not_lt.mp hmany, hlats, hlons, hlat, hlon, rfl⟩

theorem calculateGeographicSpread_nonneg (hsqrt : RootLaws library.sqrt) {items : List PyVal}
    {spread : ℚ} (hspread : calculateGeographicSpread library (.list items) = .ok spread) :
    0 ≤ spread := by
  obtain ⟨rfl, -⟩ | ⟨lats, lons, lat, lon, -, -, -, -, -, rfl⟩ :=
    calculateGeographicSpread_eq_ok hspread
  · exact le_refl 0
  · exact hsqrt.nonneg _ (by positivity)

theorem extent_nil {range : ℚ} : extent [] ≠ .ok range := by
  intro hrange
  cases hrange

/-- Places that are added leave the others as far apart as they are. -/
theorem calculateGeographicSpread_mono (hsqrt : RootLaws library.sqrt) {items more : List PyVal}
    (hsubperm : items.Subperm more) {spread larger : ℚ}
    (hspread : calculateGeographicSpread library (.list items) = .ok spread)
    (hlarger : calculateGeographicSpread library (.list more) = .ok larger) :
    spread ≤ larger := by
  obtain ⟨rfl, -⟩ | ⟨lats, lons, lat, lon, hmany, hlats, hlons, hlat, hlon, rfl⟩ :=
    calculateGeographicSpread_eq_ok hspread
  · exact calculateGeographicSpread_nonneg hsqrt hlarger
  obtain ⟨rfl, hfew | hnone | hnone⟩ | ⟨lats', lons', lat', lon', -, hlats', hlons', hlat',
    hlon', rfl⟩ := calculateGeographicSpread_eq_ok hlarger
  · exact absurd (hmany.trans hsubperm.length_le) (not_le.mpr hfew)
  · rw [List.subset_nil.mp (coordinateValues_subset hsubperm.subset hlats hnone)] at hlat
    exact absurd hlat extent_nil
  · rw [List.subset_nil.mp (coordinateValues_subset hsubperm.subset hlons hnone)] at hlon
    exact absurd hlon extent_nil
  · obtain ⟨hlat_nonneg, hlat_le⟩ :=
      extent_mono (coordinateValues_subset hsubperm.subset hlats hlats') hlat hlat'
    obtain ⟨hlon_nonneg, hlon_le⟩ :=
      extent_mono (coordinateValues_subset hsubperm.subset hlons hlons') hlon hlon'
    apply hsqrt.mono
    · positivity
    · gcongr

/-- More places have the types of fewer. -/
theorem calculateSemanticDiversity_mono {items more : List PyVal} (hsubset : items ⊆ more)
    {diversity larger : ℕ}
    (hdiversity : calculateSemanticDiversity (.list items) = .ok diversity)
    (hlarger : calculateSemanticDiversity (.list more) = .ok larger) : diversity ≤ larger := by
  unfold calculateSemanticDiversity at hdiversity hlarger
  rw [PyVal.iterate_list] at hdiversity hlarger
  obtain ⟨places, hplaces, hdiversity⟩ := exists_of_bind_eq_ok hdiversity
  obtain ⟨others, hothers, hlarger⟩ := exists_of_bind_eq_ok hlarger
  cases hplaces
  cases hothers
  obtain ⟨types, htypes, hcount⟩ := exists_of_bind_eq_ok hdiversity
  obtain ⟨moreTypes, hmoreTypes, hcount'⟩ := exists_of_bind_eq_ok hlarger
  cases hcount
  cases hcount'
  have hsub : types.dedup ⊆ moreTypes.dedup := by
    intro type hmem
    rw [List.mem_dedup] at hmem ⊢
    obtain ⟨place, hplace, hkey⟩ := (mem_of_mapM_eq_ok htypes).mp hmem
    exact (mem_of_mapM_eq_ok hmoreTypes).mpr ⟨place, hsubset hplace, hkey⟩
  exact (List.subperm_of_subset types.nodup_dedup hsub).length_le

/-- The constraints of a larger request are those of the request. -/
theorem Extends.countTimeConstraints_eq {request larger : RequestData}
    (hextends : Extends library request larger) :
    countTimeConstraints larger = countTimeConstraints request := by
  have hsame (key : String) (hkey : key ≠ "places") :
      larger.get key .none = request.get key .none := hextends.others key hkey .none
  unfold countTimeConstraints constraintsUnder
  simp only [hsame "daily_start_hour" (by decide), hsame "daily_end_hour" (by decide),
    hsame "time_windows" (by decide), hsame "fixed_activities" (by decide)]

theorem Extends.analyzeTransportComplexity_eq {request larger : RequestData}
    (hextends : Extends library request larger) :
    analyzeTransportComplexity larger = analyzeTransportComplexity request := by
  unfold analyzeTransportComplexity
  rw [hextends.others "transport_mode" (by decide)]

/-- What the score of an analysis is computed from. -/
theorem analyzeComplexity_eq_ok {request : RequestData} {complexity : ItineraryComplexity}
    (hcomplexity : analyzeComplexity library request = .ok complexity) :
    (placesOf request).len = .ok complexity.placesCount ∧
    calculateGeographicSpread library (placesOf request) = .ok complexity.geographicSpreadKm ∧
    calculateSemanticDiversity (placesOf request) = .ok complexity.semanticDiversity ∧
    countTimeConstraints request = .ok complexity.timeConstraints ∧
    complexity.overallScore =
      calculateOverallComplexity complexity.placesCount (daysCountOf library request)
        complexity.geographicSpreadKm complexity.semanticDiversity complexity.timeConstraints
        (analyzeTransportComplexity request) := by
  unfold analyzeComplexity at hcomplexity
  obtain ⟨count, hcount, hcomplexity⟩ := exists_of_bind_eq_ok hcomplexity
  obtain ⟨spread, hspread, hcomplexity⟩ := exists_of_bind_eq_ok hcomplexity
  obtain ⟨diversity, hdiversity, hcomplexity⟩ := exists_of_bind_eq_ok hcomplexity
  obtain ⟨constraints, hconstraints, hcomplexity⟩ := exists_of_bind_eq_ok hcomplexity
  cases hcomplexity
  exact ⟨hcount, hspread, hdiversity, hconstraints, rfl⟩

/-- Places and days that are added do not lower the score of an itinerary. -/
theorem overallScore_mono (hsqrt : RootLaws library.sqrt) {request larger : RequestData}
    (hextends : Extends library request larger) {complexity more : ItineraryComplexity}
    (hcomplexity : analyzeComplexity library request = .ok complexity)
    (hmore : analyzeComplexity library larger = .ok more) :
    complexity.overallScore ≤ more.overallScore := by
  obtain ⟨items, others, hitems, hothers, hsubperm⟩ := hextends.places
  obtain ⟨hcount, hspread, hdiversity, hconstraints, hscore⟩ :=
    analyzeComplexity_eq_ok hcomplexity
  obtain ⟨hcount', hspread', hdiversity', hconstraints', hscore'⟩ :=
    analyzeComplexity_eq_ok hmore
  rw [hitems] at hcount hspread hdiversity
  rw [hothers] at hcount' hspread' hdiversity'
  have hplaces : complexity.placesCount ≤ more.placesCount := by
    rw [PyVal.len_list] at hcount hcount'
    rw [← Except.ok.inj hcount, ← Except.ok.inj hcount']
    exact hsubperm.length_le
  rw [hextends.countTimeConstraints_eq, hconstraints] at hconstraints'
  rw [hscore, hscore', hextends.analyzeTransportComplexity_eq, ← Except.ok.inj hconstraints']
  exact calculateOverallComplexity_mono hplaces hextends.days
    (calculateGeographicSpread_mono hsqrt hsubperm hspread hspread')
    (calculateSemanticDiversity_mono hsubperm.subset hdiversity hdiversity') _ _

/-! ## The promises together -/

/-- A number of the scale from 0 to 10. -/
def OnScale (score : ℚ) : Prop := 0 ≤ score ∧ score ≤ 10

/-- OR-Tools is selected exactly when every gate is passed and the places are enough, with a
confidence in [0, 1]; the complexity scores lie in [0, 10] and never decrease when places or
days are added. -/
theorem makeDecision_promises (library : AnalysisLibrary) (hsqrt : RootLaws library.sqrt) :
    (∀ settings analysis ortoolsHealthy,
      ((makeDecision settings analysis ortoolsHealthy).useOrtools = true ↔
        PassesGates analysis ortoolsHealthy ∧
          effectiveMinimum settings ≤ analysis.complexity.placesCount) ∧
      0 ≤ (makeDecision settings analysis ortoolsHealthy).confidenceScore ∧
      (makeDecision settings analysis ortoolsHealthy).confidenceScore ≤ 1) ∧
    (∀ places days spread diversity constraints transport,
      OnScale (calculateOverallComplexity places days spread diversity constraints transport)) ∧
    (∀ places morePlaces days moreDays spread diversity constraints transport,
      places ≤ morePlaces → days ≤ moreDays →
        calculateOverallComplexity places days spread diversity constraints transport ≤
          calculateOverallComplexity morePlaces moreDays spread diversity constraints
            transport) ∧
    (∀ request complexity, analyzeComplexity library request = .ok complexity →
      OnScale complexity.overallScore) ∧
    (∀ request larger complexity more, Extends library request larger →
      analyzeComplexity library request = .ok complexity →
      analyzeComplexity library larger = .ok more →
        complexity.overallScore ≤ more.overallScore) := by
  refine ⟨fun settings analysis ortoolsHealthy => ?_, ?_, ?_, ?_, ?_⟩
  · have hfits := verdictOn_fits settings analysis ortoolsHealthy
    exact ⟨hfits.selects_iff, hfits.nonneg, hfits.le_one⟩
  · exact calculateOverallComplexity_mem
  · intro places morePlaces days moreDays spread diversity constraints transport hplaces hdays
    exact calculateOverallComplexity_mono hplaces hdays (le_refl spread) (le_refl diversity) _ _
  · intro request complexity hcomplexity
    obtain ⟨-, -, -, -, hscore⟩ := analyzeComplexity_eq_ok hcomplexity
    rw [hscore]
    exact calculateOverallComplexity_mem _ _ _ _ _ _
  · intro request larger complexity more hextends hcomplexity hmore
    exact overallScore_mono hsqrt hextends hcomplexity hmore

/-- The library, with the roots of squares exact. -/
def rootLibrary : AnalysisLibrary := { plainLibrary with sqrt x := Nat.sqrt ⌊x⌋₊ }

theorem rootLaws_rootLibrary : RootLaws rootLibrary.sqrt where
  nonneg x _ := Nat.cast_nonneg _
  mono x y _ hle := by
    have hsqrt : Nat.sqrt ⌊x⌋₊ ≤ Nat.sqrt ⌊y⌋₊ := Nat.sqrt_le_sqrt (Nat.floor_mono hle)
    exact Nat.cast_le.mpr hsqrt

/-- A trip south along a meridian from the first of January 2025. -/
def meridianTrip (lats : List ℚ) (lastDay : ℤ) : RequestData where
  entries := [("places", .list (lats.map fun lat =>
    .dict [("lat", .float lat), ("lon", .float (-70))]))]
  startDate := some (.moment (.date 20089))
  endDate := some (.moment (.date lastDay))

theorem makeDecision_promises_meridian :
    ∃ complexity more,
      analyzeComplexity rootLibrary (meridianTrip [-33, -34] 20089) = .ok complexity ∧
      analyzeComplexity rootLibrary (meridianTrip [-33, -34, -35] 20090) = .ok more ∧
      complexity.overallScore ≤ more.overallScore := by
  have hextends : Extends rootLibrary (meridianTrip [-33, -34] 20089)
      (meridianTrip [-33, -34, -35] 20090) :=
    { places := ⟨_, _, rfl, rfl, (List.prefix_append _ [_]).sublist.subperm⟩
      days := by decide
      others := fun key hkey default => by
        have hother : (key == "places") = false := by simpa using hkey
        simp [RequestData.get, PyDict.get, meridianTrip, List.lookup_cons, hother] }
  have hshort : (analyzeComplexity rootLibrary (meridianTrip [-33, -34] 20089)).isOk = true := by
    decide +kernel
  have hlong :
      (analyzeComplexity rootLibrary (meridianTrip [-33, -34, -35] 20090)).isOk = true := by
    decide +kernel
  obtain ⟨complexity, hcomplexity⟩ := exists_eq_ok_of_isOk hshort
  obtain ⟨more, hmore⟩ := exists_eq_ok_of_isOk hlong
  obtain ⟨-, -, -, -, hmono⟩ := makeDecision_promises rootLibrary rootLaws_rootLibrary
  exact ⟨complexity, more, hcomplexity, hmore, hmono _ _ _ _ hextends hcomplexity hmore⟩

end Goveling.Ortools
