/-
# What the pass between the days adds

The pass is meant to add the trip between the bases of two days if the later day does not
list it yet. What it looks for is a transfer of about the same length, not one between the
same endpoints. So it adds just the missing trips exactly when, at every pair of distant
bases, some listed transfer is about as long as the trip precisely if one is the trip.
-/

import Goveling.Optimizer.Injection

namespace Goveling.Optimizer

open Goveling.Math Goveling.Python

universe u

variable {σ : Type u}

/-! ## Trips between bases -/

/-- The day lists an intercity transfer between two endpoints. -/
def ListsTransfer (day : DayRecord) (origin destination : Location) : Prop :=
  ∃ existing ∈ day.transfers, existing.type = "intercity_transfer" ∧
    existing.origin = origin ∧ existing.destination = destination

/-- Two days call for a transfer: their bases are far apart, and the later day does not list
the trip from the one to the other. -/
def CallsForTransfer (globe : Globe) (curr next : DayRecord) : Prop :=
  ∃ currBase ∈ curr.base, ∃ nextBase ∈ next.base,
    intercityKm < globe.haversineKm currBase.location nextBase.location ∧
      ¬ ListsTransfer next currBase.location nextBase.location

/-- The later of two days has a transfer between their bases more than before. -/
def AddsTransfer (curr next after : DayRecord) : Prop :=
  ∃ currBase ∈ curr.base, ∃ nextBase ∈ next.base, ∃ transfer : TransferRecord,
    after.transfers = transfer :: next.transfers ∧ transfer.type = "intercity_transfer" ∧
      transfer.origin = currBase.location ∧ transfer.destination = nextBase.location

/-- A pair of days has got the transfer it calls for, and nothing else. -/
structure GetsMissingTransfer (globe : Globe) (curr next after : DayRecord) : Prop where
  added : AddsTransfer curr next after ↔ CallsForTransfer globe curr next
  kept : ¬ CallsForTransfer globe curr next → after.transfers = next.transfers

/-- Every two consecutive days have got the transfer they call for. `after` are the days when
the pass is over. -/
def AddsMissingTransfers (globe : Globe) (days after : List DayRecord) : Prop :=
  ∀ step ∈ days.zip (days.tail.zip after.tail),
    GetsMissingTransfer globe step.1 step.2.1 step.2.2

section Pair

variable (globe : Globe) (services : Services σ) (settings : Settings)

/-- The kilometres of the trip between two bases, as the pass reckons them. -/
def tripKm (service : σ) (currBase nextBase : BaseInfo) : ℚ≥0 :=
  (betweenDaysLeg settings (globe.haversineKm currBase.location nextBase.location)
    (services.routingServiceRobust service currBase.location nextBase.location
      .drive).value).2.distanceKm

/-- For distant bases, some intercity transfer of the later day is about as long as the trip
exactly if one of them is that trip. -/
def LengthTellsTrip (service : σ) (curr next : DayRecord) : Prop :=
  ∀ currBase ∈ curr.base, ∀ nextBase ∈ next.base,
    intercityKm < globe.haversineKm currBase.location nextBase.location →
      ((∃ existing ∈ next.transfers,
          similarTransfer (tripKm globe services settings service currBase nextBase) existing) ↔
        ListsTransfer next currBase.location nextBase.location)

/-- The pass adds to a day without distant bases nothing. -/
theorem not_addsTransfer_self (curr next : DayRecord) : ¬ AddsTransfer curr next next := by
  rintro ⟨currBase, -, nextBase, -, transfer, hsame, -⟩
  exact absurd hsame (List.cons_ne_self _ _).symm

/-- What the pass does to a pair of days. -/
theorem injectPair_cases (service : σ) (curr next : DayRecord) :
    (∃ currBase ∈ curr.base, ∃ nextBase ∈ next.base,
        intercityKm < globe.haversineKm currBase.location nextBase.location ∧
        (((∃ existing ∈ next.transfers, similarTransfer
              (tripKm globe services settings service currBase nextBase) existing) ∧
            (injectPair globe services settings service curr next).value = next) ∨
          (¬ (∃ existing ∈ next.transfers, similarTransfer
              (tripKm globe services settings service currBase nextBase) existing) ∧
            AddsTransfer curr next
              (injectPair globe services settings service curr next).value))) ∨
      ((∀ currBase ∈ curr.base, ∀ nextBase ∈ next.base,
          ¬ intercityKm < globe.haversineKm currBase.location nextBase.location) ∧
        (injectPair globe services settings service curr next).value = next) := by
  unfold injectPair missingTransfer
  cases hcurr : curr.base with
  | none => exact .inr ⟨by simp, rfl⟩
  | some currBase =>
      cases hnext : next.base with
      | none => exact .inr ⟨by simp, rfl⟩
      | some nextBase =>
          dsimp only
          by_cases hfar : intercityKm < globe.haversineKm currBase.location nextBase.location
          · refine .inl ⟨currBase, rfl, nextBase, rfl, hfar, ?_⟩
            rw [if_pos hfar]
            by_cases hlisted : next.transfers.any (similarTransfer
                (tripKm globe services settings service currBase nextBase)) = true
            · refine .inl ⟨List.any_eq_true.mp hlisted, ?_⟩
              unfold tripKm at hlisted
              rw [if_pos hlisted]
              rfl
            · refine .inr ⟨fun hsome => hlisted (List.any_eq_true.mpr hsome), ?_⟩
              unfold tripKm at hlisted
              rw [if_neg hlisted]
              exact ⟨currBase, hcurr, nextBase, hnext, _, rfl, rfl, rfl, rfl⟩
          · refine .inr ⟨by simpa using not_lt.mp hfar, ?_⟩
            rw [if_neg hfar]
            rfl

theorem callsForTransfer_iff {curr next : DayRecord} {currBase nextBase : BaseInfo}
    (hcurr : currBase ∈ curr.base) (hnext : nextBase ∈ next.base)
    (hfar : intercityKm < globe.haversineKm currBase.location nextBase.location) :
    CallsForTransfer globe curr next ↔
      ¬ ListsTransfer next currBase.location nextBase.location := by
  constructor
  · rintro ⟨currBase', hcurr', nextBase', hnext', -, hmissing⟩
    cases Option.mem_unique hcurr hcurr'
    cases Option.mem_unique hnext hnext'
    exact hmissing
  · intro hmissing
    exact ⟨currBase, hcurr, nextBase, hnext, hfar, hmissing⟩

theorem lengthTellsTrip_iff {service : σ} {curr next : DayRecord} {currBase nextBase : BaseInfo}
    (hcurr : currBase ∈ curr.base) (hnext : nextBase ∈ next.base)
    (hfar : intercityKm < globe.haversineKm currBase.location nextBase.location) :
    LengthTellsTrip globe services settings service curr next ↔
      ((∃ existing ∈ next.transfers,
          similarTransfer (tripKm globe services settings service currBase nextBase) existing) ↔
        ListsTransfer next currBase.location nextBase.location) := by
  constructor
  · intro htells
    exact htells currBase hcurr nextBase hnext hfar
  · intro htells currBase' hcurr' nextBase' hnext' _
    cases Option.mem_unique hcurr hcurr'
    cases Option.mem_unique hnext hnext'
    exact htells

/-- A pair gets the transfer it calls for, and nothing else, exactly when lengths tell its
trip. -/
theorem getsMissingTransfer_injectPair_iff (service : σ) (curr next : DayRecord) :
    GetsMissingTransfer globe curr next
        (injectPair globe services settings service curr next).value ↔
      LengthTellsTrip globe services settings service curr next := by
  rcases injectPair_cases globe services settings service curr next with
    ⟨currBase, hcurr, nextBase, hnext, hfar, hcases⟩ | ⟨hnear, hsame⟩
  · have hcalls := callsForTransfer_iff globe hcurr hnext hfar
    rw [lengthTellsTrip_iff globe services settings hcurr hnext hfar]
    rcases hcases with ⟨hsimilar, hsame⟩ | ⟨hdifferent, hadds⟩
    · rw [hsame]
      constructor
      · intro hgets
        have hlists := hgets.added.not.mp (not_addsTransfer_self curr next)
        exact iff_of_true hsimilar (not_not.mp (hcalls.not.mp hlists))
      · intro htells
        refine ⟨iff_of_false (not_addsTransfer_self curr next) ?_, fun _ => rfl⟩
        exact hcalls.not.mpr (not_not_intro (htells.mp hsimilar))
    · constructor
      · intro hgets
        exact iff_of_false hdifferent (hcalls.mp (hgets.added.mp hadds))
      · intro htells
        have hmissing := hcalls.mpr (htells.not.mp hdifferent)
        exact ⟨iff_of_true hadds hmissing, fun hnone => absurd hmissing hnone⟩
  · -- without two distant bases there is nothing to add
    rw [hsame]
    have hnone : ¬ CallsForTransfer globe curr next := by
      rintro ⟨currBase, hcurr, nextBase, hnext, hfar, -⟩
      exact hnear currBase hcurr nextBase hnext hfar
    refine iff_of_true ⟨iff_of_false (not_addsTransfer_self curr next) hnone, fun _ => rfl⟩ ?_
    intro currBase hcurr nextBase hnext hfar
    exact absurd hfar (hnear currBase hcurr nextBase hnext)

end Pair

/-! ## All days -/

section Days

variable (globe : Globe) (services : Services σ) (settings : Settings)

/-- Of the earlier day only the base matters. -/
theorem getsMissingTransfer_congr {curr curr' : DayRecord} (hbase : curr'.base = curr.base)
    (next after : DayRecord) :
    GetsMissingTransfer globe curr' next after ↔ GetsMissingTransfer globe curr next after := by
  have hadds : AddsTransfer curr' next after ↔ AddsTransfer curr next after := by
    unfold AddsTransfer
    rw [hbase]
  have hcalls : CallsForTransfer globe curr' next ↔ CallsForTransfer globe curr next := by
    unfold CallsForTransfer
    rw [hbase]
  exact ⟨fun h => ⟨by rw [← hadds, ← hcalls]; exact h.added, by rw [← hcalls]; exact h.kept⟩,
    fun h => ⟨by rw [hadds, hcalls]; exact h.added, by rw [hcalls]; exact h.kept⟩⟩

/-- `curr` is the earlier day of the first pair, and `curr'` that day in the list. -/
theorem addsMissing_injectAfter_iff {curr curr' : DayRecord} (hbase : curr'.base = curr.base)
    (service : σ) (rest : List DayRecord) :
    (∀ step ∈ (curr' :: rest).zip
        (rest.zip (injectAfter globe services settings curr service rest).value),
        GetsMissingTransfer globe step.1 step.2.1 step.2.2) ↔
      AlongPass globe services settings (LengthTellsTrip globe services settings) curr service
        rest := by
  induction rest generalizing curr curr' service with
  | nil => simp [AlongPass]
  | cons next later ih =>
      have hpair := getsMissingTransfer_injectPair_iff globe services settings service curr next
      rw [← getsMissingTransfer_congr globe hbase] at hpair
      have hnext := map_injectPair globe services settings DayRecord.base (fun _ _ => rfl)
        service curr next
      unfold injectAfter AlongPass
      dsimp only
      rw [List.zip_cons_cons, List.zip_cons_cons, List.forall_mem_cons, hpair]
      exact and_congr_right fun _ => ih hnext.symm _

/-- Between every two consecutive days the pass adds the transfer that is missing, and nothing
else, exactly when at every pair of distant bases lengths tell the trip. -/
theorem addsMissingTransfers_inject_iff (service : σ) (days : List DayRecord) :
    AddsMissingTransfers globe days
        (injectIntercityTransfersBetweenDays globe services settings service days).value ↔
      AlongDays globe services settings (LengthTellsTrip globe services settings) service
        days := by
  cases days with
  | nil => simp [AddsMissingTransfers, AlongDays]
  | cons first rest =>
      exact addsMissing_injectAfter_iff globe services settings rfl service rest

end Days

/-- A day that goes on from one hotel to another, 112 km further. -/
def dayBetweenHotels : DayRecord :=
  (routeDayEnhanced degreeContext ()
    { date := 2
      assignedClusters := [
        { label := "1"
          centroid := .onEquator 0
          places := [{ name := "Spa", location := .onEquator 0 }]
          homeBase := some { name := "Posada", location := .onEquator 0 } },
        { label := "2"
          centroid := .onEquator 1
          places := [{ name := "Playa", location := .onEquator 1 }]
          homeBase := some { name := "Hostal", location := .onEquator 1 } }]
      dayNumber := 2 }).value

/-- The way from the first day's hotel to the second day's is as long as the trip that the
second day makes from there, and is taken for it. -/
theorem not_addsMissingTransfers_dayBetweenHotels :
    ¬ AddsMissingTransfers .equatorial [dayAtHotel 1 (.onEquator (-1)), dayBetweenHotels]
      (injectIntercityTransfersBetweenDays .equatorial degreeServices {} ()
        [dayAtHotel 1 (.onEquator (-1)), dayBetweenHotels]).value := by
  intro hadds
  have hpair := hadds _ (.head _)
  have hsame : (injectPair .equatorial degreeServices {} () (dayAtHotel 1 (.onEquator (-1)))
      dayBetweenHotels).value.transfers = dayBetweenHotels.transfers := by
    decide +kernel
  have hcalls : CallsForTransfer .equatorial (dayAtHotel 1 (.onEquator (-1)))
      dayBetweenHotels := by
    refine ⟨_, rfl, _, rfl, by decide +kernel, ?_⟩
    unfold ListsTransfer
    decide +kernel
  obtain ⟨-, -, -, -, transfer, hadded, -⟩ := hpair.added.mpr hcalls
  exact absurd (hadded.symm.trans hsame) (List.cons_ne_self _ _)

end Goveling.Optimizer
