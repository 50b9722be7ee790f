/-
# Remote clusters

Which clusters are remote is asked of the routing service of the optimizer. The free routing
service answers with the distance of an ETA: below a hundred metres the straight line, and
otherwise what the first of two APIs reports, once it is validated, or the straight line again.
The hybrid routing service, which is the default, has no such method. The question is asked
inside a handler for all exceptions, so with it no cluster is remote as soon as another label is
there.
-/

import Goveling.Optimizer.HomeBases
import Goveling.Routing.EtaValidation

namespace Goveling.Optimizer

open Goveling.Python Goveling.Routing

/-! ## The free routing service -/

/-- The two APIs of `FreeRoutingService`. What awaiting one of them gives, within its eight
seconds and also from the cache, is an ETA or an exception. Whether the coordinates of a point
have eight decimals together is told from their texts. -/
structure FreeRoutingService where
  osrm : Location → Location → String → Except PyError PyDict
  openroute : Location → Location → String → Except PyError PyDict
  isUrban : Location → Bool

/-- `_micro_distance_eta`. -/
def microDistanceEta (distanceKm : ℚ) (transportMode : String) : PyDict :=
  let durationMinutes :=
    if ["walk", "walking"].contains transportMode then max 1 (distanceKm / 5 * 60)
    else max 2 (distanceKm / 20 * 60)
  [("distance_km", .float distanceKm),
    ("duration_minutes", .float durationMinutes),
    ("status", .str "OK"),
    ("google_enhanced", .bool false),
    ("source", .str "micro_distance_calculation"),
    ("primary_source", .str "direct_calculation")]

/-- The speeds of the last fallback in a town. -/
def urbanSpeed (transportMode : String) : ℚ :=
  if ["walk", "walking"].contains transportMode then 45 / 10
  else if ["drive", "car"].contains transportMode then 25
  else if transportMode = "transit" then 20
  else if transportMode = "bicycle" then 12
  else 5

/-- The speeds of the last fallback in the country. -/
def ruralSpeed (transportMode : String) : ℚ :=
  if ["walk", "walking"].contains transportMode then 55 / 10
  else if ["drive", "car"].contains transportMode then 70
  else if transportMode = "transit" then 45
  else if transportMode = "bicycle" then 18
  else 5

/-- `_intelligent_fallback`. The buffer of 40 or 20 percent is written as what the truncation of
the float leaves of it. -/
def intelligentFallback (isUrban : Bool) (transportMode : String) (distanceKm : ℚ) : PyDict :=
  let speedKmh := if isUrban then urbanSpeed transportMode else ruralSpeed transportMode
  let bufferFactor : ℚ := if isUrban then 14 / 10 else 12 / 10
  let context := if isUrban then "urban" else "rural"
  [("distance_km", .float distanceKm),
    ("duration_minutes", .float (distanceKm / speedKmh * 60 * bufferFactor)),
    ("status", .str "INTELLIGENT_FALLBACK"),
    ("google_enhanced", .bool false),
    ("source", .str ("intelligent_fallback_" ++ context)),
    ("primary_source", .str "fallback_calculation"),
    ("context_detected", .str context),
    ("speed_used_kmh", .float speedKmh),
    ("buffer_applied", .str (if isUrban then "39%" else "19%"))]

/-- One turn of the loop over the APIs: the validated ETA, unless the API or the validation
fails or the status is not accepted. -/
def acceptedEta (serviceName : String) (answer : Except PyError PyDict) (distanceKm : ℚ)
    (transportMode : String) : Option PyDict :=
  match answer with
  | .error _ => none
  | .ok result =>
      let status := PyDict.get result "status" .none
      if status.isText "OK" || status.isText "FALLBACK_CALCULATION" then
        (validateAndAdjustEta (PyDict.set result "primary_source" (.str serviceName)) distanceKm
          transportMode).toOption
      else none

namespace FreeRoutingService

variable (service : FreeRoutingService) (globe : Globe)

/-- `eta_between`. -/
def etaBetween (origin destination : Location) (transportMode : String) : PyDict :=
  let distanceKm : ℚ := globe.haversineKm origin destination
  if distanceKm < 1 / 10 then microDistanceEta distanceKm transportMode
  else
    match acceptedEta "osrm" (service.osrm origin destination transportMode) distanceKm
        transportMode with
    | some eta => eta
    | none =>
        match acceptedEta "openroute" (service.openroute origin destination transportMode)
            distanceKm transportMode with
        | some eta => eta
        | none => intelligentFallback (service.isUrban origin) transportMode distanceKm

/-- `get_distance_km` between valid coordinates, for which `eta_between` cannot fail. -/
def getDistanceKm (origin destination : Location) (transportMode : String) :
    Except PyError (Option ℚ) :=
  match PyDict.get (service.etaBetween globe origin destination transportMode) "distance_km"
      .none with
  | .none => .ok none
  | distance => distance.real.map some

end FreeRoutingService

/-! ## The routing service of the optimizer -/

/-- What `HybridOptimizerV31` can be configured with. -/
inductive ClusterRouting
  | hybrid
  | free (service : FreeRoutingService)

/-- `get_distance_km` of the configured service, in its default mode. -/
def ClusterRouting.getDistanceKm (globe : Globe) :
    ClusterRouting → Location → Location → Except PyError (Option ℚ)
  | .hybrid, _, _ => .error (.attributeError
      "'HybridRoutingService' object has no attribute 'get_distance_km'")
  | .free service, origin, destination => service.getDistanceKm globe origin destination "drive"

/-- The services of the optimizer with a routing service among them. -/
def HotelServices.withRouting (services : HotelServices) (globe : Globe)
    (routing : ClusterRouting) : HotelServices :=
  { services with getDistanceKm := routing.getDistanceKm globe }

/-! ## What is asked of the test -/

/-- Every other cluster, whatever its label, is at least 50 km away. -/
def FarFromOthers (globe : Globe) (clusters : List Cluster) (target : Fin clusters.length) :
    Prop :=
  ∀ other, other ≠ target →
    50 ≤ globe.haversineKm clusters[target].centroid clusters[other].centroid

/-- Exactly the clusters that are far from all others are remote. -/
def DetectsRemoteClusters (services : HotelServices) (globe : Globe) (clusters : List Cluster) :
    Prop :=
  ∀ target : Fin clusters.length,
    isRemoteCluster services clusters clusters[target] = true ↔
      FarFromOthers globe clusters target

/-- A distance is reported that counts as near: below 50 km, but not zero. -/
def FreeRoutingService.ReportsNear (service : FreeRoutingService) (globe : Globe)
    (origin destination : Location) : Prop :=
  ∃ distanceKm, service.getDistanceKm globe origin destination "drive" = .ok (some distanceKm) ∧
    distanceKm ≠ 0 ∧ distanceKm < 50

/-- What the test depends on. Without a method to ask, the labels decide; otherwise the clusters
near one are reported so, among the clusters with other labels. -/
def ClusterRouting.TellsClustersApart (globe : Globe) (clusters : List Cluster) :
    ClusterRouting → Prop
  | .hybrid =>
      ((∀ first second : Fin clusters.length, clusters[first].label = clusters[second].label) ∧
          ∀ target, FarFromOthers globe clusters target) ∨
        ((∃ first second : Fin clusters.length,
            clusters[first].label ≠ clusters[second].label) ∧
          ∀ target, ¬ FarFromOthers globe clusters target)
  | .free service =>
      ∀ target : Fin clusters.length,
        (∃ other : Fin clusters.length, clusters[other].label ≠ clusters[target].label ∧
          service.ReportsNear globe clusters[target].centroid clusters[other].centroid) ↔
        ∃ other, other ≠ target ∧
          globe.haversineKm clusters[target].centroid clusters[other].centroid < 50

/-! ## The distances that are reported -/

section Distances

theorem number?_of_minus {value : PyVal} {subtrahend difference : ℚ}
    (hminus : value.minus (.float subtrahend) = .ok difference) :
    ∃ number, value.number? = some number := by
  cases hnumber : value.number? with
  | some number => exact ⟨number, rfl⟩
  | none =>
      unfold PyVal.minus at hminus
      rw [hnumber] at hminus
      cases hminus

theorem lookup_adjustDuration_distance (result : PyDict) (distance duration : ℚ)
    (limits : SpeedLimits) :
    (adjustDuration result distance duration limits).lookup "distance_km" =
      result.lookup "distance_km" := by
  unfold adjustDuration
  dsimp only
  split_ifs
  · rw [PyDict.lookup_set_of_ne (by decide), PyDict.lookup_set_of_ne (by decide)]
  · rw [PyDict.lookup_set_of_ne (by decide), PyDict.lookup_set_of_ne (by decide)]
  · rfl

/-- The distance is kept, or it is the straight line. -/
theorem lookup_validateDistance (result : PyDict) (distanceDiff haversineDistanceKm : ℚ) :
    (validateDistance result distanceDiff haversineDistanceKm).lookup "distance_km" =
        result.lookup "distance_km" ∨
      (validateDistance result distanceDiff haversineDistanceKm).lookup "distance_km" =
        some (.float haversineDistanceKm) := by
  unfold validateDistance
  split_ifs
  · right
    rw [PyDict.lookup_set_of_ne (by decide), PyDict.lookup_set_self]
  · left
    rw [PyDict.lookup_set_of_ne (by decide)]
  · exact Or.inl rfl

/-- What is validated has a number for its distance, or no distance at all. -/
theorem lookup_of_validateAndAdjustEta {result eta : PyDict} {haversineDistanceKm : ℚ}
    {transportMode : String}
    (heta : validateAndAdjustEta result haversineDistanceKm transportMode = .ok eta) :
    eta.lookup "distance_km" = none ∨
      ∃ value number, eta.lookup "distance_km" = some value ∧ value.number? = some number := by
  obtain ⟨difference, hdifference, hrest⟩ := exists_of_bind_eq_ok heta
  obtain ⟨number, hnumber⟩ := number?_of_minus hdifference
  have hkept : eta.lookup "distance_km" = (validateDistance result |difference|
      haversineDistanceKm).lookup "distance_km" := by
    obtain ⟨positive, -, hrest⟩ := exists_of_bind_eq_ok hrest
    cases positive with
    | false =>
        cases hrest
        rfl
    | true =>
        obtain ⟨value, -, hrest⟩ := exists_of_bind_eq_ok hrest
        obtain ⟨distance, -, hrest⟩ := exists_of_bind_eq_ok hrest
        obtain ⟨duration, -, hrest⟩ := exists_of_bind_eq_ok hrest
        cases hrest
        exact lookup_adjustDuration_distance _ _ _ _
  rw [hkept]
  rcases lookup_validateDistance result |difference| haversineDistanceKm with hsame | hline
  · rw [hsame]
    cases hlookup : result.lookup "distance_km" with
    | none => exact Or.inl rfl
    | some value =>
        right
        rw [PyDict.get, hlookup] at hnumber
        exact ⟨value, number, rfl, hnumber⟩
  · exact Or.inr ⟨_, haversineDistanceKm, hline, rfl⟩

theorem lookup_of_acceptedEta {serviceName : String} {answer : Except PyError PyDict}
    {distanceKm : ℚ} {transportMode : String} {eta : PyDict}
    (heta : acceptedEta serviceName answer distanceKm transportMode = some eta) :
    eta.lookup "distance_km" = none ∨
      ∃ value number, eta.lookup "distance_km" = some value ∧ value.number? = some number := by
  unfold acceptedEta at heta
  cases answer with
  | error e => cases heta
  | ok result =>
      dsimp only at heta
      split at heta
      · cases hvalidate : validateAndAdjustEta
            (PyDict.set result "primary_source" (.str serviceName)) distanceKm transportMode with
        | error e =>
            rw [hvalidate] at heta
            cases heta
        | ok validated =>
            rw [hvalidate] at heta
            cases heta
            exact lookup_of_validateAndAdjustEta hvalidate
      · cases heta

variable (service : FreeRoutingService) (globe : Globe) (origin destination : Location)

theorem lookup_etaBetween (transportMode : String) :
    (service.etaBetween globe origin destination transportMode).lookup "distance_km" = none ∨
      ∃ value number, (service.etaBetween globe origin destination transportMode).lookup
        "distance_km" = some value ∧ value.number? = some number := by
  unfold FreeRoutingService.etaBetween
  dsimp only
  split
  · exact Or.inr ⟨_, _, rfl, rfl⟩
  · split
    · rename_i eta hosrm
      exact lookup_of_acceptedEta hosrm
    · split
      · rename_i eta hopenroute
        exact lookup_of_acceptedEta hopenroute
      · exact Or.inr ⟨_, _, rfl, rfl⟩

/-- The free routing service always answers. -/
theorem exists_getDistanceKm (transportMode : String) :
    ∃ distance, service.getDistanceKm globe origin destination transportMode = .ok distance := by
  unfold FreeRoutingService.getDistanceKm PyDict.get
  rcases lookup_etaBetween service globe origin destination transportMode with
    hnone | ⟨value, number, hvalue, hnumber⟩
  · rw [hnone]
    exact ⟨none, rfl⟩
  · rw [hvalue, Option.getD_some]
    have hreal : value.real = .ok number := by simp only [PyVal.real, hnumber]
    cases value with
    | none => exact ⟨none, rfl⟩
    | bool _ | int _ | float _ | str _ | list _ | dict _ =>
        dsimp only
        exact ⟨some number, by rw [hreal]; rfl⟩

end Distances

/-! ## When the test is right -/

section Detection

variable {services : HotelServices} {globe : Globe} {clusters : List Cluster}
  {target : Fin clusters.length}

theorem not_farFromOthers_iff :
    ¬ FarFromOthers globe clusters target ↔ ∃ other, other ≠ target ∧
      globe.haversineKm clusters[target].centroid clusters[other].centroid < 50 := by
  simp only [FarFromOthers, not_forall, not_le, exists_prop]

/-- Without a method to ask, only a cluster that meets no other label is remote. -/
theorem isRemoteCluster_hybrid :
    isRemoteCluster (services.withRouting globe .hybrid) clusters clusters[target] = true ↔
      ∀ other : Fin clusters.length, clusters[other].label = clusters[target].label := by
  unfold isRemoteCluster
  rw [List.all_eq_true]
  constructor
  · intro hall other
    have hother := hall clusters[other] (List.getElem_mem _)
    simpa [HotelServices.withRouting, ClusterRouting.getDistanceKm] using hother
  · intro hlabels otherCluster hmem
    obtain ⟨position, hposition, rfl⟩ := List.getElem_of_mem hmem
    rw [Bool.or_eq_true, decide_eq_true_iff]
    exact Or.inl (hlabels ⟨position, hposition⟩)

/-- Each of the other clusters is asked on its own. -/
theorem isRemoteCluster_eq_all (services : HotelServices) (clusters : List Cluster)
    (targetCluster : Cluster) :
    isRemoteCluster services clusters targetCluster =
      clusters.all fun otherCluster =>
        isRemoteCluster services [otherCluster] targetCluster := by
  unfold isRemoteCluster
  simp only [List.all_cons, List.all_nil, Bool.and_true]

/-- With the free routing service, another cluster leaves one remote unless it is reported near
under another label. -/
theorem isRemoteCluster_singleton_free {service : FreeRoutingService}
    {targetCluster otherCluster : Cluster} :
    isRemoteCluster (services.withRouting globe (.free service)) [otherCluster] targetCluster =
        true ↔
      ¬ (otherCluster.label ≠ targetCluster.label ∧
        service.ReportsNear globe targetCluster.centroid otherCluster.centroid) := by
  obtain ⟨distance, hdistance⟩ :=
    exists_getDistanceKm service globe targetCluster.centroid otherCluster.centroid "drive"
  have hrouting : (services.withRouting globe (.free service)).getDistanceKm =
      fun origin destination => service.getDistanceKm globe origin destination "drive" := rfl
  unfold isRemoteCluster FreeRoutingService.ReportsNear
  rw [List.all_cons, List.all_nil, Bool.and_true, Bool.or_eq_true, decide_eq_true_iff, hrouting]
  dsimp only
  rw [hdistance, not_and_or, not_not]
  apply or_congr_right
  cases distance with
  | none => simp
  | some distanceKm =>
      have hfifty : (50.0 : ℚ) = 50 := by norm_num
      simp [hfifty, or_iff_not_imp_left]

/-- With the free routing service, a cluster is remote unless another label is reported near. -/
theorem isRemoteCluster_free {service : FreeRoutingService} :
    isRemoteCluster (services.withRouting globe (.free service)) clusters clusters[target] =
        true ↔
      ¬ ∃ other : Fin clusters.length, clusters[other].label ≠ clusters[target].label ∧
        service.ReportsNear globe clusters[target].centroid clusters[other].centroid := by
  rw [isRemoteCluster_eq_all, List.all_eq_true, not_exists]
  constructor
  · intro hall other
    exact isRemoteCluster_singleton_free.mp (hall clusters[other] (List.getElem_mem _))
  · intro hnone otherCluster hmem
    obtain ⟨position, hposition, rfl⟩ := List.getElem_of_mem hmem
    exact isRemoteCluster_singleton_free.mpr (hnone ⟨position, hposition⟩)

end Detection

/-- The test is right exactly when the routing service tells the clusters apart. -/
theorem detectsRemoteClusters_iff (services : HotelServices) (globe : Globe)
    (routing : ClusterRouting) (clusters : List Cluster) :
    DetectsRemoteClusters (services.withRouting globe routing) globe clusters ↔
      routing.TellsClustersApart globe clusters := by
  unfold DetectsRemoteClusters ClusterRouting.TellsClustersApart
  cases routing with
  | free service =>
      apply forall_congr'
      intro target
      rw [isRemoteCluster_free, ← not_farFromOthers_iff]
      exact not_iff_comm.trans iff_comm
  | hybrid =>
      simp only [isRemoteCluster_hybrid]
      by_cases hlabels : ∀ first second : Fin clusters.length,
          clusters[first].label = clusters[second].label
      · have hnone : ¬ ∃ first second : Fin clusters.length,
            clusters[first].label ≠ clusters[second].label := by
          rintro ⟨first, second, hdiffer⟩
          exact hdiffer (hlabels first second)
        rw [or_iff_left (fun h => hnone h.1), and_iff_right hlabels]
        exact forall_congr' fun target => iff_true_left fun other => hlabels other target
      · have hsome : ∃ first second : Fin clusters.length,
            clusters[first].label ≠ clusters[second].label := by
          simpa only [not_forall] using hlabels
        rw [or_iff_right (fun h => hlabels h.1), and_iff_right hsome]
        apply forall_congr'
        intro target
        apply iff_false_left
        -- two labels that differ are not both the one of the target
        intro hsame
        obtain ⟨first, second, hdiffer⟩ := hsome
        exact hdiffer ((hsame first).trans (hsame second).symm)

/-- A cluster at a point of the equator. -/
def equatorCluster (label : String) (lon : ℚ) : Cluster where
  label := label
  centroid := .onEquator lon
  places := []

/-- With the routing service that is used without a choice, of two clusters more than a hundred
kilometres apart none is remote. -/
theorem not_detectsRemoteClusters_hybrid :
    ¬ DetectsRemoteClusters (HotelServices.silent.withRouting .equatorial .hybrid)
      .equatorial [equatorCluster "0" 0, equatorCluster "1" 1] := by
  intro hdetects
  have hfar : FarFromOthers .equatorial [equatorCluster "0" 0, equatorCluster "1" 1]
      ⟨0, by decide⟩ := by
    unfold FarFromOthers
    decide +kernel
  have hremote := (hdetects ⟨0, by decide⟩).mpr hfar
  revert hremote
  decide +kernel

end Goveling.Optimizer
