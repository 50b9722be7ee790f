/-
# Detecting cities from places

`detect_cities_from_pois` gathers places by H3 cell. A cell with at least three places becomes a
city, under the name of the Chilean city near its centre or under the next `Cluster_` name, and
the places of the other cells go to `Other`. The cities are written into a dictionary, so of two
cells near one city only the later is left.
-/

import Goveling.Python.Text
import Goveling.Python.Value
import Goveling.Routing.HybridIntegrator
import Mathlib.Data.List.Pairwise

namespace Goveling.Routing

open Goveling.Math Goveling.Python

/-- A place: a dictionary with numbers under `lat` and `lon`. -/
structure LocatedPoi where
  fields : PyDict
  lat : ℚ
  lon : ℚ
  lat_eq : (PyDict.get fields "lat" .none).number? = some lat
  lon_eq : (PyDict.get fields "lon" .none).number? = some lon

/-- The grid, and the centres of its cells. -/
structure CellGrid extends HexGrid where
  cellToLatlng : String → ℚ × ℚ

/-- The cell of a place. -/
def CellGrid.cellOf (grid : CellGrid) (poi : LocatedPoi) : String :=
  grid.latlngToCell poi.lat poi.lon

/-! ## Names of cities -/

/-- A line of `chile_cities`: a city, its centre and its radius in degrees. -/
structure ChileCity where
  name : String
  lat : ℚ
  lon : ℚ
  radius : ℚ

/-- `chile_cities`. -/
def chileCities : List ChileCity :=
  [⟨"Santiago", -334489 / 10000, -706693 / 10000, 1 / 2⟩,
    ⟨"Valparaíso", -330472 / 10000, -716127 / 10000, 3 / 10⟩,
    ⟨"Concepción", -368201 / 10000, -730444 / 10000, 3 / 10⟩,
    ⟨"La Serena", -299027 / 10000, -712519 / 10000, 1 / 5⟩,
    ⟨"Antofagasta", -236509 / 10000, -703975 / 10000, 1 / 5⟩,
    ⟨"Temuco", -387359 / 10000, -725904 / 10000, 1 / 5⟩,
    ⟨"Valdivia", -398142 / 10000, -732459 / 10000, 1 / 5⟩,
    ⟨"Puerto Montt", -414693 / 10000, -729424 / 10000, 1 / 5⟩,
    ⟨"Punta Arenas", -531638 / 10000, -709171 / 10000, 3 / 10⟩,
    ⟨"Iquique", -202307 / 10000, -701355 / 10000, 1 / 5⟩,
    ⟨"Calama", -224667 / 10000, -689167 / 10000, 1 / 5⟩,
    ⟨"Copiapó", -273668 / 10000, -703323 / 10000, 1 / 5⟩]

/-- A point is within the radius of a city. The squares are compared, so no root is taken. -/
def ChileCity.Covers (city : ChileCity) (point : ℚ × ℚ) : Prop :=
  (point.1 - city.lat) ^ 2 + (point.2 - city.lon) ^ 2 ≤ city.radius ^ 2

instance (city : ChileCity) (point : ℚ × ℚ) : Decidable (city.Covers point) :=
  inferInstanceAs (Decidable (_ ≤ _))

/-- `_estimate_city_name`: the first city that covers a point. -/
def estimateCityName (point : ℚ × ℚ) : Option String :=
  (chileCities.find? fun city => city.Covers point).map ChileCity.name

/-- `f"Cluster_{city_counter}"`. -/
def clusterName (cityCounter : ℕ) : String := "Cluster_" ++ toString cityCounter

/-! ## Detecting -/

/-- The name of a cell. -/
def CellGrid.cityOf (grid : CellGrid) (cell : String) : Option String :=
  estimateCityName (grid.cellToLatlng cell)

/-- What is written for the cells that become cities. Cells without a city are numbered. -/
def namedGroups {α : Type} (cityOf : String → Option String) :
    ℕ → List (String × α) → List (String × α)
  | _, [] => []
  | cityCounter, (h3Id, poiGroup) :: rest =>
      match cityOf h3Id with
      | some cityName => (cityName, poiGroup) :: namedGroups cityOf cityCounter rest
      | none => (clusterName cityCounter, poiGroup) :: namedGroups cityOf (cityCounter + 1) rest

/-- The cells that become cities. -/
def bigGroups {α : Type} (h3Groups : OrderedMap String (List α)) : List (String × List α) :=
  h3Groups.entries.filter fun entry => 3 ≤ entry.2.length

/-- The places of the other cells. -/
def remainingPois {α : Type} (h3Groups : OrderedMap String (List α)) : List α :=
  (h3Groups.entries.filter fun entry => entry.2.length < 3).flatMap Prod.snd

/-- `detect_cities_from_pois`. -/
def detectCitiesFromPois (grid : CellGrid) (pois : List LocatedPoi) :
    OrderedMap String (List LocatedPoi) :=
  let h3Groups := OrderedMap.gather grid.cellOf pois
  let cities := OrderedMap.empty.setAll (namedGroups grid.cityOf 1 (bigGroups h3Groups))
  let remaining := remainingPois h3Groups
  if remaining.isEmpty then cities else cities.set "Other" remaining

/-! ## Which names repeat -/

/-- No city is called like a numbered cell or like the rest. -/
theorem ne_of_cityOf {grid : CellGrid} {cell cityName : String}
    (hcity : grid.cityOf cell = some cityName) :
    (∀ cityCounter, cityName ≠ clusterName cityCounter) ∧ cityName ≠ "Other" := by
  obtain ⟨city, hfound, rfl⟩ := Option.map_eq_some_iff.mp hcity
  have hnames : ∀ city ∈ chileCities, city.name.toList.take 8 ≠ "Cluster_".toList ∧
      city.name ≠ "Other" := by
    decide +kernel
  obtain ⟨hcluster, hother⟩ := hnames city (List.mem_of_find?_eq_some hfound)
  refine ⟨?_, hother⟩
  intro cityCounter hname
  rw [hname, clusterName, String.toList_append] at hcluster
  exact hcluster rfl

theorem clusterName_ne_other (cityCounter : ℕ) : clusterName cityCounter ≠ "Other" := by
  intro hname
  have hfirst : (clusterName cityCounter).toList.head? = "Other".toList.head? := by
    rw [hname]
  rw [clusterName, String.toList_append] at hfirst
  cases hfirst

/-- The keys that are written are the cities of the cells and numbers from the counter on. -/
theorem mem_keys_namedGroups {α : Type} {cityOf : String → Option String} {cityCounter : ℕ}
    {groups : List (String × α)} {key : String}
    (hkey : key ∈ (namedGroups cityOf cityCounter groups).map Prod.fst) :
    key ∈ groups.filterMap (fun group => cityOf group.1) ∨
      ∃ number, cityCounter ≤ number ∧ key = clusterName number := by
  induction groups generalizing cityCounter with
  | nil => cases hkey
  | cons group rest ih =>
      unfold namedGroups at hkey
      cases hcity : cityOf group.1 with
      | some cityName =>
          rw [hcity] at hkey
          rw [List.filterMap_cons, hcity]
          rcases List.mem_cons.mp hkey with rfl | hrest
          · exact .inl List.mem_cons_self
          · exact (ih hrest).imp_left (List.mem_cons_of_mem _)
      | none =>
          rw [hcity] at hkey
          rw [List.filterMap_cons, hcity]
          rcases List.mem_cons.mp hkey with rfl | hrest
          · exact .inr ⟨cityCounter, le_rfl, rfl⟩
          · rcases ih hrest with hmem | ⟨number, hle, hnumber⟩
            · exact .inl hmem
            · exact .inr ⟨number, Nat.le_of_succ_le hle, hnumber⟩

theorem mem_keys_namedGroups_of_city {α : Type} {cityOf : String → Option String}
    {cityCounter : ℕ} {groups : List (String × α)} {key : String}
    (hkey : key ∈ groups.filterMap fun group => cityOf group.1) :
    key ∈ (namedGroups cityOf cityCounter groups).map Prod.fst := by
  induction groups generalizing cityCounter with
  | nil => cases hkey
  | cons group rest ih =>
      unfold namedGroups
      cases hcity : cityOf group.1 with
      | some cityName =>
          rw [List.filterMap_cons, hcity] at hkey
          exact (List.mem_cons.mp hkey).elim (fun hfirst => hfirst ▸ List.mem_cons_self)
            fun hrest => List.mem_cons_of_mem _ (ih hrest)
      | none =>
          rw [List.filterMap_cons, hcity] at hkey
          exact List.mem_cons_of_mem _ (ih hkey)

/-- A key is written twice exactly when two cells are in one city. -/
theorem nodup_keys_namedGroups {α : Type} {grid : CellGrid} (cityCounter : ℕ)
    (groups : List (String × α)) :
    ((namedGroups grid.cityOf cityCounter groups).map Prod.fst).Nodup ↔
      (groups.filterMap fun group => grid.cityOf group.1).Nodup := by
  induction groups generalizing cityCounter with
  | nil => exact Iff.rfl
  | cons group rest ih =>
      unfold namedGroups
      cases hcity : grid.cityOf group.1 with
      | some cityName =>
          rw [List.filterMap_cons, hcity, List.nodup_cons, ← ih cityCounter]
          refine List.nodup_cons.trans (and_congr_left fun _ => not_congr ?_)
          constructor
          · intro hkey
            rcases mem_keys_namedGroups hkey with hmem | ⟨number, -, hname⟩
            · exact hmem
            · exact absurd hname ((ne_of_cityOf hcity).1 number)
          · exact mem_keys_namedGroups_of_city
      | none =>
          rw [List.filterMap_cons, hcity, ← ih (cityCounter + 1)]
          refine List.nodup_cons.trans (and_iff_right ?_)
          intro hkey
          rcases mem_keys_namedGroups hkey with hmem | ⟨number, hle, hname⟩
          · obtain ⟨other, -, hother⟩ := List.mem_filterMap.mp hmem
            exact (ne_of_cityOf hother).1 cityCounter rfl
          · have hsame := append_toString_inj _ hname
            omega

/-! ## What is written -/

variable {grid : CellGrid} {pois : List LocatedPoi}

/-- The groups of places in the order in which they are written. -/
def writtenGroups (grid : CellGrid) (pois : List LocatedPoi) : List (String × List LocatedPoi) :=
  let h3Groups := OrderedMap.gather grid.cellOf pois
  let remaining := remainingPois h3Groups
  namedGroups grid.cityOf 1 (bigGroups h3Groups) ++
    if remaining.isEmpty then [] else [("Other", remaining)]

theorem detectCitiesFromPois_eq (grid : CellGrid) (pois : List LocatedPoi) :
    detectCitiesFromPois grid pois = OrderedMap.empty.setAll (writtenGroups grid pois) := by
  unfold detectCitiesFromPois writtenGroups
  dsimp only
  rw [OrderedMap.setAll_append]
  split <;> rfl

theorem map_snd_namedGroups {α : Type} (cityOf : String → Option String) (cityCounter : ℕ)
    (groups : List (String × α)) :
    (namedGroups cityOf cityCounter groups).map Prod.snd = groups.map Prod.snd := by
  induction groups generalizing cityCounter with
  | nil => rfl
  | cons group rest ih =>
      unfold namedGroups
      cases cityOf group.1 with
      | some cityName => exact congrArg (group.2 :: ·) (ih cityCounter)
      | none => exact congrArg (group.2 :: ·) (ih (cityCounter + 1))

/-- Together the groups have all the places. -/
theorem flatten_writtenGroups_perm (grid : CellGrid) (pois : List LocatedPoi) :
    ((writtenGroups grid pois).map Prod.snd).flatten.Perm pois := by
  have hrest : ((if (remainingPois (OrderedMap.gather grid.cellOf pois)).isEmpty then []
      else [("Other", remainingPois (OrderedMap.gather grid.cellOf pois))]).map
        Prod.snd).flatten = remainingPois (OrderedMap.gather grid.cellOf pois) := by
    split
    · rename_i hempty
      exact (List.isEmpty_iff.mp hempty).symm
    · simp
  unfold writtenGroups
  dsimp only
  rw [List.map_append, List.flatten_append, map_snd_namedGroups, hrest, ← List.flatMap_def]
  unfold bigGroups remainingPois
  rw [← List.flatMap_append]
  have hsmall : (fun entry : String × List LocatedPoi => decide (entry.2.length < 3)) =
      fun entry => !decide (3 ≤ entry.2.length) := by
    funext entry
    rw [← decide_not]
    exact decide_eq_decide.mpr not_le.symm
  rw [hsmall]
  have hsplit := List.filter_append_perm (fun entry => decide (3 ≤ entry.2.length))
    (OrderedMap.gather grid.cellOf pois).entries
  apply (hsplit.flatMap_right Prod.snd).trans
  rw [List.flatMap_def]
  exact OrderedMap.flatten_values_gather_perm grid.cellOf pois

/-- No group is empty. -/
theorem ne_nil_of_mem_writtenGroups {group : String × List LocatedPoi}
    (hgroup : group ∈ writtenGroups grid pois) : group.2 ≠ [] := by
  rcases List.mem_append.mp hgroup with hnamed | hrest
  · have hmem := List.mem_map_of_mem (f := Prod.snd) hnamed
    rw [map_snd_namedGroups] at hmem
    obtain ⟨cell, hcell, hsame⟩ := List.mem_map.mp hmem
    have hbig : 3 ≤ cell.2.length := by simpa using (List.mem_filter.mp hcell).2
    rw [← hsame]
    exact List.ne_nil_of_length_pos (by omega)
  · split at hrest
    · cases hrest
    · rename_i hremaining
      rw [List.mem_singleton.mp hrest]
      simpa using hremaining

/-- The keys of the groups are different exactly when no city has two of the cells. -/
theorem nodup_keys_writtenGroups :
    ((writtenGroups grid pois).map Prod.fst).Nodup ↔
      ((bigGroups (OrderedMap.gather grid.cellOf pois)).filterMap
        fun group => grid.cityOf group.1).Nodup := by
  rw [← nodup_keys_namedGroups 1]
  unfold writtenGroups
  dsimp only
  split
  · rw [List.append_nil]
  · rw [List.map_append, List.map_singleton, List.nodup_append_comm, List.singleton_append,
      List.nodup_cons]
    refine and_iff_right ?_
    intro hother
    rcases mem_keys_namedGroups hother with hmem | ⟨number, -, hname⟩
    · obtain ⟨group, -, hcity⟩ := List.mem_filterMap.mp hmem
      exact (ne_of_cityOf hcity).2 rfl
    · exact clusterName_ne_other number hname.symm

/-! ## Cities as a partition -/

/-- The number of places in a cell. -/
def CellGrid.poisIn (grid : CellGrid) (pois : List LocatedPoi) (cell : String) : ℕ :=
  pois.countP fun poi => grid.cellOf poi = cell

/-- A cell that becomes a city has its places. -/
theorem mem_bigGroups_iff {group : String × List LocatedPoi} :
    group ∈ bigGroups (OrderedMap.gather grid.cellOf pois) ↔
      3 ≤ grid.poisIn pois group.1 ∧
        group.2 = pois.filter fun poi => grid.cellOf poi = group.1 := by
  unfold bigGroups CellGrid.poisIn
  rw [List.mem_filter, OrderedMap.mem_entries_gather, List.countP_eq_length_filter]
  constructor
  · rintro ⟨⟨-, hsame⟩, hbig⟩
    rw [← hsame]
    exact ⟨by simpa using hbig, rfl⟩
  · rintro ⟨hbig, hsame⟩
    rw [← hsame] at hbig ⊢
    exact ⟨⟨List.ne_nil_of_length_pos (by omega), rfl⟩, by simpa using hbig⟩

/-- No two cells that become cities are in the same one. -/
def CellGrid.CitiesApart (grid : CellGrid) (pois : List LocatedPoi) : Prop :=
  ∀ first second, 3 ≤ grid.poisIn pois first → 3 ≤ grid.poisIn pois second → first ≠ second →
    ∀ cityName, grid.cityOf first = some cityName → grid.cityOf second ≠ some cityName

theorem nodup_cities_iff :
    ((bigGroups (OrderedMap.gather grid.cellOf pois)).filterMap
      fun group => grid.cityOf group.1).Nodup ↔ grid.CitiesApart pois := by
  have hkeys : (bigGroups (OrderedMap.gather grid.cellOf pois)).Nodup :=
    (OrderedMap.gather grid.cellOf pois).nodup.of_map.filter _
  unfold List.Nodup
  rw [List.pairwise_filterMap]
  constructor
  · intro hpairs first second hfirst hsecond hne cityName hcity hsame
    have hsymm : Std.Symm fun a b : String × List LocatedPoi =>
        ∀ name, grid.cityOf a.1 = some name → ∀ other, grid.cityOf b.1 = some other →
          name ≠ other :=
      ⟨fun _ _ hab name hname other hother heq => hab other hother name hname heq.symm⟩
    have hgroup : ∀ cell, 3 ≤ grid.poisIn pois cell →
        (cell, pois.filter fun poi => grid.cellOf poi = cell) ∈
          bigGroups (OrderedMap.gather grid.cellOf pois) :=
      fun cell hcell => mem_bigGroups_iff.mpr ⟨hcell, rfl⟩
    exact hpairs.forall (hgroup first hfirst) (hgroup second hsecond)
      (fun heq => hne (congrArg Prod.fst heq)) cityName hcity cityName hsame rfl
  · intro hapart
    refine hkeys.pairwise_of_forall_ne ?_
    intro first hfirst second hsecond hne cityName hcity other hother hsame
    obtain ⟨hbigFirst, hpoisFirst⟩ := mem_bigGroups_iff.mp hfirst
    obtain ⟨hbigSecond, hpoisSecond⟩ := mem_bigGroups_iff.mp hsecond
    have hcells : first.1 ≠ second.1 := by
      intro heq
      apply hne
      exact Prod.ext heq (by rw [hpoisFirst, hpoisSecond, heq])
    exact hapart first.1 second.1 hbigFirst hbigSecond hcells cityName hcity (hsame ▸ hother)

/-- Every place is in exactly one of the cities. -/
def Partitions (pois : List LocatedPoi) (cities : OrderedMap String (List LocatedPoi)) : Prop :=
  cities.values.flatten.Perm pois

/-- The cities partition the places exactly when no two cells with at least three places have
their centres in the same city. -/
theorem detectCitiesFromPois_partitions_iff (grid : CellGrid) (pois : List LocatedPoi) :
    Partitions pois (detectCitiesFromPois grid pois) ↔ grid.CitiesApart pois := by
  rw [← nodup_cities_iff, ← nodup_keys_writtenGroups,
    ← OrderedMap.flatten_values_setAll_perm_iff fun _ hgroup => ne_nil_of_mem_writtenGroups hgroup]
  unfold Partitions
  rw [detectCitiesFromPois_eq, (flatten_writtenGroups_perm grid pois).congr_right]

/-- A place with coordinates and nothing else. -/
def bareLocatedPoi (lat lon : ℚ) : LocatedPoi where
  fields := [("lat", .float lat), ("lon", .float lon)]
  lat := lat
  lon := lon
  lat_eq := by simp [PyDict.get, PyVal.number?]
  lon_eq := by simp [PyDict.get, List.lookup_cons, PyVal.number?]

/-- A grid with two cells, both near Santiago. -/
def santiagoGrid : CellGrid where
  latlngToCell := fun lat _ => if lat < -67 / 2 then "south" else "north"
  gridRing := fun _ => []
  clusterHash := fun _ => ""
  cellToLatlng := fun cell =>
    if cell = "south" then (-168 / 5, -707 / 10) else (-167 / 5, -707 / 10)

/-- Six places in two cells of Santiago: three of them are lost. -/
theorem detectCitiesFromPois_loses_santiago :
    ¬ Partitions (List.replicate 3 (bareLocatedPoi (-168 / 5) (-707 / 10)) ++
        List.replicate 3 (bareLocatedPoi (-167 / 5) (-707 / 10)))
      (detectCitiesFromPois santiagoGrid
        (List.replicate 3 (bareLocatedPoi (-168 / 5) (-707 / 10)) ++
          List.replicate 3 (bareLocatedPoi (-167 / 5) (-707 / 10)))) := by
  intro hpartitions
  have hlength := hpartitions.length_eq
  revert hlength
  decide +kernel

end Goveling.Routing
