/-
# The geographic cache on disk

Every entry of the cache is written to a file when it is stored, and the files are read
when the process starts again. Neither an access nor the time of it is written, so an
entry comes back as it was stored. A manager that finds what managers with the same
compression have left comes to the entries that were in memory before, less those that
have expired and those whose file was not written to its end: to searches it makes no
difference that the process has started again.
-/

import Goveling.Places.GeographicCache
import Mathlib.Data.List.DropRight
import Mathlib.Data.List.TakeWhile

namespace Goveling.Places

open Goveling.Math Goveling.Python

/-! ## Names of files -/

/-- `file_path.stem` and `file_path.suffix`. -/
def splitSuffix (name : String) : String × String :=
  let start := name.toList.rdropWhile (· ≠ '.')
  let ending := name.toList.rtakeWhile (· ≠ '.')
  -- a dot at either end does not count
  if 2 ≤ start.length ∧ ending ≠ [] then
    (String.ofList start.dropLast, String.ofList ('.' :: ending))
  else (name, "")

example : splitSuffix "f823df2e7a7b18de.json.gz" = ("f823df2e7a7b18de.json", ".gz") := by
  decide +kernel

/-- `_get_file_path`, in the directory of the cache. -/
def getFilePath (compression : Bool) (cacheKey : String) : String :=
  cacheKey ++ if compression then ".json.gz" else ".json"

/-- `file_path.stem.replace('.json', '')`. -/
def cacheKeyOf (name : String) : String := replaceText (splitSuffix name).1 ".json" ""

/-- A file is unpacked when it is read. -/
def isPacked (name : String) : Bool := (splitSuffix name).2 = ".gz"

/-- A key that has characters and no dot among them. -/
structure PlainKey (key : String) : Prop where
  nonempty : key.toList ≠ []
  dotless : '.' ∉ key.toList

/-- A name is divided at its last dot. -/
theorem splitSuffix_append {stem : List Char} (hstem : stem ≠ []) {ending : List Char}
    (hending : ending ≠ []) (hdotless : '.' ∉ ending) :
    splitSuffix (String.ofList (stem ++ '.' :: ending)) =
      (String.ofList stem, String.ofList ('.' :: ending)) := by
  have hall : ∀ c ∈ ending.reverse, decide (c ≠ '.') = true := by
    intro c hc
    exact decide_eq_true fun hdot => hdotless (hdot ▸ List.mem_reverse.mp hc)
  have hreverse : (stem ++ '.' :: ending).reverse = ending.reverse ++ '.' :: stem.reverse := by
    simp
  have hstart : (stem ++ '.' :: ending).rdropWhile (· ≠ '.') = stem ++ ['.'] := by
    rw [List.rdropWhile, hreverse, List.dropWhile_append_of_pos hall]
    simp
  have hrest : (stem ++ '.' :: ending).rtakeWhile (· ≠ '.') = ending := by
    rw [List.rtakeWhile, hreverse, List.takeWhile_append_of_pos hall]
    simp
  have hlength : 2 ≤ (stem ++ ['.']).length := by
    have hpos := List.length_pos_iff.mpr hstem
    simp
    omega
  unfold splitSuffix
  rw [String.toList_ofList]
  dsimp only
  rw [hstart, hrest, if_pos ⟨hlength, hending⟩, List.dropLast_concat]

/-- What is behind a text without dots is looked at alone. -/
theorem replaceText_json {key : String} (hdotless : '.' ∉ key.toList) (rest : List Char) :
    replaceText (String.ofList (key.toList ++ rest)) ".json" "" =
      String.ofList (key.toList ++ replaceChars ".json".toList [] 0 rest) := by
  have htext : (String.ofList (key.toList ++ rest)).toList = key.toList ++ rest :=
    String.toList_ofList
  unfold replaceText
  rw [htext]
  exact congrArg String.ofList (replaceChars_append hdotless rest)

/-- The name of a file says which key it is for and whether it is packed. -/
theorem cacheKeyOf_getFilePath {key : String} (hkey : PlainKey key) (compression : Bool) :
    cacheKeyOf (getFilePath compression key) = key ∧
      isPacked (getFilePath compression key) = compression := by
  obtain ⟨hnonempty, hdotless⟩ := hkey
  unfold cacheKeyOf isPacked
  cases compression with
  | true =>
      have hname : getFilePath true key =
          String.ofList ((key.toList ++ ".json".toList) ++ '.' :: "gz".toList) := by
        rw [← String.toList_inj, getFilePath, String.toList_append, String.toList_ofList]
        simp
      rw [hname, splitSuffix_append (by simp [hnonempty]) (by decide) (by decide)]
      refine ⟨?_, rfl⟩
      rw [replaceText_json hdotless]
      exact (congrArg String.ofList (List.append_nil _)).trans String.ofList_toList
  | false =>
      have hname : getFilePath false key = String.ofList (key.toList ++ '.' :: "json".toList) := by
        rw [← String.toList_inj, getFilePath, String.toList_append, String.toList_ofList]
        simp
      rw [hname, splitSuffix_append hnonempty (by decide) (by decide)]
      refine ⟨?_, rfl⟩
      have hplain := replaceText_json hdotless []
      rw [List.append_nil] at hplain
      exact hplain.trans ((congrArg String.ofList (List.append_nil _)).trans String.ofList_toList)

theorem getFilePath_inj {compression : Bool} {first second : String}
    (hpaths : getFilePath compression first = getFilePath compression second) : first = second := by
  rw [← String.toList_inj, getFilePath, getFilePath, String.toList_append,
    String.toList_append] at hpaths
  exact String.toList_inj.mp (List.append_cancel_right hpaths)

/-! ## The manager -/

/-- What is in a file: an entry, packed or not, or nothing that can be read. -/
inductive DiskFile
  | holds (packed : Bool) (entry : CacheEntry)
  | unreadable

/-- The files in the directory of the cache, under their names. -/
abbrev Directory := OrderedMap String DiskFile

/-- What is read from a file that is opened as its name says. -/
def DiskFile.read? (name : String) : DiskFile → Option CacheEntry
  | .holds packed entry => if packed = isPacked name then some entry else none
  | .unreadable => none

/-- What is read under a name. -/
def Directory.read? (files : Directory) (name : String) : Option CacheEntry :=
  (files.get? name).bind (DiskFile.read? name)

/-- A file system lists the names in some order. Sixteen digits have no dot. -/
structure GeoDisk extends GeoEnv where
  glob : List String → List String
  glob_perm : ∀ names, (glob names).Perm names
  plain_searchDigest : ∀ lat lon radius placeTypes,
    PlainKey (searchDigest lat lon radius placeTypes)

/-- `GeographicCacheManager`, with its directory. -/
structure GeographicCacheManager where
  compression : Bool := true
  memoryCache : MemoryCache := .empty
  files : Directory := .empty

/-- How writing a file ends: all is written, the file has a part only, or it is as before. -/
inductive SaveOutcome
  | written
  | torn
  | failed
  deriving DecidableEq

/-- An entry is too old at some time. -/
def CacheEntry.isExpired (now : ℚ) (entry : CacheEntry) : Bool := entry.ttl < now - entry.createdAt

/-- The entry of places that have been found for a search. -/
def newEntry (env : GeoEnv) (now : ℚ) (search : PlaceSearch) (placesData : List PyDict) :
    CacheEntry where
  data := placesData
  createdAt := now
  lastAccessed := now
  accessCount := 1
  location := (search.lat, search.lon)
  radius := search.radius
  placeTypes := search.placeTypes
  ttl := calculateTtl env search.placeTypes

/-- An entry as it was before all accesses. -/
def CacheEntry.asStored (entry : CacheEntry) : CacheEntry :=
  { entry with lastAccessed := entry.createdAt, accessCount := 1 }

namespace GeographicCacheManager

/-- `_save_to_disk`. -/
def saveToDisk (manager : GeographicCacheManager) (cacheKey : String) (entry : CacheEntry)
    (outcome : SaveOutcome) : GeographicCacheManager :=
  let filePath := getFilePath manager.compression cacheKey
  match outcome with
  | .written =>
      { manager with files := manager.files.set filePath (.holds manager.compression entry) }
  | .torn => { manager with files := manager.files.set filePath .unreadable }
  | .failed => manager

/-- `cache_places`. -/
def cachePlaces (env : GeoEnv) (manager : GeographicCacheManager) (now : ℚ)
    (search : PlaceSearch) (placesData : List PyDict) (outcome : SaveOutcome) :
    GeographicCacheManager :=
  if placesData.isEmpty then manager
  else
    let cacheKey := generateCacheKey env search
    let cacheEntry := newEntry env now search placesData
    { manager with memoryCache := manager.memoryCache.set cacheKey cacheEntry }.saveToDisk
      cacheKey cacheEntry outcome

/-- One turn of `_load_from_disk`. A file that cannot be read is removed. -/
def loadFile (manager : GeographicCacheManager) (name : String) : GeographicCacheManager :=
  match manager.files.read? name with
  | some entry =>
      { manager with memoryCache := manager.memoryCache.set (cacheKeyOf name) entry }
  | none => { manager with files := manager.files.erase name }

/-- `_load_from_disk`. -/
def loadFromDisk (disk : GeoDisk) (manager : GeographicCacheManager) : GeographicCacheManager :=
  (disk.glob manager.files.keys).foldl loadFile manager

/-- An entry is removed, and the file that is written for its key. -/
def removeKey (manager : GeographicCacheManager) (cacheKey : String) : GeographicCacheManager :=
  { manager with
    memoryCache := manager.memoryCache.erase cacheKey
    files := manager.files.erase (getFilePath manager.compression cacheKey) }

/-- Remove the entries that a test names. -/
def removeEntries (manager : GeographicCacheManager) (drop : CacheEntry → Bool) :
    ℕ × GeographicCacheManager :=
  let keysToRemove := (manager.memoryCache.entries.filter fun entry => drop entry.2).map Prod.fst
  (keysToRemove.length, keysToRemove.foldl removeKey manager)

/-- `_cleanup_expired`. -/
def cleanupExpired (manager : GeographicCacheManager) (now : ℚ) : GeographicCacheManager :=
  (manager.removeEntries (CacheEntry.isExpired now)).2

/-- `clear_cache`, with the number of entries removed. -/
def clearCache (manager : GeographicCacheManager) (now : ℚ) :
    Option ℚ → ℕ × GeographicCacheManager
  | none => (manager.memoryCache.size, { manager with memoryCache := .empty, files := .empty })
  | some olderThanHours =>
      manager.removeEntries fun entry => olderThanHours * 3600 < now - entry.createdAt

/-- `__init__`, over the files that are there. -/
def init (disk : GeoDisk) (files : Directory) (now : ℚ) (compression : Bool) :
    GeographicCacheManager :=
  (loadFromDisk disk { compression := compression, files := files }).cleanupExpired now

end GeographicCacheManager

/-- What happens to a cache: a call, with how its file was written, or a new process, which
may write its files in another way. -/
inductive ManagerEvent
  | call (call : CacheCall) (outcome : SaveOutcome)
  | restart (now : ℚ) (compression : Bool)

/-- The manager after an event. -/
def afterEvent (disk : GeoDisk) (manager : GeographicCacheManager) :
    ManagerEvent → GeographicCacheManager
  | .call (.store now search placesData) outcome =>
      manager.cachePlaces disk.toGeoEnv now search placesData outcome
  | .call (.query now search) _ =>
      { manager with
        memoryCache := (getCachedPlaces disk.toGeoEnv manager.memoryCache now search).2 }
  | .call (.clear now olderThanHours) _ => (manager.clearCache now olderThanHours).2
  | .restart now compression => .init disk manager.files now compression

/-! ## What the steps do -/

variable {disk : GeoDisk} {env : GeoEnv} {manager : GeographicCacheManager} {now : ℚ}
  {search : PlaceSearch} {key : String} {entry : CacheEntry} {events : List ManagerEvent}

namespace GeographicCacheManager

theorem foldl_removeKey (manager : GeographicCacheManager) (keys : List String) :
    keys.foldl removeKey manager =
      { manager with
        memoryCache := keys.foldl OrderedMap.erase manager.memoryCache
        files := (keys.map (getFilePath manager.compression)).foldl OrderedMap.erase
          manager.files } := by
  induction keys generalizing manager with
  | nil => rfl
  | cons key rest ih => exact ih (manager.removeKey key)

@[simp]
theorem compression_removeEntries (drop : CacheEntry → Bool) :
    (manager.removeEntries drop).2.compression = manager.compression := by
  unfold removeEntries
  dsimp only
  rw [foldl_removeKey]

@[simp]
theorem memoryCache_removeEntries (drop : CacheEntry → Bool) :
    (manager.removeEntries drop).2.memoryCache =
      manager.memoryCache.filter fun entry => !drop entry.2 := by
  unfold removeEntries
  dsimp only
  rw [foldl_removeKey]
  exact OrderedMap.foldl_erase_filter _ _

/-- What is left in memory after entries have been removed. -/
theorem get?_removeEntries (drop : CacheEntry → Bool) (key : String) :
    (manager.removeEntries drop).2.memoryCache.get? key =
      (manager.memoryCache.get? key).filter fun entry => !drop entry := by
  rw [memoryCache_removeEntries]
  exact OrderedMap.get?_filter _ _ _

/-- The file of an entry that is removed is removed, and no other. -/
theorem get?_files_removeEntries (manager : GeographicCacheManager) (drop : CacheEntry → Bool)
    (name : String) :
    (manager.removeEntries drop).2.files.get? name = none ∧
        (∃ key entry, manager.memoryCache.get? key = some entry ∧ drop entry = true ∧
          name = getFilePath manager.compression key) ∨
      (manager.removeEntries drop).2.files.get? name = manager.files.get? name ∧
        ∀ key entry, manager.memoryCache.get? key = some entry →
          name = getFilePath manager.compression key → drop entry = false := by
  unfold removeEntries
  dsimp only
  rw [foldl_removeKey]
  dsimp only
  rw [OrderedMap.get?_foldl_erase]
  split
  · rename_i hname
    obtain ⟨key, hkey, rfl⟩ := List.mem_map.mp hname
    obtain ⟨pair, hpair, rfl⟩ := List.mem_map.mp hkey
    obtain ⟨hmem, hdrop⟩ := List.mem_filter.mp hpair
    exact .inl ⟨rfl, pair.1, pair.2, OrderedMap.get?_eq_some_of_mem hmem, hdrop, rfl⟩
  · rename_i hname
    refine .inr ⟨rfl, ?_⟩
    rintro key entry hentry rfl
    have hmem := OrderedMap.mem_of_get?_eq_some hentry
    by_contra hdrop
    exact hname (List.mem_map_of_mem (List.mem_map_of_mem (f := Prod.fst)
      (List.mem_filter.mpr ⟨hmem, eq_true_of_ne_false hdrop⟩)))

end GeographicCacheManager

/-- A file that is removed is not read, and the others are read as before. -/
theorem Directory.read?_erase (files : Directory) (name other : String) :
    Directory.read? (files.erase name) other =
      if other = name then none else files.read? other := by
  unfold Directory.read?
  rw [OrderedMap.get?_erase]
  split <;> rfl

/-- The entries that are read from files, under the keys that their names say. -/
def Directory.entriesRead (files : Directory) (names : List String) :
    List (String × CacheEntry) :=
  names.filterMap fun name => (files.read? name).map fun entry => (cacheKeyOf name, entry)

/-- Loading writes the entries that are read to memory. What can be read is left. -/
theorem foldl_loadFile (manager : GeographicCacheManager) (names : List String) :
    ∃ files : Directory, names.foldl GeographicCacheManager.loadFile manager =
        { manager with
          memoryCache := manager.memoryCache.setAll (manager.files.entriesRead names)
          files := files } ∧
      (∀ name, files.read? name = manager.files.read? name) ∧
      ∀ name, files.get? name = manager.files.get? name ∨
        files.get? name = none ∧ manager.files.read? name = none := by
  induction names generalizing manager with
  | nil => exact ⟨manager.files, rfl, fun _ => rfl, fun _ => .inl rfl⟩
  | cons name rest ih =>
      rw [List.foldl_cons]
      obtain ⟨files, hloaded, hread, hkept⟩ := ih (manager.loadFile name)
      cases hfile : manager.files.read? name with
      | some entry =>
          have hturn : manager.loadFile name =
              { manager with
                memoryCache := manager.memoryCache.set (cacheKeyOf name) entry } := by
            unfold GeographicCacheManager.loadFile
            rw [hfile]
          rw [hturn] at hloaded hread hkept ⊢
          refine ⟨files, hloaded.trans ?_, hread, hkept⟩
          unfold Directory.entriesRead
          rw [List.filterMap_cons, hfile]
          rfl
      | none =>
          have hturn : manager.loadFile name =
              { manager with files := manager.files.erase name } := by
            unfold GeographicCacheManager.loadFile
            rw [hfile]
          -- the file that is removed could not be read before
          have hsame : ∀ other, Directory.read? (manager.files.erase name) other =
              manager.files.read? other := by
            intro other
            rw [Directory.read?_erase]
            split
            · rename_i hother
              rw [hother, hfile]
            · rfl
          rw [hturn] at hloaded hread hkept ⊢
          dsimp only at hread hkept
          refine ⟨files, hloaded.trans ?_, fun other => (hread other).trans (hsame other),
            fun other => ?_⟩
          · unfold Directory.entriesRead
            rw [List.filterMap_cons, hfile]
            simp only [hsame, Option.map_none]
          · rcases hkept other with hother | ⟨hnone, hlost⟩
            · rw [OrderedMap.get?_erase] at hother
              split at hother
              · rename_i hname
                exact .inr ⟨hother, hname ▸ hfile⟩
              · exact .inl hother
            · exact .inr ⟨hnone, (hsame other).symm.trans hlost⟩

/-- The calls change the memory as they change a cache without files. -/
theorem memoryCache_afterEvent_call (manager : GeographicCacheManager) (call : CacheCall)
    (outcome : SaveOutcome) :
    (afterEvent disk manager (.call call outcome)).memoryCache =
      afterCall disk.toGeoEnv manager.memoryCache call := by
  cases call with
  | store now search placesData =>
      simp only [afterEvent, GeographicCacheManager.cachePlaces, afterCall, cachePlaces]
      split
      · rfl
      · cases outcome <;> rfl
  | query now search => rfl
  | clear now olderThanHours =>
      cases olderThanHours with
      | none => rfl
      | some hours => exact GeographicCacheManager.memoryCache_removeEntries _

/-- Calls change the memory as they change a cache without files. -/
theorem memoryCache_runEnd_calls (manager : GeographicCacheManager)
    (calls : List (CacheCall × SaveOutcome)) :
    (runEnd (afterEvent disk) manager
        (calls.map fun call => .call call.1 call.2)).memoryCache =
      runEnd (afterCall disk.toGeoEnv) manager.memoryCache (calls.map Prod.fst) := by
  induction calls generalizing manager with
  | nil => rfl
  | cons call rest ih =>
      rw [List.map_cons, List.map_cons, runEnd_cons, runEnd_cons, ih,
        memoryCache_afterEvent_call]

/-- A search leaves the entries as they were stored. -/
theorem get?_getCachedPlaces_asStored (env : GeoEnv) (cache : MemoryCache) (now : ℚ)
    (search : PlaceSearch) (key : String) :
    ((getCachedPlaces env cache now search).2.get? key).map CacheEntry.asStored =
      (cache.get? key).map CacheEntry.asStored := by
  unfold getCachedPlaces
  split
  · rfl
  · dsimp only
    rw [OrderedMap.get?_modify]
    split
    · rw [Option.map_map]
      rfl
    · rfl

theorem Directory.read?_set (files : Directory) (name : String) (file : DiskFile)
    (other : String) :
    Directory.read? (files.set name file) other =
      if other = name then file.read? other else files.read? other := by
  unfold Directory.read?
  rw [OrderedMap.get?_set]
  split <;> rfl

/-- The entries that a new process reads. -/
def Directory.loaded (disk : GeoDisk) (files : Directory) : MemoryCache :=
  OrderedMap.empty.setAll (files.entriesRead (disk.glob files.keys))

/-- A new process reads the files and removes what is too old. -/
theorem init_eq (disk : GeoDisk) (files : Directory) (now : ℚ) (compression : Bool) :
    ∃ left : Directory, GeographicCacheManager.init disk files now compression =
        GeographicCacheManager.cleanupExpired
          { compression := compression, memoryCache := files.loaded disk, files := left } now ∧
      (∀ name, left.read? name = files.read? name) ∧
      ∀ name, left.get? name = files.get? name ∨
        left.get? name = none ∧ files.read? name = none := by
  obtain ⟨left, hloaded, hsame, hkept⟩ := foldl_loadFile
    { compression := compression, files := files } (disk.glob files.keys)
  refine ⟨left, ?_, hsame, hkept⟩
  exact congrArg (fun manager => manager.cleanupExpired now) hloaded

/-- What a new process has in memory: of the entries that it reads those that are not too
old. -/
theorem get?_init (disk : GeoDisk) (files : Directory) (now : ℚ) (compression : Bool)
    (key : String) :
    (GeographicCacheManager.init disk files now compression).memoryCache.get? key =
      ((files.loaded disk).get? key).filter fun entry => !entry.isExpired now := by
  obtain ⟨left, hinit, -, -⟩ := init_eq disk files now compression
  rw [hinit, GeographicCacheManager.cleanupExpired, GeographicCacheManager.get?_removeEntries]

/-- A file that a new process leaves is read as before. -/
theorem read?_of_read?_init {files : Directory} {compression : Bool} {name : String}
    (hread : (GeographicCacheManager.init disk files now compression).files.read? name =
      some entry) : files.read? name = some entry := by
  obtain ⟨left, hinit, hsame, -⟩ := init_eq disk files now compression
  rw [hinit, GeographicCacheManager.cleanupExpired, Directory.read?] at hread
  rcases GeographicCacheManager.get?_files_removeEntries _ _ name with ⟨hnone, -⟩ | ⟨hkept, -⟩
  · rw [hnone] at hread
    cases hread
  · rw [hkept] at hread
    exact (hsame name).symm.trans hread

/-- An entry that a new process reads is in a file. -/
theorem exists_of_get?_loaded {files : Directory}
    (hentry : (files.loaded disk).get? key = some entry) :
    ∃ name ∈ files.keys, files.read? name = some entry ∧ cacheKeyOf name = key := by
  rcases OrderedMap.mem_entries_setAll (OrderedMap.mem_of_get?_eq_some hentry) with
    hempty | hread
  · exact absurd hempty List.not_mem_nil
  · obtain ⟨name, hname, hpair⟩ := List.mem_filterMap.mp hread
    obtain ⟨found, hfound, hsame⟩ := Option.map_eq_some_iff.mp hpair
    obtain ⟨hkey, hentry⟩ := Prod.ext_iff.mp hsame
    exact ⟨name, (disk.glob_perm files.keys).subset hname, hfound.trans (congrArg some hentry),
      hkey⟩

/-! ## Where entries come from -/

/-- An entry is one that was stored under a key. -/
def WasStored (disk : GeoDisk) (events : List ManagerEvent) (key : String) (entry : CacheEntry) :
    Prop :=
  ∃ now search placesData outcome,
    ManagerEvent.call (.store now search placesData) outcome ∈ events ∧
      key = generateCacheKey disk.toGeoEnv search ∧
      entry.asStored = newEntry disk.toGeoEnv now search placesData

theorem WasStored.mono {events more : List ManagerEvent} (hstored : WasStored disk events key entry)
    (hsub : events ⊆ more) : WasStored disk more key entry := by
  obtain ⟨now, search, placesData, outcome, hmem, hkey⟩ := hstored
  exact ⟨now, search, placesData, outcome, hsub hmem, hkey⟩

/-- Every entry in memory and every entry that is read from a file was stored under its key. -/
structure GeographicCacheManager.Accounted (disk : GeoDisk) (events : List ManagerEvent)
    (manager : GeographicCacheManager) : Prop where
  memory : ∀ key entry, manager.memoryCache.get? key = some entry →
    WasStored disk events key entry
  files : ∀ name entry, manager.files.read? name = some entry →
    WasStored disk events (cacheKeyOf name) entry

theorem GeographicCacheManager.Accounted.mono {more : List ManagerEvent}
    (haccounted : manager.Accounted disk events) (hsub : events ⊆ more) :
    manager.Accounted disk more where
  memory key entry hentry := (haccounted.memory key entry hentry).mono hsub
  files name entry hentry := (haccounted.files name entry hentry).mono hsub

/-- A cache without entries and files is accounted for. -/
theorem accounted_cleared (disk : GeoDisk) (events : List ManagerEvent) (compression : Bool) :
    GeographicCacheManager.Accounted disk events { compression := compression } :=
  ⟨fun _ entry hentry => absurd hentry.symm (Option.some_ne_none entry),
    fun _ entry hread => absurd hread.symm (Option.some_ne_none entry)⟩

/-- The key of a search has no dot. -/
theorem plainKey_generateCacheKey (disk : GeoDisk) (search : PlaceSearch) :
    PlainKey (generateCacheKey disk.toGeoEnv search) :=
  disk.plain_searchDigest _ _ _ _

theorem GeographicCacheManager.Accounted.saveToDisk (haccounted : manager.Accounted disk events)
    (hkey : PlainKey key) (hstored : WasStored disk events key entry) (outcome : SaveOutcome) :
    (manager.saveToDisk key entry outcome).Accounted disk events := by
  unfold GeographicCacheManager.saveToDisk
  cases outcome with
  | failed => exact haccounted
  | torn =>
      refine ⟨haccounted.memory, fun name other hread => ?_⟩
      rw [Directory.read?_set] at hread
      split at hread
      · cases hread
      · exact haccounted.files name other hread
  | written =>
      refine ⟨haccounted.memory, fun name other hread => ?_⟩
      rw [Directory.read?_set] at hread
      split at hread
      · rename_i hname
        obtain ⟨hkeyOf, hpacked⟩ := cacheKeyOf_getFilePath hkey manager.compression
        rw [hname, DiskFile.read?, if_pos hpacked.symm, Option.some.injEq] at hread
        rw [hname, hkeyOf, ← hread]
        exact hstored
      · exact haccounted.files name other hread

theorem GeographicCacheManager.Accounted.removeEntries
    (haccounted : manager.Accounted disk events) (drop : CacheEntry → Bool) :
    (manager.removeEntries drop).2.Accounted disk events := by
  refine ⟨fun key entry hentry => ?_, fun name entry hread => ?_⟩
  · rw [get?_removeEntries] at hentry
    exact haccounted.memory key entry (Option.eq_some_of_filter_eq_some hentry)
  · rcases get?_files_removeEntries _ drop name with ⟨hnone, -⟩ | ⟨hkept, -⟩
    · rw [Directory.read?, hnone] at hread
      cases hread
    · rw [Directory.read?, hkept] at hread
      exact haccounted.files name entry hread

/-- After an event the entries are accounted for by the events so far. -/
theorem GeographicCacheManager.Accounted.afterEvent {event : ManagerEvent}
    (haccounted : manager.Accounted disk events) :
    (afterEvent disk manager event).Accounted disk (events ++ [event]) := by
  have hbefore := haccounted.mono (List.subset_append_left events [event])
  cases event with
  | restart now compression =>
      refine ⟨fun key entry hentry => ?_, fun name entry hread => ?_⟩
      · have hloaded := get?_init disk manager.files now compression key
        rw [show (GeographicCacheManager.init disk manager.files now compression).memoryCache.get?
          key = some entry from hentry, eq_comm, Option.filter_eq_some_iff] at hloaded
        obtain ⟨name, -, hread, rfl⟩ := exists_of_get?_loaded hloaded.1
        exact hbefore.files name entry hread
      · exact hbefore.files name entry (read?_of_read?_init hread)
  | call call outcome =>
      cases call with
      | store now search placesData =>
          simp only [Places.afterEvent, GeographicCacheManager.cachePlaces]
          split
          · exact hbefore
          · have hstored : WasStored disk
                (events ++ [.call (.store now search placesData) outcome])
                (generateCacheKey disk.toGeoEnv search)
                (newEntry disk.toGeoEnv now search placesData) :=
              ⟨now, search, placesData, outcome, by simp, rfl, rfl⟩
            have hmemory : GeographicCacheManager.Accounted disk
                (events ++ [.call (.store now search placesData) outcome])
                { manager with
                  memoryCache := manager.memoryCache.set (generateCacheKey disk.toGeoEnv search)
                    (newEntry disk.toGeoEnv now search placesData) } := by
              refine ⟨fun key entry hentry => ?_, hbefore.files⟩
              rw [OrderedMap.get?_set] at hentry
              split at hentry
              · rename_i hkey
                cases hentry
                exact hkey ▸ hstored
              · exact hbefore.memory key entry hentry
            exact hmemory.saveToDisk (plainKey_generateCacheKey disk search) hstored outcome
      | query now search =>
          refine ⟨fun key entry hentry => ?_, hbefore.files⟩
          have hold := get?_getCachedPlaces_asStored disk.toGeoEnv manager.memoryCache now
            search key
          rw [show (getCachedPlaces disk.toGeoEnv manager.memoryCache now search).2.get? key =
            some entry from hentry] at hold
          obtain ⟨old, hfound, hsame⟩ := Option.map_eq_some_iff.mp hold.symm
          obtain ⟨stored, filledBy, placesData, outcome, hmem, hkey, hentry⟩ :=
            hbefore.memory key old hfound
          exact ⟨stored, filledBy, placesData, outcome, hmem, hkey, hsame.symm.trans hentry⟩
      | clear now olderThanHours =>
          cases olderThanHours with
          | none => exact accounted_cleared disk _ manager.compression
          | some hours => exact hbefore.removeEntries _

theorem accounted_runEnd (disk : GeoDisk) (compression : Bool) (events : List ManagerEvent) :
    (runEnd (afterEvent disk) { compression := compression } events).Accounted disk events :=
  runEnd_history (accounted_cleared disk [] compression)
    fun _ _ _ _ hpast => hpast.afterEvent

/-- However often the process starts again, whatever way its files are written and whichever
writes go wrong, a search is served with places that were stored for a search nearby, and the
time that they live is counted from when they were stored. -/
theorem results_wereStored (disk : GeoDisk) (compression : Bool) (events : List ManagerEvent)
    (now : ℚ) (search : PlaceSearch) (results : List PyDict)
    (hresults : (getCachedPlaces disk.toGeoEnv
        (runEnd (afterEvent disk) { compression := compression } events).memoryCache now
        search).1 = .ok (some results)) :
    ∃ storedAt filledBy placesData outcome,
      ManagerEvent.call (.store storedAt filledBy placesData) outcome ∈ events ∧
        servesSearch disk.toGeoEnv now search
          (newEntry disk.toGeoEnv storedAt filledBy placesData) = true ∧
        filterCachedResults disk.toGeoEnv placesData search = .ok results := by
  obtain ⟨found, hfound, hfiltered⟩ := exists_find_of_getCachedPlaces hresults
  have hget := OrderedMap.get?_eq_some_of_mem (List.mem_of_find?_eq_some hfound)
  have hserves := List.find?_some hfound
  obtain ⟨storedAt, filledBy, placesData, outcome, hmem, -, hstored⟩ :=
    (accounted_runEnd disk compression events).memory _ _ hget
  have hdata : found.2.data = placesData := congrArg CacheEntry.data hstored
  refine ⟨storedAt, filledBy, placesData, outcome, hmem, ?_, hdata ▸ hfiltered⟩
  rw [← hstored]
  exact hserves

/-! ### A restaurant after a torn write -/

theorem plainKey_digits : PlainKey "f823df2e7a7b18de" := ⟨by decide, by decide⟩

/-- The files of a cache whose searches are all on one meridian, under one key. -/
def equatorDisk : GeoDisk where
  toGeoEnv := equatorEnv
  glob names := names
  glob_perm _ := .rfl
  plain_searchDigest _ _ _ _ := plainKey_digits

/-- A restaurant is stored, then stored again with a write that fails, and a new process that
does not pack its files finds the first file. -/
def restaurantEvents : List ManagerEvent :=
  [.restart 0 true, .call (.store 10 (restaurantsNear 0) [restaurantAt 0]) .written,
    .call (.store 20 (restaurantsNear 0) [restaurantAt (1 / 100)]) .failed, .restart 30 false]

/-- A search after all this finds the first restaurant. -/
theorem exists_results_restaurantEvents :
    ∃ results, (getCachedPlaces equatorDisk.toGeoEnv
        (runEnd (afterEvent equatorDisk) { compression := true } restaurantEvents).memoryCache 60
        (restaurantsNear (4 / 100))).1 = .ok (some results) := by
  have hfound : ((getCachedPlaces equatorDisk.toGeoEnv
      (runEnd (afterEvent equatorDisk) { compression := true } restaurantEvents).memoryCache 60
      (restaurantsNear (4 / 100))).1.toOption.join.map longitudes) = some [some 0] := by
    decide +kernel
  cases hanswer : (getCachedPlaces equatorDisk.toGeoEnv
      (runEnd (afterEvent equatorDisk) { compression := true } restaurantEvents).memoryCache 60
      (restaurantsNear (4 / 100))).1 with
  | error e =>
      rw [hanswer] at hfound
      cases hfound
  | ok found =>
      rw [hanswer] at hfound
      cases found with
      | none => cases hfound
      | some results => exact ⟨results, rfl⟩

theorem results_wereStored_afterFailedWrite :
    ∃ results storedAt filledBy placesData outcome,
      ManagerEvent.call (.store storedAt filledBy placesData) outcome ∈ restaurantEvents ∧
        servesSearch equatorDisk.toGeoEnv 60 (restaurantsNear (4 / 100))
          (newEntry equatorDisk.toGeoEnv storedAt filledBy placesData) = true ∧
        filterCachedResults equatorDisk.toGeoEnv placesData (restaurantsNear (4 / 100)) =
          .ok results := by
  obtain ⟨results, hanswer⟩ := exists_results_restaurantEvents
  exact ⟨results, results_wereStored equatorDisk true restaurantEvents 60
    (restaurantsNear (4 / 100)) results hanswer⟩

/-! ## Starting again -/

/-- An event writes its file to the end and in one way. -/
def ManagerEvent.Keeps (compression : Bool) : ManagerEvent → Prop
  | .call _ outcome => outcome = .written
  | .restart _ other => other = compression

/-- The files are those of the entries in memory, each as it was stored. -/
structure GeographicCacheManager.Mirrors (manager : GeographicCacheManager) : Prop where
  plain : ∀ key ∈ manager.memoryCache.keys, PlainKey key
  held : ∀ key entry, manager.memoryCache.get? key = some entry →
    manager.files.get? (getFilePath manager.compression key) =
      some (.holds manager.compression entry.asStored)
  named : ∀ name ∈ manager.files.keys, ∃ key ∈ manager.memoryCache.keys,
    name = getFilePath manager.compression key

namespace GeographicCacheManager

/-- A cache without entries has no files. -/
theorem mirrors_cleared (compression : Bool) : Mirrors { compression := compression } :=
  ⟨fun _ hkey => absurd hkey List.not_mem_nil,
    fun _ entry hentry => absurd hentry.symm (Option.some_ne_none entry),
    fun _ hname => absurd hname List.not_mem_nil⟩

/-- The file of an entry is read under its name. -/
theorem Mirrors.read? (hmirrors : manager.Mirrors)
    (hentry : manager.memoryCache.get? key = some entry) :
    manager.files.read? (getFilePath manager.compression key) = some entry.asStored := by
  have hplain := hmirrors.plain key (OrderedMap.mem_keys_of_get?_eq_some hentry)
  rw [Directory.read?, hmirrors.held key entry hentry, Option.bind_some, DiskFile.read?,
    if_pos (cacheKeyOf_getFilePath hplain manager.compression).2.symm]

/-- A new process reads the entries that were in memory, as they were stored. -/
theorem Mirrors.get?_loaded (hmirrors : manager.Mirrors) (key : String) :
    (manager.files.loaded disk).get? key =
      (manager.memoryCache.get? key).map CacheEntry.asStored := by
  have hkeyOf : ∀ name ∈ manager.files.keys, cacheKeyOf name ∈ manager.memoryCache.keys ∧
      name = getFilePath manager.compression (cacheKeyOf name) := by
    intro name hname
    obtain ⟨other, hother, rfl⟩ := hmirrors.named name hname
    rw [(cacheKeyOf_getFilePath (hmirrors.plain other hother) manager.compression).1]
    exact ⟨hother, rfl⟩
  have hnames : ((disk.glob manager.files.keys).map cacheKeyOf).Nodup := by
    have hglob := disk.glob_perm manager.files.keys
    refine (hglob.nodup_iff.mpr manager.files.nodup).map_on fun first hfirst second hsecond h => ?_
    rw [(hkeyOf first (hglob.subset hfirst)).2, (hkeyOf second (hglob.subset hsecond)).2, h]
  cases hget : manager.memoryCache.get? key with
  | none =>
      rw [Option.map_none, ← OrderedMap.not_mem_keys_iff]
      intro hkey
      obtain ⟨entry, hentry⟩ := OrderedMap.exists_get?_of_mem_keys hkey
      obtain ⟨name, hname, -, rfl⟩ := exists_of_get?_loaded hentry
      exact OrderedMap.not_mem_keys_iff.mpr hget (hkeyOf name hname).1
  | some entry =>
      have hplain := hmirrors.plain key (OrderedMap.mem_keys_of_get?_eq_some hget)
      have hpath := OrderedMap.mem_keys_of_get?_eq_some (hmirrors.held key entry hget)
      have hlisted := (disk.glob_perm manager.files.keys).symm.subset hpath
      have hloaded := OrderedMap.get?_setAll_filterMap hnames manager.files.read? hlisted
      rw [(cacheKeyOf_getFilePath hplain manager.compression).1, hmirrors.read? hget] at hloaded
      exact hloaded

theorem Mirrors.removeEntries (hmirrors : manager.Mirrors) (drop : CacheEntry → Bool) :
    (manager.removeEntries drop).2.Mirrors := by
  have hold : ∀ key ∈ (manager.removeEntries drop).2.memoryCache.keys,
      key ∈ manager.memoryCache.keys := by
    intro key hkey
    rw [memoryCache_removeEntries] at hkey
    exact (List.filter_sublist.map Prod.fst).subset hkey
  refine ⟨fun key hkey => hmirrors.plain key (hold key hkey), fun key entry hentry => ?_,
    fun name hname => ?_⟩
  · rw [get?_removeEntries, Option.filter_eq_some_iff] at hentry
    obtain ⟨hentry, hkeep⟩ := hentry
    rw [compression_removeEntries]
    rcases get?_files_removeEntries manager drop
      (getFilePath manager.compression key) with ⟨-, other, dropped, hdropped, hdrop, hpath⟩ |
      ⟨hkept, -⟩
    · rw [← getFilePath_inj hpath, hentry, Option.some.injEq] at hdropped
      rw [← hdropped] at hdrop
      rw [hdrop] at hkeep
      cases hkeep
    · rw [hkept]
      exact hmirrors.held key entry hentry
  · rw [compression_removeEntries]
    rcases get?_files_removeEntries manager drop name with ⟨hnone, -⟩ |
      ⟨hkept, hothers⟩
    · exact absurd hname (OrderedMap.not_mem_keys_iff.mpr hnone)
    · rw [OrderedMap.mem_keys_iff_isSome, hkept, ← OrderedMap.mem_keys_iff_isSome] at hname
      obtain ⟨key, hkey, rfl⟩ := hmirrors.named name hname
      obtain ⟨entry, hentry⟩ := OrderedMap.exists_get?_of_mem_keys hkey
      refine ⟨key, ?_, rfl⟩
      rw [OrderedMap.mem_keys_iff_isSome, get?_removeEntries, hentry, Option.filter_some,
        hothers key entry hentry rfl]
      rfl

/-- A new process that writes its files in the same way finds its files as they should be. -/
theorem Mirrors.init (hmirrors : manager.Mirrors) (now : ℚ) :
    (init disk manager.files now manager.compression).Mirrors := by
  obtain ⟨left, hinit, -, hkept⟩ :=
    init_eq disk manager.files now manager.compression
  rw [hinit]
  refine Mirrors.removeEntries ⟨fun key hkey => ?_, fun key entry hentry => ?_,
    fun name hname => ?_⟩ _
  · rw [OrderedMap.mem_keys_iff_isSome, hmirrors.get?_loaded, Option.isSome_map,
      ← OrderedMap.mem_keys_iff_isSome] at hkey
    exact hmirrors.plain key hkey
  · dsimp only at hentry ⊢
    rw [hmirrors.get?_loaded] at hentry
    obtain ⟨old, hold, rfl⟩ := Option.map_eq_some_iff.mp hentry
    rcases hkept (getFilePath manager.compression key) with hsame | ⟨-, hlost⟩
    · rw [hsame]
      exact hmirrors.held key old hold
    · rw [hmirrors.read? hold] at hlost
      cases hlost
  · dsimp only at hname ⊢
    rcases hkept name with hsame | ⟨hnone, -⟩
    · rw [OrderedMap.mem_keys_iff_isSome, hsame, ← OrderedMap.mem_keys_iff_isSome] at hname
      obtain ⟨key, hkey, rfl⟩ := hmirrors.named name hname
      refine ⟨key, ?_, rfl⟩
      rwa [OrderedMap.mem_keys_iff_isSome, hmirrors.get?_loaded, Option.isSome_map,
        ← OrderedMap.mem_keys_iff_isSome]
    · exact absurd hname (OrderedMap.not_mem_keys_iff.mpr hnone)

theorem Mirrors.cachePlaces (hmirrors : manager.Mirrors) (now : ℚ) (search : PlaceSearch)
    (placesData : List PyDict) :
    (manager.cachePlaces disk.toGeoEnv now search placesData .written).Mirrors := by
  unfold GeographicCacheManager.cachePlaces
  split
  · exact hmirrors
  · refine ⟨fun key hkey => ?_, fun key entry hentry => ?_, fun name hname => ?_⟩
    · rcases OrderedMap.mem_keys_set.mp hkey with rfl | hold
      · exact plainKey_generateCacheKey disk search
      · exact hmirrors.plain key hold
    · simp only [saveToDisk, OrderedMap.get?_set] at hentry ⊢
      split at hentry
      · rename_i hkey
        cases hentry
        rw [hkey, if_pos rfl]
        rfl
      · rename_i hkey
        rw [if_neg fun hpath => hkey (getFilePath_inj hpath)]
        exact hmirrors.held key entry hentry
    · rcases OrderedMap.mem_keys_set.mp hname with rfl | hold
      · exact ⟨_, OrderedMap.mem_keys_set.mpr (.inl rfl), rfl⟩
      · obtain ⟨key, hkey, rfl⟩ := hmirrors.named name hold
        exact ⟨key, OrderedMap.mem_keys_set.mpr (.inr hkey), rfl⟩

/-- A search changes no file and leaves every entry as it was stored. -/
theorem Mirrors.getCachedPlaces (hmirrors : manager.Mirrors) (now : ℚ) (search : PlaceSearch) :
    Mirrors { manager with
      memoryCache := (getCachedPlaces env manager.memoryCache now search).2 } := by
  have hstored := get?_getCachedPlaces_asStored env manager.memoryCache now search
  have hkeys : ∀ key, key ∈ (Places.getCachedPlaces env manager.memoryCache now search).2.keys ↔
      key ∈ manager.memoryCache.keys := by
    intro key
    have hsome := congrArg Option.isSome (hstored key)
    rw [Option.isSome_map, Option.isSome_map] at hsome
    rw [OrderedMap.mem_keys_iff_isSome, hsome, ← OrderedMap.mem_keys_iff_isSome]
  refine ⟨fun key hkey => hmirrors.plain key ((hkeys key).mp hkey), fun key entry hentry => ?_,
    fun name hname => ?_⟩
  · have hold := hstored key
    dsimp only at hentry ⊢
    rw [hentry] at hold
    obtain ⟨old, hfound, hsame⟩ := Option.map_eq_some_iff.mp hold.symm
    rw [hmirrors.held key old hfound, hsame]
  · obtain ⟨key, hkey, hpath⟩ := hmirrors.named name hname
    exact ⟨key, (hkeys key).mpr hkey, hpath⟩

theorem Mirrors.afterEvent {event : ManagerEvent} (hmirrors : manager.Mirrors)
    (hkeeps : event.Keeps manager.compression) :
    (afterEvent disk manager event).Mirrors := by
  cases event with
  | restart now compression =>
      cases hkeeps
      exact hmirrors.init now
  | call call outcome =>
      cases hkeeps
      cases call with
      | store now search placesData => exact hmirrors.cachePlaces now search placesData
      | query now search => exact hmirrors.getCachedPlaces now search
      | clear now olderThanHours =>
          cases olderThanHours with
          | none => exact mirrors_cleared manager.compression
          | some hours => exact hmirrors.removeEntries _

theorem compression_afterEvent (disk : GeoDisk) {event : ManagerEvent}
    (hkeeps : event.Keeps manager.compression) :
    (Places.afterEvent disk manager event).compression = manager.compression := by
  cases event with
  | restart now compression =>
      cases hkeeps
      obtain ⟨left, hinit, -, -⟩ := init_eq disk manager.files now manager.compression
      simp only [Places.afterEvent, hinit, cleanupExpired, compression_removeEntries]
  | call call outcome =>
      cases call with
      | store now search placesData =>
          simp only [Places.afterEvent, GeographicCacheManager.cachePlaces, saveToDisk]
          split
          · rfl
          · cases outcome <;> rfl
      | query now search => rfl
      | clear now olderThanHours =>
          cases olderThanHours with
          | none => rfl
          | some hours => exact compression_removeEntries _

theorem compression_runEnd (disk : GeoDisk) (manager : GeographicCacheManager)
    {events : List ManagerEvent} (hevents : ∀ event ∈ events, event.Keeps manager.compression) :
    (runEnd (Places.afterEvent disk) manager events).compression = manager.compression := by
  induction events generalizing manager with
  | nil => rfl
  | cons event rest ih =>
      obtain ⟨hkeeps, hrest⟩ := List.forall_mem_cons.mp hevents
      have hsame := compression_afterEvent disk hkeeps
      rw [← hsame] at hrest
      exact (ih _ hrest).trans hsame

theorem Mirrors.runEnd (disk : GeoDisk) (hmirrors : manager.Mirrors)
    (hevents : ∀ event ∈ events, event.Keeps manager.compression) :
    (runEnd (Places.afterEvent disk) manager events).Mirrors := by
  induction events generalizing manager with
  | nil => exact hmirrors
  | cons event rest ih =>
      obtain ⟨hkeeps, hrest⟩ := List.forall_mem_cons.mp hevents
      apply ih (hmirrors.afterEvent hkeeps)
      rwa [compression_afterEvent disk hkeeps]

end GeographicCacheManager

/-! ## The rest of the run -/

/-- When a call is made. -/
def CacheCall.time : CacheCall → ℚ
  | .store now _ _ | .query now _ | .clear now _ => now

/-- A cache has the entries of another one as they were stored, but for those that were too
old at some time. -/
def Refreshes (restart : ℚ) (cache refreshed : MemoryCache) : Prop :=
  ∀ key, (refreshed.get? key).map CacheEntry.asStored =
    ((cache.get? key).map CacheEntry.asStored).filter fun entry => !entry.isExpired restart

variable {cache refreshed : MemoryCache} {restart : ℚ}

theorem refreshes_init (disk : GeoDisk) (hmirrors : manager.Mirrors) (restart : ℚ) :
    Refreshes restart manager.memoryCache
      (GeographicCacheManager.init disk manager.files restart
        manager.compression).memoryCache := by
  intro key
  rw [get?_init, hmirrors.get?_loaded]
  cases manager.memoryCache.get? key with
  | none => rfl
  | some entry =>
      rw [Option.map_some, Option.filter_some]
      split <;> rfl

/-- Places live for some time. -/
theorem calculateTtl_nonneg (env : GeoEnv) (placeTypes : List String) :
    0 ≤ calculateTtl env placeTypes := by
  have hdefault : 0 ≤ defaultTtl env := by
    unfold defaultTtl
    positivity
  have hnamed : ∀ entry ∈ ttlByType, 0 ≤ entry.2 := by
    unfold ttlByType
    simp
  have hof : ∀ placeType, 0 ≤ (ttlByType.lookup placeType).getD (defaultTtl env) := by
    intro placeType
    cases hlookup : ttlByType.lookup placeType with
    | none => exact hdefault
    | some ttl =>
        obtain ⟨before, after, hsplit, -⟩ := List.lookup_eq_some_iff.mp hlookup
        exact hnamed (placeType, ttl) (by simp [hsplit])
  cases placeTypes with
  | nil => exact hdefault
  | cons first rest =>
      have hleast : ∀ ttl : ℚ, 0 ≤ ttl → 0 ≤ rest.foldl (fun ttl placeType =>
          min ttl ((ttlByType.lookup placeType).getD (defaultTtl env))) ttl := by
        induction rest with
        | nil => exact fun ttl httl => httl
        | cons second rest ih => exact fun ttl httl => ih _ (le_min httl (hof second))
      exact hleast _ (hof first)

/-- What is stored later was not too old before. -/
theorem not_isExpired_newEntry (env : GeoEnv) (hnow : restart ≤ now) (search : PlaceSearch)
    (placesData : List PyDict) :
    (newEntry env now search placesData).isExpired restart = false := by
  have httl := calculateTtl_nonneg env search.placeTypes
  have hyoung : restart - now ≤ calculateTtl env search.placeTypes := by linarith
  exact decide_eq_false (not_lt.mpr hyoung)

/-- A call keeps a cache the same but for what was too old. -/
theorem Refreshes.afterCall (hrefreshes : Refreshes restart cache refreshed) {call : CacheCall}
    (hcall : restart ≤ call.time) :
    Refreshes restart (afterCall env cache call) (afterCall env refreshed call) := by
  intro key
  cases call with
  | query now search =>
      simp only [Places.afterCall]
      rw [get?_getCachedPlaces_asStored, get?_getCachedPlaces_asStored]
      exact hrefreshes key
  | clear now olderThanHours =>
      cases olderThanHours with
      | none => rfl
      | some hours =>
          have hfilter : ∀ entry : Option CacheEntry,
              (entry.filter fun entry => !decide (hours * 3600 < now - entry.createdAt)).map
                CacheEntry.asStored = (entry.map CacheEntry.asStored).filter fun entry =>
                  !decide (hours * 3600 < now - entry.createdAt) := by
            intro entry
            cases entry with
            | none => rfl
            | some entry =>
                rw [Option.map_some, Option.filter_some, Option.filter_some]
                show Option.map CacheEntry.asStored (if !decide (hours * 3600 <
                    now - entry.createdAt) then some entry else none) =
                  if !decide (hours * 3600 < now - entry.createdAt) then some entry.asStored
                  else none
                split <;> rfl
          simp only [Places.afterCall, clearCache]
          rw [OrderedMap.get?_filter, OrderedMap.get?_filter, hfilter, hfilter, hrefreshes key,
            Option.filter_filter, Option.filter_filter]
          simp only [Bool.and_comm]
  | store now search placesData =>
      simp only [Places.afterCall, cachePlaces]
      split
      · exact hrefreshes key
      · rw [OrderedMap.get?_set, OrderedMap.get?_set]
        split
        · have hyoung := not_isExpired_newEntry env hcall search placesData
          have hkeep : (!CacheEntry.isExpired restart (newEntry env now search placesData)) =
              true := by
            rw [Bool.not_eq_true']
            exact hyoung
          rw [Option.map_some, Option.filter_some]
          exact (if_pos hkeep).symm
        · exact hrefreshes key

theorem Refreshes.runEnd (hrefreshes : Refreshes restart cache refreshed) {later : List CacheCall}
    (hlater : ∀ call ∈ later, restart ≤ call.time) :
    Refreshes restart (runEnd (Places.afterCall env) cache later)
      (runEnd (Places.afterCall env) refreshed later) := by
  induction later generalizing cache refreshed with
  | nil => exact hrefreshes
  | cons call rest ih =>
      obtain ⟨hcall, hrest⟩ := List.forall_mem_cons.mp hlater
      exact ih (hrefreshes.afterCall hcall) hrest

/-- Accesses do not count for what an entry serves. -/
theorem servesSearch_asStored :
    servesSearch env now search entry.asStored = servesSearch env now search entry := rfl

/-- A search misses when no entry serves it. -/
theorem getCachedPlaces_eq_none_iff {cache : MemoryCache} :
    (getCachedPlaces env cache now search).1 = .ok none ↔
      ∀ key entry, cache.get? key = some entry → servesSearch env now search entry = false := by
  unfold getCachedPlaces
  constructor
  · intro hmiss key entry hentry
    split at hmiss
    · rename_i hnone
      have hno := List.find?_eq_none.mp hnone _ (OrderedMap.mem_of_get?_eq_some hentry)
      exact Bool.eq_false_of_not_eq_true hno
    · obtain ⟨results, -, hsome⟩ := exists_of_map_eq_ok hmiss
      cases hsome
  · intro hno
    have hnone : (cache.entries.find? fun entry => servesSearch env now search entry.2) = none := by
      refine List.find?_eq_none.mpr fun pair hpair => ?_
      rw [hno _ _ (OrderedMap.get?_eq_some_of_mem hpair)]
      exact Bool.false_ne_true
    rw [hnone]

/-- Later searches miss in both caches or in none. -/
theorem Refreshes.misses_iff (hrefreshes : Refreshes restart cache refreshed)
    (hnow : restart ≤ now) :
    (getCachedPlaces env refreshed now search).1 = .ok none ↔
      (getCachedPlaces env cache now search).1 = .ok none := by
  rw [getCachedPlaces_eq_none_iff, getCachedPlaces_eq_none_iff]
  constructor
  · intro hno key entry hentry
    have hkey := hrefreshes key
    rw [hentry, Option.map_some, Option.filter_some] at hkey
    split at hkey
    · obtain ⟨other, hother, hsame⟩ := Option.map_eq_some_iff.mp hkey
      rw [← servesSearch_asStored, ← hsame]
      exact hno key other hother
    · -- what was too old is too old
      rename_i hold
      rw [Bool.not_eq_true', Bool.not_eq_false] at hold
      have hexpired : entry.ttl < restart - entry.createdAt := of_decide_eq_true hold
      refine Bool.eq_false_of_not_eq_true fun hserves => ?_
      obtain ⟨-, -, -, hyoung⟩ := servesSearch_iff.mp hserves
      linarith
  · intro hno key entry hentry
    have hkey := hrefreshes key
    rw [hentry, Option.map_some, eq_comm, Option.filter_eq_some_iff] at hkey
    obtain ⟨other, hother, hsame⟩ := Option.map_eq_some_iff.mp hkey.1
    rw [← servesSearch_asStored, ← hsame]
    exact hno key other hother

/-- While files are written to their end and in one way, searches do not notice that the
process has started again: whatever is called after it, a search misses exactly when it would
have missed without. -/
theorem restart_unnoticed (disk : GeoDisk) (compression : Bool) (events : List ManagerEvent)
    (hevents : ∀ event ∈ events, event.Keeps compression) (restart : ℚ)
    (later : List (CacheCall × SaveOutcome)) (hlater : ∀ call ∈ later, restart ≤ call.1.time)
    (now : ℚ) (hnow : restart ≤ now) (search : PlaceSearch) :
    (getCachedPlaces disk.toGeoEnv
        (runEnd (afterEvent disk) { compression := compression }
          (events ++ .restart restart compression ::
            later.map fun call => .call call.1 call.2)).memoryCache now search).1 = .ok none ↔
      (getCachedPlaces disk.toGeoEnv
        (runEnd (afterEvent disk) { compression := compression }
          (events ++ later.map fun call => .call call.1 call.2)).memoryCache now search).1 =
        .ok none := by
  have hmirrors := (GeographicCacheManager.mirrors_cleared compression).runEnd disk hevents
  have hcompression := GeographicCacheManager.compression_runEnd disk
    { compression := compression } hevents
  have hcalls : ∀ call ∈ later.map Prod.fst, restart ≤ call.time := by
    intro call hcall
    obtain ⟨pair, hpair, rfl⟩ := List.mem_map.mp hcall
    exact hlater pair hpair
  rw [runEnd_append, runEnd_append, runEnd_cons, memoryCache_runEnd_calls,
    memoryCache_runEnd_calls]
  have hrefreshes := refreshes_init disk hmirrors restart
  rw [hcompression] at hrefreshes
  exact (hrefreshes.runEnd hcalls).misses_iff hnow

theorem restart_unnoticed_onMeridian :
    (getCachedPlaces equatorDisk.toGeoEnv
        (runEnd (afterEvent equatorDisk) { compression := true }
          ([.call (.store 10 (restaurantsNear 0) [restaurantAt 0]) .written] ++
            .restart 30 true ::
              [(CacheCall.query 40 (restaurantsNear 0), SaveOutcome.written)].map
                fun call => .call call.1 call.2)).memoryCache 60 (restaurantsNear 0)).1 =
        .ok none ↔
      (getCachedPlaces equatorDisk.toGeoEnv
        (runEnd (afterEvent equatorDisk) { compression := true }
          ([.call (.store 10 (restaurantsNear 0) [restaurantAt 0]) .written] ++
            [(CacheCall.query 40 (restaurantsNear 0), SaveOutcome.written)].map
              fun call => .call call.1 call.2)).memoryCache 60 (restaurantsNear 0)).1 =
        .ok none := by
  refine restart_unnoticed equatorDisk true _ (fun event hevent => ?_) 30 _
    (fun call hcall => ?_) 60 (by norm_num) (restaurantsNear 0)
  · rw [List.mem_singleton.mp hevent]
    rfl
  · rw [List.mem_singleton.mp hcall]
    norm_num [CacheCall.time]

end Goveling.Places
