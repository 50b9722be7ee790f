/-
# The schema of a request, read from dictionaries

A request is built from dictionaries as well as from the body of a call. Each
place is completed from its aliases and then read field by field: a number may
be given as its text, a type as any text, and a field that the schema does not
know is ignored. Whatever is accepted keeps the bounds of the schema, and the
place that an accepted one is dumped to is accepted again.
-/

import Goveling.Api.PlaceNormalization

namespace Goveling.Api.Hybrid

open Goveling.Python

/-! ## Reading values -/

/-- What is wrong with a value. -/
inductive ErrorType
  | missing
  | stringType
  | stringTooShort
  | stringTooLong
  | floatType
  | floatParsing
  | intType
  | intParsing
  | intFromFloat
  | greaterThanEqual
  | lessThanEqual
  | enum
  | tooLong
  | valueError (message : String)
  deriving DecidableEq, Repr

/-- An error of the validation: the path to the value, and what is wrong with it. -/
structure ValidationError where
  loc : List String
  type : ErrorType
  deriving DecidableEq, Repr

/-- A field of type `str`. -/
def readStr : PyVal → Except ErrorType String
  | .str text => .ok text
  | _ => .error .stringType

/-- A field of type `float`. -/
def readFloat : PyVal → Except ErrorType ℚ
  | .str text =>
      match finiteFloat? text with
      | some number => .ok number
      | none => .error .floatParsing
  | value =>
      match value.number? with
      | some number => .ok number
      | none => .error .floatType

/-- A field of type `int`: a number without decimals is one. -/
def readInt : PyVal → Except ErrorType ℤ
  | .str text =>
      match wholeNumber? (stripText text).toList with
      | some number => .ok number
      | none => .error .intParsing
  | .float number => if number.den = 1 then .ok number.num else .error .intFromFloat
  | value =>
      match value.whole? with
      | some number => .ok number
      | none => .error .intType

/-- `ge` and `le` of a field. -/
def checkRange {β : Type} [LinearOrder β] (lower upper : β) (number : β) :
    Except ErrorType β :=
  if number < lower then .error .greaterThanEqual
  else if upper < number then .error .lessThanEqual
  else .ok number

/-- A field without a default. Of the errors of a validation the first one is kept. -/
def requiredField {β : Type} (values : PyDict) (key : String)
    (read : PyVal → Except ErrorType β) : Except ValidationError β :=
  match values.lookup key with
  | none => .error { loc := [key], type := .missing }
  | some value => (read value).mapError fun type => { loc := [key], type := type }

/-- A field of an optional type, with its default. The default is not validated. -/
def optionalField {β : Type} (values : PyDict) (key : String) (default : Option β)
    (read : PyVal → Except ErrorType β) : Except ValidationError (Option β) :=
  match values.lookup key with
  | none => .ok default
  | some .none => .ok none
  | some value => ((read value).map some).mapError fun type => { loc := [key], type := type }

/-! ## Places -/

/-- `name_must_not_be_empty`, behind the bounds of the length. -/
def nameMustNotBeEmpty (value : PyVal) : Except ErrorType String := do
  let v ← readStr value
  if v.length < 1 then .error .stringTooShort
  else if 100 < v.length then .error .stringTooLong
  else if stripText v = "" then .error (.valueError "El nombre no puede estar vacío")
  else .ok (stripText v)

/-- The text of a coordinate is read before the field is. -/
def coordinate (message : String) : PyVal → Except ErrorType ℚ
  | .str v =>
      match finiteFloat? v with
      | some number => .ok number
      | none => .error (.valueError message)
  | v => readFloat v

/-- `validate_longitude`. -/
def validateLongitude : PyVal → Except ErrorType ℚ :=
  coordinate "La longitud debe ser un número válido"

/-- `validate_latitude`. -/
def validateLatitude : PyVal → Except ErrorType ℚ :=
  coordinate "La latitud debe ser un número válido"

/-- `category_mapping`. -/
def categoryMapping : List (String × PlaceType) :=
  [ ("restaurant", .restaurant),
    ("accommodation", .accommodation),
    ("shopping", .shopping),
    ("attraction", .touristAttraction),
    ("lodging", .lodging),
    ("cafe", .cafe),
    ("bar", .bar),
    ("store", .store),
    ("movie_theater", .movieTheater),
    ("museum", .museum),
    ("park", .park),
    ("church", .church),
    ("monument", .monument),
    ("beach", .beach),
    ("zoo", .zoo),
    ("night_club", .nightClub),
    ("shopping_mall", .shoppingMall),
    ("point_of_interest", .pointOfInterest),
    ("tourist_attraction", .touristAttraction),
    ("establishment", .establishment),
    ("food", .food)]

/-- `validate_type`: a text that is not in the mapping is a point of interest. -/
def validateType : PyVal → Except ErrorType PlaceType
  | .str v =>
      let normalizedType := replaceText (lowerText v) " " "_"
      .ok ((categoryMapping.lookup normalizedType).getD .pointOfInterest)
  | _ => .error .enum

/-- Of two keys for one thing, the one that is given is set for the other. -/
def fillAlias (first second : String) (values : PyDict) : PyDict :=
  match values.get first .none, values.get second .none with
  | .none, .none => values
  | .none, given => values.set first given
  | given, .none => values.set second given
  | _, _ => values

/-- `check_longitude_and_type`. -/
def checkLongitudeAndType (values : PyDict) : PyDict :=
  fillAlias "type" "category" (fillAlias "lon" "long" values)

/-- The validation of a place. -/
def validatePlace (values : PyDict) : Except ValidationError PlaceFields := do
  let values := checkLongitudeAndType values
  let id ← optionalField values "id" none readStr
  let name ← requiredField values "name" nameMustNotBeEmpty
  let lat ← requiredField values "lat" fun value =>
    validateLatitude value >>= checkRange (-90) 90
  let lon ← requiredField values "lon" fun value =>
    validateLongitude value >>= checkRange (-180) 180
  let long ← optionalField values "long" none validateLongitude
  let type ← optionalField values "type" none validateType
  let category ← optionalField values "category" none validateType
  let priority ← optionalField values "priority" (some 5) fun value =>
    readInt value >>= checkRange 1 10
  let minDurationHours ← optionalField values "min_duration_hours" none fun value =>
    readFloat value >>= checkRange (mkRat 1 2) 8
  let openingHours ← optionalField values "opening_hours" none readStr
  let rating ← optionalField values "rating" none fun value =>
    readFloat value >>= checkRange 0 5
  let image ← optionalField values "image" none readStr
  let address ← optionalField values "address" none readStr
  let googlePlaceId ← optionalField values "google_place_id" none readStr
  .ok
    { id := id
      name := name
      lat := lat
      lon := lon
      long := long
      type := type
      category := category
      priority := priority
      minDurationHours := minDurationHours
      openingHours := openingHours
      rating := rating
      image := image
      address := address
      googlePlaceId := googlePlaceId }

/-! ## Requests -/

/-- The fields of a request that is built of places and dates alone. The others have
their defaults. -/
structure RebuiltRequest where
  places : List PlaceFields
  startDate : Date
  endDate : Date

/-- The validation of the field `places`. -/
def validatePlaces (places : List PyDict) : Except ValidationError (List PlaceFields) :=
  if 50 < places.length then .error { loc := ["places"], type := .tooLong }
  else
    places.zipIdx.mapM fun entry =>
      (validatePlace entry.1).mapError fun e =>
        { e with loc := "places" :: toString entry.2 :: e.loc }

/-- `end_date_after_start`. -/
def endDateAfterStart (startDate endDate : Date) : Except ValidationError Date :=
  if endDate.toordinal < startDate.toordinal then
    .error
      { loc := ["end_date"]
        type := .valueError "Fecha fin debe ser posterior a fecha inicio" }
  else .ok endDate

/-- `ItineraryRequest(places=places, start_date=start_date, end_date=end_date)`. -/
def rebuildRequest (places : List PyDict) (startDate endDate : Date) :
    Except ValidationError RebuiltRequest := do
  let places ← validatePlaces places
  let endDate ← endDateAfterStart startDate endDate
  .ok { places := places, startDate := startDate, endDate := endDate }

/-! ## What is accepted is well formed -/

theorem checkRange_eq_ok_iff {β : Type} [LinearOrder β] {lower upper number result : β} :
    checkRange lower upper number = .ok result ↔
      result = number ∧ lower ≤ number ∧ number ≤ upper := by
  unfold checkRange
  split_ifs with hlow hhigh
  · exact iff_of_false nofun fun h => absurd hlow (not_lt.mpr h.2.1)
  · exact iff_of_false nofun fun h => absurd hhigh (not_lt.mpr h.2.2)
  · rw [Except.ok.injEq, eq_comm]
    exact (and_iff_left ⟨not_lt.mp hlow, not_lt.mp hhigh⟩).symm

theorem mapError_eq_ok_iff {ε δ β : Type} {f : ε → δ} {read : Except ε β} {result : β} :
    read.mapError f = .ok result ↔ read = .ok result := by
  cases read with
  | error e => exact iff_of_false nofun nofun
  | ok value => simp [Except.mapError]

theorem requiredField_eq_ok_iff {β : Type} {values : PyDict} {key : String}
    {read : PyVal → Except ErrorType β} {result : β} :
    requiredField values key read = .ok result ↔
      ∃ value, values.lookup key = some value ∧ read value = .ok result := by
  unfold requiredField
  cases values.lookup key with
  | none => simp
  | some value => simp [mapError_eq_ok_iff]

/-- A value of an optional field is its default or was read. -/
theorem optionalField_eq_ok {β : Type} {values : PyDict} {key : String} {default : Option β}
    {read : PyVal → Except ErrorType β} {result : Option β}
    (hfield : optionalField values key default read = .ok result) :
    ∀ number ∈ result, number ∈ default ∨ ∃ value, read value = .ok number := by
  intro number hnumber
  unfold optionalField at hfield
  split at hfield
  · cases hfield
    exact .inl hnumber
  · cases hfield
    cases hnumber
  · rename_i value _ _
    rw [mapError_eq_ok_iff] at hfield
    obtain ⟨read, hread, rfl⟩ := exists_of_map_eq_ok hfield
    cases hnumber
    exact .inr ⟨value, hread⟩

/-- A number that was read with bounds lies between them. -/
theorem range_of_read {β : Type} [LinearOrder β] {read : PyVal → Except ErrorType β}
    {lower upper number : β} {value : PyVal}
    (hread : (read value >>= checkRange lower upper) = .ok number) :
    lower ≤ number ∧ number ≤ upper := by
  obtain ⟨found, -, hrange⟩ := exists_of_bind_eq_ok hread
  obtain ⟨rfl, hbounds⟩ := checkRange_eq_ok_iff.mp hrange
  exact hbounds

theorem range_of_optionalField {β : Type} [LinearOrder β] {values : PyDict} {key : String}
    {default : Option β} {read : PyVal → Except ErrorType β} {lower upper : β}
    {result : Option β} (hdefault : ∀ number ∈ default, lower ≤ number ∧ number ≤ upper)
    (hfield : optionalField values key default
      (fun value => read value >>= checkRange lower upper) = .ok result) :
    ∀ number ∈ result, lower ≤ number ∧ number ≤ upper := by
  intro number hnumber
  rcases optionalField_eq_ok hfield number hnumber with hgiven | ⟨value, hread⟩
  · exact hdefault number hgiven
  · exact range_of_read hread

theorem range_of_requiredField {β : Type} [LinearOrder β] {values : PyDict} {key : String}
    {read : PyVal → Except ErrorType β} {lower upper result : β}
    (hfield : requiredField values key
      (fun value => read value >>= checkRange lower upper) = .ok result) :
    lower ≤ result ∧ result ≤ upper := by
  obtain ⟨value, -, hread⟩ := requiredField_eq_ok_iff.mp hfield
  exact range_of_read hread

theorem length_stripText_le (text : String) : (stripText text).length ≤ text.length := by
  unfold stripText
  rw [String.length_ofList, List.length_reverse, ← String.length_toList]
  calc _ ≤ ((text.toList.dropWhile Char.isWhitespace).reverse).length :=
        (List.dropWhile_sublist _).length_le
    _ = (text.toList.dropWhile Char.isWhitespace).length := List.length_reverse
    _ ≤ text.toList.length := (List.dropWhile_sublist _).length_le

theorem nameMustNotBeEmpty_eq_ok_iff {value : PyVal} {name : String} :
    nameMustNotBeEmpty value = .ok name ↔
      ∃ v, value = .str v ∧ 1 ≤ v.length ∧ v.length ≤ 100 ∧ stripText v ≠ "" ∧
        name = stripText v := by
  unfold nameMustNotBeEmpty
  cases value with
  | str v =>
      change ((if v.length < 1 then _ else _ : Except ErrorType String) = _) ↔ _
      split_ifs with hshort hlong hblank
      · simp [hshort]
      · simp [hlong]
      · simp [hblank]
      · rw [Except.ok.injEq, eq_comm]
        simp [hblank, not_lt.mp hshort, not_lt.mp hlong]
  | _ => exact iff_of_false nofun nofun

/-- What the fields of an accepted place were read from. -/
structure FieldsRead (values : PyDict) (fields : PlaceFields) : Prop where
  id : optionalField values "id" none readStr = .ok fields.id
  name : requiredField values "name" nameMustNotBeEmpty = .ok fields.name
  lat : requiredField values "lat"
    (fun value => validateLatitude value >>= checkRange (-90) 90) = .ok fields.lat
  lon : requiredField values "lon"
    (fun value => validateLongitude value >>= checkRange (-180) 180) = .ok fields.lon
  long : optionalField values "long" none validateLongitude = .ok fields.long
  type : optionalField values "type" none validateType = .ok fields.type
  category : optionalField values "category" none validateType = .ok fields.category
  priority : optionalField values "priority" (some 5)
    (fun value => readInt value >>= checkRange 1 10) = .ok fields.priority
  minDurationHours : optionalField values "min_duration_hours" none
    (fun value => readFloat value >>= checkRange (mkRat 1 2) 8) = .ok fields.minDurationHours
  openingHours : optionalField values "opening_hours" none readStr = .ok fields.openingHours
  rating : optionalField values "rating" none
    (fun value => readFloat value >>= checkRange 0 5) = .ok fields.rating
  image : optionalField values "image" none readStr = .ok fields.image
  address : optionalField values "address" none readStr = .ok fields.address
  googlePlaceId : optionalField values "google_place_id" none readStr = .ok fields.googlePlaceId

/-- A place is accepted when each of its fields is. -/
theorem validatePlace_eq_ok_iff {values : PyDict} {fields : PlaceFields} :
    validatePlace values = .ok fields ↔ FieldsRead (checkLongitudeAndType values) fields := by
  constructor
  · intro haccepted
    unfold validatePlace at haccepted
    obtain ⟨id, hid, haccepted⟩ := exists_of_bind_eq_ok haccepted
    obtain ⟨name, hname, haccepted⟩ := exists_of_bind_eq_ok haccepted
    obtain ⟨lat, hlat, haccepted⟩ := exists_of_bind_eq_ok haccepted
    obtain ⟨lon, hlon, haccepted⟩ := exists_of_bind_eq_ok haccepted
    obtain ⟨long, hlong, haccepted⟩ := exists_of_bind_eq_ok haccepted
    obtain ⟨type, htype, haccepted⟩ := exists_of_bind_eq_ok haccepted
    obtain ⟨category, hcategory, haccepted⟩ := exists_of_bind_eq_ok haccepted
    obtain ⟨priority, hpriority, haccepted⟩ := exists_of_bind_eq_ok haccepted
    obtain ⟨minDurationHours, hduration, haccepted⟩ := exists_of_bind_eq_ok haccepted
    obtain ⟨openingHours, hhours, haccepted⟩ := exists_of_bind_eq_ok haccepted
    obtain ⟨rating, hrating, haccepted⟩ := exists_of_bind_eq_ok haccepted
    obtain ⟨image, himage, haccepted⟩ := exists_of_bind_eq_ok haccepted
    obtain ⟨address, haddress, haccepted⟩ := exists_of_bind_eq_ok haccepted
    obtain ⟨googlePlaceId, hgoogle, haccepted⟩ := exists_of_bind_eq_ok haccepted
    cases haccepted
    exact ⟨hid, hname, hlat, hlon, hlong, htype, hcategory, hpriority, hduration, hhours, hrating,
      himage, haddress, hgoogle⟩
  · intro hread
    unfold validatePlace
    dsimp only
    rw [hread.id, hread.name, hread.lat, hread.lon, hread.long, hread.type, hread.category,
      hread.priority, hread.minDurationHours, hread.openingHours, hread.rating, hread.image,
      hread.address, hread.googlePlaceId]
    rfl

/-- A place that is accepted keeps the bounds of the schema. -/
theorem valid_of_validatePlace {values : PyDict} {fields : PlaceFields}
    (haccepted : validatePlace values = .ok fields) : fields.Valid := by
  have hread := validatePlace_eq_ok_iff.mp haccepted
  obtain ⟨value, -, hname⟩ := requiredField_eq_ok_iff.mp hread.name
  obtain ⟨v, -, -, hlength, hblank, hstripped⟩ := nameMustNotBeEmpty_eq_ok_iff.mp hname
  have hnonempty : (stripText v).length ≠ 0 := mt String.length_eq_zero_iff.mp hblank
  exact
    { name := by
        rw [hstripped]
        exact ⟨Nat.one_le_iff_ne_zero.mpr hnonempty, (length_stripText_le v).trans hlength⟩
      lat := range_of_requiredField hread.lat
      lon := range_of_requiredField hread.lon
      priority :=
        range_of_optionalField (fun number hnumber => by cases hnumber; decide) hread.priority
      minDurationHours :=
        range_of_optionalField (fun _ hnone => absurd hnone (Option.not_mem_none _))
          hread.minDurationHours
      rating :=
        range_of_optionalField (fun _ hnone => absurd hnone (Option.not_mem_none _))
          hread.rating }

/-- The fields of every place of an accepted request are well formed, and there are at
most fifty of them. -/
theorem wellFormed_of_rebuildRequest {places : List PyDict} {startDate endDate : Date}
    {rebuilt : RebuiltRequest} (haccepted : rebuildRequest places startDate endDate = .ok rebuilt) :
    rebuilt.places.length ≤ 50 ∧ (∀ fields ∈ rebuilt.places, fields.Valid) ∧
      rebuilt.startDate.toordinal ≤ rebuilt.endDate.toordinal := by
  unfold rebuildRequest at haccepted
  obtain ⟨accepted, hplaces, haccepted⟩ := exists_of_bind_eq_ok haccepted
  obtain ⟨last, hlast, haccepted⟩ := exists_of_bind_eq_ok haccepted
  cases haccepted
  unfold validatePlaces at hplaces
  unfold endDateAfterStart at hlast
  split at hplaces
  · cases hplaces
  · rename_i hlength
    split at hlast
    · cases hlast
    · rename_i hdates
      cases hlast
      refine ⟨?_, ?_, not_lt.mp hdates⟩
      · have hsame := (forall₂_of_mapM_eq_ok hplaces).length_eq
        rw [List.length_zipIdx] at hsame
        exact hsame ▸ not_lt.mp hlength
      · intro fields hfields
        obtain ⟨entry, -, hentry⟩ := (mem_of_mapM_eq_ok hplaces).mp hfields
        exact valid_of_validatePlace (mapError_eq_ok_iff.mp hentry)

/-! ## Fields that the schema does not know -/

/-- The keys that the validation of a place reads. -/
def placeKeys : List String :=
  [ "id", "name", "lat", "lon", "long", "type", "category", "priority", "min_duration_hours",
    "opening_hours", "rating", "image", "address", "google_place_id"]

/-- Two dictionaries agree in the fields of a place. -/
def SameFields (values others : PyDict) : Prop :=
  ∀ key ∈ placeKeys, values.lookup key = others.lookup key

theorem SameFields.set {values others : PyDict} (hsame : SameFields values others)
    (key : String) (value : PyVal) : SameFields (values.set key value) (others.set key value) := by
  intro other hother
  by_cases hkey : other = key
  · rw [hkey, PyDict.lookup_set_self, PyDict.lookup_set_self]
  · rw [PyDict.lookup_set_of_ne hkey, PyDict.lookup_set_of_ne hkey, hsame other hother]

theorem SameFields.fillAlias {values others : PyDict} (hsame : SameFields values others)
    {first second : String} (hfirst : first ∈ placeKeys) (hsecond : second ∈ placeKeys) :
    SameFields (fillAlias first second values) (fillAlias first second others) := by
  unfold Hybrid.fillAlias PyDict.get
  rw [hsame first hfirst, hsame second hsecond]
  split
  · exact hsame
  · exact hsame.set first _
  · exact hsame.set second _
  · exact hsame

/-- Only the fields of a place decide what becomes of it. -/
theorem SameFields.validatePlace_eq {values others : PyDict} (hsame : SameFields values others) :
    validatePlace values = validatePlace others := by
  have hcompleted : SameFields (checkLongitudeAndType values) (checkLongitudeAndType others) :=
    (hsame.fillAlias (by decide) (by decide)).fillAlias (by decide) (by decide)
  have hrequired : ∀ {β : Type} (read : PyVal → Except ErrorType β), ∀ key ∈ placeKeys,
      requiredField (checkLongitudeAndType values) key read =
        requiredField (checkLongitudeAndType others) key read := by
    intro β read key hkey
    unfold requiredField
    rw [hcompleted key hkey]
  have hoptional : ∀ {β : Type} (default : Option β) (read : PyVal → Except ErrorType β),
      ∀ key ∈ placeKeys,
        optionalField (checkLongitudeAndType values) key default read =
          optionalField (checkLongitudeAndType others) key default read := by
    intro β default read key hkey
    unfold optionalField
    rw [hcompleted key hkey]
  unfold validatePlace
  dsimp only
  rw [hoptional _ _ "id" (by decide), hrequired _ "name" (by decide),
    hrequired _ "lat" (by decide), hrequired _ "lon" (by decide),
    hoptional _ _ "long" (by decide), hoptional _ _ "type" (by decide),
    hoptional _ _ "category" (by decide), hoptional _ _ "priority" (by decide),
    hoptional _ _ "min_duration_hours" (by decide), hoptional _ _ "opening_hours" (by decide),
    hoptional _ _ "rating" (by decide), hoptional _ _ "image" (by decide),
    hoptional _ _ "address" (by decide), hoptional _ _ "google_place_id" (by decide)]

/-! ## Dumped places -/

/-- The type that the mapping has for a type. -/
def PlaceType.mapped (type : PlaceType) : PlaceType :=
  (categoryMapping.lookup (replaceText (lowerText type.value) " " "_")).getD .pointOfInterest

/-- The fields of a place after its dump was read: the aliases are filled, and the
types are mapped. -/
def PlaceFields.completed (fields : PlaceFields) : PlaceFields :=
  { fields with
    long := some (fields.long.getD fields.lon)
    type := (fields.type <|> fields.category).map PlaceType.mapped
    category := (fields.category <|> fields.type).map PlaceType.mapped }

/-- A value other than `None` is read. -/
theorem optionalField_of_lookup {β : Type} {values : PyDict} {key : String} {value : PyVal}
    (hvalue : values.lookup key = some value) (hne : value ≠ .none) (default : Option β)
    (read : PyVal → Except ErrorType β) :
    optionalField values key default read =
      ((read value).map some).mapError fun type => { loc := [key], type := type } := by
  unfold optionalField
  rw [hvalue]
  split
  · contradiction
  · rename_i heq
    exact absurd (Option.some.inj heq) hne
  · rename_i heq
    rw [Option.some.inj heq]

theorem optionalField_orNone {β : Type} {values : PyDict} {key : String} {default field : Option β}
    {read : PyVal → Except ErrorType β} (toVal : β → PyVal)
    (hvalue : values.lookup key = some (orNone toVal field))
    (hread : ∀ value ∈ field, toVal value ≠ .none ∧ read (toVal value) = .ok value) :
    optionalField values key default read = .ok field := by
  cases field with
  | none =>
      unfold optionalField
      rw [hvalue]
      rfl
  | some value =>
      obtain ⟨hne, hread⟩ := hread value rfl
      rw [optionalField_of_lookup hvalue hne]
      unfold orNone
      rw [hread]
      rfl

theorem read_range {β : Type} [LinearOrder β] {read : PyVal → Except ErrorType β}
    {lower upper number : β} {value : PyVal} (hread : read value = .ok number)
    (hrange : lower ≤ number ∧ number ≤ upper) :
    (read value >>= checkRange lower upper) = .ok number := by
  rw [hread]
  exact checkRange_eq_ok_iff.mpr ⟨rfl, hrange⟩

theorem nameMustNotBeEmpty_of_valid {fields : PlaceFields} (hvalid : fields.Valid)
    (hstripped : stripText fields.name = fields.name) :
    nameMustNotBeEmpty (.str fields.name) = .ok fields.name := by
  refine nameMustNotBeEmpty_eq_ok_iff.mpr
    ⟨fields.name, rfl, hvalid.name.1, hvalid.name.2, ?_, hstripped.symm⟩
  rw [hstripped]
  intro hempty
  have hlength := hvalid.name.1
  rw [hempty] at hlength
  exact absurd hlength (by decide)

/-- A field that has no other name is left as it is. -/
theorem lookup_fillAlias_of_ne {first second key : String} (hfirst : key ≠ first)
    (hsecond : key ≠ second) (values : PyDict) :
    (fillAlias first second values).lookup key = values.lookup key := by
  unfold fillAlias
  split
  · rfl
  · exact PyDict.lookup_set_of_ne hfirst
  · exact PyDict.lookup_set_of_ne hsecond
  · rfl

section Dumped

variable (place : Place)

theorem Place.lookup_lon_modelDump :
    (checkLongitudeAndType place.modelDump).lookup "lon" = some (.float place.lon) := by
  unfold checkLongitudeAndType
  rw [lookup_fillAlias_of_ne (by decide) (by decide)]
  obtain ⟨⟨_, _, _, _, long⟩, _⟩ := place
  cases long <;> rfl

theorem Place.lookup_long_modelDump :
    (checkLongitudeAndType place.modelDump).lookup "long" =
      some (.float (place.long.getD place.lon)) := by
  unfold checkLongitudeAndType
  rw [lookup_fillAlias_of_ne (by decide) (by decide)]
  obtain ⟨⟨_, _, _, _, long⟩, _⟩ := place
  cases long <;> rfl

/-- Both names of the type are filled from the one that the place has. -/
theorem Place.types_modelDump :
    optionalField (checkLongitudeAndType place.modelDump) "type" none validateType =
        .ok place.completed.type ∧
      optionalField (checkLongitudeAndType place.modelDump) "category" none validateType =
        .ok place.completed.category := by
  obtain ⟨⟨_, _, _, _, long, type, category⟩, _⟩ := place
  cases long <;> cases type <;> cases category <;> exact ⟨rfl, rfl⟩

/-- A place that was accepted is accepted again from its dump. -/
theorem Place.validatePlace_modelDump (hstripped : stripText place.name = place.name) :
    validatePlace place.modelDump = .ok place.completed := by
  have hkept : ∀ key ∉ ["lon", "long", "type", "category"],
      (checkLongitudeAndType place.modelDump).lookup key = place.modelDump.lookup key := by
    intro key hkey
    simp only [List.mem_cons, List.not_mem_nil, or_false, not_or] at hkey
    unfold checkLongitudeAndType
    rw [lookup_fillAlias_of_ne hkey.2.2.1 hkey.2.2.2, lookup_fillAlias_of_ne hkey.1 hkey.2.1]
  have hname := nameMustNotBeEmpty_of_valid place.valid hstripped
  rw [validatePlace_eq_ok_iff]
  exact
    { id := optionalField_orNone .str (hkept "id" (by decide)) fun _ _ => ⟨nofun, rfl⟩
      name := requiredField_eq_ok_iff.mpr ⟨_, hkept "name" (by decide), hname⟩
      lat := requiredField_eq_ok_iff.mpr
        ⟨_, hkept "lat" (by decide), read_range rfl place.valid.lat⟩
      lon := requiredField_eq_ok_iff.mpr
        ⟨_, place.lookup_lon_modelDump, read_range rfl place.valid.lon⟩
      long := optionalField_of_lookup place.lookup_long_modelDump nofun _ _
      type := place.types_modelDump.1
      category := place.types_modelDump.2
      priority := optionalField_orNone .int (hkept "priority" (by decide)) fun value hvalue =>
        ⟨nofun, read_range rfl (place.valid.priority value hvalue)⟩
      minDurationHours :=
        optionalField_orNone .float (hkept "min_duration_hours" (by decide)) fun value hvalue =>
          ⟨nofun, read_range rfl (place.valid.minDurationHours value hvalue)⟩
      openingHours :=
        optionalField_orNone .str (hkept "opening_hours" (by decide)) fun _ _ => ⟨nofun, rfl⟩
      rating := optionalField_orNone .float (hkept "rating" (by decide)) fun value hvalue =>
        ⟨nofun, read_range rfl (place.valid.rating value hvalue)⟩
      image := optionalField_orNone .str (hkept "image" (by decide)) fun _ _ => ⟨nofun, rfl⟩
      address := optionalField_orNone .str (hkept "address" (by decide)) fun _ _ => ⟨nofun, rfl⟩
      googlePlaceId :=
        optionalField_orNone .str (hkept "google_place_id" (by decide)) fun _ _ => ⟨nofun, rfl⟩ }

end Dumped

end Goveling.Api.Hybrid
