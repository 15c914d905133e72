import PongDevice.Text.CString

/-! What the fingerprint service publishes about its sensor. The location comes out of a property
of three or four fields, of which the first three are numbers; whether they parse is not checked.
-/

namespace PongDevice.Fingerprint

-----------------------------------------------------------------------------------------
-- The service
-----------------------------------------------------------------------------------------

/-- The value of a system property; the generated accessors give none for the empty text. -/
abbrev PropertyText := { text : List Char // text ≠ [] }

/-- `value_or("")`. -/
def valueOrEmpty (property : Option PropertyText) : List Char :=
  (property.map Subtype.val).getD []

inductive FingerprintSensorType where
  | unknown
  | rear
  | underDisplayUltrasonic
  | underDisplayOptical
  | powerButton
  | homeButton
deriving DecidableEq, Repr

inductive SensorStrength where
  | convenience
  | weak
  | strong
deriving DecidableEq, Repr

/-- The members of the service that describe its sensor. -/
structure SensorMembers where
  mSensorType : FingerprintSensorType
  mMaxEnrollmentsPerUser : Int
deriving DecidableEq, Repr

def maxEnrollmentsPerUser : Int := 5

/-- What the constructor makes of the properties for the type and the number of enrollments. -/
def SensorMembers.make (type : Option PropertyText) (max_enrollments_per_user : Option Int)
    : SensorMembers where
  mSensorType :=
    let sensorTypeProp := valueOrEmpty type
    if sensorTypeProp = [] ∨ sensorTypeProp = "default".toList
        ∨ sensorTypeProp = "rear".toList then
      .rear
    else if sensorTypeProp = "udfps".toList then .underDisplayUltrasonic
    else if sensorTypeProp = "udfps_optical".toList then .underDisplayOptical
    else if sensorTypeProp = "side".toList then .powerButton
    else if sensorTypeProp = "home".toList then .homeButton
    else .unknown
  mMaxEnrollmentsPerUser := max_enrollments_per_user.getD maxEnrollmentsPerUser

structure ComponentInfo where
  componentId : String
  hardwareVersion : String
  firmwareVersion : String
  serialNumber : String
  softwareVersion : String
deriving DecidableEq, Repr

structure CommonProps where
  sensorId : Int
  sensorStrength : SensorStrength
  maxEnrollmentsPerUser : Int
  componentInfo : List ComponentInfo
deriving DecidableEq, Repr

structure SensorLocation where
  sensorLocationX : Int := 0
  sensorLocationY : Int := 0
  sensorRadius : Int := 0
  display : List Char := []
deriving DecidableEq, Repr

structure SensorProps where
  commonProps : CommonProps
  sensorType : FingerprintSensorType
  sensorLocations : List SensorLocation
  supportsNavigationGestures : Bool
  supportsDetectInteraction : Bool
  halHandlesDisplayTouches : Bool
  halControlsIllumination : Bool
  touchDetectionParameters : Option Unit
deriving DecidableEq, Repr

/-- `ParseInt` stores an `int32_t`, or it fails and leaves its output as it was. -/
structure BaseLibrary where
  ParseInt : List Char → Option Int
  Split : List Char → List (List Char)

/-- The fields are what stands between the separators, every one of which ends a field. -/
def BaseLibrary.SplitsOnEvery (base : BaseLibrary) : Prop :=
  ∀ text,
    base.Split text ≠ [] ∧ (∀ field ∈ base.Split text, '|' ∉ field)
    ∧ ['|'].intercalate (base.Split text) = text

/-- The warning about a location. -/
def invalidLocation (loc : List Char) : List Char :=
  "Invalid sensor location input (x|y|radius|display): ".toList ++ loc

/-- `sensorLocation` when the fields are read, and the warnings that are logged. -/
def readLocation (base : BaseLibrary) (loc : List Char)
    : SensorLocation × List (List Char) :=
  let sensorLocation : SensorLocation := {}
  let dim := base.Split loc
  if 3 ≤ dim.length ∧ dim.length ≤ 4 then
    ({
        sensorLocationX := (base.ParseInt (dim.getD 0 [])).getD sensorLocation.sensorLocationX
        sensorLocationY := (base.ParseInt (dim.getD 1 [])).getD sensorLocation.sensorLocationY
        sensorRadius := (base.ParseInt (dim.getD 2 [])).getD sensorLocation.sensorRadius
        display := if 4 ≤ dim.length then dim.getD 3 [] else sensorLocation.display
      },
      [])
  else if 0 < loc.length then
    (sensorLocation, [invalidLocation loc])
  else
    (sensorLocation, [])

/-- The properties of the sensor at a location. -/
def sensorProps (service : SensorMembers) (sensorLocation : SensorLocation) : SensorProps where
  commonProps :=
    {
      sensorId := 0
      sensorStrength := .strong
      maxEnrollmentsPerUser := service.mMaxEnrollmentsPerUser
      componentInfo :=
        [{
            componentId := "fingerprintSensor"
            hardwareVersion := "vendor/model/revision"
            firmwareVersion := "1.01"
            serialNumber := "00000001"
            softwareVersion := ""
          },
          {
            componentId := "matchingAlgorithm"
            hardwareVersion := ""
            firmwareVersion := ""
            serialNumber := ""
            softwareVersion := "vendor/version/revision"
          }]
    }
  sensorType := service.mSensorType
  sensorLocations := [sensorLocation]
  supportsNavigationGestures := false
  supportsDetectInteraction := false
  halHandlesDisplayTouches := false
  halControlsIllumination := false
  touchDetectionParameters := none

/-- What the call puts out, and the warnings that it logs. -/
def getSensorProps (base : BaseLibrary) (service : SensorMembers)
    (sensor_location : Option PropertyText)
    : List SensorProps × List (List Char) :=
  let (sensorLocation, warnings) := readLocation base (valueOrEmpty sensor_location)
  ([sensorProps service sensorLocation], warnings)

-----------------------------------------------------------------------------------------
-- The documented form
-----------------------------------------------------------------------------------------

/-- A text is `x|y|radius` or `x|y|radius|display`, with three integers. -/
inductive Documented (base : BaseLibrary) : List Char → SensorLocation → Prop where
  | located {x y radius : List Char} {sensorLocationX sensorLocationY sensorRadius : Int}
      (plain : ∀ field ∈ [x, y, radius], '|' ∉ field)
      (parsesX : base.ParseInt x = some sensorLocationX)
      (parsesY : base.ParseInt y = some sensorLocationY)
      (parsesRadius : base.ParseInt radius = some sensorRadius)
      : Documented base (x ++ '|' :: (y ++ '|' :: radius))
          { sensorLocationX, sensorLocationY, sensorRadius }
  | onDisplay {x y radius display : List Char}
      {sensorLocationX sensorLocationY sensorRadius : Int}
      (plain : ∀ field ∈ [x, y, radius, display], '|' ∉ field)
      (parsesX : base.ParseInt x = some sensorLocationX)
      (parsesY : base.ParseInt y = some sensorLocationY)
      (parsesRadius : base.ParseInt radius = some sensorRadius)
      : Documented base (x ++ '|' :: (y ++ '|' :: (radius ++ '|' :: display)))
          { sensorLocationX, sensorLocationY, sensorRadius, display }

/-- A documented value is published as it is, any other one as the default, with the warning. -/
structure PublishesWhole (base : BaseLibrary) (service : SensorMembers) (value : PropertyText)
    : Prop where
  documented :
    ∀ sensorLocation,
      Documented base value.val sensorLocation
      → getSensorProps base service (some value) = ([sensorProps service sensorLocation], [])
  malformed :
    (∀ sensorLocation, ¬ Documented base value.val sensorLocation)
    → getSensorProps base service (some value)
      = ([sensorProps service {}], [invalidLocation value.val])

variable {base : BaseLibrary} {service : SensorMembers}

-----------------------------------------------------------------------------------------
-- Fields
-----------------------------------------------------------------------------------------

/-- Fields that are joined are split again: the split of a text is the only way to write it as
fields.
-/
theorem split_intercalate (splits : base.SplitsOnEvery) {fields : List (List Char)}
    (nonempty : fields ≠ []) (plain : ∀ field ∈ fields, '|' ∉ field)
    : base.Split (['|'].intercalate fields) = fields := by
  obtain ⟨splitNonempty, splitPlain, join⟩ := splits (['|'].intercalate fields)
  calc
    base.Split (['|'].intercalate fields)
      = (['|'].intercalate (base.Split (['|'].intercalate fields))).splitOn '|' :=
        (List.splitOn_intercalate '|' splitPlain splitNonempty).symm
    _ = (['|'].intercalate fields).splitOn '|' := by rw [join]
    _ = fields := List.splitOn_intercalate '|' plain nonempty

/-- A text is documented when it has three or four fields, of which the first three are numbers. -/
theorem documented_iff (splits : base.SplitsOnEvery) {text : List Char}
    {location : SensorLocation}
    : Documented base text location
      ↔ ∃ x y radius rest,
          base.Split text = x :: y :: radius :: rest ∧ rest.length ≤ 1
          ∧ base.ParseInt x = some location.sensorLocationX
          ∧ base.ParseInt y = some location.sensorLocationY
          ∧ base.ParseInt radius = some location.sensorRadius
          ∧ rest.headD [] = location.display := by
  constructor
  · intro documented
    cases documented with
    | @located x y radius _ _ _ plain parsesX parsesY parsesRadius =>
        have fields := split_intercalate splits (List.cons_ne_nil _ _) plain
        exact ⟨x, y, radius, [], by simpa using fields, Nat.zero_le 1, parsesX, parsesY,
          parsesRadius, rfl⟩
    | @onDisplay x y radius display _ _ _ plain parsesX parsesY parsesRadius =>
        have fields := split_intercalate splits (List.cons_ne_nil _ _) plain
        exact ⟨x, y, radius, [display], by simpa using fields, Nat.le_refl 1, parsesX, parsesY,
          parsesRadius, rfl⟩
  · rintro ⟨x, y, radius, rest, fields, short, parsesX, parsesY, parsesRadius, display⟩
    obtain ⟨_, plain, join⟩ := splits text
    obtain ⟨_, _, _, _⟩ := location
    rw [fields] at plain join
    subst display
    match rest, short with
    | [], _ =>
        rw [← join]
        simpa using Documented.located plain parsesX parsesY parsesRadius
    | [_], _ =>
        rw [← join]
        simpa using Documented.onDisplay plain parsesX parsesY parsesRadius

/-- Three or four fields of which the first three are numbers document a location. -/
theorem exists_documented (splits : base.SplitsOnEvery) {text x y radius : List Char}
    {rest : List (List Char)} (fields : base.Split text = x :: y :: radius :: rest)
    (short : rest.length ≤ 1)
    (parses : ∀ field ∈ [x, y, radius], (base.ParseInt field).isSome = true)
    : ∃ location, Documented base text location := by
  obtain ⟨sensorLocationX, parsesX⟩ := Option.isSome_iff_exists.mp (parses x (by simp))
  obtain ⟨sensorLocationY, parsesY⟩ := Option.isSome_iff_exists.mp (parses y (by simp))
  obtain ⟨sensorRadius, parsesRadius⟩ := Option.isSome_iff_exists.mp (parses radius (by simp))
  exact ⟨{ sensorLocationX, sensorLocationY, sensorRadius, display := rest.headD [] },
    (documented_iff splits).mpr
      ⟨x, y, radius, rest, fields, short, parsesX, parsesY, parsesRadius, rfl⟩⟩

/-- Of three or four fields each goes into the location if it parses. -/
theorem readLocation_of_fields {loc x y radius : List Char} {rest : List (List Char)}
    (fields : base.Split loc = x :: y :: radius :: rest) (short : rest.length ≤ 1)
    : readLocation base loc
      = ({
            sensorLocationX := (base.ParseInt x).getD 0
            sensorLocationY := (base.ParseInt y).getD 0
            sensorRadius := (base.ParseInt radius).getD 0
            display := rest.headD []
          },
          []) := by
  match rest, short with
  | [], _ => simp [readLocation, fields]
  | [_], _ => simp [readLocation, fields]

/-- A documented location is read as it is. -/
theorem readLocation_of_documented (splits : base.SplitsOnEvery) {loc : List Char}
    {location : SensorLocation} (documented : Documented base loc location)
    : readLocation base loc = (location, []) := by
  obtain ⟨x, y, radius, rest, fields, short, parsesX, parsesY, parsesRadius, display⟩ :=
    (documented_iff splits).mp documented
  rw [readLocation_of_fields fields short, parsesX, parsesY, parsesRadius, display]
  rfl

/-- Any other number of fields leaves the location at its defaults, with the warning. -/
theorem readLocation_of_other {loc : List Char} (nonempty : loc ≠ [])
    (other : ¬ (3 ≤ (base.Split loc).length ∧ (base.Split loc).length ≤ 4))
    : readLocation base loc = ({}, [invalidLocation loc]) := by
  rw [readLocation, if_neg other, if_pos (List.length_pos_iff.mpr nonempty)]

/-- A value is read into the location that is published. -/
theorem getSensorProps_some (value : PropertyText)
    : getSensorProps base service (some value)
      = ([sensorProps service (readLocation base value.val).1],
          (readLocation base value.val).2) :=
  rfl

/-- Without a value the location is left at its defaults, without a warning. -/
theorem getSensorProps_none (splits : base.SplitsOnEvery)
    : getSensorProps base service none = ([sensorProps service {}], []) := by
  have fields : base.Split [] = [[]] :=
    @split_intercalate base splits [[]] (List.cons_ne_nil _ _) (by simp)
  simp [getSensorProps, readLocation, valueOrEmpty, fields]

/-- Three or four fields are three ones and at most one more. -/
theorem fields_of_length {fields : List (List Char)}
    (some : 3 ≤ fields.length ∧ fields.length ≤ 4)
    : ∃ x y radius rest, fields = x :: y :: radius :: rest ∧ rest.length ≤ 1 := by
  match fields, some with
  | x :: y :: radius :: rest, ⟨_, four⟩ =>
      simp only [List.length_cons] at four
      exact ⟨x, y, radius, rest, rfl, by omega⟩

-----------------------------------------------------------------------------------------
-- Main result
-----------------------------------------------------------------------------------------

/-- Unless there are three or four fields, or where there are, the first three are numbers. -/
def FieldsParse (base : BaseLibrary) (value : PropertyText) : Prop :=
  3 ≤ (base.Split value.val).length ∧ (base.Split value.val).length ≤ 4
  → ∀ field ∈ (base.Split value.val).take 3, (base.ParseInt field).isSome = true

/-- Three or four fields that do not all parse are published without a warning. -/
theorem fieldsParse_of_publishesWhole (splits : base.SplitsOnEvery) {value : PropertyText}
    (whole : PublishesWhole base service value)
    : FieldsParse base value := by
  intro some field member
  obtain ⟨x, y, radius, rest, fields, short⟩ := fields_of_length some
  by_contra fails
  have malformed : ∀ location, ¬ Documented base value.val location := by
    intro location documented
    obtain ⟨x', y', radius', rest', fields', _, parsesX, parsesY, parsesRadius, _⟩ :=
      (documented_iff splits).mp documented
    rw [fields'] at member
    apply fails
    rcases (by simpa using member) with rfl | rfl | rfl
    · exact Option.isSome_of_eq_some parsesX
    · exact Option.isSome_of_eq_some parsesY
    · exact Option.isSome_of_eq_some parsesRadius
  have warns := whole.malformed malformed
  rw [getSensorProps_some, readLocation_of_fields fields short] at warns
  exact absurd (Prod.mk.inj warns).2 (List.cons_ne_nil _ _).symm

/-- Where the fields parse, a value that is not documented has another number of them. -/
theorem publishesWhole_of_fieldsParse (splits : base.SplitsOnEvery) {value : PropertyText}
    (parse : FieldsParse base value)
    : PublishesWhole base service value where
  documented := by
    intro location documented
    rw [getSensorProps_some, readLocation_of_documented splits documented]
  malformed := by
    intro malformed
    have other
        : ¬ (3 ≤ (base.Split value.val).length ∧ (base.Split value.val).length ≤ 4) := by
      intro some
      obtain ⟨x, y, radius, rest, fields, short⟩ := fields_of_length some
      have parses := parse some
      rw [fields] at parses
      obtain ⟨location, documented⟩ := exists_documented splits fields short parses
      exact malformed location documented
    rw [getSensorProps_some, readLocation_of_other value.property other]

/-- A value is published whole or not at all exactly when its first three fields are numbers,
unless there are not three or four of them. Witness: the value that the device sets.
-/
theorem publishesWhole_iff (splits : base.SplitsOnEvery) (value : PropertyText)
    : PublishesWhole base service value ↔ FieldsParse base value :=
  ⟨fieldsParse_of_publishesWhole splits, publishesWhole_of_fieldsParse splits⟩

/-- No field holds the separator, by induction over the text. -/
theorem notMem_of_mem_splitOn {separator : Char} {text field : List Char}
    (member : field ∈ text.splitOn separator)
    : separator ∉ field := by
  induction text generalizing field with
  | nil =>
      rw [List.splitOn_nil, List.mem_singleton] at member
      exact member ▸ List.not_mem_nil
  | cons char rest ih =>
      rw [List.splitOn_cons_eq_if_modifyHead] at member
      split at member
      · rcases List.mem_cons.mp member with rfl | later
        · exact List.not_mem_nil
        · exact ih later
      · rename_i other
        obtain ⟨first, later, fields⟩ :=
          List.exists_cons_of_ne_nil (List.splitOn_ne_nil separator rest)
        rw [fields, List.modifyHead_cons] at member
        rcases List.mem_cons.mp member with rfl | after
        · intro inside
          rcases List.mem_cons.mp inside with same | inside
          · exact other (beq_iff_eq.mpr same.symm)
          · exact ih (fields ▸ List.mem_cons_self) inside
        · exact ih (fields ▸ List.mem_cons_of_mem first after)

/-- A library that splits texts, and reads decimal numbers as the real one does. -/
def decimalBase : BaseLibrary where
  ParseInt field := Text.stoi (String.ofList field)
  Split := List.splitOn '|'

theorem decimalBase_splitsOnEvery : decimalBase.SplitsOnEvery :=
  fun text => ⟨List.splitOn_ne_nil '|' text, fun _ => notMem_of_mem_splitOn,
    List.intercalate_splitOn '|'⟩

theorem publishesWhole_iff_pong
    : PublishesWhole decimalBase (.make none none) ⟨"540|2186|93".toList, by decide⟩ :=
  (publishesWhole_iff decimalBase_splitsOnEvery _).mpr (fun _ => by decide +kernel)

/-- A field that is no number leaves its coordinate at 0 beside the others, without a warning. -/
theorem publishesWhole_fails_partial
    : ¬ PublishesWhole decimalBase (.make none none) ⟨"540|y|93".toList, by decide⟩ := by
  intro whole
  have parses := fieldsParse_of_publishesWhole decimalBase_splitsOnEvery whole
    (by decide +kernel) "y".toList (by decide +kernel)
  revert parses
  decide +kernel

end PongDevice.Fingerprint
