import PongDevice.Thermal.FileUtils
import PongDevice.Transition.Machine

/-! The switch for USB OTG. Its tile, its preference and the receiver of the boot broadcast write
the same node, and one function reads it.
-/

namespace PongDevice.Settings

open PongDevice.Thermal
open PongDevice.Transition

/-- The characters that a dot in a pattern does not match. -/
def lineTerminators : List Char := ['\n', '\r', '\u0085', '\u2028', '\u2029']

/-- What the longest match of `.*= ` leaves of a text, if there is one. -/
def afterAssignment : List Char → Option (List Char)
  | [] => none
  | char :: rest =>
      let longer := if char ∈ lineTerminators then none else afterAssignment rest
      longer.or (if char = '=' ∧ rest.head? = some ' ' then some rest.tail else none)

/-- `replaceAll(".+= ", "")` from left to right. Each round takes a character at least, so that
the length of the text is enough fuel.
-/
def withoutAssignments : Nat → List Char → List Char
  | 0, text => text
  | _ + 1, [] => []
  | fuel + 1, char :: rest =>
      match if char ∈ lineTerminators then none else afterAssignment rest with
      | some after => withoutAssignments fuel after
      | none => char :: withoutAssignments fuel rest

/-- `FileUtils.readLine`; `none` is null. -/
def readLine (file : SysFile) : Option String :=
  if file.reads then
    file.line.map (fun line =>
      String.ofList (withoutAssignments line.toList.length line.toList))
  else
    none

def getFileValueAsBoolean (file : SysFile) (defValue : Bool) (trueVal falseVal : String) : Bool :=
  match readLine file with
  | some fileValue =>
      if fileValue = trueVal then true else if fileValue = falseVal then false else defValue
  | none => defValue

/-- `FileUtils.writeValue` of a text, whose result no caller looks at. -/
def put (file : SysFile) (value : String) : SysFile :=
  if file.opensForWriting && file.takes then { file with line := some value } else file

/-- It is the same write as among the files of the limiter. -/
theorem writeValue_eq_put (files : Files) (path : Path) (value : String)
    : (writeValue files path (some value)).map Prod.fst
      = some (Function.update files path (put (files path) value)) := by
  cases opens : (files path).opensForWriting with
  | false => simp [writeValue, put, opens]
  | true => cases takes : (files path).takes <;> simp [writeValue, put, opens, takes]

/-- A node that does all that is asked of it. -/
def nodeReading (line : String) : SysFile where
  canRead := true
  canWrite := true
  reads := true
  opensForWriting := true
  takes := true
  line := some line

example : readLine (nodeReading "otg = on= 3") = some "3" := by decide +kernel

-----------------------------------------------------------------------------------------
-- The writers and the reader of the node
-----------------------------------------------------------------------------------------

/-- The preference that is stored under `KEY_OTG_SWITCH`, and the node `nt_otg_enable`. -/
structure OtgDevice where
  otgSwitch : Option Bool
  node : SysFile

namespace OtgDevice

/-- `OTGModeSwitch.isSupported`. -/
def isSupported (device : OtgDevice) : Bool := device.node.canWrite

/-- `OTGModeSwitch.isCurrentlyEnabled`. -/
def isCurrentlyEnabled (device : OtgDevice) : Bool :=
  device.isSupported && getFileValueAsBoolean device.node false "3" "4"

/-- `OTGTileService.getEnabled`, which reads the preference. -/
def getEnabled (device : OtgDevice) : Bool := device.otgSwitch.getD false

/-- `OTGTileService.setEnabled`. -/
def setEnabled (device : OtgDevice) (enabled : Bool) : OtgDevice where
  node := put device.node (if enabled then "3" else "4")
  otgSwitch := some enabled

/-- `OTGTileService.onClick`. -/
def onClick (device : OtgDevice) : OtgDevice := device.setEnabled (!device.getEnabled)

/-- `OTGModeSwitch.onPreferenceChange`, which lets the change be persisted. -/
def onPreferenceChange (device : OtgDevice) (newValue : Bool) : OtgDevice where
  node := put device.node (if newValue then "3" else "4")
  otgSwitch := some newValue

/-- `Startup.restore`. -/
def restore (device : OtgDevice) (enabled : Bool) : OtgDevice :=
  if enabled then { device with node := put device.node "1" } else device

/-- `Startup.onReceive`, the part about the switch. -/
def onReceive (device : OtgDevice) : OtgDevice :=
  let enabled := device.getEnabled
  if device.isSupported && enabled then device.restore enabled else device

inductive Action where
  | onClick
  | onPreferenceChange (newValue : Bool)
  | onReceive
deriving DecidableEq, Repr

def step (device : OtgDevice) : Action → Option OtgDevice
  | .onClick => some device.onClick
  | .onPreferenceChange newValue => some (device.onPreferenceChange newValue)
  | .onReceive => some device.onReceive

end OtgDevice

def otgMachine : Machine OtgDevice OtgDevice.Action where
  step := OtgDevice.step

-----------------------------------------------------------------------------------------
-- The stored preference against the node
-----------------------------------------------------------------------------------------

/-- The node is supported, takes what is written and reads it back. -/
structure ReadsBack (file : SysFile) : Prop where
  canWrite : file.canWrite = true
  reads : file.reads = true
  opensForWriting : file.opensForWriting = true
  takes : file.takes = true

/-- A write stores its text, and the node keeps reading back. -/
theorem ReadsBack.put {file : SysFile} (readsBack : ReadsBack file) (value : String)
    : (put file value).line = some value ∧ ReadsBack (put file value) := by
  have same : Settings.put file value = { file with line := some value } := by
    simp [Settings.put, readsBack.opensForWriting, readsBack.takes]
  rw [same]
  exact ⟨rfl, readsBack.canWrite, readsBack.reads, readsBack.opensForWriting, readsBack.takes⟩

namespace OtgDevice

variable {before after : OtgDevice}

/-- The stored preference is what the node is read as. -/
def Agrees (device : OtgDevice) : Prop := device.getEnabled = device.isCurrentlyEnabled

instance (device : OtgDevice) : Decidable device.Agrees :=
  inferInstanceAs (Decidable (_ = _))

/-- The condition on a step: a boot finds the preference off and the node not reading 3. -/
def bootsOff (device : OtgDevice) : Action → Prop
  | .onReceive => device.getEnabled = false ∧ readLine device.node ≠ some "3"
  | _ => True

instance (device : OtgDevice) (action : Action) : Decidable (device.bootsOff action) :=
  match action with
  | .onReceive => inferInstanceAs (Decidable (_ ∧ _))
  | .onClick | .onPreferenceChange _ => .isTrue trivial

/-- A supported node is read as on exactly when its line reads 3. -/
theorem isCurrentlyEnabled_iff (readsBack : ReadsBack before.node)
    : before.isCurrentlyEnabled = true ↔ readLine before.node = some "3" := by
  simp only [isCurrentlyEnabled, isSupported, readsBack.canWrite, Bool.true_and,
    getFileValueAsBoolean]
  cases readLine before.node with
  | none => simp
  | some line =>
      by_cases on : line = "3"
      · simp [on]
      · simp [on]

/-- The node reads a text back that was written without an assignment in it. -/
theorem readLine_put {file : SysFile} (readsBack : ReadsBack file) {value : String}
    (plain : withoutAssignments value.toList.length value.toList = value.toList)
    : readLine (put file value) = some value := by
  obtain ⟨line, still⟩ := readsBack.put value
  rw [readLine, still.reads, line, if_pos rfl, Option.map_some, plain, String.ofList_toList]

/-- The code that the tile and the switch write is the one that is read. -/
theorem agrees_put (readsBack : ReadsBack before.node) (enabled : Bool)
    : Agrees
        {
          node := put before.node (if enabled then "3" else "4")
          otgSwitch := some enabled
        } := by
  have still := (readsBack.put (if enabled then "3" else "4")).2
  have code : readLine (put before.node (if enabled then "3" else "4"))
      = some (if enabled then "3" else "4") := by
    apply readLine_put readsBack
    cases enabled <;> decide
  rw [Agrees, Bool.eq_iff_iff, isCurrentlyEnabled_iff still, code]
  cases enabled <;> simp [getEnabled]

/-- A boot leaves the agreement exactly when it finds the preference off and the node too: it
restores with a code that is not read as on.
-/
theorem agrees_onReceive_iff (readsBack : ReadsBack before.node)
    : before.onReceive.Agrees
      ↔ before.getEnabled = false ∧ readLine before.node ≠ some "3" := by
  cases stored : before.getEnabled with
  | false =>
      have same : before.onReceive = before := by simp [onReceive, stored]
      rw [same, Agrees, stored, Ne, ← isCurrentlyEnabled_iff readsBack]
      cases before.isCurrentlyEnabled <;> simp
  | true =>
      have restored : before.onReceive = { before with node := put before.node "1" } := by
        simp [onReceive, stored, isSupported, readsBack.canWrite, restore]
      have code : readLine (put before.node "1") = some "1" := by
        apply readLine_put readsBack
        decide
      have kept : before.onReceive.getEnabled = true := by
        rw [restored]
        exact stored
      have off : before.onReceive.isCurrentlyEnabled ≠ true := by
        rw [restored, Ne, isCurrentlyEnabled_iff (readsBack.put "1").2, code]
        decide
      simp [Agrees, kept, off]

/-- Every step keeps a node that reads back. -/
theorem readsBack_step {action : Action} (readsBack : ReadsBack before.node)
    (taken : before.step action = some after)
    : ReadsBack after.node := by
  cases action with
  | onClick | onPreferenceChange =>
      obtain rfl := Option.some.inj taken
      exact (readsBack.put _).2
  | onReceive =>
      obtain rfl := Option.some.inj taken
      simp only [onReceive, restore]
      split
      · split
        · exact (readsBack.put _).2
        · exact readsBack
      · exact readsBack

/-- After a step, the node agrees with the preference exactly when the step is no boot or one
that finds both off.
-/
theorem agrees_step_iff {action : Action} (readsBack : ReadsBack before.node)
    (taken : before.step action = some after)
    : after.Agrees ↔ before.bootsOff action := by
  cases action with
  | onClick =>
      obtain rfl := Option.some.inj taken
      exact iff_of_true (agrees_put readsBack (!before.getEnabled)) trivial
  | onPreferenceChange newValue =>
      obtain rfl := Option.some.inj taken
      exact iff_of_true (agrees_put readsBack newValue) trivial
  | onReceive =>
      obtain rfl := Option.some.inj taken
      exact agrees_onReceive_iff readsBack

end OtgDevice

/-- After every step the stored preference is what the node is read as exactly when every boot
finds both off.
-/
theorem otg_agrees_iff (device : OtgDevice) (readsBack : ReadsBack device.node)
    (actions : List OtgDevice.Action)
    : otgMachine.Along (fun _ _ after => after.Agrees) device actions
      ↔ otgMachine.Along (fun before action _ => before.bootsOff action) device actions := by
  refine Machine.Along.congr (fun device : OtgDevice => ReadsBack device.node) ?_ ?_ readsBack
    (Machine.along_true _ _)
  · intro before action after sound taken _
    exact OtgDevice.agrees_step_iff sound taken
  · intro before action after sound taken _ _
    exact OtgDevice.readsBack_step sound taken

/-- A device that was never switched, whose node is off. -/
def unswitchedDevice : OtgDevice where
  otgSwitch := none
  node := nodeReading "4"

/-- The tile switches on and the preference off between two boots. -/
theorem otg_agrees_iff_boots
    : otgMachine.Along (fun _ _ after => after.Agrees) unswitchedDevice
        [.onReceive, .onClick, .onPreferenceChange false, .onReceive] :=
  (otg_agrees_iff unswitchedDevice ⟨rfl, rfl, rfl, rfl⟩ _).mpr (by decide +kernel)

/-- A boot with the preference on writes 1, which is not read as on. -/
theorem otg_agrees_fails_restored
    : ¬otgMachine.Along (fun _ _ after => after.Agrees) unswitchedDevice
        [.onClick, .onReceive] := by
  decide +kernel

end PongDevice.Settings
