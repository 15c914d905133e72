import PongDevice.Settings.OtgSwitch

/-! The places that show the switch for USB OTG: its tile and the settings page. Each shows what it
looked at last, and only the page looks at the node.
-/

namespace PongDevice.Settings

open PongDevice.Thermal (SysFile)
open PongDevice.Transition

-----------------------------------------------------------------------------------------
-- The page, the tile and the node
-----------------------------------------------------------------------------------------

/-- A switch of a page. -/
structure TwoStatePreference where
  mChecked : Bool := false
  mCheckedSet : Bool := false
deriving DecidableEq, Repr

namespace TwoStatePreference

/-- `setChecked`, which persists a change, and the first value that it is given. -/
def setChecked (preference : TwoStatePreference) (stored : Option Bool) (checked : Bool)
    : TwoStatePreference × Option Bool :=
  if preference.mChecked ≠ checked ∨ preference.mCheckedSet = false then
    ({ mChecked := checked, mCheckedSet := true }, some checked)
  else
    (preference, stored)

/-- The switch as the page inflates it: it is set to what is stored, if anything is. -/
def attached (stored : Option Bool) : TwoStatePreference × Option Bool :=
  match stored with
  | some value => ({} : TwoStatePreference).setChecked stored value
  | none => ({}, none)

end TwoStatePreference

/-- The device with the switches of the pages that are open, and the state of the tile as it was
last drawn, while the tile is shown.
-/
structure OtgSurfaces where
  device : OtgDevice
  pages : List TwoStatePreference := []
  tile : Option Bool := none

namespace OtgSurfaces

/-- `DeviceExtras.onCreatePreferences`, the part about the switch, which is removed from the page if
it is not supported.
-/
def onCreatePreferences (surfaces : OtgSurfaces) : OtgSurfaces :=
  let (mOTGModeSwitch, stored) := TwoStatePreference.attached surfaces.device.otgSwitch
  if surfaces.device.isSupported then
    let (mOTGModeSwitch, otgSwitch) :=
      mOTGModeSwitch.setChecked stored surfaces.device.isCurrentlyEnabled
    {
      device := { surfaces.device with otgSwitch }
      pages := surfaces.pages ++ [mOTGModeSwitch]
      tile := surfaces.tile
    }
  else
    surfaces

/-- `OTGTileService.updateState`. -/
def updateState (surfaces : OtgSurfaces) : OtgSurfaces :=
  { surfaces with tile := some surfaces.device.getEnabled }

/-- What is done in the settings and in the panel, the boot broadcast, a line that the driver puts
into the node, and a restart of the device, after which the node has a line of the driver's.
-/
inductive Event where
  | onCreatePreferences
  | onDestroy (index : Nat)
  | toggle (index : Nat)
  | onStartListening
  | onStopListening
  | onClick
  | onReceive
  | driver (line : String)
  | restart (line : String)
deriving DecidableEq, Repr

/-- A line that the driver puts into the node. -/
def put (device : OtgDevice) (line : String) : OtgDevice :=
  { device with node := { device.node with line := some line } }

/-- A switch that is toggled asks its listener and stores its new value. -/
def step (surfaces : OtgSurfaces) : Event → Option OtgSurfaces
  | .onCreatePreferences => some surfaces.onCreatePreferences
  | .onDestroy index => some { surfaces with pages := surfaces.pages.eraseIdx index }
  | .toggle index =>
      surfaces.pages[index]?.map (fun preference =>
        let newValue := !preference.mChecked
        let device := surfaces.device.onPreferenceChange newValue
        { surfaces with
          device
          pages := surfaces.pages.set index (preference.setChecked device.otgSwitch newValue).1
        })
  | .onStartListening => some surfaces.updateState
  | .onStopListening => some { surfaces with tile := none }
  | .onClick =>
      if surfaces.tile.isSome then
        some { surfaces with device := surfaces.device.onClick }.updateState
      else
        none
  | .onReceive => some { surfaces with device := surfaces.device.onReceive }
  | .driver line => some { surfaces with device := put surfaces.device line }
  | .restart line => some { device := put surfaces.device line }

end OtgSurfaces

def surfacesMachine : Machine OtgSurfaces OtgSurfaces.Event where
  step := OtgSurfaces.step

-----------------------------------------------------------------------------------------
-- What is shown against the node
-----------------------------------------------------------------------------------------

namespace OtgSurfaces

variable {before after : OtgSurfaces}

/-- The stored preference, each open page and the tile are what the node is read as. -/
structure Truthful (surfaces : OtgSurfaces) : Prop where
  stored : surfaces.device.Agrees
  pages : ∀ page ∈ surfaces.pages, page.mChecked = surfaces.device.isCurrentlyEnabled
  tile : ∀ shown ∈ surfaces.tile, shown = surfaces.device.isCurrentlyEnabled

/-- The condition on a step: the tile is clicked while no page is open, a page is used while neither
another page nor the tile is there to see, a boot finds the switch off, and the driver keeps to what
is stored.
-/
def keepsTruth (surfaces : OtgSurfaces) : Event → Prop
  | .toggle _ => surfaces.pages.length = 1 ∧ surfaces.tile = none
  | .onClick => surfaces.pages = []
  | .onReceive => surfaces.device.bootsOff .onReceive
  | .driver line | .restart line => (put surfaces.device line).Agrees
  | .onCreatePreferences | .onDestroy _ | .onStartListening | .onStopListening => True

instance (surfaces : OtgSurfaces) (event : Event) : Decidable (surfaces.keepsTruth event) := by
  unfold keepsTruth
  split <;> infer_instance

/-- A page that is opened stores what the node is read as, and shows it. -/
theorem onCreatePreferences_eq (supported : before.device.isSupported = true)
    : before.onCreatePreferences
      = {
          device := { before.device with otgSwitch := some before.device.isCurrentlyEnabled }
          pages :=
            before.pages ++ [{ mChecked := before.device.isCurrentlyEnabled, mCheckedSet := true }]
          tile := before.tile
        } := by
  simp only [onCreatePreferences, supported, if_true]
  cases before.device.otgSwitch with
  | none =>
      cases before.device.isCurrentlyEnabled <;> rfl
  | some stored =>
      cases stored <;> cases before.device.isCurrentlyEnabled <;> rfl

/-- What the tile or a page has written is what the node is read as. -/
theorem isCurrentlyEnabled_written (readsBack : ReadsBack before.device.node) (enabled : Bool)
    : OtgDevice.isCurrentlyEnabled
        {
          node := Settings.put before.device.node (if enabled then "3" else "4")
          otgSwitch := some enabled
        }
      = enabled :=
  (OtgDevice.agrees_put readsBack enabled).symm

/-- Opening a page brings the preference in line with the node, whatever it was. -/
theorem truthful_onCreatePreferences (readsBack : ReadsBack before.device.node)
    (pages : ∀ page ∈ before.pages, page.mChecked = before.device.isCurrentlyEnabled)
    (tile : ∀ shown ∈ before.tile, shown = before.device.isCurrentlyEnabled)
    : before.onCreatePreferences.Truthful := by
  rw [onCreatePreferences_eq readsBack.canWrite]
  exact {
    stored := rfl
    pages := by
      intro page member
      rcases List.mem_append.mp member with old | new
      · exact pages page old
      · obtain rfl := List.mem_singleton.mp new
        rfl
    tile := tile
  }

/-- A switch that is toggled leaves behind what shows the old value: the tile and the other pages. -/
theorem truthful_toggle_iff (readsBack : ReadsBack before.device.node) (truthful : before.Truthful)
    {index : Nat} (taken : before.step (.toggle index) = some after)
    : after.Truthful ↔ before.pages.length = 1 ∧ before.tile = none := by
  obtain ⟨preference, present, rfl⟩ := Option.map_eq_some_iff.mp taken
  have shown := truthful.pages preference (List.mem_of_getElem? present)
  have written := isCurrentlyEnabled_written readsBack (!preference.mChecked)
  have sets (stored : Option Bool)
      : (preference.setChecked stored (!preference.mChecked)).1.mChecked
        = !preference.mChecked := by
    simp [TwoStatePreference.setChecked]
  constructor
  · intro after
    refine ⟨?_, ?_⟩
    · by_contra several
      have inside := (List.getElem?_eq_some_iff.mp present).1
      obtain ⟨other, there, apart⟩ : ∃ other, other < before.pages.length ∧ other ≠ index := by
        by_cases first : index = 0
        · exact ⟨1, by omega, by omega⟩
        · exact ⟨0, by omega, fun same => first same.symm⟩
      have old := truthful.pages _ (List.getElem_mem there)
      have new := after.pages before.pages[other] (List.mem_of_getElem? (by
        rw [List.getElem?_set_ne apart.symm, List.getElem?_eq_getElem there]))
      rw [old, ← shown] at new
      exact absurd (new.trans written) (by simp)
    · cases tile : before.tile with
      | none => rfl
      | some drawn =>
          have old := truthful.tile drawn tile
          have new := after.tile drawn tile
          rw [old, ← shown] at new
          exact absurd (new.trans written) (by simp)
  · rintro ⟨single, dark⟩
    exact {
      stored := OtgDevice.agrees_put readsBack (!preference.mChecked)
      pages := by
        intro page member
        obtain ⟨only, pages⟩ := List.length_eq_one_iff.mp single
        have first : index = 0 := by
          have inside := (List.getElem?_eq_some_iff.mp present).1
          omega
        subst first
        simp only [pages, List.set_cons_zero, List.mem_singleton] at member
        subst member
        exact (sets _).trans written.symm
      tile := by simp [dark]
    }

/-- A click on the tile leaves behind every page that is open. -/
theorem truthful_onClick_iff (readsBack : ReadsBack before.device.node) (truthful : before.Truthful)
    (taken : before.step .onClick = some after)
    : after.Truthful ↔ before.pages = [] := by
  simp only [step, Option.ite_none_right_eq_some, Option.some.injEq] at taken
  obtain ⟨-, rfl⟩ := taken
  have written := isCurrentlyEnabled_written readsBack (!before.device.getEnabled)
  constructor
  · intro after
    rw [List.eq_nil_iff_forall_not_mem]
    intro page member
    have old := truthful.pages page member
    have new := after.pages page member
    rw [old, ← truthful.stored] at new
    exact absurd (new.trans written) (by simp)
  · intro none
    exact {
      stored := OtgDevice.agrees_put readsBack (!before.device.getEnabled)
      pages := by simp [updateState, none]
      tile := by
        intro drawn shown
        obtain rfl := Option.some.inj shown
        exact OtgDevice.agrees_put readsBack (!before.device.getEnabled)
    }

/-- After a step everything shows the node exactly when the step keeps to its condition. -/
theorem truthful_step_iff {event : Event} (readsBack : ReadsBack before.device.node)
    (truthful : before.Truthful) (taken : before.step event = some after)
    : after.Truthful ↔ before.keepsTruth event := by
  cases event with
  | toggle index => exact truthful_toggle_iff readsBack truthful taken
  | onClick => exact truthful_onClick_iff readsBack truthful taken
  | onCreatePreferences =>
      obtain rfl := Option.some.inj taken
      exact iff_of_true (truthful_onCreatePreferences readsBack truthful.pages truthful.tile) trivial
  | onDestroy index =>
      obtain rfl := Option.some.inj taken
      refine iff_of_true { truthful with pages := fun page member => ?_ } trivial
      exact truthful.pages page (List.mem_of_mem_eraseIdx member)
  | onStartListening =>
      obtain rfl := Option.some.inj taken
      refine iff_of_true { truthful with tile := fun drawn shown => ?_ } trivial
      obtain rfl := Option.some.inj shown
      exact truthful.stored
  | onStopListening =>
      obtain rfl := Option.some.inj taken
      exact iff_of_true { truthful with tile := by simp } trivial
  | onReceive =>
      obtain rfl := Option.some.inj taken
      refine ⟨fun after => (OtgDevice.agrees_onReceive_iff readsBack).mp after.stored, ?_⟩
      rintro ⟨off, -⟩
      have same : before.device.onReceive = before.device := by
        simp [OtgDevice.onReceive, off]
      rw [same]
      exact truthful
  | driver line =>
      obtain rfl := Option.some.inj taken
      refine ⟨fun after => after.stored, fun agrees => ?_⟩
      have reading
          : (put before.device line).isCurrentlyEnabled = before.device.isCurrentlyEnabled :=
        agrees.symm.trans truthful.stored
      exact {
        stored := agrees
        pages := fun page member => (truthful.pages page member).trans reading.symm
        tile := fun drawn shown => (truthful.tile drawn shown).trans reading.symm
      }
  | restart line =>
      obtain rfl := Option.some.inj taken
      exact ⟨fun after => after.stored, fun agrees => ⟨agrees, by simp, by simp⟩⟩

/-- Every step keeps a node that reads back. -/
theorem readsBack_step {event : Event} (readsBack : ReadsBack before.device.node)
    (taken : before.step event = some after)
    : ReadsBack after.device.node := by
  cases event with
  | onCreatePreferences =>
      obtain rfl := Option.some.inj taken
      rw [onCreatePreferences_eq readsBack.canWrite]
      exact readsBack
  | toggle index =>
      obtain ⟨preference, -, rfl⟩ := Option.map_eq_some_iff.mp taken
      exact (readsBack.put _).2
  | onClick =>
      simp only [step, Option.ite_none_right_eq_some, Option.some.injEq] at taken
      obtain ⟨-, rfl⟩ := taken
      exact (readsBack.put _).2
  | onReceive =>
      obtain rfl := Option.some.inj taken
      exact @OtgDevice.readsBack_step before.device _ .onReceive readsBack rfl
  | onDestroy | onStartListening | onStopListening =>
      obtain rfl := Option.some.inj taken
      exact readsBack
  | driver line | restart line =>
      obtain rfl := Option.some.inj taken
      exact { readsBack with }

end OtgSurfaces

/-- Whatever is stored and whatever the node holds as the settings are opened: from then on, over
every order of what is done in the settings and in the panel, of boots and of lines of the driver,
the stored preference, every open page and the tile always show what the node is read as exactly in
the runs whose steps keep to their conditions.
-/
theorem otg_surfaces_agree_iff (device : OtgDevice) (readsBack : ReadsBack device.node)
    (events : List OtgSurfaces.Event)
    : surfacesMachine.Always OtgSurfaces.Truthful
        (OtgSurfaces.onCreatePreferences { device }) events
      ↔ surfacesMachine.Along (fun before event _ => before.keepsTruth event)
          (OtgSurfaces.onCreatePreferences { device }) events := by
  refine Machine.always_iff_along
    (fun surfaces : OtgSurfaces => ReadsBack surfaces.device.node ∧ surfaces.Truthful)
    (fun _ sound => sound.2) ?_ ?_ ?_ (Machine.along_true _ _)
  · rintro before event after ⟨readsBack, truthful⟩ taken - keeps
    exact ⟨OtgSurfaces.readsBack_step readsBack taken,
      (OtgSurfaces.truthful_step_iff readsBack truthful taken).mpr keeps⟩
  · rintro before event after ⟨readsBack, truthful⟩ taken - holds
    exact (OtgSurfaces.truthful_step_iff readsBack truthful taken).mp holds
  · refine ⟨?_, OtgSurfaces.truthful_onCreatePreferences readsBack (by simp) (by simp)⟩
    rw [@OtgSurfaces.onCreatePreferences_eq { device } readsBack.canWrite]
    exact readsBack

/-- The page switches on, the tile off again once the page is closed; the device restarts and
boots, and the page is opened another time.
-/
theorem otg_surfaces_agree_iff_used
    : surfacesMachine.Always OtgSurfaces.Truthful
        (OtgSurfaces.onCreatePreferences { device := unswitchedDevice })
        [.toggle 0, .onDestroy 0, .onStartListening, .onClick, .onStopListening, .restart "4",
          .onReceive, .onCreatePreferences] :=
  (otg_surfaces_agree_iff unswitchedDevice ⟨rfl, rfl, rfl, rfl⟩ _).mpr (by decide +kernel)

-- The switch is stored as on when the device restarts: the boot writes a code that is not read as
-- on, and the page that is opened then stores off.
example
    : (surfacesMachine.run { device := unswitchedDevice }
        [.onStartListening, .onClick, .restart "4", .onReceive, .onCreatePreferences]).map
          (fun surfaces => surfaces.device.otgSwitch)
      = some (some false) := by
  decide +kernel

end PongDevice.Settings
