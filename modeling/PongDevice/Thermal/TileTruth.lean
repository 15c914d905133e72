import PongDevice.Thermal.TileService

/-! What the tile says about the limiter is true whenever it says it, and the limiter throttles only
while the setting is on. Whether the tile shows the setting depends on the switch in the settings,
which does not tell the tile.
-/

namespace PongDevice.Thermal

open PongDevice.Transition

-----------------------------------------------------------------------------------------
-- What the tile says of the thermal state
-----------------------------------------------------------------------------------------

/-- What a subtitle says of the thermal state. -/
def Subtitle.TrueOf (state : ThermalState) : Subtitle → Prop
  | .off | .noApps => True
  | .idle => state = .normal
  | .throttling => state ≠ .normal
  | .reading named _ => state = named

/-- A tile is right about the thermal state, and is inactive exactly if it says so. -/
structure Tile.Right (tile : Tile) (state : ThermalState) : Prop where
  subtitle : tile.subtitle.TrueOf state
  active : tile.active = false ↔ tile.subtitle = .off

namespace Controls

variable {before after : Controls}

/-- What a summary says is right. -/
theorem right_stateTile (controls : Controls)
    : controls.stateTile.Right controls.app.mCurrentThermalState := by
  unfold stateTile getStatusSummary
  cases enabled : controls.enabled with
  | false => exact { subtitle := trivial, active := by simp }
  | true =>
      by_cases noApps : controls.app.prefs.apps.isEmpty = true
      · exact { subtitle := by simp [noApps, Subtitle.TrueOf], active := by simp [noApps] }
      · by_cases normal : controls.app.mCurrentThermalState = .normal
        · exact {
            subtitle := by simp [noApps, normal, Subtitle.TrueOf]
            active := by simp [noApps, normal]
          }
        · exact {
            subtitle := by simp [noApps, normal, Subtitle.TrueOf]
            active := by simp [noApps, normal]
          }

/-- So is what the tile is told of a state that was entered. -/
theorem right_infoTile (controls : Controls) {state : ThermalState} (temperature : Int)
    (entered : controls.app.mCurrentThermalState = state)
    : (controls.infoTile state temperature).Right controls.app.mCurrentThermalState := by
  unfold infoTile
  split
  · exact { subtitle := entered, active := by simp }
  · exact { subtitle := trivial, active := by simp }

/-- The tile of a service that is listening is right. -/
structure Right (controls : Controls) : Prop where
  listening : controls.mTile.isSome = true → controls.sInstance = true
  tile : ∀ tile ∈ controls.mTile, tile.Right controls.app.mCurrentThermalState

/-- A process that died has no tile. -/
theorem right_killed (controls : Controls) : controls.killed.Right where
  listening := by simp [killed]
  tile := by simp [killed]

/-- An update makes the tile right, whatever it was. -/
theorem right_updateState {controls : Controls}
    (listening : controls.mTile.isSome = true → controls.sInstance = true)
    : controls.updateState.Right where
  listening shown := listening (by simpa [updateState] using shown)
  tile tile shown := by
    obtain ⟨earlier, -, rfl⟩ := Option.mem_map.mp shown
    exact controls.right_stateTile

/-- A tile stays right as the limiter moves on and tells it what it did. -/
theorem Right.tell (right : before.Right) {app : App} {call : Option TileCall}
    (tells : App.Tells before.app.mCurrentThermalState app.mCurrentThermalState call)
    : ({ before with app }.tell call).Right := by
  cases listens : before.sInstance with
  | false =>
      have dark : before.mTile = none := by
        by_contra shown
        have woken := right.listening (Option.isSome_iff_ne_none.mpr shown)
        rw [listens] at woken
        cases woken
      simp only [Controls.tell, Bool.false_eq_true, if_false]
      exact { listening := by simp [dark], tile := by simp [dark] }
  | true =>
      simp only [Controls.tell, if_true]
      cases call with
      | none =>
          exact {
            listening := fun _ => rfl
            tile := fun tile shown => by
              have same : app.mCurrentThermalState = before.app.mCurrentThermalState := tells
              rw [same]
              exact right.tile tile shown
          }
      | some call =>
          cases call with
          | refreshTile => exact right_updateState (fun _ => rfl)
          | updateTileState state temperature =>
              exact {
                listening := fun _ => rfl
                tile := fun tile shown => by
                  obtain ⟨earlier, -, rfl⟩ := Option.mem_map.mp shown
                  exact right_infoTile _ temperature tells
              }

theorem Right.finish (right : before.Right) {outcome : Option App} {call : Option TileCall}
    (tells
      : ∀ app,
          outcome = some app
          → App.Tells before.app.mCurrentThermalState app.mCurrentThermalState call)
    : (before.finish outcome call).Right := by
  cases ran : outcome with
  | none => exact before.right_killed
  | some app => exact right.tell (tells app ran)

/-- A tile that is told nothing stays right while the state stays. -/
theorem Right.steady (right : before.Right) {app : App} (enabled : Bool)
    (same : app.mCurrentThermalState = before.app.mCurrentThermalState)
    : { before with app, enabled }.Right where
  listening := right.listening
  tile tile shown := same ▸ right.tile tile shown

end Controls

namespace App

/-- A start leaves the thermal state. -/
theorem mCurrentThermalState_startMonitoring (app : App) (display : Option Bool)
    : (app.startMonitoring display).mCurrentThermalState = app.mCurrentThermalState := by
  unfold startMonitoring
  split <;> rfl

/-- So does asking for an immediate check. -/
theorem mCurrentThermalState_requestImmediateCheck (app : App)
    : app.requestImmediateCheck.mCurrentThermalState = app.mCurrentThermalState := by
  obtain ⟨queue, same⟩ := requestImmediateCheck_eq app
  rw [same]

end App

namespace Controls

variable {before after : Controls}

theorem Right.stepLimiter {event : Thermal.Event} (right : before.Right)
    (taken : before.stepLimiter event = some after)
    : after.Right := by
  cases event with
  | startMonitoring | stopMonitoring => cases taken
  | dispatch index tasks =>
      obtain ⟨message, -, rfl⟩ := Option.map_eq_some_iff.mp taken
      refine right.finish (fun app ran => ?_)
      have told := App.runCallback_tells ran
      exact told
  | onReceive action =>
      obtain rfl := Option.some.inj taken
      exact right.finish (fun app received => App.onReceive_tells received)
  | die =>
      obtain rfl := Option.some.inj taken
      exact before.right_killed
  | onTaskStackChanged =>
      obtain rfl := Option.some.inj taken
      exact right.steady _ before.app.mCurrentThermalState_requestImmediateCheck
  | setSelectedApps packages =>
      obtain rfl := Option.some.inj taken
      exact right.steady _ (App.mCurrentThermalState_requestImmediateCheck _)
  | storeThresholds | changeFile =>
      obtain rfl := Option.some.inj taken
      exact right.steady _ rfl

/-- Starting and stopping tell the tile what they do. -/
theorem Right.apply (right : before.Right) (enabled : Bool) (display : Option Bool)
    : (before.apply enabled display).Right := by
  unfold Controls.apply
  split
  · exact right.steady _ (before.app.mCurrentThermalState_startMonitoring display)
  · exact right.finish (fun app stopped => App.stopMonitoring_tells stopped)

/-- Storing the setting says nothing of the thermal state. -/
theorem Right.store (right : before.Right) (enabled : Bool) : { before with enabled }.Right :=
  right.steady enabled rfl

theorem Right.step {event : Event} (right : before.Right) (taken : before.step event = some after)
    : after.Right := by
  cases event with
  | limiter event => exact right.stepLimiter taken
  | onCreate =>
      obtain rfl := Option.some.inj taken
      exact { listening := fun _ => rfl, tile := right.tile }
  | onDestroy =>
      obtain rfl := Option.some.inj taken
      exact { listening := nofun, tile := nofun }
  | onStartListening =>
      simp only [Controls.step] at taken
      split at taken
      · rename_i listens
        obtain rfl := Option.some.inj taken
        exact {
          listening := fun _ => listens
          tile := fun tile shown => by
            obtain rfl := Option.some.inj shown
            exact before.right_stateTile
        }
      · cases taken
  | onClick display =>
      simp only [Controls.step] at taken
      split at taken
      · obtain rfl := Option.some.inj taken
        exact right_updateState ((right.store _).apply _ display).listening
      · cases taken
  | onPreferenceChange newValue display =>
      obtain rfl := Option.some.inj taken
      rw [onPreferenceChange_eq]
      exact (right.apply newValue display).store newValue
  | onBoot display =>
      obtain rfl := Option.some.inj taken
      unfold onBoot
      split
      · exact right.steady _ (before.app.mCurrentThermalState_startMonitoring display)
      · exact right

-----------------------------------------------------------------------------------------
-- The setting
-----------------------------------------------------------------------------------------

/-- The limiter monitors only while the setting is on, and is in the normal state else. -/
structure Obeys (controls : Controls) : Prop where
  enabled : controls.app.mIsMonitoring = true → controls.enabled = true
  justified : ∃ last, Justified controls.app last

/-- The limiter has a reason to throttle after every step. -/
theorem justified_step {event : Event} (justified : ∃ last, Justified before.app last)
    (taken : before.step event = some after)
    : ∃ last, Justified after.app last := by
  obtain ⟨last, reason⟩ := justified
  rcases step_app taken with same | ⟨limiter, moved⟩
  · exact ⟨last, same ▸ reason⟩
  · exact ⟨_, App.step_justified reason moved⟩

/-- A limiter that is stopped is not monitoring. -/
theorem monitoring_apply_false (controls : Controls) (display : Option Bool)
    : (controls.apply false display).app.mIsMonitoring = false := by
  obtain ⟨app, stopped⟩ := Option.isSome_iff_exists.mp controls.app.stopMonitoring_isSome
  have left : (controls.apply false display).app = app := by simp [Controls.apply, stopped]
  rw [left]
  rcases App.stopMonitoring_cases stopped with ⟨idle, rfl⟩ | ⟨-, queue, reset, -, -, ran, rfl⟩
  · exact idle
  · obtain ⟨files, rfl⟩ := App.resetFrequencies_eq ran
    rfl

/-- A limiter is monitoring after a change of the setting only if it was turned on. -/
theorem enabled_of_apply {controls : Controls} {newValue : Bool} {display : Option Bool}
    (monitoring : (controls.apply newValue display).app.mIsMonitoring = true)
    : newValue = true := by
  cases newValue with
  | true => rfl
  | false =>
      rw [controls.monitoring_apply_false display] at monitoring
      cases monitoring

/-- Starting and stopping leave the setting. -/
@[simp]
theorem enabled_apply (controls : Controls) (newValue : Bool) (display : Option Bool)
    : (controls.apply newValue display).enabled = controls.enabled := by
  unfold Controls.apply
  split
  · rfl
  · simp

theorem Obeys.step {event : Event} (obeys : before.Obeys) (taken : before.step event = some after)
    : after.Obeys where
  justified := justified_step obeys.justified taken
  enabled := by
    intro monitoring
    cases event with
    | limiter event =>
        obtain ⟨moved, enabled, other⟩ := stepLimiter_app taken
        rw [enabled]
        exact obeys.enabled (App.monitoring_of_step moved other monitoring)
    | onCreate | onDestroy =>
        obtain rfl := Option.some.inj taken
        exact obeys.enabled monitoring
    | onStartListening =>
        simp only [Controls.step] at taken
        split at taken
        · obtain rfl := Option.some.inj taken
          exact obeys.enabled monitoring
        · cases taken
    | onClick display =>
        simp only [Controls.step] at taken
        split at taken
        · obtain rfl := Option.some.inj taken
          exact (enabled_apply _ _ _).trans (enabled_of_apply monitoring)
        · cases taken
    | onPreferenceChange newValue display =>
        obtain rfl := Option.some.inj taken
        rw [onPreferenceChange_eq] at monitoring ⊢
        exact enabled_of_apply monitoring
    | onBoot display =>
        obtain rfl := Option.some.inj taken
        unfold onBoot at monitoring ⊢
        split
        · rename_i allowed
          exact (Bool.and_eq_true_iff.mp allowed).2
        · rename_i refused
          rw [if_neg refused] at monitoring
          exact obeys.enabled monitoring

/-- The process as it starts, whatever setting is stored. -/
def booted (files : Files) (prefs : Prefs) (enabled : Bool) : Controls where
  app := .booted files prefs
  enabled := enabled

/-- The limiter and the tile are in order: the limiter monitors and throttles only while the
setting is on, and what the tile says of its state is so.
-/
structure InOrder (controls : Controls) : Prop where
  monitors : controls.app.mIsMonitoring = true → controls.enabled = true
  throttles : controls.app.mCurrentThermalState ≠ .normal → controls.enabled = true
  tile : ∀ tile ∈ controls.mTile, tile.Right controls.app.mCurrentThermalState

end Controls

/-- Whatever is tapped, switched, posted or received in whatever order, with the process dying and
the service coming and going at any time, the limiter and the tile are in order.
-/
theorem controls_in_order (files : Files) (prefs : Prefs) (enabled : Bool)
    (events : List Controls.Event)
    : controlsMachine.Always Controls.InOrder (.booted files prefs enabled) events := by
  refine Machine.Always.of_invariant (fun controls => controls.Right ∧ controls.Obeys) ?_ ?_ ?_
    (Machine.along_true _ _)
  · intro controls ⟨right, obeys⟩
    obtain ⟨last, justified⟩ := obeys.justified
    exact {
      monitors := obeys.enabled
      throttles := fun throttled => obeys.enabled (justified throttled).monitoring
      tile := right.tile
    }
  · exact fun _ _ _ ⟨right, obeys⟩ taken _ => ⟨right.step taken, obeys.step taken⟩
  · exact ⟨{ listening := nofun, tile := nofun },
      { enabled := nofun, justified := ⟨none, .of_normal rfl⟩ }⟩

-----------------------------------------------------------------------------------------
-- Whether the tile shows the setting
-----------------------------------------------------------------------------------------

namespace Controls

variable {before after : Controls}

/-- A tile that a service shows is active exactly if the setting is on. -/
structure Shows (controls : Controls) : Prop where
  listening : controls.mTile.isSome = true → controls.sInstance = true
  active : ∀ tile ∈ controls.mTile, tile.active = controls.enabled

@[simp]
theorem active_infoTile (controls : Controls) (state : ThermalState) (temperature : Int)
    : (controls.infoTile state temperature).active = controls.enabled := by
  unfold infoTile
  split
  · rename_i enabled
    exact enabled.symm
  · rename_i disabled
    exact (Bool.eq_false_iff.mpr disabled).symm

/-- An update shows the setting. -/
theorem shows_updateState {controls : Controls}
    (listening : controls.mTile.isSome = true → controls.sInstance = true)
    : controls.updateState.Shows where
  listening shown := listening (by simpa [updateState] using shown)
  active tile shown := by
    obtain ⟨earlier, -, rfl⟩ := Option.mem_map.mp shown
    rfl

/-- Whatever the tile is told, it is shown the setting with it. -/
theorem Shows.tell (sound : before.Shows) (call : Option TileCall)
    : (before.tell call).Shows := by
  unfold Controls.tell
  split
  · split
    · exact sound
    · exact shows_updateState sound.listening
    · exact {
        listening := fun shown => sound.listening (by simpa using shown)
        active := fun tile shown => by
          obtain ⟨earlier, -, rfl⟩ := Option.mem_map.mp shown
          exact before.active_infoTile _ _
      }
  · exact sound

theorem shows_killed (controls : Controls) : controls.killed.Shows where
  listening := by simp [killed]
  active := by simp [killed]

theorem Shows.move (sound : before.Shows) (app : App) : { before with app }.Shows where
  listening := sound.listening
  active := sound.active

theorem Shows.finish (sound : before.Shows) (outcome : Option App) (call : Option TileCall)
    : (before.finish outcome call).Shows := by
  cases outcome with
  | none => exact before.shows_killed
  | some app => exact (sound.move app).tell call

theorem Shows.apply (sound : before.Shows) (newValue : Bool) (display : Option Bool)
    : (before.apply newValue display).Shows := by
  unfold Controls.apply
  split
  · exact sound.move _
  · exact sound.finish _ _

/-- A call does not bring a tile or take it away. -/
@[simp]
theorem isSome_mTile_tell (controls : Controls) (call : Option TileCall)
    : (controls.tell call).mTile.isSome = controls.mTile.isSome := by
  unfold Controls.tell
  split
  · split <;> simp [updateState]
  · rfl

@[simp]
theorem sInstance_tell (controls : Controls) (call : Option TileCall)
    : (controls.tell call).sInstance = controls.sInstance := by
  unfold Controls.tell
  split
  · split <;> rfl
  · rfl

/-- Neither does a start or a stop, which leave the service. -/
theorem service_apply (controls : Controls) (newValue : Bool) (display : Option Bool)
    : (controls.apply newValue display).mTile.isSome = controls.mTile.isSome
      ∧ (controls.apply newValue display).sInstance = controls.sInstance := by
  unfold Controls.apply
  split
  · exact ⟨rfl, rfl⟩
  · obtain ⟨app, stopped⟩ := Option.isSome_iff_exists.mp controls.app.stopMonitoring_isSome
    simp [finish, stopped]

/-- The switch in the settings is not moved under a tile that is shown. -/
def switchesDark (before : Controls) (event : Event) (_ : Controls) : Prop :=
  match event with
  | .onPreferenceChange newValue _ => before.mTile = none ∨ newValue = before.enabled
  | _ => True

instance (before after : Controls) (event : Event)
    : Decidable (before.switchesDark event after) := by
  unfold switchesDark
  split <;> infer_instance

/-- Every step shows the setting, a switch only without a tile. -/
theorem Shows.step {event : Event} (sound : before.Shows) (taken : before.step event = some after)
    (dark : before.switchesDark event after)
    : after.Shows := by
  cases event with
  | limiter event =>
      cases event with
      | startMonitoring | stopMonitoring => cases taken
      | dispatch index tasks =>
          obtain ⟨message, -, rfl⟩ := Option.map_eq_some_iff.mp taken
          exact sound.finish _ _
      | onReceive action =>
          obtain rfl := Option.some.inj taken
          exact sound.finish _ _
      | die =>
          obtain rfl := Option.some.inj taken
          exact before.shows_killed
      | onTaskStackChanged | setSelectedApps | storeThresholds | changeFile =>
          obtain rfl := Option.some.inj taken
          exact sound.move _
  | onCreate =>
      obtain rfl := Option.some.inj taken
      exact { listening := fun _ => rfl, active := sound.active }
  | onDestroy =>
      obtain rfl := Option.some.inj taken
      exact { listening := nofun, active := nofun }
  | onStartListening =>
      simp only [Controls.step] at taken
      split at taken
      · rename_i listens
        obtain rfl := Option.some.inj taken
        exact {
          listening := fun _ => listens
          active := fun tile shown => by
            obtain rfl := Option.some.inj shown
            rfl
        }
      · cases taken
  | onClick display =>
      simp only [Controls.step] at taken
      split at taken
      · rename_i listens
        obtain rfl := Option.some.inj taken
        refine shows_updateState (fun _ => ?_)
        rw [(service_apply _ _ display).2]
        exact listens
      · cases taken
  | onPreferenceChange newValue display =>
      obtain rfl := Option.some.inj taken
      rw [onPreferenceChange_eq]
      have applied := sound.apply newValue display
      exact {
        listening := applied.listening
        active := fun tile shown => by
          rcases dark with none | same
          · have gone := (before.service_apply newValue display).1
            rw [none, Option.mem_def.mp shown] at gone
            cases gone
          · exact (applied.active tile shown).trans ((enabled_apply ..).trans same.symm)
      }
  | onBoot display =>
      obtain rfl := Option.some.inj taken
      unfold onBoot
      split
      · exact sound.move _
      · exact sound

/-- A switch that is moved under a tile leaves it behind. -/
theorem switchesDark_of_shows {newValue : Bool} {display : Option Bool} (sound : before.Shows)
    (active
      : ∀ tile ∈ (before.onPreferenceChange newValue display).mTile,
          tile.active = (before.onPreferenceChange newValue display).enabled)
    : before.mTile = none ∨ newValue = before.enabled := by
  cases shown : before.mTile with
  | none => exact .inl rfl
  | some tile =>
      have kept : (before.apply newValue display).mTile.isSome = true := by
        rw [(service_apply ..).1, shown]
        rfl
      obtain ⟨later, there⟩ := Option.isSome_iff_exists.mp kept
      rw [onPreferenceChange_eq] at active
      have now : later.active = newValue := active later there
      have earlier := (sound.apply newValue display).active later there
      rw [enabled_apply] at earlier
      exact .inr (now.symm.trans earlier)

end Controls

/-- The tile shows the setting in every state exactly in the runs in which the switch in the
settings is moved only while no tile is shown: it tells the tile nothing, or what was stored before.
-/
theorem tile_shows_setting_iff (files : Files) (prefs : Prefs) (enabled : Bool)
    (events : List Controls.Event)
    : controlsMachine.Always
        (fun controls => ∀ tile ∈ controls.mTile, tile.active = controls.enabled)
        (.booted files prefs enabled) events
      ↔ controlsMachine.Along Controls.switchesDark (.booted files prefs enabled) events := by
  refine Machine.always_iff_along Controls.Shows (fun _ sound => sound.active) ?_ ?_ ?_
    (Machine.along_true _ _)
  · exact fun _ _ _ sound taken _ dark => sound.step taken dark
  · intro before event after sound taken _ holds
    cases event with
    | onPreferenceChange newValue display =>
        obtain rfl := Option.some.inj taken
        exact Controls.switchesDark_of_shows sound holds
    | limiter | onCreate | onDestroy | onStartListening | onClick | onBoot => trivial
  · exact { listening := nofun, active := nofun }

example (files : Files) (prefs : Prefs)
    : (controlsMachine.run (.booted files prefs false)
        [.onCreate, .onStartListening, .onPreferenceChange true (some true)]).map
          (fun controls => (controls.mTile, controls.enabled))
      = some (some { subtitle := .off, active := false }, true) := rfl

end PongDevice.Thermal
