import PongDevice.Thermal.NullSafety
import PongDevice.Thermal.Throttling

/-! The controls of the limiter: its tile in the quick settings, its switch in the settings and the
receiver of the boot broadcast. They start and stop it, and the limiter tells the tile about its
state. Everything runs on the main looper.
-/

namespace PongDevice.Thermal

open PongDevice.Transition

/-- The subtitle of the tile: one of the four texts of a status summary, or the name of a state
with a temperature in tenths of a degree.
-/
inductive Subtitle where
  | off
  | noApps
  | idle
  | throttling
  | reading (state : ThermalState) (temperature : Int)
deriving DecidableEq, Repr

/-- `mTile`, which is active or inactive. -/
structure Tile where
  subtitle : Subtitle
  active : Bool
deriving DecidableEq, Repr

/-- A call that the limiter makes to `ThermalLimiterTileService`. -/
inductive TileCall where
  | updateTileState (state : ThermalState) (temperature : Int)
  | refreshTile
deriving DecidableEq, Repr

-----------------------------------------------------------------------------------------
-- What the limiter tells the tile
-----------------------------------------------------------------------------------------

namespace App

/-- The call in `adjustFrequencies`, on a change of the state. -/
def adjustTile (app : App) (temperature : Int) : Option TileCall :=
  let newState := ThermalState.ofTemperature app.thresholds temperature
  if newState ≠ app.mCurrentThermalState then some (.updateTileState newState temperature)
  else none

/-- The call in `releaseThrottle`, after a reset. -/
def releaseTile (app : App) : Option TileCall :=
  if app.mCurrentThermalState = .normal then none else some .refreshTile

/-- The call in `tick`. -/
def tickTile (app : App) (tasks : Tasks) : Option TileCall :=
  if !app.isInteractive then
    app.releaseTile
  else
    match app.getForegroundPackage tasks with
    | none => app.releaseTile
    | some foreground =>
        if foreground ∈ app.getSelectedApps then app.adjustTile (getBatteryTemperature app.files)
        else app.releaseTile

/-- The call in a callback. -/
def callbackTile (app : App) (tasks : Tasks) : Callback → Option TileCall
  | .monitor _ => if app.mIsMonitoring then app.tickTile tasks else none
  | .immediateCheck | .toast _ => none

/-- The call in `onReceive` of the screen receiver. -/
def receiveTile (app : App) (action : ScreenAction) : Option TileCall :=
  match action with
  | .screenOff => if app.mIsMonitoring then app.releaseTile else none
  | .screenOn => none

/-- The call in `stopMonitoring`, after its reset. -/
def stopTile (app : App) : Option TileCall :=
  if app.mIsMonitoring then some .refreshTile else none

/-- The state that a method leaves is the one that the tile is told, or is as it was. -/
def Tells (before after : ThermalState) : Option TileCall → Prop
  | none => after = before
  | some .refreshTile => after = .normal
  | some (.updateTileState state _) => after = state

variable {app next : App}

theorem adjustFrequencies_tells {temperature : Int}
    (adjusted : app.adjustFrequencies temperature = some next)
    : Tells app.mCurrentThermalState next.mCurrentThermalState (app.adjustTile temperature) := by
  simp only [adjustFrequencies, Option.bind_eq_bind, Option.pure_def] at adjusted
  unfold adjustTile
  split at adjusted
  · rename_i changes
    rw [if_pos changes]
    simp only [Option.bind_eq_some_iff] at adjusted
    obtain ⟨-, -, -, -, -, -, files, -, shown⟩ := adjusted
    split at shown
    · obtain ⟨toasts, rfl, -⟩ := showToast_eq shown
      rfl
    · obtain rfl := Option.some.inj shown
      rfl
  · rename_i stays
    rw [if_neg stays]
    split at adjusted
    · simp only [Option.bind_eq_some_iff] at adjusted
      obtain ⟨-, -, -, -, -, -, files, -, same⟩ := adjusted
      obtain rfl := Option.some.inj same
      rfl
    · obtain rfl := Option.some.inj adjusted
      rfl

theorem releaseThrottle_tells (released : app.releaseThrottle = some next)
    : Tells app.mCurrentThermalState next.mCurrentThermalState app.releaseTile := by
  obtain ⟨files, rfl⟩ := releaseThrottle_eq released
  unfold releaseTile
  split
  · rename_i normal
    exact normal.symm
  · rfl

theorem tick_tells {tasks : Tasks} {delay : Nat} (ticked : app.tick tasks = some (delay, next))
    : Tells app.mCurrentThermalState next.mCurrentThermalState (app.tickTile tasks) := by
  have released {interval : Nat}
      (result : app.releaseThrottle.map (interval, ·) = some (delay, next))
      : Tells app.mCurrentThermalState next.mCurrentThermalState app.releaseTile := by
    obtain ⟨after, taken, same⟩ := Option.map_eq_some_iff.mp result
    obtain rfl := (Prod.mk.inj same).2
    exact releaseThrottle_tells taken
  rw [tick] at ticked
  unfold tickTile
  split at ticked
  · rename_i asleep
    rw [if_pos asleep]
    exact released ticked
  · rename_i interactive
    rw [if_neg interactive]
    cases inFront : app.getForegroundPackage tasks with
    | none =>
        rw [inFront] at ticked
        exact released ticked
    | some foreground =>
        simp only [inFront] at ticked ⊢
        split at ticked
        · rename_i selected
          rw [if_pos selected]
          obtain ⟨after, adjusted, same⟩ := Option.map_eq_some_iff.mp ticked
          obtain rfl := (Prod.mk.inj same).2
          have told := adjustFrequencies_tells adjusted
          exact told
        · rename_i other
          rw [if_neg other]
          exact released ticked

/-- Whatever a callback does to the state, it tells the tile. -/
theorem runCallback_tells {tasks : Tasks} {callback : Callback}
    (ran : app.runCallback tasks callback = some next)
    : Tells app.mCurrentThermalState next.mCurrentThermalState (app.callbackTile tasks callback) := by
  rcases runCallback_cases ran
    with ⟨rfl, idle⟩
      | ⟨monitoring, ⟨start, delay, after, handler, rfl, ticked, -, rfl⟩ | ⟨other, reposted⟩⟩
  · cases callback with
    | monitor start =>
        rw [callbackTile, if_neg (by simp [idle rfl])]
        rfl
    | immediateCheck | toast _ => rfl
  · rw [callbackTile, if_pos monitoring]
    have told := tick_tells ticked
    exact told
  · obtain ⟨queue, rfl⟩ := repost_eq reposted
    cases callback with
    | monitor _ => cases other
    | immediateCheck | toast _ => rfl

theorem onReceive_tells {action : ScreenAction} (received : app.onReceive action = some next)
    : Tells app.mCurrentThermalState next.mCurrentThermalState (app.receiveTile action) := by
  rcases onReceive_cases received
    with ⟨idle, rfl⟩ | ⟨running, ⟨rfl, handler, -, released⟩ | ⟨rfl, reposted⟩⟩
  · cases action with
    | screenOff =>
        rw [receiveTile, if_neg (by simp [idle])]
        rfl
    | screenOn => rfl
  · rw [receiveTile, if_pos running]
    have told := releaseThrottle_tells released
    exact told
  · obtain ⟨queue, rfl⟩ := repost_eq reposted
    rfl

theorem stopMonitoring_tells (stopped : app.stopMonitoring = some next)
    : Tells app.mCurrentThermalState next.mCurrentThermalState app.stopTile := by
  rcases stopMonitoring_cases stopped with ⟨idle, rfl⟩ | ⟨running, queue, after, -, -, reset, rfl⟩
  · rw [stopTile, if_neg (by simp [idle])]
    rfl
  · obtain ⟨files, rfl⟩ := resetFrequencies_eq reset
    rw [stopTile, if_pos running]
    rfl

end App

-----------------------------------------------------------------------------------------
-- The controls
-----------------------------------------------------------------------------------------

/-- The limiter's process with the setting that is stored under `KEY_THERMAL_LIMITER`, whether
`sInstance` is set, and what the tile shows once the service has been listening.
-/
structure Controls where
  app : App
  enabled : Bool
  sInstance : Bool := false
  mTile : Option Tile := none

namespace Controls

/-- `getStatusSummary`. -/
def getStatusSummary (controls : Controls) : Subtitle :=
  if !controls.enabled then .off
  else if controls.app.prefs.apps.isEmpty then .noApps
  else if controls.app.mCurrentThermalState = .normal then .idle
  else .throttling

/-- The tile as `updateState` leaves it. -/
def stateTile (controls : Controls) : Tile where
  subtitle := controls.getStatusSummary
  active := controls.enabled

/-- The tile as `updateStateWithInfo` leaves it. -/
def infoTile (controls : Controls) (state : ThermalState) (temperature : Int) : Tile :=
  if controls.enabled then { subtitle := .reading state temperature, active := true }
  else { subtitle := .off, active := false }

/-- `updateState`, which needs a tile. -/
def updateState (controls : Controls) : Controls :=
  { controls with mTile := controls.mTile.map (fun _ => controls.stateTile) }

/-- What the limiter tells reaches the tile through `sInstance`. -/
def tell (controls : Controls) (call : Option TileCall) : Controls :=
  if controls.sInstance then
    match call with
    | none => controls
    | some .refreshTile => controls.updateState
    | some (.updateTileState state temperature) =>
        { controls with
          mTile := controls.mTile.map (fun _ => controls.infoTile state temperature) }
  else
    controls

/-- The process died, and the service with it; the setting is stored. -/
def killed (controls : Controls) : Controls where
  app := controls.app.killed
  enabled := controls.enabled

/-- A method of the limiter returned with what it told the tile, or died of an exception. -/
def finish (controls : Controls) (outcome : Option App) (call : Option TileCall) : Controls :=
  match outcome with
  | none => controls.killed
  | some app => { controls with app }.tell call

/-- Starts the limiter or stops it, as both the tile and the switch do. -/
def apply (controls : Controls) (enabled : Bool) (display : Option Bool) : Controls :=
  if enabled then { controls with app := controls.app.startMonitoring display }
  else controls.finish controls.app.stopMonitoring controls.app.stopTile

/-- `onClick` of the tile: the setting is stored first, and the tile updated last. A service that
died in between comes back without a tile.
-/
def onClick (controls : Controls) (display : Option Bool) : Controls :=
  let newState := !controls.enabled
  ({ controls with enabled := newState }.apply newState display).updateState

/-- `onPreferenceChange`, after which the change is persisted unless an exception came before. -/
def onPreferenceChange (controls : Controls) (newValue : Bool) (display : Option Bool) : Controls :=
  if !newValue && controls.app.stopMonitoring.isNone then controls.killed
  else { controls.apply newValue display with enabled := newValue }

/-- `Startup.onReceive`, the part about the limiter. -/
def onBoot (controls : Controls) (display : Option Bool) : Controls :=
  if isSupported controls.app.files && controls.enabled then
    { controls with app := controls.app.startMonitoring display }
  else
    controls

/-- What the main looper handles: an event of the limiter, one of the service, or a control. -/
inductive Event where
  | limiter (event : Thermal.Event)
  | onCreate
  | onDestroy
  | onStartListening
  | onClick (display : Option Bool)
  | onPreferenceChange (newValue : Bool) (display : Option Bool)
  | onBoot (display : Option Bool)

/-- An event of the limiter that is not one of the controls. -/
def stepLimiter (controls : Controls) : Thermal.Event → Option Controls
  | .startMonitoring _ | .stopMonitoring => none
  | .dispatch index tasks =>
      controls.app.queue[index]?.map (fun message =>
        let app := { controls.app with queue := controls.app.queue.eraseIdx index }
        controls.finish (app.runCallback tasks message.callback)
          (app.callbackTile tasks message.callback))
  | .onReceive action =>
      some (controls.finish (controls.app.onReceive action) (controls.app.receiveTile action))
  | .die => some controls.killed
  | event => (controls.app.step event).map (fun app => { controls with app })

def step (controls : Controls) : Event → Option Controls
  | .limiter event => controls.stepLimiter event
  | .onCreate => some { controls with sInstance := true }
  | .onDestroy => some { controls with sInstance := false, mTile := none }
  | .onStartListening =>
      if controls.sInstance then some { controls with mTile := some controls.stateTile } else none
  | .onClick display =>
      if controls.sInstance then some (controls.onClick display) else none
  | .onPreferenceChange newValue display => some (controls.onPreferenceChange newValue display)
  | .onBoot display => some (controls.onBoot display)

end Controls

def controlsMachine : Machine Controls Controls.Event where
  step := Controls.step

-----------------------------------------------------------------------------------------
-- What a step does to the limiter
-----------------------------------------------------------------------------------------

/-- Nothing but a start begins to monitor. -/
theorem App.monitoring_of_step {app next : App} {event : Event}
    (taken : app.step event = some next) (other : ∀ display, event ≠ .startMonitoring display)
    (monitoring : next.mIsMonitoring = true)
    : app.mIsMonitoring = true := by
  cases event with
  | startMonitoring display => exact absurd rfl (other display)
  | stopMonitoring =>
      obtain rfl := Option.some.inj taken
      obtain ⟨after, stopped⟩ := Option.isSome_iff_exists.mp app.stopMonitoring_isSome
      rw [stopped, Option.getD_some] at monitoring
      rcases stopMonitoring_cases stopped with ⟨-, rfl⟩ | ⟨running, -⟩
      · exact monitoring
      · exact running
  | dispatch index tasks =>
      obtain ⟨message, -, rfl⟩ := Option.map_eq_some_iff.mp taken
      refine @outcome_cases app (fun next => next.mIsMonitoring = true → app.mIsMonitoring = true) _
        (fun running => by cases running) (fun after ran still => ?_) monitoring
      rcases runCallback_cases ran with ⟨rfl, -⟩ | ⟨running, -⟩
      · exact still
      · exact running
  | onReceive action =>
      obtain rfl := Option.some.inj taken
      refine @outcome_cases app (fun next => next.mIsMonitoring = true → app.mIsMonitoring = true) _
        (fun running => by cases running) (fun after received still => ?_) monitoring
      rcases onReceive_cases received with ⟨-, rfl⟩ | ⟨running, -⟩
      · exact still
      · exact running
  | onTaskStackChanged =>
      obtain rfl := Option.some.inj taken
      obtain ⟨queue, same⟩ := requestImmediateCheck_eq app
      rw [same] at monitoring
      exact monitoring
  | setSelectedApps packages =>
      obtain rfl := Option.some.inj taken
      obtain ⟨queue, same⟩ :=
        requestImmediateCheck_eq { app with prefs := { app.prefs with apps := packages } }
      rw [setSelectedApps, same] at monitoring
      exact monitoring
  | storeThresholds warm high critical | changeFile path file =>
      obtain rfl := Option.some.inj taken
      exact monitoring
  | die =>
      obtain rfl := Option.some.inj taken
      cases monitoring

namespace Controls

variable {before after : Controls}

@[simp]
theorem app_tell (controls : Controls) (call : Option TileCall)
    : (controls.tell call).app = controls.app := by
  unfold tell
  split
  · split <;> rfl
  · rfl

@[simp]
theorem enabled_tell (controls : Controls) (call : Option TileCall)
    : (controls.tell call).enabled = controls.enabled := by
  unfold tell
  split
  · split <;> rfl
  · rfl

@[simp]
theorem app_finish (controls : Controls) (outcome : Option App) (call : Option TileCall)
    : (controls.finish outcome call).app = outcome.getD controls.app.killed := by
  cases outcome with
  | none => rfl
  | some app => simp [finish]

@[simp]
theorem enabled_finish (controls : Controls) (outcome : Option App) (call : Option TileCall)
    : (controls.finish outcome call).enabled = controls.enabled := by
  cases outcome with
  | none => rfl
  | some app => simp [finish]

/-- An event of the limiter is one of its steps, and leaves the setting. -/
theorem stepLimiter_app {event : Thermal.Event} (taken : before.stepLimiter event = some after)
    : before.app.step event = some after.app
      ∧ after.enabled = before.enabled
      ∧ ∀ display, event ≠ .startMonitoring display := by
  cases event with
  | startMonitoring | stopMonitoring => cases taken
  | dispatch index tasks =>
      obtain ⟨message, queued, rfl⟩ := Option.map_eq_some_iff.mp taken
      refine ⟨?_, by simp, by simp⟩
      simp only [App.step, queued, Option.map_some, app_finish]
  | onReceive action =>
      obtain rfl := Option.some.inj taken
      exact ⟨by simp [App.step], by simp, by simp⟩
  | die =>
      obtain rfl := Option.some.inj taken
      exact ⟨rfl, rfl, by simp⟩
  | onTaskStackChanged | setSelectedApps | storeThresholds | changeFile =>
      simp only [stepLimiter, Option.map_eq_some_iff] at taken
      obtain ⟨app, moved, rfl⟩ := taken
      exact ⟨moved, rfl, by simp⟩

/-- Starting or stopping is a step of the limiter. -/
theorem app_apply (controls : Controls) (enabled : Bool) (display : Option Bool)
    : controls.app.step (if enabled then .startMonitoring display else .stopMonitoring)
      = some (controls.apply enabled display).app := by
  unfold apply
  cases enabled with
  | true => rfl
  | false => simp [App.step]

/-- A switch that is turned off does not throw. -/
theorem onPreferenceChange_eq (controls : Controls) (newValue : Bool) (display : Option Bool)
    : controls.onPreferenceChange newValue display
      = { controls.apply newValue display with enabled := newValue } := by
  have returns := controls.app.stopMonitoring_isSome
  rw [onPreferenceChange, if_neg]
  simp [Option.isNone_iff_eq_none, Option.isSome_iff_ne_none.mp returns]

/-- The controls drive the limiter: each step is a step of it, or leaves it. -/
theorem step_app {event : Event} (taken : before.step event = some after)
    : after.app = before.app ∨ ∃ limiter, before.app.step limiter = some after.app := by
  cases event with
  | limiter event => exact .inr ⟨event, (stepLimiter_app taken).1⟩
  | onCreate | onDestroy =>
      obtain rfl := Option.some.inj taken
      exact .inl rfl
  | onStartListening =>
      simp only [step] at taken
      split at taken
      · obtain rfl := Option.some.inj taken
        exact .inl rfl
      · cases taken
  | onClick display =>
      simp only [step] at taken
      split at taken
      · obtain rfl := Option.some.inj taken
        exact .inr ⟨_, app_apply { before with enabled := !before.enabled } _ display⟩
      · cases taken
  | onPreferenceChange newValue display =>
      obtain rfl := Option.some.inj taken
      rw [onPreferenceChange_eq]
      exact .inr ⟨_, before.app_apply newValue display⟩
  | onBoot display =>
      obtain rfl := Option.some.inj taken
      unfold onBoot
      split
      · exact .inr ⟨.startMonitoring display, rfl⟩
      · exact .inl rfl

end Controls

end PongDevice.Thermal
