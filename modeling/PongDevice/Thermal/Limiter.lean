import PongDevice.Thermal.Thresholds
import PongDevice.Transition.Machine

/-! The static state of `ThermalLimiter` in its process and the queue of the main looper. The
looper handles one event at a time; a callback that is queued may run at any later time.
-/

namespace PongDevice.Thermal

open PongDevice.Transition

/-- The runnables that are posted: the `mThermalMonitor` that the numbered start created, the
lambda of `requestImmediateCheck` and the lambda of `showToast`.
-/
inductive Callback where
  | monitor (start : Nat)
  | immediateCheck
  | toast (message : String)
deriving DecidableEq, Repr

/-- Whether a callback is some start's `mThermalMonitor`. -/
def Callback.isMonitor : Callback → Bool
  | .monitor _ => true
  | .immediateCheck => false
  | .toast _ => false

/-- A queued callback, the start whose handler it was posted on, and its delay. -/
structure Message where
  handler : Nat
  callback : Callback
  delay : Nat
deriving DecidableEq, Repr

/-- The static fields, with their initial values. An object is the number of the start that
created it, and null is `none`; of `mContext` and `mPrefs` only that they are not null.
-/
structure Statics where
  mHandler : Option Nat := none
  mThermalMonitor : Option Nat := none
  mIsMonitoring : Bool := false
  mCurrentThermalState : ThermalState := .normal
  mContext : Bool := false
  mPrefs : Bool := false
  mThrottledPackage : Option String := none
  mInteractive : Bool := true
  mLittleCeiling : Option String := none
  mMidCeiling : Option String := none
  mPrimeCeiling : Option String := none
deriving DecidableEq, Repr

/-- The statics with what is outside the class: the looper's queue, the number of starts so
far, the files and the stored preferences.
-/
structure App extends Statics where
  queue : List Message
  starts : Nat
  files : Files
  prefs : Prefs

/-- What the system answers about the task in front: the package of the focused root task and
that of the first running task, `none` where the request fails or finds nothing.
-/
structure Tasks where
  focused : Option String
  running : Option String
deriving DecidableEq, Repr

/-- The actions that the screen receiver is registered for. -/
inductive ScreenAction where
  | screenOn
  | screenOff
deriving DecidableEq, Repr

namespace App

/-- The process as it starts. -/
def booted (files : Files) (prefs : Prefs) : App where
  queue := []
  starts := 0
  files := files
  prefs := prefs

/-- The process died: a new one has fresh statics and an empty queue, the files and the stored
preferences remain.
-/
def killed (app : App) : App := { app with toStatics := {}, queue := [] }

/-- The ceiling that `cacheClusterCeilings` stored for a cluster. -/
def ceiling (app : App) : Cluster → Option String
  | .little => app.mLittleCeiling
  | .mid => app.mMidCeiling
  | .prime => app.mPrimeCeiling

/-- `Handler.postDelayed`; a plain `post` has no delay. -/
def post (app : App) (handler : Nat) (callback : Callback) (delay : Nat) : App :=
  { app with queue := app.queue ++ [{ handler, callback, delay }] }

/-- `Handler.removeCallbacks`, which removes nothing for a null callback. -/
def removeCallbacks (app : App) (handler : Nat) (monitor : Option Nat) : App :=
  { app with
    queue := app.queue.filter (fun message =>
      !(message.handler == handler && some message.callback == monitor.map .monitor)) }

-----------------------------------------------------------------------------------------
-- What a tick does; `none` is an uncaught null pointer exception
-----------------------------------------------------------------------------------------

/-- `isInteractive`. -/
def isInteractive (app : App) : Bool := app.mContext && app.mInteractive

/-- `getForegroundPackage`. -/
def getForegroundPackage (app : App) (tasks : Tasks) : Option String :=
  if app.mContext then tasks.focused.or tasks.running else none

/-- `getSelectedApps(mContext)`. -/
def getSelectedApps (app : App) : List String :=
  if app.mContext || app.mPrefs then app.prefs.apps else []

/-- The thresholds of the preferences behind `mPrefs`. -/
def thresholds (app : App) : Thresholds :=
  getThresholds (if app.mPrefs then some app.prefs else none)

/-- `resetFrequencies`. -/
def resetFrequencies (app : App) : Option App := do
  let ceiling cluster := some ((app.ceiling cluster).getD (Cluster.frequency cluster .normal))
  let files ← setClusterFrequency app.files Cluster.little.cores (ceiling .little)
  let files ← setClusterFrequency files Cluster.mid.cores (ceiling .mid)
  let files ← setClusterFrequency files Cluster.prime.cores (ceiling .prime)
  let files ← setGpuFrequency files (gpuFrequency .normal)
  return { app with files := files, mCurrentThermalState := .normal }

/-- `releaseThrottle`. -/
def releaseThrottle (app : App) : Option App :=
  if app.mCurrentThermalState = .normal then
    some { app with mThrottledPackage := none }
  else
    resetFrequencies { app with mThrottledPackage := none }

/-- The text of the toast about a state; the temperature is shown with one decimal. -/
def toastMessage (state : ThermalState) (temperature : Int) : String :=
  "Thermal Throttling: " ++ state.name ++ " (" ++ toString (temperature / 10) ++ "."
    ++ toString (temperature % 10) ++ "°C)"

/-- `showToast`. -/
def showToast (app : App) (message : String) : Option App :=
  if app.mContext then
    app.mHandler.map (fun handler => app.post handler (.toast message) 0)
  else
    some app

/-- The frequency that `adjustFrequencies` chooses for a cluster in its new state. -/
def frequency (app : App) (newState : ThermalState) (cluster : Cluster) : Option String :=
  if newState = .normal then app.ceiling cluster else some (cluster.frequency newState)

/-- `adjustFrequencies`. -/
def adjustFrequencies (app : App) (temperature : Int) : Option App :=
  let newState := ThermalState.ofTemperature app.thresholds temperature
  if newState ≠ app.mCurrentThermalState then do
    let frequency := app.frequency newState
    let files ← setClusterFrequency app.files Cluster.little.cores (frequency .little)
    let files ← setClusterFrequency files Cluster.mid.cores (frequency .mid)
    let files ← setClusterFrequency files Cluster.prime.cores (frequency .prime)
    let files ← setGpuFrequency files (gpuFrequency newState)
    let app := { app with files := files, mCurrentThermalState := newState }
    if newState ≠ .normal then app.showToast (toastMessage newState temperature) else some app
  else if newState ≠ .normal then do
    let frequency (cluster : Cluster) := cluster.frequency newState
    let files ← enforceClusterCeiling app.files Cluster.little.cores (frequency .little)
    let files ← enforceClusterCeiling files Cluster.mid.cores (frequency .mid)
    let files ← enforceClusterCeiling files Cluster.prime.cores (frequency .prime)
    let files ← enforceFrequencyCeiling files .gpuMaxFreq (gpuFrequency newState)
    return { app with files := files }
  else
    some app

/-- `tick`: the interval that it returns, and the state after it. -/
def tick (app : App) (tasks : Tasks) : Option (Nat × App) :=
  if !app.isInteractive then
    app.releaseThrottle.map (30000, ·)
  else
    match app.getForegroundPackage tasks with
    | none => app.releaseThrottle.map (4000, ·)
    | some foreground =>
        if foreground ∈ app.getSelectedApps then
          let temperature := getBatteryTemperature app.files
          ({ app with mThrottledPackage := some foreground }.adjustFrequencies temperature).map
            (getPollingInterval app.thresholds temperature, ·)
        else
          app.releaseThrottle.map (4000, ·)

/-- Takes the monitor out of the queue and posts it to run at once. -/
def repost (app : App) : Option App := do
  let handler ← app.mHandler
  let app := app.removeCallbacks handler app.mThermalMonitor
  match app.mThermalMonitor with
  | some monitor => return app.post handler (.monitor monitor) 0
  -- A message without a runnable does nothing.
  | none => return app

/-- Runs a callback that has left the queue. A toast needs a context. -/
def runCallback (app : App) (tasks : Tasks) : Callback → Option App
  | .monitor start =>
      if app.mIsMonitoring then do
        let (delay, app) ← app.tick tasks
        let handler ← app.mHandler
        return app.post handler (.monitor start) delay
      else
        some app
  | .immediateCheck =>
      if app.mIsMonitoring && app.mInteractive then app.repost else some app
  | .toast _ => if app.mContext then some app else none

/-- `onReceive` of the screen receiver. -/
def onReceive (app : App) (action : ScreenAction) : Option App :=
  if !app.mIsMonitoring then some app
  else
    match action with
    | .screenOff => do
        let handler ← app.mHandler
        let app := { app with mInteractive := false }
        (app.removeCallbacks handler app.mThermalMonitor).releaseThrottle
    | .screenOn => { app with mInteractive := true }.repost

/-- `requestImmediateCheck`. -/
def requestImmediateCheck (app : App) : App :=
  match app.mHandler with
  | none => app
  | some handler => app.post handler .immediateCheck 0

/-- `setSelectedApps`. -/
def setSelectedApps (app : App) (packages : List String) : App :=
  { app with prefs := { app.prefs with apps := packages } }.requestImmediateCheck

/-- `startMonitoring`; `display` is whether the default display is on, `none` without one. -/
def startMonitoring (app : App) (display : Option Bool) : App :=
  if app.mIsMonitoring || !isSupported app.files then app
  else
    let ceiling (cluster : Cluster) :=
      some (readClusterCeiling app.files cluster.firstCore (cluster.frequency .normal))
    {
      app with
      mContext := true
      mPrefs := true
      mIsMonitoring := true
      mHandler := some app.starts
      mLittleCeiling := ceiling .little
      mMidCeiling := ceiling .mid
      mPrimeCeiling := ceiling .prime
      mInteractive := display.getD true
      mThermalMonitor := some app.starts
      starts := app.starts + 1
    : App}.post app.starts (.monitor app.starts) 0

/-- The removal of the monitor in `stopMonitoring`, which tests for null. -/
def cancelMonitor (app : App) : App :=
  match app.mHandler with
  | some handler => app.removeCallbacks handler app.mThermalMonitor
  | none => app

/-- `stopMonitoring`. -/
def stopMonitoring (app : App) : Option App :=
  if !app.mIsMonitoring then some app
  else do
    let app ← { app with mIsMonitoring := false }.cancelMonitor.resetFrequencies
    return { app with mThrottledPackage := none, mContext := false, mPrefs := false }

end App

/-- What the main looper handles, and what may change between two of its events: a file, the
stored thresholds, or the process. Broadcasts and task notifications come at any time, also
to listeners that are not registered any more.
-/
inductive Event where
  | startMonitoring (display : Option Bool)
  | stopMonitoring
  | dispatch (index : Nat) (tasks : Tasks)
  | onReceive (action : ScreenAction)
  | onTaskStackChanged
  | setSelectedApps (packages : List String)
  | storeThresholds (warm high critical : Option Int)
  | changeFile (path : Path) (file : SysFile)
  | die
deriving DecidableEq, Repr

/-- The outcome of an event; an uncaught exception kills the process. A dispatch needs a
message in the queue.
-/
def App.step (app : App) : Event → Option App
  | .startMonitoring display => some (app.startMonitoring display)
  | .stopMonitoring => some (app.stopMonitoring.getD app.killed)
  | .dispatch index tasks =>
      app.queue[index]?.map (fun message =>
        ({ app with queue := app.queue.eraseIdx index }.runCallback tasks message.callback).getD
          app.killed)
  | .onReceive action => some ((app.onReceive action).getD app.killed)
  | .onTaskStackChanged => some app.requestImmediateCheck
  | .setSelectedApps packages => some (app.setSelectedApps packages)
  | .storeThresholds warm high critical =>
      some
        { app with
          prefs :=
            { app.prefs with tempWarm := warm, tempHigh := high, tempCritical := critical } }
  | .changeFile path file => some { app with files := Function.update app.files path file }
  | .die => some app.killed

/-- The limiter's process under its events. -/
def appMachine : Machine App Event where
  step := App.step

end PongDevice.Thermal
