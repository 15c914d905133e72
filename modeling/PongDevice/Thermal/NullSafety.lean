import PongDevice.Thermal.LimiterSteps

/-! Which callbacks of the limiter run into a null field. Everything that `startMonitoring` sets
is tested or still set where it is read, up to the context of a toast.
-/

namespace PongDevice.Thermal

open PongDevice.Transition

/-- Whether a callback is the lambda of `showToast`. -/
def Callback.isToast : Callback → Bool
  | .monitor _ => false
  | .immediateCheck => false
  | .toast _ => true

-----------------------------------------------------------------------------------------
-- Writes of a frequency that is not null
-----------------------------------------------------------------------------------------

/-- Writing a text throws no null pointer exception, whether or not the file takes it. -/
theorem writeValue_isSome (files : Files) (fileName : Path) (value : String)
    : (writeValue files fileName (some value)).isSome = true := by
  rw [writeValue]
  split <;> rfl

/-- A loop of writes throws only where one of its writes throws, by induction over the cores. -/
theorem foldlM_isSome {write : Files → Core → Option Files}
    (each : ∀ files core, (write files core).isSome = true) (cores : List Core) (files : Files)
    : (cores.foldlM write files).isSome = true := by
  induction cores generalizing files with
  | nil => rfl
  | cons core rest ih =>
      obtain ⟨after, written⟩ := Option.isSome_iff_exists.mp (each files core)
      rw [List.foldlM_cons, written]
      exact ih after

/-- `setClusterFrequency` throws for a null frequency only. -/
theorem setClusterFrequency_isSome (files : Files) (cores : List Core) {frequency : Option String}
    (given : frequency.isSome = true)
    : (setClusterFrequency files cores frequency).isSome = true := by
  obtain ⟨frequency, rfl⟩ := Option.isSome_iff_exists.mp given
  refine foldlM_isSome (fun files core => ?_) cores files
  split
  · rw [Option.isSome_map]
    exact writeValue_isSome ..
  · rfl

/-- The frequency of the GPU is never null. -/
theorem setGpuFrequency_isSome (files : Files) (frequency : String)
    : (setGpuFrequency files frequency).isSome = true := by
  rw [setGpuFrequency]
  split
  · rw [Option.isSome_map]
    exact writeValue_isSome ..
  · rfl

/-- A file that holds no number is written like one above the ceiling. -/
theorem enforceFrequencyCeiling_isSome (files : Files) (path : Path) (frequency : String)
    : (enforceFrequencyCeiling files path frequency).isSome = true := by
  rw [enforceFrequencyCeiling]
  split
  · rfl
  · rw [Option.isSome_map]
    exact writeValue_isSome ..

/-- So is every file of a cluster. -/
theorem enforceClusterCeiling_isSome (files : Files) (cores : List Core) (frequency : String)
    : (enforceClusterCeiling files cores frequency).isSome = true :=
  foldlM_isSome (fun files _ => enforceFrequencyCeiling_isSome files _ frequency) cores files

/-- A computation that goes on from a result is a result where both of its parts are. -/
theorem bind_isSome {α β : Type*} {first : Option α} {rest : α → Option β}
    (ran : first.isSome = true) (each : ∀ value, (rest value).isSome = true)
    : (first.bind rest).isSome = true := by
  obtain ⟨value, rfl⟩ := Option.isSome_iff_exists.mp ran
  exact each value

-----------------------------------------------------------------------------------------
-- What is set while the limiter is monitoring
-----------------------------------------------------------------------------------------

/-- The fields that are set while the limiter is monitoring. Only the context is cleared again
by a stop.
-/
structure Ready (app : App) : Prop where
  context : app.mContext = app.mIsMonitoring
  handler : app.mIsMonitoring = true → app.mHandler.isSome = true
  ceiling : app.mIsMonitoring = true → ∀ cluster, (app.ceiling cluster).isSome = true

namespace App

variable {app next : App}

/-- What is ready depends on the statics that a start sets. -/
theorem ready_congr (ready : Ready app) (context : next.mContext = app.mContext)
    (monitoring : next.mIsMonitoring = app.mIsMonitoring)
    (handler : next.mHandler = app.mHandler) (ceiling : next.ceiling = app.ceiling)
    : Ready next where
  context := by rw [context, monitoring, ready.context]
  handler running := by rw [handler]; exact ready.handler (monitoring ▸ running)
  ceiling running := by rw [ceiling]; exact ready.ceiling (monitoring ▸ running)

/-- A new process is not monitoring. -/
theorem ready_of_fresh (fresh : app.toStatics = {}) : Ready app := by
  have idle : app.mIsMonitoring = false := congrArg Statics.mIsMonitoring fresh
  exact {
    context := (congrArg Statics.mContext fresh).trans idle.symm
    handler := fun running => absurd running (by simp [idle])
    ceiling := fun running => absurd running (by simp [idle])
  }

/-- A reset has a frequency for every cluster, its ceiling or the normal one. -/
theorem resetFrequencies_isSome (app : App) : app.resetFrequencies.isSome = true := by
  rw [resetFrequencies]
  refine bind_isSome (setClusterFrequency_isSome _ _ rfl) (fun little => ?_)
  refine bind_isSome (setClusterFrequency_isSome _ _ rfl) (fun mid => ?_)
  refine bind_isSome (setClusterFrequency_isSome _ _ rfl) (fun prime => ?_)
  exact bind_isSome (setGpuFrequency_isSome _ _) (fun gpu => rfl)

/-- So a release never throws. -/
theorem releaseThrottle_isSome (app : App) : app.releaseThrottle.isSome = true := by
  rw [releaseThrottle]
  split
  · rfl
  · exact resetFrequencies_isSome _

/-- A toast is posted on the handler. -/
theorem showToast_isSome (message : String) (handler : app.mHandler.isSome = true)
    : (app.showToast message).isSome = true := by
  rw [showToast]
  split
  · rwa [Option.isSome_map]
  · rfl

/-- The frequency of a new state is null only where a ceiling is. -/
theorem frequency_isSome (ceiling : ∀ cluster, (app.ceiling cluster).isSome = true)
    (newState : ThermalState) (cluster : Cluster)
    : (app.frequency newState cluster).isSome = true := by
  rw [frequency]
  split
  · exact ceiling cluster
  · rfl

/-- An adjustment of a limiter that is monitoring does not throw. -/
theorem adjustFrequencies_isSome (ready : Ready app) (monitoring : app.mIsMonitoring = true)
    (temperature : Int)
    : (app.adjustFrequencies temperature).isSome = true := by
  have frequency := frequency_isSome (ready.ceiling monitoring)
  simp only [adjustFrequencies]
  split
  · refine bind_isSome (setClusterFrequency_isSome _ _ (frequency _ _)) (fun little => ?_)
    refine bind_isSome (setClusterFrequency_isSome _ _ (frequency _ _)) (fun mid => ?_)
    refine bind_isSome (setClusterFrequency_isSome _ _ (frequency _ _)) (fun prime => ?_)
    refine bind_isSome (setGpuFrequency_isSome _ _) (fun gpu => ?_)
    split
    · exact showToast_isSome _ (ready.handler monitoring)
    · rfl
  · split
    · refine bind_isSome (enforceClusterCeiling_isSome _ _ _) (fun little => ?_)
      refine bind_isSome (enforceClusterCeiling_isSome _ _ _) (fun mid => ?_)
      refine bind_isSome (enforceClusterCeiling_isSome _ _ _) (fun prime => ?_)
      exact bind_isSome (enforceFrequencyCeiling_isSome _ _ _) (fun gpu => rfl)
    · rfl

/-- Neither does its tick. -/
theorem tick_isSome (ready : Ready app) (monitoring : app.mIsMonitoring = true) (tasks : Tasks)
    : (app.tick tasks).isSome = true := by
  rw [tick]
  split
  · rw [Option.isSome_map]
    exact releaseThrottle_isSome app
  · split
    · rw [Option.isSome_map]
      exact releaseThrottle_isSome app
    · rename_i foreground inFront
      split
      · have throttling : Ready { app with mThrottledPackage := some foreground } :=
          ready_congr ready rfl rfl rfl rfl
        rw [Option.isSome_map]
        exact adjustFrequencies_isSome throttling monitoring _
      · rw [Option.isSome_map]
        exact releaseThrottle_isSome app

/-- Posting the monitor again needs its handler only. -/
theorem repost_isSome (handler : app.mHandler.isSome = true) : app.repost.isSome = true := by
  refine bind_isSome handler (fun value => ?_)
  dsimp only
  split <;> rfl

/-- A release leaves the fields that a start sets. -/
theorem releaseThrottle_ready (ready : Ready app) (released : app.releaseThrottle = some next)
    : Ready next := by
  obtain ⟨files, rfl⟩ := releaseThrottle_eq released
  exact ready_congr ready rfl rfl rfl rfl

/-- So does a tick. -/
theorem tick_ready {tasks : Tasks} {delay : Nat} (ready : Ready app)
    (ticked : app.tick tasks = some (delay, next))
    : Ready next := by
  rcases tick_cases ticked with released | adjusted
  · obtain ⟨files, rfl⟩ := released
    exact ready_congr ready rfl rfl rfl rfl
  · obtain ⟨foreground, files, state, toasts, -, -, -, rfl, -⟩ := adjusted
    exact ready_congr ready rfl rfl rfl rfl

/-- A tick goes on monitoring. -/
theorem tick_mIsMonitoring {tasks : Tasks} {delay : Nat}
    (ticked : app.tick tasks = some (delay, next))
    : next.mIsMonitoring = app.mIsMonitoring := by
  rcases tick_cases ticked with released | adjusted
  · obtain ⟨files, rfl⟩ := released
    rfl
  · obtain ⟨foreground, files, state, toasts, -, -, -, rfl, -⟩ := adjusted
    rfl

/-- So does posting the monitor again. -/
theorem repost_ready (ready : Ready app) (reposted : app.repost = some next) : Ready next := by
  obtain ⟨queue, rfl⟩ := repost_eq reposted
  exact ready_congr ready rfl rfl rfl rfl

/-- So does a request. -/
theorem requestImmediateCheck_ready (ready : Ready app) : Ready app.requestImmediateCheck := by
  obtain ⟨queue, same⟩ := requestImmediateCheck_eq app
  rw [same]
  exact ready_congr ready rfl rfl rfl rfl

/-- So does a callback. -/
theorem runCallback_ready {tasks : Tasks} {callback : Callback} (ready : Ready app)
    (ran : app.runCallback tasks callback = some next)
    : Ready next := by
  rcases runCallback_cases ran
    with ⟨rfl, -⟩ | ⟨-, ⟨start, delay, after, handler, -, ticked, -, rfl⟩ | ⟨-, reposted⟩⟩
  · exact ready
  · exact ready_congr (tick_ready ready ticked) rfl rfl rfl rfl
  · exact repost_ready ready reposted

/-- So does a broadcast. -/
theorem onReceive_ready {action : ScreenAction} (ready : Ready app)
    (received : app.onReceive action = some next)
    : Ready next := by
  rcases onReceive_cases received
    with ⟨-, rfl⟩ | ⟨-, ⟨-, handler, -, released⟩ | ⟨-, reposted⟩⟩
  · exact ready
  · refine releaseThrottle_ready ?_ released
    exact ready_congr ready rfl rfl rfl rfl
  · refine @repost_ready { app with mInteractive := true } next ?_ reposted
    exact ready_congr ready rfl rfl rfl rfl

/-- A start sets every field together. -/
theorem startMonitoring_ready (display : Option Bool) (ready : Ready app)
    : Ready (app.startMonitoring display) := by
  rw [startMonitoring]
  split
  · exact ready
  · exact {
      context := rfl
      handler := fun _ => rfl
      ceiling := fun _ cluster => by cases cluster <;> rfl
    }

/-- A stop clears the context together with the flag. -/
theorem stopMonitoring_ready (ready : Ready app) (stopped : app.stopMonitoring = some next)
    : Ready next ∧ next.mIsMonitoring = false := by
  rcases stopMonitoring_cases stopped with ⟨idle, rfl⟩ | ⟨-, queue, after, -, -, reset, rfl⟩
  · exact ⟨ready, idle⟩
  · obtain ⟨files, rfl⟩ := resetFrequencies_eq reset
    exact ⟨{
      context := rfl
      handler := fun running => absurd running Bool.false_ne_true
      ceiling := fun running => absurd running Bool.false_ne_true
    }, rfl⟩

/-- Every event keeps what is ready, also one that kills the process. -/
theorem step_ready {event : Event} (ready : Ready app) (taken : app.step event = some next)
    : Ready next := by
  cases event with
  | startMonitoring display =>
      obtain rfl := Option.some.inj taken
      exact startMonitoring_ready display ready
  | stopMonitoring =>
      obtain rfl := Option.some.inj taken
      exact outcome_cases (ready_of_fresh rfl)
        (fun after stopped => (stopMonitoring_ready ready stopped).1)
  | dispatch index tasks =>
      obtain ⟨message, queued, rfl⟩ := Option.map_eq_some_iff.mp taken
      refine outcome_cases (ready_of_fresh rfl) (fun after ran => runCallback_ready ?_ ran)
      exact ready_congr ready rfl rfl rfl rfl
  | onReceive action =>
      obtain rfl := Option.some.inj taken
      exact outcome_cases (ready_of_fresh rfl) (fun after => onReceive_ready ready)
  | onTaskStackChanged =>
      obtain rfl := Option.some.inj taken
      exact requestImmediateCheck_ready ready
  | setSelectedApps packages =>
      obtain rfl := Option.some.inj taken
      exact requestImmediateCheck_ready (ready_congr ready rfl rfl rfl rfl)
  | storeThresholds warm high critical =>
      obtain rfl := Option.some.inj taken
      exact ready_congr ready rfl rfl rfl rfl
  | changeFile path file =>
      obtain rfl := Option.some.inj taken
      exact ready_congr ready rfl rfl rfl rfl
  | die =>
      obtain rfl := Option.some.inj taken
      exact ready_of_fresh rfl

end App

-----------------------------------------------------------------------------------------
-- The callbacks that throw
-----------------------------------------------------------------------------------------

namespace App

variable {app next : App} {event : Event}

/-- Whether a callback that an event runs dereferences a null field, which nothing catches. -/
def throws (app : App) : Event → Bool
  | .stopMonitoring => app.stopMonitoring.isNone
  | .dispatch index tasks =>
      match app.queue[index]? with
      | some message =>
          ({ app with queue := app.queue.eraseIdx index }.runCallback tasks
            message.callback).isNone
      | none => false
  | .onReceive action => (app.onReceive action).isNone
  | _ => false

/-- Whether an event runs the callback of a toast. -/
def runsToast (app : App) : Event → Bool
  | .dispatch index _ => app.queue[index]?.any (·.callback.isToast)
  | _ => false

/-- A callback but a toast does not throw. -/
theorem runCallback_isSome (tasks : Tasks) {callback : Callback} (ready : Ready app)
    (silent : callback.isToast = false)
    : (app.runCallback tasks callback).isSome = true := by
  cases callback with
  | monitor start =>
      simp only [runCallback]
      split
      · rename_i monitoring
        obtain ⟨⟨delay, after⟩, ticked⟩ :=
          Option.isSome_iff_exists.mp (tick_isSome ready monitoring tasks)
        have running : after.mIsMonitoring = true := (tick_mIsMonitoring ticked).trans monitoring
        rw [ticked, Option.bind_eq_bind, Option.bind_some]
        exact bind_isSome ((tick_ready ready ticked).handler running) (fun handler => rfl)
      · rfl
  | immediateCheck =>
      simp only [runCallback]
      split
      · rename_i wanted
        exact repost_isSome (ready.handler (Bool.and_eq_true_iff.mp wanted).1)
      · rfl
  | toast message => cases silent

/-- A broadcast does not throw. -/
theorem onReceive_isSome (ready : Ready app) (action : ScreenAction)
    : (app.onReceive action).isSome = true := by
  unfold onReceive
  split
  · rfl
  · rename_i running
    have handler := ready.handler (by simpa using running)
    cases action with
    | screenOff => exact bind_isSome handler (fun handler => releaseThrottle_isSome _)
    | screenOn => exact @repost_isSome { app with mInteractive := true } handler

/-- A stop does not throw. -/
theorem stopMonitoring_isSome (app : App) : app.stopMonitoring.isSome = true := by
  rw [stopMonitoring]
  split
  · rfl
  · exact bind_isSome (resetFrequencies_isSome _) (fun after => rfl)

/-- A toast throws exactly without a context. -/
theorem runCallback_toast_isNone (tasks : Tasks) {callback : Callback}
    (shows : callback.isToast = true)
    : (app.runCallback tasks callback).isNone = !app.mContext := by
  cases callback with
  | toast message =>
      simp only [runCallback]
      cases app.mContext <;> rfl
  | monitor start | immediateCheck => cases shows

/-- An event throws exactly where it runs a toast of a limiter that is not monitoring. -/
theorem throws_iff (ready : Ready app) (event : Event)
    : app.throws event = true ↔ app.runsToast event = true ∧ app.mIsMonitoring = false := by
  cases event with
  | dispatch index tasks =>
      have dequeued : Ready { app with queue := app.queue.eraseIdx index } :=
        ready_congr ready rfl rfl rfl rfl
      cases queued : app.queue[index]? with
      | none => simp [throws, runsToast, queued]
      | some message =>
          simp only [throws, runsToast, queued, Option.any_some]
          cases shows : message.callback.isToast with
          | false =>
              have ran := runCallback_isSome tasks dequeued shows
              simp [Option.isSome_iff_ne_none.mp ran]
          | true => simp [runCallback_toast_isNone tasks shows, ready.context]
  | stopMonitoring =>
      simp [throws, runsToast, Option.isSome_iff_ne_none.mp (stopMonitoring_isSome app)]
  | onReceive action =>
      simp [throws, runsToast, Option.isSome_iff_ne_none.mp (onReceive_isSome ready action)]
  | startMonitoring | onTaskStackChanged | setSelectedApps | storeThresholds | changeFile | die =>
      simp [throws, runsToast]

-----------------------------------------------------------------------------------------
-- Toasts that outlive the monitoring
-----------------------------------------------------------------------------------------

/-- Whether the lambda of a toast is queued. -/
def toastQueued (app : App) : Bool := app.queue.any (·.callback.isToast)

/-- While the limiter is not monitoring, no toast is queued. -/
def Quiet (app : App) : Prop := app.mIsMonitoring = false → app.toastQueued = false

/-- A limiter that is monitoring may have toasts queued. -/
theorem quiet_of_monitoring (monitoring : app.mIsMonitoring = true) : Quiet app :=
  fun idle => absurd monitoring (by simp [idle])

/-- A toast that is queued in a shorter queue was queued before. -/
theorem toastQueued_of_subset (subset : next.queue ⊆ app.queue)
    (silent : app.toastQueued = false)
    : next.toastQueued = false := by
  simp only [toastQueued, List.any_eq_false] at silent ⊢
  exact fun message queued => silent message (subset queued)

/-- Without a new message the queue stays quiet. -/
theorem quiet_of_subset (quiet : Quiet app) (monitoring : next.mIsMonitoring = app.mIsMonitoring)
    (subset : next.queue ⊆ app.queue)
    : Quiet next :=
  fun idle => toastQueued_of_subset subset (quiet (monitoring ▸ idle))

/-- A request posts no toast. -/
theorem requestImmediateCheck_quiet (quiet : Quiet app) : Quiet app.requestImmediateCheck := by
  rw [requestImmediateCheck]
  split
  · exact quiet
  · intro idle
    have silent := quiet idle
    simpa [toastQueued, post, Callback.isToast] using silent

/-- A callback posts a toast only while the limiter is monitoring, and goes on monitoring. -/
theorem runCallback_quiet {tasks : Tasks} {callback : Callback} (quiet : Quiet app)
    (ran : app.runCallback tasks callback = some next)
    : Quiet next := by
  rcases runCallback_cases ran
    with ⟨rfl, -⟩ | ⟨monitoring, ⟨_, _, _, _, -, ticked, -, rfl⟩ | ⟨-, reposted⟩⟩
  · exact quiet
  · exact quiet_of_monitoring ((tick_mIsMonitoring ticked).trans monitoring)
  · obtain ⟨queue, rfl⟩ := repost_eq reposted
    exact quiet_of_monitoring monitoring

/-- So does a broadcast, which does nothing while the limiter is not monitoring. -/
theorem onReceive_quiet {action : ScreenAction} (quiet : Quiet app)
    (received : app.onReceive action = some next)
    : Quiet next := by
  rcases onReceive_cases received
    with ⟨-, rfl⟩ | ⟨monitoring, ⟨-, handler, -, released⟩ | ⟨-, reposted⟩⟩
  · exact quiet
  · obtain ⟨files, rfl⟩ := releaseThrottle_eq released
    exact quiet_of_monitoring monitoring
  · obtain ⟨queue, rfl⟩ := repost_eq reposted
    exact quiet_of_monitoring monitoring

/-- A start leaves the limiter as it was or monitoring. -/
theorem startMonitoring_quiet (display : Option Bool) (quiet : Quiet app)
    : Quiet (app.startMonitoring display) := by
  rw [startMonitoring]
  split
  · exact quiet
  · exact quiet_of_monitoring rfl

/-- A stop removes messages only, so that it leaves no toast where none was queued. -/
theorem stopMonitoring_quiet (quiet : Quiet app)
    (silent : app.mIsMonitoring = true → app.toastQueued = false)
    (stopped : app.stopMonitoring = some next)
    : Quiet next := by
  rcases stopMonitoring_cases stopped
    with ⟨-, rfl⟩ | ⟨running, queue, after, -, subset, reset, rfl⟩
  · exact quiet
  · obtain ⟨files, rfl⟩ := resetFrequencies_eq reset
    exact fun _ => toastQueued_of_subset subset (silent running)

/-- The condition on an event: a stop that takes effect finds no toast in the queue. -/
def stopsQuietly (app : App) (event : Event) : Prop :=
  event = .stopMonitoring → app.mIsMonitoring = true → app.toastQueued = false

instance (app : App) (event : Event) : Decidable (app.stopsQuietly event) :=
  inferInstanceAs (Decidable (_ → _))

/-- Under the condition every event keeps the queue quiet. -/
theorem step_quiet (quiet : Quiet app) (taken : app.step event = some next)
    (stops : app.stopsQuietly event)
    : Quiet next := by
  cases event with
  | startMonitoring display =>
      obtain rfl := Option.some.inj taken
      exact startMonitoring_quiet display quiet
  | stopMonitoring =>
      obtain rfl := Option.some.inj taken
      exact outcome_cases (fun _ => rfl)
        (fun after => stopMonitoring_quiet quiet (stops rfl))
  | dispatch index tasks =>
      obtain ⟨message, queued, rfl⟩ := Option.map_eq_some_iff.mp taken
      refine outcome_cases (fun _ => rfl) (fun after ran => runCallback_quiet ?_ ran)
      exact quiet_of_subset quiet rfl (List.eraseIdx_subset ..)
  | onReceive action =>
      obtain rfl := Option.some.inj taken
      exact outcome_cases (fun _ => rfl) (fun after => onReceive_quiet quiet)
  | onTaskStackChanged =>
      obtain rfl := Option.some.inj taken
      exact requestImmediateCheck_quiet quiet
  | setSelectedApps packages =>
      obtain rfl := Option.some.inj taken
      exact requestImmediateCheck_quiet
        (quiet_of_subset quiet rfl (List.Subset.refl app.queue))
  | storeThresholds warm high critical =>
      obtain rfl := Option.some.inj taken
      exact quiet_of_subset quiet rfl (List.Subset.refl app.queue)
  | changeFile path file =>
      obtain rfl := Option.some.inj taken
      exact quiet_of_subset quiet rfl (List.Subset.refl app.queue)
  | die =>
      obtain rfl := Option.some.inj taken
      exact fun _ => rfl

/-- A toast that runs was queued. -/
theorem toastQueued_of_runsToast (runs : app.runsToast event = true)
    : app.toastQueued = true := by
  cases event with
  | dispatch index tasks =>
      simp only [runsToast] at runs
      cases queued : app.queue[index]? with
      | none => simp [queued] at runs
      | some message =>
          rw [queued, Option.any_some] at runs
          exact List.any_eq_true.mpr ⟨message, List.mem_of_getElem? queued, runs⟩
  | _ => cases runs

/-- A callback dereferences no null field, and a toast has its context. -/
def nullSafe (app : App) (event : Event) : Prop :=
  app.throws event = false ∧ (app.runsToast event = true → app.mContext = true)

instance (app : App) (event : Event) : Decidable (app.nullSafe event) :=
  inferInstanceAs (Decidable (_ ∧ _))

/-- An event is safe where no toast is left without monitoring. -/
theorem nullSafe_of_quiet (ready : Ready app) (quiet : Quiet app) (event : Event)
    : app.nullSafe event := by
  have monitoring (runs : app.runsToast event = true) : app.mIsMonitoring = true := by
    by_contra idle
    have silent := quiet (Bool.eq_false_iff.mpr idle)
    rw [toastQueued_of_runsToast runs] at silent
    cases silent
  constructor
  · by_contra thrown
    obtain ⟨runs, idle⟩ := (throws_iff ready event).mp (by simpa using thrown)
    rw [monitoring runs] at idle
    cases idle
  · intro runs
    rw [ready.context, monitoring runs]

end App

/-- In every run in which each stop that takes effect finds no toast in the queue, no callback
dereferences a null field.
-/
theorem nullSafe_of_stopsQuietly (files : Files) (prefs : Prefs) (events : List Event)
    (stops
      : appMachine.Along (fun app event _ => app.stopsQuietly event)
          (App.booted files prefs) events)
    : appMachine.Along (fun app event _ => app.nullSafe event) (App.booted files prefs)
        events := by
  refine Machine.Along.of_invariant (fun app => Ready app ∧ app.Quiet) ?_
    ⟨App.ready_of_fresh rfl, fun _ => rfl⟩ stops
  intro app event next invariant taken quietly
  obtain ⟨ready, quiet⟩ := invariant
  exact ⟨App.nullSafe_of_quiet ready quiet event, App.step_ready ready taken,
    App.step_quiet quiet taken quietly⟩

/-- A file that does all that is asked of it. -/
def workingFile (line : String) : SysFile where
  canRead := true
  canWrite := true
  reads := true
  opensForWriting := true
  takes := true
  line := some line

/-- A device whose frequencies are the normal ones and whose battery has 46 degrees. -/
def hotDevice : Files
  | .batteryTemp => workingFile "460"
  | .scalingMaxFreq core | .cpuinfoMaxFreq core =>
      if core ∈ Cluster.little.cores then workingFile "1804800"
      else if core ∈ Cluster.mid.cores then workingFile "2496000"
      else workingFile "2995200"
  | .gpuMaxFreq => workingFile "900000000"

/-- Preferences in which only the package `game` is selected. -/
def gamePrefs : Prefs where
  apps := ["game"]
  tempWarm := none
  tempHigh := none
  tempCritical := none

/-- The package `game` is in front. -/
def gameInFront : Tasks where
  focused := some "game"
  running := none

/-- Witness: the toast of a hot tick runs before the stop. -/
theorem nullSafe_of_stopsQuietly_hot
    : appMachine.Along (fun app event _ => app.nullSafe event) (App.booted hotDevice gamePrefs)
        [.startMonitoring (some true), .dispatch 0 gameInFront, .dispatch 0 gameInFront,
          .stopMonitoring] :=
  nullSafe_of_stopsQuietly hotDevice gamePrefs _ (by decide +kernel)

/-- A stop between a hot tick and its toast leaves the toast to run without a context. -/
theorem nullSafe_fails_stop
    : ¬ appMachine.Along (fun app event _ => app.nullSafe event) (App.booted hotDevice gamePrefs)
        [.startMonitoring (some true), .dispatch 0 gameInFront, .stopMonitoring,
          .dispatch 0 gameInFront] := by
  decide +kernel

end PongDevice.Thermal
