import PongDevice.Thermal.Polling
import PongDevice.Thermal.Throttling

/-! A package that is taken out of the selection while the limiter throttles for it. The selection
asks for an immediate check, which stays on its way until a tick has seen what is selected.
-/

namespace PongDevice.Thermal

open PongDevice.Transition

namespace App

variable {app next : App}

/-- A check is on its way: the immediate check itself, or the monitor that it has posted to run at
once.
-/
def CheckQueued (app : App) : Prop :=
  ∃ message ∈ app.queue,
    message.callback = .immediateCheck
    ∨ ∃ start ∈ app.mThermalMonitor, message.callback = .monitor start ∧ message.delay = 0

/-- The limiter throttles for a package that is selected, or a check is on its way. -/
def ThrottlesSelected (app : App) : Prop :=
  app.mCurrentThermalState ≠ .normal
  → (∃ package ∈ app.mThrottledPackage, package ∈ app.prefs.apps) ∨ app.CheckQueued

/-- More messages leave a check on its way. -/
theorem CheckQueued.mono (queued : app.CheckQueued) (queue : app.queue ⊆ next.queue)
    (monitor : next.mThermalMonitor = app.mThermalMonitor)
    : next.CheckQueued := by
  obtain ⟨message, member, checks⟩ := queued
  refine ⟨message, queue member, ?_⟩
  rwa [monitor]

/-- A posted monitor is such a check. -/
theorem checkQueued_repost {start : Nat} (owned : app.Owned start)
    (reposted : app.repost = some next)
    : next.CheckQueued := by
  obtain ⟨after, taken, -, -, monitor, once⟩ := repost_of_owned owned
  obtain rfl := Option.some.inj (taken.symm.trans reposted)
  have member : { handler := start, callback := .monitor start, delay := 0 } ∈ after.pollers := by
    rw [once]
    exact List.mem_singleton_self _
  exact ⟨_, (List.mem_filter.mp member).1, .inr ⟨start, monitor, rfl, rfl⟩⟩

namespace ThrottlesSelected

theorem of_normal (normal : app.mCurrentThermalState = .normal) : app.ThrottlesSelected :=
  fun throttled => absurd normal throttled

/-- It depends on the package, the selection and the messages. -/
theorem congr (selected : app.ThrottlesSelected)
    (state : next.mCurrentThermalState = app.mCurrentThermalState)
    (package : next.mThrottledPackage = app.mThrottledPackage)
    (apps : next.prefs.apps = app.prefs.apps) (queue : app.queue ⊆ next.queue)
    (monitor : next.mThermalMonitor = app.mThermalMonitor)
    : next.ThrottlesSelected := by
  intro throttled
  rw [state] at throttled
  rcases selected throttled with listed | queued
  · rw [package, apps]
    exact .inl listed
  · exact .inr (queued.mono queue monitor)

/-- A tick sees what is selected. -/
theorem tick {tasks : Tasks} {delay : Nat} (ticked : app.tick tasks = some (delay, next))
    : next.ThrottlesSelected := by
  rcases tick_cases ticked with released | adjusted
  · obtain ⟨files, rfl⟩ := released
    exact of_normal rfl
  · obtain ⟨foreground, files, state, toasts, -, -, selected, rfl, -⟩ := adjusted
    refine fun _ => .inl ⟨foreground, rfl, ?_⟩
    rw [getSelectedApps] at selected
    split at selected
    · exact selected
    · cases selected

/-- A message that leaves the queue is a toast, or its callback brings on a tick. -/
theorem dispatch {last : Option Tick} {index : Nat} {tasks : Tasks} {message : Message}
    (selected : app.ThrottlesSelected) (phase : Polling app) (justified : Justified app last)
    (queued : app.queue[index]? = some message)
    (ran
      : { app with queue := app.queue.eraseIdx index }.runCallback tasks message.callback
        = some next)
    : next.ThrottlesSelected := by
  obtain ⟨before, after, queue, erased⟩ := eraseIdx_of_getElem? queued
  rw [erased] at ran
  cases callback : message.callback with
  | monitor start =>
      rw [callback] at ran
      rcases runCallback_cases ran
        with ⟨rfl, idle⟩ | ⟨-, ⟨_, delay, ticked, handler, -, taken, -, rfl⟩ | ⟨other, -⟩⟩
      · exact of_normal (justified.normal (idle rfl))
      · exact (tick taken).congr rfl rfl rfl (List.subset_append_left _ _) rfl
      · cases other
  | immediateCheck =>
      rw [callback] at ran
      simp only [runCallback] at ran
      split at ran
      · rename_i wanted
        have monitoring := (Bool.and_eq_true_iff.mp wanted).1
        obtain ⟨start, owned⟩ := phase.owned monitoring
        have rest : Owned { app with queue := before ++ after } start := by
          refine ⟨owned.handler, owned.monitor, fun other member => owned.pollers other ?_⟩
          have inQueue := List.mem_filter.mp member
          refine List.mem_filter.mpr ⟨?_, inQueue.2⟩
          rw [queue]
          exact ((List.Sublist.refl before).append (List.sublist_cons_self message after)).subset
            inQueue.1
        exact fun _ => .inr (checkQueued_repost rest ran)
      · rename_i refused
        obtain rfl := Option.some.inj ran
        intro throttled
        have reason := justified throttled
        exact absurd (Bool.and_eq_true_iff.mpr ⟨reason.monitoring, reason.interactive⟩) refused
  | toast text =>
      rw [callback] at ran
      have same : next = { app with queue := before ++ after } := by
        simp only [runCallback] at ran
        split at ran
        · exact (Option.some.inj ran).symm
        · cases ran
      subst same
      intro throttled
      rcases selected throttled with listed | ⟨check, member, checks⟩
      · exact .inl listed
      · refine .inr ⟨check, ?_, checks⟩
        rw [queue] at member
        rcases List.mem_append.mp member with early | late
        · exact List.mem_append_left _ early
        · rcases List.mem_cons.mp late with rfl | later
          · rw [callback] at checks
            rcases checks with isCheck | ⟨start, -, isMonitor, -⟩
            · cases isCheck
            · cases isMonitor
          · exact List.mem_append_right _ later

/-- A broadcast releases the throttle, or posts the monitor. -/
theorem onReceive {action : ScreenAction} (selected : app.ThrottlesSelected) (phase : Polling app)
    (received : app.onReceive action = some next)
    : next.ThrottlesSelected := by
  rcases onReceive_cases received
    with ⟨-, rfl⟩ | ⟨monitoring, ⟨-, handler, -, released⟩ | ⟨-, reposted⟩⟩
  · exact selected
  · obtain ⟨files, rfl⟩ := releaseThrottle_eq released
    exact of_normal rfl
  · obtain ⟨start, owned⟩ := phase.owned monitoring
    have bright : Owned { app with mInteractive := true } start :=
      ⟨owned.handler, owned.monitor, owned.pollers⟩
    exact fun _ => .inr (checkQueued_repost bright reposted)

/-- A request adds a message at most. -/
theorem requestImmediateCheck (selected : app.ThrottlesSelected)
    : app.requestImmediateCheck.ThrottlesSelected := by
  rw [App.requestImmediateCheck]
  split
  · exact selected
  · exact selected.congr rfl rfl rfl (List.subset_append_left _ _) rfl

/-- Whatever is selected, its check is on its way if the limiter throttles. -/
theorem setSelectedApps {last : Option Tick} (phase : Polling app) (justified : Justified app last)
    (packages : List String)
    : (app.setSelectedApps packages).ThrottlesSelected := by
  rw [App.setSelectedApps, App.requestImmediateCheck]
  split
  · rename_i missing
    refine of_normal (justified.normal (Bool.eq_false_iff.mpr fun monitoring => ?_))
    obtain ⟨start, owned⟩ := phase.owned monitoring
    cases owned.handler.symm.trans missing
  · exact fun _ => .inr ⟨_, List.mem_append_right _ (List.mem_singleton_self _), .inl rfl⟩

/-- Each event keeps it. -/
theorem step {last : Option Tick} {event : Event} (selected : app.ThrottlesSelected)
    (phase : Polling app) (justified : Justified app last) (taken : app.step event = some next)
    : next.ThrottlesSelected := by
  cases event with
  | startMonitoring display =>
      obtain rfl := Option.some.inj taken
      rw [App.startMonitoring]
      split
      · exact selected
      · rename_i refused
        simp only [Bool.or_eq_true, Bool.not_eq_true', not_or] at refused
        exact of_normal (justified.normal (Bool.eq_false_iff.mpr refused.1))
  | stopMonitoring =>
      obtain rfl := Option.some.inj taken
      refine @outcome_cases app (·.ThrottlesSelected) _ (of_normal rfl) (fun after stopped => ?_)
      rcases stopMonitoring_cases stopped with ⟨-, rfl⟩ | ⟨-, queue, after, -, -, reset, rfl⟩
      · exact selected
      · obtain ⟨files, rfl⟩ := resetFrequencies_eq reset
        exact of_normal rfl
  | dispatch index tasks =>
      obtain ⟨message, queued, rfl⟩ := Option.map_eq_some_iff.mp taken
      exact @outcome_cases app (·.ThrottlesSelected) _ (of_normal rfl)
        (fun after => selected.dispatch phase justified queued)
  | onReceive action =>
      obtain rfl := Option.some.inj taken
      exact @outcome_cases app (·.ThrottlesSelected) _ (of_normal rfl)
        (fun after => selected.onReceive phase)
  | onTaskStackChanged =>
      obtain rfl := Option.some.inj taken
      exact selected.requestImmediateCheck
  | setSelectedApps packages =>
      obtain rfl := Option.some.inj taken
      exact setSelectedApps phase justified packages
  | storeThresholds warm high critical =>
      obtain rfl := Option.some.inj taken
      exact selected.congr rfl rfl rfl (List.Subset.refl _) rfl
  | changeFile path file =>
      obtain rfl := Option.some.inj taken
      exact selected.congr rfl rfl rfl (List.Subset.refl _) rfl
  | die =>
      obtain rfl := Option.some.inj taken
      exact of_normal rfl

end ThrottlesSelected

/-- A limiter that polls as it should, throttles with a reason, and drops what is deselected. -/
structure Sound (app : App) : Prop where
  phase : Polling app
  justified : ∃ last, Justified app last
  selected : app.ThrottlesSelected

theorem sound_booted (files : Files) (prefs : Prefs) : (booted files prefs).Sound where
  phase := .stopped rfl rfl
  justified := ⟨none, .of_normal rfl⟩
  selected := .of_normal rfl

theorem Sound.step {event : Event} (sound : app.Sound) (taken : app.step event = some next)
    : next.Sound := by
  obtain ⟨last, justified⟩ := sound.justified
  exact {
    phase := sound.phase.step taken
    justified := ⟨_, step_justified justified taken⟩
    selected := sound.selected.step sound.phase justified taken
  }

end App

/-- Whatever is selected and deselected, and in whatever order the looper runs its messages: while
the limiter throttles, it does so for a package that is selected now, or a check is on its way.
-/
theorem throttles_selected_or_checks (files : Files) (prefs : Prefs) (events : List Event)
    : appMachine.Always App.ThrottlesSelected (App.booted files prefs) events :=
  Machine.Always.of_invariant App.Sound (fun _ sound => sound.selected)
    (fun _ _ _ sound taken _ => sound.step taken) (App.sound_booted files prefs)
    (Machine.along_true _ events)

end PongDevice.Thermal
