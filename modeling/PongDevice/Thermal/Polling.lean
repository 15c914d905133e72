import PongDevice.Thermal.LimiterSteps

/-! The polling chain of the limiter: its monitor is in the queue exactly once while it has to
poll, and nowhere once it has stopped.
-/

namespace PongDevice.Thermal

open PongDevice.Transition

/-- Taking an entry out of a list leaves what is on either side of it, by its position. -/
theorem eraseIdx_of_getElem? {α : Type*} {list : List α} {index : Nat} {value : α}
    (found : list[index]? = some value)
    : ∃ before after,
        list = before ++ value :: after ∧ list.eraseIdx index = before ++ after := by
  obtain ⟨inside, rfl⟩ := List.getElem?_eq_some_iff.mp found
  refine ⟨list.take index, list.drop (index + 1), ?_, List.eraseIdx_eq_take_drop_succ ..⟩
  rw [List.getElem_cons_drop, List.take_append_drop]

namespace App

variable {app next : App}

/-- The queued monitors of every start. -/
def pollers (app : App) : List Message := app.queue.filter (·.callback.isMonitor)

/-- How often the current `mThermalMonitor` is queued. -/
def monitorCount (app : App) : Nat :=
  match app.mThermalMonitor with
  | none => 0
  | some start => app.queue.countP (·.callback == .monitor start)

/-- The current monitor is counted among the monitors. -/
theorem monitorCount_eq {start : Nat} (current : app.mThermalMonitor = some start)
    : app.monitorCount = app.pollers.countP (·.callback == .monitor start) := by
  simp only [monitorCount, current, pollers, List.countP_filter]
  congr 1
  funext message
  cases isCurrent : message.callback == .monitor start with
  | false => rfl
  | true => rw [beq_iff_eq.mp isCurrent]; rfl

/-- A posted monitor joins the monitors. -/
theorem pollers_post_monitor (app : App) (handler start delay : Nat)
    : (app.post handler (.monitor start) delay).pollers
      = app.pollers ++ [{ handler, callback := .monitor start, delay }] := by
  rw [pollers, post, List.filter_append]
  rfl

/-- What polling depends on is the same in both states. -/
structure SamePolling (app next : App) : Prop where
  monitoring : next.mIsMonitoring = app.mIsMonitoring
  interactive : next.mInteractive = app.mInteractive
  handler : next.mHandler = app.mHandler
  monitor : next.mThermalMonitor = app.mThermalMonitor
  pollers : next.pollers = app.pollers

/-- Messages that are no monitors leave the monitors as they are. -/
theorem pollers_append {toasts : List Message}
    (quiet : ∀ posted ∈ toasts, posted.callback.isMonitor = false)
    : (app.queue ++ toasts).filter (·.callback.isMonitor) = app.pollers := by
  have none : toasts.filter (·.callback.isMonitor) = [] :=
    List.filter_eq_nil_iff.mpr (by simpa using quiet)
  rw [List.filter_append, none, List.append_nil, pollers]

/-- A tick does not touch the polling. -/
theorem tick_samePolling {tasks : Tasks} {delay : Nat}
    (ticked : app.tick tasks = some (delay, next))
    : SamePolling app next := by
  rcases tick_cases ticked with released | adjusted
  · obtain ⟨files, rfl⟩ := released
    exact ⟨rfl, rfl, rfl, rfl, rfl⟩
  · obtain ⟨foreground, files, state, toasts, -, -, -, rfl, quiet⟩ := adjusted
    exact ⟨rfl, rfl, rfl, rfl, pollers_append quiet⟩

/-- A release does not touch the polling. -/
theorem releaseThrottle_samePolling (released : app.releaseThrottle = some next)
    : SamePolling app next := by
  obtain ⟨files, rfl⟩ := releaseThrottle_eq released
  exact ⟨rfl, rfl, rfl, rfl, rfl⟩

/-- An immediate check is no monitor. -/
theorem requestImmediateCheck_samePolling (app : App)
    : SamePolling app app.requestImmediateCheck := by
  rw [requestImmediateCheck]
  split
  · exact ⟨rfl, rfl, rfl, rfl, rfl⟩
  · exact ⟨rfl, rfl, rfl, rfl, pollers_append (by simp [Callback.isMonitor])⟩

/-- The numbered start is the latest one, and every queued monitor is its monitor, posted on
its handler.
-/
structure Owned (app : App) (start : Nat) : Prop where
  handler : app.mHandler = some start
  monitor : app.mThermalMonitor = some start
  pollers
    : ∀ message ∈ app.pollers, message.handler = start ∧ message.callback = .monitor start

/-- Removing callbacks changes the queue only. -/
@[simp]
theorem removeCallbacks_mThermalMonitor (app : App) (handler : Nat) (monitor : Option Nat)
    : (app.removeCallbacks handler monitor).mThermalMonitor = app.mThermalMonitor :=
  rfl

/-- Removing the current monitor from the current handler removes every monitor. -/
theorem pollers_removeCallbacks {start : Nat} (owned : Owned app start)
    : (app.removeCallbacks start app.mThermalMonitor).pollers = [] := by
  refine List.filter_eq_nil_iff.mpr (fun message member isMonitor => ?_)
  obtain ⟨queued, kept⟩ := List.mem_filter.mp member
  obtain ⟨handler, callback⟩ := owned.pollers message (List.mem_filter.mpr ⟨queued, isMonitor⟩)
  simp [handler, callback, owned.monitor] at kept

/-- So does the removal in a stop. -/
theorem pollers_cancelMonitor {start : Nat} (owned : Owned app start)
    : app.cancelMonitor.pollers = [] := by
  simp only [cancelMonitor, owned.handler]
  exact pollers_removeCallbacks owned

/-- Posting the monitor again leaves it in the queue once, to run at once. -/
theorem repost_of_owned {start : Nat} (owned : Owned app start)
    : ∃ next,
        app.repost = some next
          ∧ next.mIsMonitoring = app.mIsMonitoring
          ∧ next.mHandler = some start
          ∧ next.mThermalMonitor = some start
          ∧ next.pollers = [{ handler := start, callback := .monitor start, delay := 0 }] := by
  refine ⟨(app.removeCallbacks start app.mThermalMonitor).post start (.monitor start) 0, ?_, rfl,
    owned.handler, owned.monitor, ?_⟩
  · simp only [repost, owned.handler, owned.monitor, Option.bind_eq_bind, Option.bind_some,
      Option.pure_def, removeCallbacks_mThermalMonitor]
  · rw [pollers_post_monitor, pollers_removeCallbacks owned, List.nil_append]

end App

/-- The three phases of polling. A limiter that is paused has a dark screen and waits for it to
go on; one that is polling has its monitor queued once, on its own handler.
-/
inductive Polling (app : App) : Prop where
  | stopped (idle : app.mIsMonitoring = false) (none : app.pollers = [])
  | paused {start : Nat} (monitoring : app.mIsMonitoring = true)
    (dark : app.mInteractive = false) (handler : app.mHandler = some start)
    (monitor : app.mThermalMonitor = some start) (none : app.pollers = [])
  | polling (start delay : Nat) (monitoring : app.mIsMonitoring = true)
    (handler : app.mHandler = some start) (monitor : app.mThermalMonitor = some start)
    (once : app.pollers = [{ handler := start, callback := .monitor start, delay }])

namespace Polling

variable {app next : App}

/-- The phase depends on what polling depends on. -/
theorem congr (phase : Polling app) (same : app.SamePolling next) : Polling next := by
  cases phase with
  | stopped idle none => exact .stopped (same.monitoring ▸ idle) (same.pollers ▸ none)
  | paused monitoring dark handler monitor none =>
      exact .paused (same.monitoring ▸ monitoring) (same.interactive ▸ dark)
        (same.handler ▸ handler) (same.monitor ▸ monitor) (same.pollers ▸ none)
  | polling start delay monitoring handler monitor once =>
      exact .polling start delay (same.monitoring ▸ monitoring) (same.handler ▸ handler)
        (same.monitor ▸ monitor) (same.pollers ▸ once)

/-- A limiter that is monitoring owns every queued monitor. -/
theorem owned (phase : Polling app) (monitoring : app.mIsMonitoring = true)
    : ∃ start, app.Owned start := by
  cases phase with
  | stopped idle none => rw [idle] at monitoring; cases monitoring
  | paused _ _ handler monitor none => exact ⟨_, handler, monitor, by simp [none]⟩
  | polling start _ _ handler monitor once => exact ⟨start, handler, monitor, by simp [once]⟩

/-- A limiter that is not monitoring has no monitor queued. -/
theorem pollers_eq_nil (phase : Polling app) (idle : app.mIsMonitoring = false)
    : app.pollers = [] := by
  cases phase with
  | stopped _ none => exact none
  | paused monitoring | polling _ _ monitoring => rw [idle] at monitoring; cases monitoring

/-- Posting the monitor again starts the polling, whatever was queued before. -/
theorem repost {start : Nat} (owned : app.Owned start) (monitoring : app.mIsMonitoring = true)
    (reposted : app.repost = some next)
    : Polling next := by
  obtain ⟨after, taken, same, handler, monitor, once⟩ := App.repost_of_owned owned
  obtain rfl := Option.some.inj (taken.symm.trans reposted)
  exact .polling start 0 (same.trans monitoring) handler monitor once

/-- A monitor that leaves the queue was the only one, and its start is polling. -/
theorem dequeue_monitor {before after : List Message} {message : Message}
    (phase : Polling app) (queue : app.queue = before ++ message :: after)
    (isMonitor : message.callback.isMonitor = true)
    : ∃ start,
        app.mIsMonitoring = true
          ∧ app.mHandler = some start
          ∧ app.mThermalMonitor = some start
          ∧ message.callback = .monitor start
          ∧ (before ++ after).filter (·.callback.isMonitor) = [] := by
  have split
      : app.pollers
        = before.filter (·.callback.isMonitor)
          ++ message :: after.filter (·.callback.isMonitor) := by
    rw [App.pollers, queue, List.filter_append, List.filter_cons_of_pos (by exact isMonitor)]
  cases phase with
  | stopped idle none | paused _ _ _ _ none =>
      rw [none] at split
      exact absurd split.symm (by simp)
  | polling start delay monitoring handler monitor once =>
      rw [once] at split
      cases front : before.filter (·.callback.isMonitor) with
      | nil =>
          rw [front, List.nil_append] at split
          obtain ⟨rfl, back⟩ := List.cons.inj split
          have rest : (before ++ after).filter (·.callback.isMonitor) = [] := by
            rw [List.filter_append, front, ← back, List.append_nil]
          exact ⟨start, monitoring, handler, monitor, rfl, rest⟩
      | cons first rest =>
          rw [front] at split
          exact absurd split (by simp)

/-- A monitor that runs is queued again, as the only one. -/
theorem runCallback_monitor (app : App) {start : Nat} {tasks : Tasks}
    (monitoring : app.mIsMonitoring = true) (handler : app.mHandler = some start)
    (monitor : app.mThermalMonitor = some start) (none : app.pollers = [])
    (ran : app.runCallback tasks (.monitor start) = some next)
    : Polling next := by
  simp only [App.runCallback, monitoring, if_true, Option.bind_eq_bind, Option.pure_def,
    Option.bind_eq_some_iff] at ran
  obtain ⟨⟨delay, ticked⟩, taken, target, current, posted⟩ := ran
  obtain rfl := Option.some.inj posted
  have same := App.tick_samePolling taken
  obtain rfl := Option.some.inj ((same.handler.trans handler).symm.trans current)
  have once
      : (ticked.post start (.monitor start) delay).pollers
        = [{ handler := start, callback := .monitor start, delay }] := by
    rw [App.pollers_post_monitor, same.pollers, none, List.nil_append]
  exact .polling start delay (same.monitoring.trans monitoring) (same.handler.trans handler)
    (same.monitor.trans monitor) once

/-- Any other callback keeps the phase: an immediate check that finds the limiter monitoring
has a monitor to post, also after a restart.
-/
theorem runCallback_other {tasks : Tasks} {callback : Callback} (phase : Polling app)
    (other : callback.isMonitor = false) (ran : app.runCallback tasks callback = some next)
    : Polling next := by
  rcases App.runCallback_cases ran
    with ⟨rfl, -⟩ | ⟨monitoring, ⟨start, _, _, _, rfl, -, -, -⟩ | ⟨-, reposted⟩⟩
  · exact phase
  · cases other
  · obtain ⟨start, owned⟩ := phase.owned monitoring
    exact repost owned monitoring reposted

/-- A dispatched message leaves one of the phases, whichever message it is. -/
theorem dispatch {index : Nat} {tasks : Tasks} {message : Message} (phase : Polling app)
    (queued : app.queue[index]? = some message)
    (ran
      : { app with queue := app.queue.eraseIdx index }.runCallback tasks message.callback
        = some next)
    : Polling next := by
  obtain ⟨before, after, queue, erased⟩ := eraseIdx_of_getElem? queued
  rw [erased] at ran
  cases isMonitor : message.callback.isMonitor with
  | true =>
      obtain ⟨start, monitoring, handler, monitor, same, none⟩ :=
        phase.dequeue_monitor queue isMonitor
      rw [same] at ran
      exact runCallback_monitor { app with queue := before ++ after } monitoring handler monitor
        none ran
  | false =>
      have same : App.SamePolling app { app with queue := before ++ after } :=
        ⟨rfl, rfl, rfl, rfl, by simp [App.pollers, queue, isMonitor]⟩
      exact (phase.congr same).runCallback_other isMonitor ran

/-- The screen going off pauses the polling, and going on starts it. -/
theorem onReceive {action : ScreenAction} (phase : Polling app)
    (received : app.onReceive action = some next)
    : Polling next := by
  rcases App.onReceive_cases received with ⟨-, rfl⟩ | ⟨monitoring, went⟩
  · exact phase
  · obtain ⟨start, owned⟩ := phase.owned monitoring
    rcases went with ⟨-, target, current, released⟩ | ⟨-, reposted⟩
    · obtain rfl := Option.some.inj (owned.handler.symm.trans current)
      have same := App.releaseThrottle_samePolling released
      have removed := App.pollers_removeCallbacks owned
      exact .paused (same.monitoring.trans monitoring) same.interactive
        (same.handler.trans owned.handler) (same.monitor.trans owned.monitor)
        (same.pollers.trans removed)
    · have bright : App.Owned { app with mInteractive := true } start :=
        ⟨owned.handler, owned.monitor, owned.pollers⟩
      exact repost bright monitoring reposted

/-- A start posts its own monitor when none is queued. -/
theorem startMonitoring (display : Option Bool) (phase : Polling app)
    : Polling (app.startMonitoring display) := by
  rw [App.startMonitoring]
  split
  · exact phase
  · rename_i refused
    simp only [Bool.or_eq_true, Bool.not_eq_true', not_or] at refused
    have none := phase.pollers_eq_nil (Bool.eq_false_iff.mpr refused.1)
    refine .polling app.starts 0 rfl rfl rfl ?_
    rw [App.pollers_post_monitor]
    exact congrArg (· ++ _) none

/-- A stop takes the monitor out of the queue. -/
theorem stopMonitoring (phase : Polling app) (stopped : app.stopMonitoring = some next)
    : Polling next := by
  rcases App.stopMonitoring_cases stopped
    with ⟨-, rfl⟩ | ⟨monitoring, queue, after, rfl, -, reset, rfl⟩
  · exact phase
  · obtain ⟨start, owned⟩ := phase.owned monitoring
    obtain ⟨files, rfl⟩ := App.resetFrequencies_eq reset
    have idleOwned : App.Owned { app with mIsMonitoring := false } start :=
      ⟨owned.handler, owned.monitor, owned.pollers⟩
    exact .stopped rfl (App.pollers_cancelMonitor idleOwned)

/-- Each event leads from a phase to a phase. -/
theorem step {event : Event} (phase : Polling app) (taken : app.step event = some next)
    : Polling next := by
  cases event with
  | startMonitoring display =>
      obtain rfl := Option.some.inj taken
      exact phase.startMonitoring display
  | stopMonitoring =>
      obtain rfl := Option.some.inj taken
      exact App.outcome_cases (.stopped rfl rfl) (fun after => phase.stopMonitoring)
  | dispatch index tasks =>
      obtain ⟨message, queued, rfl⟩ := Option.map_eq_some_iff.mp taken
      exact App.outcome_cases (.stopped rfl rfl) (fun after => phase.dispatch queued)
  | onReceive action =>
      obtain rfl := Option.some.inj taken
      exact App.outcome_cases (.stopped rfl rfl) (fun after => phase.onReceive)
  | onTaskStackChanged =>
      obtain rfl := Option.some.inj taken
      exact phase.congr app.requestImmediateCheck_samePolling
  | setSelectedApps packages =>
      obtain rfl := Option.some.inj taken
      have stored : Polling { app with prefs := { app.prefs with apps := packages } } :=
        phase.congr ⟨rfl, rfl, rfl, rfl, rfl⟩
      exact stored.congr (App.requestImmediateCheck_samePolling _)
  | storeThresholds warm high critical =>
      obtain rfl := Option.some.inj taken
      exact phase.congr ⟨rfl, rfl, rfl, rfl, rfl⟩
  | changeFile path file =>
      obtain rfl := Option.some.inj taken
      exact phase.congr ⟨rfl, rfl, rfl, rfl, rfl⟩
  | die =>
      obtain rfl := Option.some.inj taken
      exact .stopped rfl rfl

/-- The current monitor is queued once while polling and not at all in the other phases. -/
theorem monitorCount_le_one (phase : Polling app) : app.monitorCount ≤ 1 := by
  cases phase with
  | stopped _ none =>
      cases monitor : app.mThermalMonitor with
      | none => simp [App.monitorCount, monitor]
      | some start => simp [App.monitorCount_eq monitor, none]
  | paused _ _ _ monitor none => simp [App.monitorCount_eq monitor, none]
  | polling _ _ _ _ monitor once => simp [App.monitorCount_eq monitor, once]

/-- A limiter that monitors an interactive device has its monitor queued once. -/
theorem monitorCount_eq_one (phase : Polling app) (monitoring : app.mIsMonitoring = true)
    (interactive : app.mInteractive = true)
    : app.monitorCount = 1 := by
  cases phase with
  | stopped idle => rw [idle] at monitoring; cases monitoring
  | paused _ dark => rw [dark] at interactive; cases interactive
  | polling _ _ _ _ monitor once => simp [App.monitorCount_eq monitor, once]

end Polling

/-- In every run the current monitor is queued at most once, exactly once while the limiter
monitors an interactive device, and no monitor of any start is queued while it does not
monitor.
-/
theorem one_polling_chain (files : Files) (prefs : Prefs) (events : List Event)
    : appMachine.Always
        (fun app =>
          app.monitorCount ≤ 1
          ∧ (app.mIsMonitoring = true ∧ app.mInteractive = true → app.monitorCount = 1)
          ∧ (app.mIsMonitoring = false
            → ∀ message ∈ app.queue, message.callback.isMonitor = false))
        (App.booted files prefs) events := by
  refine Machine.Always.of_invariant Polling ?_ ?_ (.stopped rfl rfl)
    (Machine.along_true _ events)
  · intro app phase
    refine ⟨phase.monitorCount_le_one, ?_, ?_⟩
    · intro both
      exact phase.monitorCount_eq_one both.1 both.2
    · intro idle message queued
      have none := List.filter_eq_nil_iff.mp (phase.pollers_eq_nil idle)
      simpa using none message queued
  · intro app event next phase taken _
    exact phase.step taken

end PongDevice.Thermal
