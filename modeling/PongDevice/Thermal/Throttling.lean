import PongDevice.Thermal.LimiterSteps

/-! The limiter throttles only for a selected package that was in front at the last tick. -/

namespace PongDevice.Thermal

open PongDevice.Transition

/-- The package that was in front at a tick, and the packages that were selected then. -/
structure Tick where
  foreground : Option String
  selected : List String
deriving DecidableEq, Repr

/-- The tick that an event performs: a monitor that runs while the limiter is monitoring. -/
def App.tickOf (app : App) : Event → Option Tick
  | .dispatch index tasks =>
      (app.queue[index]?.filter (·.callback.isMonitor && app.mIsMonitoring)).map (fun _ =>
        {
          foreground := app.getForegroundPackage tasks
          selected := app.getSelectedApps
        })
  | _ => none

/-- Keeps the most recent tick. -/
def noteTick (last : Option Tick) (app : App) (event : Event) (_ : App) : Option Tick :=
  (app.tickOf event).or last

/-- The limiter is monitoring an interactive device, and throttles for a package that was in
front and selected at the most recent tick.
-/
structure Throttles (app : App) (last : Option Tick) : Prop where
  monitoring : app.mIsMonitoring = true
  interactive : app.mInteractive = true
  package
    : ∃ package ∈ app.mThrottledPackage, ∃ tick ∈ last,
        tick.foreground = some package ∧ package ∈ tick.selected

/-- Every thermal state but the normal one has its reason. -/
def Justified (app : App) (last : Option Tick) : Prop :=
  app.mCurrentThermalState ≠ .normal → Throttles app last

/-- Throttling depends on four fields only. -/
theorem Justified.congr {app next : App} {last : Option Tick} (justified : Justified app last)
    (state : next.mCurrentThermalState = app.mCurrentThermalState)
    (monitoring : next.mIsMonitoring = app.mIsMonitoring)
    (interactive : next.mInteractive = app.mInteractive)
    (package : next.mThrottledPackage = app.mThrottledPackage)
    : Justified next last := by
  intro throttled
  rw [state] at throttled
  have before := justified throttled
  exact {
    monitoring := monitoring ▸ before.monitoring
    interactive := interactive ▸ before.interactive
    package := package ▸ before.package
  }

/-- The normal state needs no reason. -/
theorem Justified.of_normal {app : App} {last : Option Tick}
    (normal : app.mCurrentThermalState = .normal)
    : Justified app last :=
  fun throttled => absurd normal throttled

/-- A limiter that is not monitoring is in the normal state. -/
theorem Justified.normal {app : App} {last : Option Tick} (justified : Justified app last)
    (stopped : app.mIsMonitoring = false)
    : app.mCurrentThermalState = .normal := by
  by_contra throttled
  have monitoring := (justified throttled).monitoring
  rw [stopped] at monitoring
  cases monitoring

namespace App

variable {app next : App} {last : Option Tick}

/-- A tick of a monitoring limiter is its own reason to throttle. -/
theorem tick_justified {tasks : Tasks} {delay : Nat} (monitoring : app.mIsMonitoring = true)
    (ticked : app.tick tasks = some (delay, next))
    : Justified next
        (some {
          foreground := app.getForegroundPackage tasks
          selected := app.getSelectedApps
        }) := by
  rcases tick_cases ticked with released | adjusted
  · obtain ⟨files, rfl⟩ := released
    exact .of_normal rfl
  · obtain ⟨foreground, files, state, toasts, interactive, inFront, selected, rfl, -⟩ := adjusted
    intro throttled
    exact {
      monitoring := monitoring
      interactive := interactive
      package := ⟨foreground, rfl, _, rfl, inFront, selected⟩
    }

/-- A callback keeps the reason, where a monitor's run brings a new tick. -/
theorem runCallback_justified {tasks : Tasks} {callback : Callback}
    (justified : Justified app last) (ran : app.runCallback tasks callback = some next)
    : Justified next
        (if callback.isMonitor && app.mIsMonitoring then
          some {
            foreground := app.getForegroundPackage tasks
            selected := app.getSelectedApps
          }
        else last) := by
  rcases runCallback_cases ran
    with ⟨rfl, idle⟩
      | ⟨monitoring, ⟨start, _, _, _, rfl, ticked, -, rfl⟩ | ⟨other, reposted⟩⟩
  · rw [if_neg (by simpa using idle)]
    exact justified
  · rw [if_pos (by simpa [Callback.isMonitor] using monitoring)]
    exact (tick_justified monitoring ticked).congr rfl rfl rfl rfl
  · rw [other, Bool.false_and, if_neg Bool.false_ne_true]
    obtain ⟨queue, rfl⟩ := repost_eq reposted
    exact justified.congr rfl rfl rfl rfl

/-- A broadcast keeps the reason: the screen going off releases the throttle, and the screen
going on leaves it.
-/
theorem onReceive_justified {action : ScreenAction} (justified : Justified app last)
    (received : app.onReceive action = some next)
    : Justified next last := by
  rcases onReceive_cases received
    with ⟨-, rfl⟩ | ⟨-, ⟨-, handler, -, released⟩ | ⟨-, reposted⟩⟩
  · exact justified
  · obtain ⟨files, rfl⟩ := releaseThrottle_eq released
    exact .of_normal rfl
  · obtain ⟨queue, rfl⟩ := repost_eq reposted
    intro throttled
    have before := justified throttled
    exact { monitoring := before.monitoring, interactive := rfl, package := before.package }

/-- A start finds the limiter in the normal state and leaves it there. -/
theorem startMonitoring_justified (display : Option Bool) (justified : Justified app last)
    : Justified (app.startMonitoring display) last := by
  rw [startMonitoring]
  split
  · exact justified
  · rename_i refused
    simp only [Bool.or_eq_true, Bool.not_eq_true', not_or] at refused
    exact .of_normal (justified.normal (Bool.eq_false_iff.mpr refused.1))

/-- A stop resets the thermal state. -/
theorem stopMonitoring_justified (justified : Justified app last)
    (stopped : app.stopMonitoring = some next)
    : Justified next last := by
  rcases stopMonitoring_cases stopped with ⟨-, rfl⟩ | ⟨-, queue, after, -, -, reset, rfl⟩
  · exact justified
  · obtain ⟨files, rfl⟩ := resetFrequencies_eq reset
    exact .of_normal rfl

/-- Each event keeps the reason. -/
theorem step_justified {event : Event} (justified : Justified app last)
    (taken : app.step event = some next)
    : Justified next (noteTick last app event next) := by
  cases event with
  | startMonitoring display =>
      obtain rfl := Option.some.inj taken
      exact startMonitoring_justified display justified
  | stopMonitoring =>
      obtain rfl := Option.some.inj taken
      exact outcome_cases (.of_normal rfl) (fun after => stopMonitoring_justified justified)
  | dispatch index tasks =>
      obtain ⟨message, queued, rfl⟩ := Option.map_eq_some_iff.mp taken
      simp only [noteTick, tickOf, queued, Option.filter_some]
      refine @outcome_cases app (Justified · _) _ (.of_normal rfl) (fun after ran => ?_)
      have dequeued : Justified { app with queue := app.queue.eraseIdx index } last :=
        justified.congr rfl rfl rfl rfl
      have reason := runCallback_justified dequeued ran
      split at reason <;> rename_i ticking
      · rw [if_pos ticking]
        exact reason
      · rw [if_neg ticking]
        exact reason
  | onReceive action =>
      obtain rfl := Option.some.inj taken
      exact outcome_cases (.of_normal rfl) (fun after => onReceive_justified justified)
  | onTaskStackChanged =>
      obtain rfl := Option.some.inj taken
      obtain ⟨queue, same⟩ := requestImmediateCheck_eq app
      rw [same]
      exact justified.congr rfl rfl rfl rfl
  | setSelectedApps packages =>
      obtain rfl := Option.some.inj taken
      obtain ⟨queue, same⟩ :=
        requestImmediateCheck_eq { app with prefs := { app.prefs with apps := packages } }
      rw [setSelectedApps, same]
      exact justified.congr rfl rfl rfl rfl
  | storeThresholds warm high critical =>
      obtain rfl := Option.some.inj taken
      exact justified.congr rfl rfl rfl rfl
  | changeFile path file =>
      obtain rfl := Option.some.inj taken
      exact justified.congr rfl rfl rfl rfl
  | die =>
      obtain rfl := Option.some.inj taken
      exact .of_normal rfl

end App

/-- In every run the limiter leaves the normal state only while it is monitoring an
interactive device, for a package that was in front and selected at the most recent tick.
-/
theorem throttles_selected_foreground (files : Files) (prefs : Prefs) (events : List Event)
    : (appMachine.observe noteTick).Always
        (fun state =>
          state.1.mCurrentThermalState ≠ .normal
          → state.1.mIsMonitoring = true
            ∧ state.1.mInteractive = true
            ∧ ∃ package,
                state.1.mThrottledPackage = some package
                  ∧ ∃ tick,
                      state.2 = some tick
                        ∧ tick.foreground = some package
                        ∧ package ∈ tick.selected)
        (App.booted files prefs, none) events := by
  refine Machine.observe_always_of_invariant (fun state => Justified state.1 state.2) ?_ ?_
    (.of_normal rfl) (Machine.along_true _ events)
  · intro app lastTick justified throttled
    obtain ⟨monitoring, interactive, package, inFront, tick, last, reason⟩ := justified throttled
    exact ⟨monitoring, interactive, package, inFront, tick, last, reason⟩
  · intro app lastTick event next justified taken _
    exact App.step_justified justified taken

end PongDevice.Thermal
