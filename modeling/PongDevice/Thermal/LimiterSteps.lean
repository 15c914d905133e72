import PongDevice.Thermal.Limiter

/-! What the methods of the limiter can change. -/

namespace PongDevice.Thermal.App

variable {app next : App}

/-- A reset changes files and the thermal state only. -/
theorem resetFrequencies_eq (reset : app.resetFrequencies = some next)
    : ∃ files, next = { app with files := files, mCurrentThermalState := .normal } := by
  simp only [resetFrequencies, Option.bind_eq_bind, Option.pure_def,
    Option.bind_eq_some_iff] at reset
  obtain ⟨-, -, -, -, -, -, files, -, same⟩ := reset
  exact ⟨files, (Option.some.inj same).symm⟩

/-- A release leaves the normal state without a throttled package, also on its early return. -/
theorem releaseThrottle_eq (released : app.releaseThrottle = some next)
    : ∃ files,
        next
          = { app with
              files := files
              mCurrentThermalState := .normal
              mThrottledPackage := none } := by
  rw [releaseThrottle] at released
  split at released
  · rename_i normal
    refine ⟨app.files, ?_⟩
    rw [← Option.some.inj released, ← normal]
  · exact resetFrequencies_eq released

/-- A toast is the only message that `showToast` can post. -/
theorem showToast_eq {message : String} (shown : app.showToast message = some next)
    : ∃ toasts : List Message,
        next = { app with queue := app.queue ++ toasts }
          ∧ ∀ posted ∈ toasts, posted.callback.isMonitor = false := by
  rw [showToast] at shown
  split at shown
  · obtain ⟨handler, -, rfl⟩ := Option.map_eq_some_iff.mp shown
    exact ⟨[⟨handler, .toast message, 0⟩], rfl, by simp [Callback.isMonitor]⟩
  · exact ⟨[], by simpa using (Option.some.inj shown).symm, by simp⟩

/-- An adjustment changes files and the thermal state, and may post toasts. -/
theorem adjustFrequencies_eq {temperature : Int}
    (adjusted : app.adjustFrequencies temperature = some next)
    : ∃ files state, ∃ toasts : List Message,
        next
          = { app with
              files := files
              mCurrentThermalState := state
              queue := app.queue ++ toasts }
          ∧ ∀ posted ∈ toasts, posted.callback.isMonitor = false := by
  simp only [adjustFrequencies, Option.bind_eq_bind, Option.pure_def] at adjusted
  split at adjusted
  · simp only [Option.bind_eq_some_iff] at adjusted
    obtain ⟨-, -, -, -, -, -, files, -, shown⟩ := adjusted
    split at shown
    · obtain ⟨toasts, rfl, quiet⟩ := showToast_eq shown
      exact ⟨files, _, toasts, rfl, quiet⟩
    · refine ⟨files, .ofTemperature app.thresholds temperature, [], ?_, by simp⟩
      rw [List.append_nil, ← Option.some.inj shown]
  · split at adjusted
    · simp only [Option.bind_eq_some_iff] at adjusted
      obtain ⟨-, -, -, -, -, -, files, -, same⟩ := adjusted
      refine ⟨files, app.mCurrentThermalState, [], ?_, by simp⟩
      rw [List.append_nil, ← Option.some.inj same]
    · refine ⟨app.files, app.mCurrentThermalState, [], ?_, by simp⟩
      rw [List.append_nil, ← Option.some.inj adjusted]

/-- A tick either releases the throttle or adjusts it for a selected package in front, while
the device is interactive.
-/
theorem tick_cases {tasks : Tasks} {delay : Nat} (ticked : app.tick tasks = some (delay, next))
    : (∃ files,
        next
          = { app with
              files := files
              mCurrentThermalState := .normal
              mThrottledPackage := none })
      ∨ ∃ foreground files state, ∃ toasts : List Message,
          app.mInteractive = true
            ∧ app.getForegroundPackage tasks = some foreground
            ∧ foreground ∈ app.getSelectedApps
            ∧ next
              = { app with
                  files := files
                  mCurrentThermalState := state
                  mThrottledPackage := some foreground
                  queue := app.queue ++ toasts }
            ∧ ∀ posted ∈ toasts, posted.callback.isMonitor = false := by
  have released {interval : Nat}
      (result : app.releaseThrottle.map (interval, ·) = some (delay, next))
      : app.releaseThrottle = some next := by
    obtain ⟨after, taken, same⟩ := Option.map_eq_some_iff.mp result
    rw [taken, (Prod.mk.inj same).2]
  rw [tick] at ticked
  split at ticked
  · exact .inl (releaseThrottle_eq (released ticked))
  · rename_i interactive
    split at ticked
    · exact .inl (releaseThrottle_eq (released ticked))
    · rename_i foreground inFront
      split at ticked
      · rename_i selected
        obtain ⟨after, adjusted, same⟩ := Option.map_eq_some_iff.mp ticked
        obtain rfl := (Prod.mk.inj same).2
        obtain ⟨files, state, toasts, rfl, quiet⟩ := adjustFrequencies_eq adjusted
        simp only [isInteractive, Bool.not_eq_true', Bool.not_eq_false,
          Bool.and_eq_true] at interactive
        exact .inr ⟨foreground, files, state, toasts, interactive.2, inFront, selected, rfl,
          quiet⟩
      · exact .inl (releaseThrottle_eq (released ticked))

/-- Posting the monitor again changes the queue only. -/
theorem repost_eq (reposted : app.repost = some next)
    : ∃ queue, next = { app with queue := queue } := by
  simp only [repost, Option.bind_eq_bind, Option.pure_def, Option.bind_eq_some_iff] at reposted
  obtain ⟨handler, -, rest⟩ := reposted
  split at rest <;> exact ⟨_, (Option.some.inj rest).symm⟩

/-- Asking for an immediate check changes the queue only. -/
theorem requestImmediateCheck_eq (app : App)
    : ∃ queue, app.requestImmediateCheck = { app with queue := queue } := by
  rw [requestImmediateCheck]
  split
  · exact ⟨app.queue, rfl⟩
  · exact ⟨_, rfl⟩

/-- A callback does nothing, ticks and posts its monitor behind the tick, or posts the monitor
again; the last two only while the limiter is monitoring.
-/
theorem runCallback_cases {tasks : Tasks} {callback : Callback}
    (ran : app.runCallback tasks callback = some next)
    : next = app ∧ (callback.isMonitor = true → app.mIsMonitoring = false)
      ∨ app.mIsMonitoring = true
        ∧ ((∃ start delay after handler,
            callback = .monitor start
            ∧ app.tick tasks = some (delay, after)
            ∧ after.mHandler = some handler
            ∧ next = after.post handler (.monitor start) delay)
          ∨ callback.isMonitor = false ∧ app.repost = some next) := by
  cases callback with
  | monitor start =>
      simp only [runCallback] at ran
      split at ran
      · rename_i monitoring
        simp only [Option.bind_eq_bind, Option.pure_def, Option.bind_eq_some_iff] at ran
        obtain ⟨⟨delay, after⟩, ticked, handler, current, posted⟩ := ran
        exact .inr ⟨monitoring,
          .inl ⟨start, delay, after, handler, rfl, ticked, current,
            (Option.some.inj posted).symm⟩⟩
      · rename_i idle
        exact .inl ⟨(Option.some.inj ran).symm, fun _ => Bool.eq_false_iff.mpr idle⟩
  | immediateCheck =>
      simp only [runCallback] at ran
      split at ran
      · rename_i wanted
        exact .inr ⟨(Bool.and_eq_true_iff.mp wanted).1, .inr ⟨rfl, ran⟩⟩
      · exact .inl ⟨(Option.some.inj ran).symm, nofun⟩
  | toast message =>
      simp only [runCallback] at ran
      split at ran
      · exact .inl ⟨(Option.some.inj ran).symm, nofun⟩
      · cases ran

/-- A broadcast reaches a limiter that is monitoring only: it releases the throttle without the
monitor in the queue, or posts the monitor again.
-/
theorem onReceive_cases {action : ScreenAction} (received : app.onReceive action = some next)
    : app.mIsMonitoring = false ∧ next = app
      ∨ app.mIsMonitoring = true
        ∧ (action = .screenOff
            ∧ (∃ handler,
              app.mHandler = some handler
              ∧ ({ app with mInteractive := false }.removeCallbacks handler
                  app.mThermalMonitor).releaseThrottle = some next)
          ∨ action = .screenOn ∧ { app with mInteractive := true }.repost = some next) := by
  unfold onReceive at received
  split at received
  · rename_i idle
    exact .inl ⟨by simpa using idle, (Option.some.inj received).symm⟩
  · rename_i running
    refine .inr ⟨by simpa using running, ?_⟩
    cases action with
    | screenOff =>
        simp only [Option.bind_eq_bind, Option.bind_eq_some_iff] at received
        exact .inl ⟨rfl, received⟩
    | screenOn => exact .inr ⟨rfl, received⟩

/-- The removal of the monitor in a stop only takes messages out of the queue. -/
theorem cancelMonitor_eq (app : App)
    : ∃ queue, queue ⊆ app.queue ∧ app.cancelMonitor = { app with queue } := by
  rw [cancelMonitor]
  split
  · exact ⟨_, List.filter_sublist.subset, rfl⟩
  · exact ⟨app.queue, List.Subset.refl _, rfl⟩

/-- A stop of a limiter that is monitoring resets the frequencies without the monitor in the
queue.
-/
theorem stopMonitoring_cases (stopped : app.stopMonitoring = some next)
    : app.mIsMonitoring = false ∧ next = app
      ∨ app.mIsMonitoring = true
        ∧ ∃ queue after,
            queue = { app with mIsMonitoring := false }.cancelMonitor.queue
            ∧ queue ⊆ app.queue
            ∧ { app with mIsMonitoring := false, queue }.resetFrequencies = some after
            ∧ next
              = { after with mThrottledPackage := none, mContext := false, mPrefs := false } := by
  rw [stopMonitoring] at stopped
  split at stopped
  · rename_i idle
    exact .inl ⟨by simpa using idle, (Option.some.inj stopped).symm⟩
  · rename_i running
    simp only [Option.bind_eq_bind, Option.pure_def, Option.bind_eq_some_iff] at stopped
    obtain ⟨after, reset, same⟩ := stopped
    obtain ⟨queue, subset, removed⟩ := cancelMonitor_eq { app with mIsMonitoring := false }
    rw [removed] at reset
    exact .inr ⟨by simpa using running, queue, after, by rw [removed], subset, reset,
      (Option.some.inj same).symm⟩

/-- What holds of a new process and of every outcome without an uncaught exception holds after
the event.
-/
theorem outcome_cases {holds : App → Prop} {outcome : Option App} (died : holds app.killed)
    (ran : ∀ next, outcome = some next → holds next)
    : holds (outcome.getD app.killed) := by
  cases outcome with
  | none => exact died
  | some next => exact ran next rfl

end PongDevice.Thermal.App
