import PongDevice.Thermal.NullSafety
import PongDevice.Thermal.Throttling

/-! Lowered ceilings: which frequency nodes the limiter has lowered and not given back, and
when the normal state means that there are none.
-/

namespace PongDevice.Thermal

open PongDevice.Transition

-----------------------------------------------------------------------------------------
-- What a write of frequencies leaves at a node
-----------------------------------------------------------------------------------------

/-- Whether a write of the limiter to the file reaches the driver and is taken. -/
def SysFile.accepts (file : SysFile) : Bool := file.canWrite && file.opensForWriting && file.takes

/-- The file after a write of the limiter, which may not reach it. -/
def SysFile.put (file : SysFile) (value : String) : SysFile :=
  if file.accepts then { file with line := some value } else file

/-- A guarded write puts its value into the one file. -/
theorem writeValue_eq_put {files after : Files} {path : Path} {value : String}
    (written
      : (if fileWritable files path then
          (writeValue files path (some value)).map Prod.fst
        else some files) = some after)
    : after = Function.update files path ((files path).put value) := by
  have kept : files = Function.update files path (files path) := (Function.update_eq_self ..).symm
  simp only [fileWritable, writeValue] at written
  simp only [SysFile.put, SysFile.accepts]
  split at written
  · rename_i writable
    split at written
    · rename_i opens
      simp only [Option.map_some, Option.some.injEq] at written
      split at written
      · rename_i taken
        simpa [writable, opens, taken] using written.symm
      · rename_i refused
        simpa [refused] using written.symm
    · rename_i closed
      simpa [closed] using written.symm
  · rename_i guarded
    simpa [guarded] using written.symm

/-- The cluster that a core belongs to. -/
def Core.cluster : Core → Cluster
  | .cpu0 | .cpu1 | .cpu2 | .cpu3 => .little
  | .cpu4 | .cpu5 | .cpu6 => .mid
  | .cpu7 => .prime

/-- The cores of a cluster are those that belong to it. -/
theorem mem_cores_iff (core : Core) (cluster : Cluster)
    : core ∈ cluster.cores ↔ core.cluster = cluster := by
  cases core <;> cases cluster <;> decide

/-- The nodes that hold a ceiling: those of the cores and of the GPU. -/
def frequencyNodes : List Path :=
  [.scalingMaxFreq .cpu0, .scalingMaxFreq .cpu1, .scalingMaxFreq .cpu2, .scalingMaxFreq .cpu3,
    .scalingMaxFreq .cpu4, .scalingMaxFreq .cpu5, .scalingMaxFreq .cpu6, .scalingMaxFreq .cpu7,
    .gpuMaxFreq]

/-- A loop over cores that changes the node of each changes the nodes of these cores and nothing
else, by induction over the cores.
-/
theorem foldlM_apply {write : Files → Core → Option Files} (change : SysFile → SysFile)
    (each
      : ∀ files core after,
          write files core = some after
          → after
            = Function.update files (.scalingMaxFreq core) (change (files (.scalingMaxFreq core))))
    {files after : Files} {cores : List Core} (distinct : cores.Nodup)
    (ran : cores.foldlM write files = some after) (path : Path)
    : after path
      = if path ∈ cores.map Path.scalingMaxFreq then change (files path) else files path := by
  induction cores generalizing files with
  | nil =>
      obtain rfl := Option.some.inj ran
      rfl
  | cons core rest ih =>
      obtain ⟨fresh, distinct⟩ := List.nodup_cons.mp distinct
      obtain ⟨middle, written, later⟩ := Option.bind_eq_some_iff.mp ran
      obtain rfl := each files core middle written
      have elsewhere : Path.scalingMaxFreq core ∉ rest.map Path.scalingMaxFreq := by
        simpa using fresh
      rw [ih distinct later]
      by_cases same : path = .scalingMaxFreq core
      · subst same
        simp [fresh]
      · simp [same]

/-- Setting a cluster's frequency puts it into the nodes of its cores and nowhere else. -/
theorem setClusterFrequency_apply {files after : Files} {cores : List Core} {frequency : String}
    (distinct : cores.Nodup)
    (set : setClusterFrequency files cores (some frequency) = some after) (path : Path)
    : after path
      = if path ∈ cores.map Path.scalingMaxFreq then (files path).put frequency
        else files path :=
  foldlM_apply (·.put frequency) (fun _ _ _ written => writeValue_eq_put written) distinct set
    path

/-- What a node is given when each cluster has a frequency and so has the GPU. -/
def nodeFrequency (clusters : Cluster → String) (gpu : String) : Path → Option String
  | .scalingMaxFreq core => some (clusters core.cluster)
  | .gpuMaxFreq => some gpu
  | .batteryTemp => none
  | .cpuinfoMaxFreq _ => none

/-- What changes the nodes of each cluster and of the GPU by their frequencies changes every node
by its own.
-/
theorem nodes_apply (change : String → SysFile → SysFile) {files little mid prime after : Files}
    {clusters : Cluster → String} {gpu : String}
    (atLittle
      : ∀ path,
          little path
          = if path ∈ Cluster.little.cores.map Path.scalingMaxFreq then
              change (clusters .little) (files path)
            else files path)
    (atMid
      : ∀ path,
          mid path
          = if path ∈ Cluster.mid.cores.map Path.scalingMaxFreq then
              change (clusters .mid) (little path)
            else little path)
    (atPrime
      : ∀ path,
          prime path
          = if path ∈ Cluster.prime.cores.map Path.scalingMaxFreq then
              change (clusters .prime) (mid path)
            else mid path)
    (atGpu : after = Function.update prime .gpuMaxFreq (change gpu (prime .gpuMaxFreq)))
    (path : Path)
    : after path
      = match nodeFrequency clusters gpu path with
        | some frequency => change frequency (files path)
        | none => files path := by
  rw [atGpu]
  cases path with
  | scalingMaxFreq core =>
      rw [Function.update_of_ne (by simp), atPrime, atMid, atLittle]
      simp only [List.mem_map, Path.scalingMaxFreq.injEq, exists_eq_right, mem_cores_iff]
      cases core <;> rfl
  | gpuMaxFreq =>
      have same : prime .gpuMaxFreq = files .gpuMaxFreq := by simp [atPrime, atMid, atLittle]
      rw [Function.update_self, same]
      rfl
  | batteryTemp | cpuinfoMaxFreq core =>
      rw [Function.update_of_ne (by simp)]
      simp [atPrime, atMid, atLittle, nodeFrequency]

/-- Setting the frequency of each cluster and of the GPU puts its own into every node. -/
theorem setFrequencies_apply {files little mid prime after : Files}
    {clusters : Cluster → String} {gpu : String}
    (wroteLittle
      : setClusterFrequency files Cluster.little.cores (some (clusters .little)) = some little)
    (wroteMid
      : setClusterFrequency little Cluster.mid.cores (some (clusters .mid)) = some mid)
    (wrotePrime
      : setClusterFrequency mid Cluster.prime.cores (some (clusters .prime)) = some prime)
    (wroteGpu : setGpuFrequency prime gpu = some after) (path : Path)
    : after path
      = match nodeFrequency clusters gpu path with
        | some frequency => (files path).put frequency
        | none => files path :=
  nodes_apply (fun frequency file => file.put frequency)
    (setClusterFrequency_apply (by decide) wroteLittle)
    (setClusterFrequency_apply (by decide) wroteMid)
    (setClusterFrequency_apply (by decide) wrotePrime)
    (writeValue_eq_put wroteGpu) path

namespace App

variable {app next : App}

/-- The frequency that the limiter gives back to a cluster. -/
def clusterNormal (app : App) (cluster : Cluster) : String :=
  (app.ceiling cluster).getD (cluster.frequency .normal)

/-- What the limiter gives back to a node. -/
def normalFrequency (app : App) : Path → Option String :=
  nodeFrequency app.clusterNormal (gpuFrequency .normal)

/-- The normal frequencies depend on the ceilings. -/
theorem normalFrequency_congr (same : next.ceiling = app.ceiling)
    : next.normalFrequency = app.normalFrequency := by
  have clusters : next.clusterNormal = app.clusterNormal :=
    funext (fun cluster => by rw [clusterNormal, same, clusterNormal])
  rw [normalFrequency, clusters, normalFrequency]

/-- A step from a throttled state gave every node its normal frequency, as far as the node takes
it, and kept what the normal frequencies are.
-/
structure GivesBack (app next : App) : Prop where
  normal : next.mCurrentThermalState = .normal
  same : next.normalFrequency = app.normalFrequency
  files
    : ∀ path,
        next.files path
          = match app.normalFrequency path with
            | some frequency => (app.files path).put frequency
            | none => app.files path

/-- Giving back depends on the files, the thermal state and the ceilings. -/
theorem GivesBack.congr {before after : App} (gave : GivesBack app next)
    (sameFiles : before.files = app.files) (sameCeiling : before.ceiling = app.ceiling)
    (laterFiles : after.files = next.files) (laterCeiling : after.ceiling = next.ceiling)
    (state : after.mCurrentThermalState = next.mCurrentThermalState)
    : GivesBack before after := by
  have sameNormal := normalFrequency_congr sameCeiling
  exact {
    normal := state.trans gave.normal
    same := by rw [normalFrequency_congr laterCeiling, gave.same, sameNormal]
    files := by
      rw [laterFiles, sameFiles, sameNormal]
      exact gave.files
  }

/-- A reset gives back. -/
theorem resetFrequencies_givesBack (reset : app.resetFrequencies = some next)
    : GivesBack app next := by
  simp only [resetFrequencies, Option.bind_eq_bind, Option.pure_def,
    Option.bind_eq_some_iff] at reset
  obtain ⟨little, wroteLittle, mid, wroteMid, prime, wrotePrime, files, wroteGpu, same⟩ := reset
  obtain rfl := Option.some.inj same
  exact {
    normal := rfl
    same := rfl
    files := setFrequencies_apply wroteLittle wroteMid wrotePrime wroteGpu
  }

/-- So does a release from a throttled state. -/
theorem releaseThrottle_givesBack (throttled : app.mCurrentThermalState ≠ .normal)
    (released : app.releaseThrottle = some next)
    : GivesBack app next := by
  rw [releaseThrottle, if_neg throttled] at released
  exact (resetFrequencies_givesBack released).congr rfl rfl rfl rfl rfl

/-- The toast changes no file and no ceiling. -/
theorem showToast_statics {message : String} (shown : app.showToast message = some next)
    : next.files = app.files ∧ next.ceiling = app.ceiling
      ∧ next.mCurrentThermalState = app.mCurrentThermalState := by
  obtain ⟨toasts, rfl, -⟩ := showToast_eq shown
  exact ⟨rfl, rfl, rfl⟩

/-- An adjustment from a throttled state gives back where the battery is cool, and stays
throttled elsewhere.
-/
theorem adjustFrequencies_givesBack {temperature : Int} (ready : Ready app)
    (monitoring : app.mIsMonitoring = true) (throttled : app.mCurrentThermalState ≠ .normal)
    (adjusted : app.adjustFrequencies temperature = some next)
    : if ThermalState.ofTemperature app.thresholds temperature = .normal then GivesBack app next
      else next.mCurrentThermalState ≠ .normal := by
  simp only [adjustFrequencies, Option.bind_eq_bind, Option.pure_def] at adjusted
  split at adjusted
  · simp only [Option.bind_eq_some_iff] at adjusted
    obtain ⟨little, wroteLittle, mid, wroteMid, prime, wrotePrime, files, wroteGpu, shown⟩ :=
      adjusted
    split at shown
    · rename_i hot
      rw [if_neg hot, (showToast_statics shown).2.2]
      exact hot
    · rename_i cool
      rw [not_not] at cool
      obtain rfl := Option.some.inj shown
      have given (cluster : Cluster)
          : app.frequency .normal cluster = some (app.clusterNormal cluster) := by
        obtain ⟨ceiling, stored⟩ := Option.isSome_iff_exists.mp (ready.ceiling monitoring cluster)
        simp [frequency, clusterNormal, stored]
      rw [cool] at wroteLittle wroteMid wrotePrime wroteGpu
      rw [given] at wroteLittle wroteMid wrotePrime
      rw [if_pos cool]
      exact {
        normal := cool
        same := rfl
        files := setFrequencies_apply wroteLittle wroteMid wrotePrime wroteGpu
      }
  · rename_i unchanged
    rw [not_not] at unchanged
    rw [unchanged, if_neg throttled]
    split at adjusted
    · simp only [Option.bind_eq_some_iff] at adjusted
      obtain ⟨-, -, -, -, -, -, files, -, same⟩ := adjusted
      obtain rfl := Option.some.inj same
      exact throttled
    · obtain rfl := Option.some.inj adjusted
      exact throttled

/-- Whether a tick of a throttled limiter releases it: with a dark screen, without a selected
package in front, or with a cool battery.
-/
def tickReleases (app : App) (tasks : Tasks) : Bool :=
  !(app.isInteractive
    && (app.getForegroundPackage tasks).any (· ∈ app.getSelectedApps)
    && ThermalState.ofTemperature app.thresholds (getBatteryTemperature app.files) ≠ .normal)

/-- A tick of a throttled limiter gives back exactly where it releases. -/
theorem tick_givesBack {tasks : Tasks} {delay : Nat} (ready : Ready app)
    (monitoring : app.mIsMonitoring = true) (throttled : app.mCurrentThermalState ≠ .normal)
    (ticked : app.tick tasks = some (delay, next))
    : if app.tickReleases tasks then GivesBack app next
      else next.mCurrentThermalState ≠ .normal := by
  have released {interval : Nat}
      (result : app.releaseThrottle.map (interval, ·) = some (delay, next))
      : GivesBack app next := by
    obtain ⟨after, taken, same⟩ := Option.map_eq_some_iff.mp result
    obtain rfl := (Prod.mk.inj same).2
    exact releaseThrottle_givesBack throttled taken
  rw [tick] at ticked
  split at ticked
  · rename_i dark
    rw [if_pos (by simp_all [tickReleases])]
    exact released ticked
  · rename_i interactive
    split at ticked
    · rename_i nothing
      rw [if_pos (by simp [tickReleases, nothing])]
      exact released ticked
    · rename_i foreground inFront
      split at ticked
      · rename_i selected
        obtain ⟨after, adjusted, same⟩ := Option.map_eq_some_iff.mp ticked
        obtain rfl := (Prod.mk.inj same).2
        have throttling : Ready { app with mThrottledPackage := some foreground } :=
          ready_congr ready rfl rfl rfl rfl
        have outcome := adjustFrequencies_givesBack throttling monitoring throttled adjusted
        split at outcome
        · rename_i cool
          change ThermalState.ofTemperature app.thresholds _ = _ at cool
          rw [if_pos (by simp [tickReleases, cool])]
          exact outcome.congr rfl rfl rfl rfl rfl
        · rename_i hot
          change ThermalState.ofTemperature app.thresholds _ ≠ _ at hot
          rw [if_neg (by simp_all [tickReleases])]
          exact outcome
      · rename_i notSelected
        rw [if_pos (by simp [tickReleases, inFront, notSelected])]
        exact released ticked

/-- Whether an event brings a throttled limiter back to the normal state. -/
def releases (app : App) : Event → Bool
  | .stopMonitoring => app.mIsMonitoring
  | .onReceive .screenOff => app.mIsMonitoring
  | .dispatch index tasks =>
      (app.tickOf (.dispatch index tasks)).isSome && app.tickReleases tasks
  | _ => false

/-- A callback of a throttled limiter gives back exactly where it is a tick that releases. -/
theorem runCallback_givesBack {tasks : Tasks} {callback : Callback} (ready : Ready app)
    (monitoring : app.mIsMonitoring = true) (throttled : app.mCurrentThermalState ≠ .normal)
    (ran : app.runCallback tasks callback = some next)
    : if callback.isMonitor && app.tickReleases tasks then GivesBack app next
      else next.mCurrentThermalState ≠ .normal := by
  rcases runCallback_cases ran
    with ⟨rfl, idle⟩ | ⟨-, ⟨start, _, _, _, rfl, ticked, -, rfl⟩ | ⟨other, reposted⟩⟩
  · have other : callback.isMonitor = false := by
      by_contra ticks
      rw [idle (by simpa using ticks)] at monitoring
      cases monitoring
    rw [if_neg (by simp [other])]
    exact throttled
  · have outcome := tick_givesBack ready monitoring throttled ticked
    split at outcome
    · rename_i released
      rw [if_pos (by simp [Callback.isMonitor, released])]
      exact outcome.congr rfl rfl rfl rfl rfl
    · rename_i kept
      rw [if_neg (by simp [Callback.isMonitor, kept])]
      exact outcome
  · rw [if_neg (by simp [other])]
    obtain ⟨queue, rfl⟩ := repost_eq reposted
    exact throttled

/-- An event of a throttled limiter either gives back, where it releases, or kills the process,
or leaves it throttled.
-/
theorem step_givesBack {event : Event} (ready : Ready app) (monitoring : app.mIsMonitoring = true)
    (throttled : app.mCurrentThermalState ≠ .normal) (taken : app.step event = some next)
    : if app.releases event then GivesBack app next
      else if event = .die then next = app.killed
      else next.mCurrentThermalState ≠ .normal := by
  cases event with
  | startMonitoring display =>
      obtain rfl := Option.some.inj taken
      simpa [releases, startMonitoring, monitoring] using throttled
  | stopMonitoring =>
      rw [if_pos (show app.releases .stopMonitoring = true from monitoring)]
      obtain ⟨after, stopped⟩ := Option.isSome_iff_exists.mp (stopMonitoring_isSome app)
      obtain rfl : after = next := by simpa [step, stopped] using taken
      rcases stopMonitoring_cases stopped with ⟨idle, -⟩ | ⟨-, queue, middle, -, -, reset, rfl⟩
      · rw [idle] at monitoring
        cases monitoring
      · exact (resetFrequencies_givesBack reset).congr rfl rfl rfl rfl rfl
  | dispatch index tasks =>
      obtain ⟨message, queued, ran⟩ := Option.map_eq_some_iff.mp taken
      have dequeued : Ready { app with queue := app.queue.eraseIdx index } :=
        ready_congr ready rfl rfl rfl rfl
      have safe : app.throws (.dispatch index tasks) = false := by
        by_contra thrown
        have idle := ((throws_iff ready _).mp (by simpa using thrown)).2
        rw [monitoring] at idle
        cases idle
      simp only [throws, queued, Option.isNone_eq_false_iff] at safe
      obtain ⟨after, outcome⟩ := Option.isSome_iff_exists.mp safe
      rw [outcome, Option.getD_some] at ran
      obtain rfl := ran
      have gave := runCallback_givesBack dequeued monitoring throttled outcome
      have same : app.releases (.dispatch index tasks)
          = (message.callback.isMonitor && app.tickReleases tasks) := by
        cases isMonitor : message.callback.isMonitor <;>
          simp [releases, tickOf, queued, isMonitor, monitoring]
      change if (message.callback.isMonitor && app.tickReleases tasks) = true then _ else _ at gave
      rw [← same] at gave
      split at gave
      · rename_i released
        rw [if_pos released]
        exact gave.congr rfl rfl rfl rfl rfl
      · rename_i kept
        rw [if_neg kept, if_neg (by simp)]
        exact gave
  | onReceive action =>
      obtain ⟨after, received⟩ := Option.isSome_iff_exists.mp (onReceive_isSome ready action)
      obtain rfl : after = next := by simpa [step, received] using taken
      rcases onReceive_cases received
        with ⟨idle, -⟩ | ⟨-, ⟨rfl, handler, -, released⟩ | ⟨rfl, reposted⟩⟩
      · rw [idle] at monitoring
        cases monitoring
      · rw [if_pos (show app.releases (.onReceive .screenOff) = true from monitoring)]
        refine (releaseThrottle_givesBack ?_ released).congr rfl rfl rfl rfl rfl
        exact throttled
      · obtain ⟨queue, rfl⟩ := repost_eq reposted
        simpa [releases] using throttled
  | onTaskStackChanged =>
      obtain rfl := Option.some.inj taken
      obtain ⟨queue, same⟩ := requestImmediateCheck_eq app
      simpa [releases, same] using throttled
  | setSelectedApps packages =>
      obtain rfl := Option.some.inj taken
      obtain ⟨queue, same⟩ :=
        requestImmediateCheck_eq { app with prefs := { app.prefs with apps := packages } }
      simpa [releases, setSelectedApps, same] using throttled
  | storeThresholds warm high critical =>
      obtain rfl := Option.some.inj taken
      simpa [releases] using throttled
  | changeFile path file =>
      obtain rfl := Option.some.inj taken
      simpa [releases] using throttled
  | die =>
      obtain rfl := Option.some.inj taken
      simp [releases]

end App

-----------------------------------------------------------------------------------------
-- The nodes that are left lowered
-----------------------------------------------------------------------------------------

/-- The history: which nodes hold a ceiling that the limiter lowered, and whether a tick has
completed since the last failure.
-/
structure Ceilings where
  lowered : Path → Bool
  settled : Bool

/-- No node is lowered yet. -/
def Ceilings.none : Ceilings where
  lowered _ := false
  settled := true

/-- Whether every node takes what is written to it. -/
def nodesAccept (files : Files) : Bool := frequencyNodes.all (fun path => (files path).accepts)

/-- A node is lowered when it changes in a step of the limiter that leaves it throttled, and is
so until it holds another line or its normal frequency in the normal state. A failure is a
death of the process or a node that does not accept; a completed tick ends it.
-/
def noteCeilings (ceilings : Ceilings) (app : App) (event : Event) (next : App) : Ceilings where
  lowered path :=
    let changed := (next.files path).line != (app.files path).line
    match event with
    | .changeFile .. => ceilings.lowered path && !changed
    | _ =>
        if next.mCurrentThermalState = .normal then
          ceilings.lowered path && !changed
            && (next.files path).line != next.normalFrequency path
        else
          ceilings.lowered path || changed
  settled :=
    (ceilings.settled || (app.tickOf event).isSome) && event != .die && !app.throws event
      && nodesAccept next.files

/-- The normal state means that no node is left lowered. -/
def Released (app : App) (ceilings : Ceilings) : Prop :=
  app.mCurrentThermalState = .normal → ∀ path ∈ frequencyNodes, ceilings.lowered path = false

instance (app : App) (ceilings : Ceilings) : Decidable (Released app ceilings) :=
  inferInstanceAs (Decidable (_ → _))

/-- The condition on an event: a return to the normal state finds every lowered node accepting,
or at its normal frequency already, and the process dies only with every lowered node at its
normal frequency.
-/
def givesAllBack (app : App) (ceilings : Ceilings) (event : Event) : Prop :=
  (app.releases event = true →
    ∀ path ∈ frequencyNodes,
      ceilings.lowered path = true
      → (app.files path).accepts = true ∨ (app.files path).line = app.normalFrequency path)
  ∧ (event = .die →
    ∀ path ∈ frequencyNodes,
      ceilings.lowered path = true
      → (app.files path).line = app.killed.normalFrequency path)

instance (app : App) (ceilings : Ceilings) (event : Event)
    : Decidable (givesAllBack app ceilings event) :=
  inferInstanceAs (Decidable (_ ∧ _))

variable {app next : App} {ceilings : Ceilings} {event : Event}

/-- A step of the limiter into the normal state leaves a node lowered where its line stays as it
was and is not the normal one.
-/
theorem noteCeilings_lowered (limiter : ∀ path file, event ≠ .changeFile path file)
    (normal : next.mCurrentThermalState = .normal) (path : Path)
    : (noteCeilings ceilings app event next).lowered path
      = (ceilings.lowered path && !((next.files path).line != (app.files path).line)
        && (next.files path).line != next.normalFrequency path) := by
  cases event with
  | changeFile path file => exact absurd rfl (limiter path file)
  | _ => simp only [noteCeilings, normal, if_true]

/-- Where the limiter gives back, a node is left lowered that neither accepts nor holds its
normal frequency.
-/
theorem lowered_of_givesBack (limiter : ∀ path file, event ≠ .changeFile path file)
    (gave : app.GivesBack next) {path : Path} (node : path ∈ frequencyNodes)
    : (noteCeilings ceilings app event next).lowered path = false
      ↔ (ceilings.lowered path = true
        → (app.files path).accepts = true
          ∨ (app.files path).line = app.normalFrequency path) := by
  obtain ⟨frequency, given⟩ : ∃ frequency, app.normalFrequency path = some frequency := by
    cases path with
    | scalingMaxFreq core => exact ⟨_, rfl⟩
    | gpuMaxFreq => exact ⟨_, rfl⟩
    | batteryTemp | cpuinfoMaxFreq core => simp [frequencyNodes] at node
  have after := gave.files path
  rw [given] at after
  rw [noteCeilings_lowered limiter gave.normal, gave.same, given, after]
  cases accepted : (app.files path).accepts with
  | true => simp [SysFile.put, accepted]
  | false => simp [SysFile.put, accepted]

/-- A step leaves no node lowered in the normal state exactly where it meets the condition. -/
theorem released_step {last : Option Tick} (ready : Ready app) (justified : Justified app last)
    (released : Released app ceilings) (taken : app.step event = some next)
    : Released next (noteCeilings ceilings app event next)
      ↔ givesAllBack app ceilings event := by
  by_cases normal : app.mCurrentThermalState = .normal
  · have none := released normal
    refine iff_of_true (fun _ path node => ?_) ⟨?_, ?_⟩
    · cases event <;> simp_all [noteCeilings]
    · exact fun _ path node lowered => absurd lowered (by simp [none path node])
    · exact fun _ path node lowered => absurd lowered (by simp [none path node])
  · have monitoring := (justified normal).monitoring
    have outcome := App.step_givesBack ready monitoring normal taken
    split at outcome
    · rename_i releases
      have limiter (path : Path) (file : SysFile) : event ≠ .changeFile path file := by
        rintro rfl
        cases releases
      have alive : event ≠ .die := by
        rintro rfl
        cases releases
      simp only [Released, givesAllBack, releases, alive, true_implies, false_implies, and_true]
      refine ⟨fun after path node => ?_, fun back _ path node => ?_⟩
      · exact (lowered_of_givesBack limiter outcome node).mp (after outcome.normal path node)
      · exact (lowered_of_givesBack limiter outcome node).mpr (back path node)
    · rename_i keeps
      split at outcome
      · rename_i dies
        subst dies outcome
        have kept (path : Path)
            : (noteCeilings ceilings app .die app.killed).lowered path = false
              ↔ (ceilings.lowered path = true
                → (app.files path).line = app.killed.normalFrequency path) := by
          rw [noteCeilings_lowered (by simp) rfl]
          simp [App.killed]
        have died : app.killed.mCurrentThermalState = .normal := rfl
        simp only [Released, givesAllBack, died, App.releases, kept, Bool.false_eq_true,
          true_implies, false_implies, true_and]
      · rename_i alive
        refine iff_of_true (fun normal => absurd normal outcome) ⟨?_, ?_⟩
        · exact fun releases => absurd releases keeps
        · exact fun dies => absurd dies alive

/-- The limiter with the history of its ceilings. -/
def ceilingMachine : Machine (App × Ceilings) Event := appMachine.observe noteCeilings

/-- What every state of a run under the condition satisfies. -/
structure GivenBack (app : App) (ceilings : Ceilings) : Prop where
  ready : Ready app
  justified : ∃ last, Justified app last
  released : Released app ceilings

/-- A new process has nothing to give back. -/
theorem givenBack_booted (files : Files) (prefs : Prefs)
    : GivenBack (App.booted files prefs) .none where
  ready := App.ready_of_fresh rfl
  justified := ⟨none, .of_normal rfl⟩
  released _ _ _ := rfl

/-- A step that meets the condition keeps it. -/
theorem givenBack_step (before : GivenBack app ceilings) (taken : app.step event = some next)
    (back : givesAllBack app ceilings event)
    : GivenBack next (noteCeilings ceilings app event next) := by
  obtain ⟨last, justified⟩ := before.justified
  exact {
    ready := App.step_ready before.ready taken
    justified := ⟨_, App.step_justified justified taken⟩
    released := (released_step before.ready justified before.released taken).mpr back
  }

/-- In every run in which each return to the normal state gives every lowered node back, and the
process dies only without a lowered node, the normal state means that no node is lowered, once a
tick has completed after a failure. Without that respite the condition is exact.
-/
theorem released_of_givesAllBack (files : Files) (prefs : Prefs) (events : List Event)
    : (ceilingMachine.Along (fun state event _ => givesAllBack state.1 state.2 event)
          (App.booted files prefs, .none) events
        → ceilingMachine.Always
            (fun state => state.2.settled = true → Released state.1 state.2)
            (App.booted files prefs, .none) events)
      ∧ (ceilingMachine.Always (fun state => Released state.1 state.2)
            (App.booted files prefs, .none) events
        ↔ ceilingMachine.Along (fun state event _ => givesAllBack state.1 state.2 event)
            (App.booted files prefs, .none) events) := by
  constructor
  · intro back
    refine Machine.observe_always_of_invariant (fun state => GivenBack state.1 state.2) ?_ ?_
      (givenBack_booted files prefs) back
    · exact fun app ceilings sound _ => sound.released
    · intro app ceilings event next sound taken now
      exact givenBack_step sound taken now
  · refine Machine.observe_always_iff_along (fun state => GivenBack state.1 state.2) ?_ ?_ ?_
      (givenBack_booted files prefs) (Machine.along_true _ events)
    · exact fun app ceilings sound => sound.released
    · intro app ceilings event next sound taken _ now
      exact givenBack_step sound taken now
    · intro app ceilings event next sound taken _ released
      obtain ⟨last, justified⟩ := sound.justified
      exact (released_step sound.ready justified sound.released taken).mp released

/-- No package is in front. -/
def nothingInFront : Tasks where
  focused := none
  running := none

/-- Witness: the nodes of a hot device accept, and a later tick gives them back. -/
theorem released_of_givesAllBack_hot
    : ceilingMachine.Always (fun state => state.2.settled = true → Released state.1 state.2)
        (App.booted hotDevice gamePrefs, .none)
        [.startMonitoring (some true), .dispatch 0 gameInFront, .dispatch 1 nothingInFront,
          .dispatch 1 gameInFront] :=
  (released_of_givesAllBack hotDevice gamePrefs _).1 (by decide +kernel)

/-- A node of the GPU that keeps its frequency but refuses access for a while is skipped by the
release, and no later tick comes back to it.
-/
theorem released_fails_unwritable
    : ¬ ceilingMachine.Always
        (fun state => state.2.settled = true → Released state.1 state.2)
        (App.booted hotDevice gamePrefs, .none)
        [.startMonitoring (some true), .dispatch 0 gameInFront,
          .changeFile .gpuMaxFreq { workingFile "364000000" with canWrite := false },
          .dispatch 1 nothingInFront,
          .changeFile .gpuMaxFreq (workingFile "364000000"),
          .dispatch 1 nothingInFront] := by
  decide +kernel

end PongDevice.Thermal
