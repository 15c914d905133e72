import Mathlib.Order.MinMax
import PongDevice.Thermal.Classification
import PongDevice.Thermal.Release

/-! What a throttling adjustment leaves at the frequency nodes. A change of the state writes its
ceilings over whatever the nodes hold, while a state that stays compares before it writes.
-/

namespace PongDevice.Thermal

open PongDevice.Transition

/-- The number that a file holds. -/
def SysFile.value (file : SysFile) : Option Int := file.line.bind parseLong

/-- The file after `enforceFrequencyCeiling`. A file that cannot be read is taken to hold 0. -/
def SysFile.enforce (file : SysFile) (frequency : String) : SysFile :=
  if withinCeiling (if file.reads then file.line else some "0") frequency then file
  else file.put frequency

/-- The ceiling of a node in a state. -/
def nodeLimit (state : ThermalState) : Path → Option Int
  | .scalingMaxFreq core => some (core.cluster.limit state)
  | .gpuMaxFreq => some (gpuLimit state)
  | .batteryTemp => none
  | .cpuinfoMaxFreq _ => none

/-- The minimum of what a node held and its ceiling; the ceiling over no number. -/
def lowered (held : Option Int) (limit : Int) : Int := held.elim limit (min · limit)

/-- Whether the limiter leaves the minimum at a node that takes its writes: on a change of the
state a node must hold no less than the ceiling, and the node must be readable, or hold what
makes no difference.
-/
def SysFile.lowersTo (file : SysFile) (changes : Bool) (limit : Int) : Prop :=
  if changes then
    (∀ held ∈ file.value, limit ≤ held) ∧ (file.reads = true ∨ file.value = some limit)
  else
    file.reads = true ∨ ∃ held ∈ file.value, held ≤ limit

/-- A number of the limiter is its own, and no less than the 0 of an unreadable file. -/
theorem nodeLimit_eq_some {state : ThermalState} {path : Path} {limit : Int}
    (node : nodeLimit state path = some limit)
    : ∃ frequency,
        nodeFrequency (·.frequency state) (gpuFrequency state) path = some frequency
          ∧ parseLong frequency = some limit
          ∧ 0 ≤ limit := by
  cases path with
  | scalingMaxFreq core =>
      obtain rfl := Option.some.inj node
      refine ⟨_, rfl, parseLong_frequency _ _, ?_⟩
      cases core <;> cases state <;> decide
  | gpuMaxFreq =>
      obtain rfl := Option.some.inj node
      refine ⟨_, rfl, parseLong_gpuFrequency _, ?_⟩
      cases state <;> decide
  | batteryTemp | cpuinfoMaxFreq core => cases node

-----------------------------------------------------------------------------------------
-- One node
-----------------------------------------------------------------------------------------

namespace SysFile

variable {file : SysFile} {frequency : String} {limit : Int}

/-- A write that is taken leaves its number. -/
theorem value_put (accepted : file.accepts = true) (number : parseLong frequency = some limit)
    : (file.put frequency).value = some limit := by
  simp [put, accepted, value, number]

/-- A write that is not taken leaves the file. -/
theorem put_of_refused (refused : file.accepts = false) : file.put frequency = file := by
  simp [put, refused]

/-- Neither way to a ceiling changes a file that takes no write. -/
theorem enforce_of_refused (refused : file.accepts = false) : file.enforce frequency = file := by
  simp [enforce, put_of_refused refused]

/-- What is read decides whether a ceiling is written. -/
theorem withinCeiling_eq (number : parseLong frequency = some limit) (current : Option String)
    : withinCeiling current frequency = (current.bind parseLong).any (· ≤ limit) := by
  rw [withinCeiling, number]
  cases current.bind parseLong <;> rfl

/-- A readable file is lowered to the ceiling, by comparison with what it holds. -/
theorem value_enforce_of_reads (readable : file.reads = true) (accepted : file.accepts = true)
    (number : parseLong frequency = some limit)
    : (file.enforce frequency).value = some (lowered file.value limit) := by
  rw [enforce, if_pos readable, withinCeiling_eq number]
  change (if file.value.any _ = true then file else _).value = _
  cases held : file.value with
  | none => simpa [lowered] using value_put accepted number
  | some current =>
      by_cases within : current ≤ limit
      · simp [within, lowered, held]
      · have above : limit ≤ current := by omega
        simpa [within, lowered, above] using value_put accepted number

/-- A file that cannot be read is left alone, as 0 is below every ceiling. -/
theorem enforce_of_unreadable (unreadable : file.reads = false)
    (number : parseLong frequency = some limit) (positive : 0 ≤ limit)
    : file.enforce frequency = file := by
  have zero : parseLong "0" = some 0 := by decide +kernel
  simp [enforce, unreadable, withinCeiling_eq number, zero, positive]

/-- Both ways leave a number no larger than the one that was held exactly where they leave the
minimum and agree.
-/
theorem lowersTo_iff (accepted : file.accepts = true) (number : parseLong frequency = some limit)
    (positive : 0 ≤ limit) (changes : Bool)
    : (if changes then file.put frequency else file.enforce frequency).value
          = some (lowered file.value limit)
        ∧ (changes = true
          → (file.put frequency).value = (file.enforce frequency).value)
      ↔ file.lowersTo changes limit := by
  cases readable : file.reads with
  | true =>
      have enforced := value_enforce_of_reads readable accepted number
      cases changes with
      | false => simp [enforced, lowersTo, readable]
      | true =>
          rw [if_pos rfl, value_put accepted number, enforced]
          cases held : file.value with
          | none => simp [lowersTo, lowered, held, readable]
          | some current => simp [lowersTo, lowered, held, readable, eq_comm]
  | false =>
      have untouched := enforce_of_unreadable readable number positive
      cases changes with
      | false =>
          rw [if_neg Bool.false_ne_true, untouched]
          cases held : file.value with
          | none => simp [lowersTo, held, readable]
          | some current => simp [lowersTo, lowered, held, readable, eq_comm]
      | true =>
          rw [if_pos rfl, value_put accepted number, untouched]
          cases held : file.value with
          | none => simp [lowersTo, held, readable]
          | some current =>
              simp only [lowersTo, lowered, held, readable, if_true, Option.elim_some,
                Option.mem_def, Option.some.injEq, true_implies, Bool.false_eq_true, false_or]
              constructor
              · intro both
                obtain ⟨least, rfl⟩ := both
                exact ⟨fun _ same => le_of_eq same, rfl⟩
              · intro both
                obtain ⟨-, rfl⟩ := both
                exact ⟨by simp, rfl⟩

/-- The minimum is no more than what was held. -/
theorem lowered_le {held : Int} (some : file.value = some held) (limit : Int)
    : lowered file.value limit ≤ held := by
  simp [lowered, some]

end SysFile

-----------------------------------------------------------------------------------------
-- All nodes
-----------------------------------------------------------------------------------------

/-- Enforcing the ceiling of a file changes the one file. -/
theorem enforceFrequencyCeiling_eq {files after : Files} {path : Path} {frequency : String}
    (enforced : enforceFrequencyCeiling files path frequency = some after)
    : after = Function.update files path ((files path).enforce frequency) := by
  have kept : files = Function.update files path (files path) := (Function.update_eq_self ..).symm
  have current : readOneLine files path
      = if (files path).reads then (files path).line else some "0" := rfl
  rw [enforceFrequencyCeiling, current] at enforced
  rw [SysFile.enforce]
  by_cases within
      : withinCeiling (if (files path).reads then (files path).line else some "0") frequency
        = true
  · rw [if_pos (by simp [within])] at enforced
    rw [if_pos within, ← kept]
    exact (Option.some.inj enforced).symm
  · rw [if_neg within]
    refine writeValue_eq_put ?_
    rw [Bool.eq_false_iff.mpr within, Bool.or_false] at enforced
    split at enforced
    · rename_i guarded
      rw [if_neg (by simpa using guarded)]
      exact enforced
    · rename_i writable
      rw [if_pos (by simpa using writable)]
      exact enforced

/-- Enforcing the ceiling of a cluster changes the nodes of its cores. -/
theorem enforceClusterCeiling_apply {files after : Files} {cores : List Core}
    {frequency : String} (distinct : cores.Nodup)
    (enforced : enforceClusterCeiling files cores frequency = some after) (path : Path)
    : after path
      = if path ∈ cores.map Path.scalingMaxFreq then (files path).enforce frequency
        else files path :=
  foldlM_apply (·.enforce frequency) (fun _ _ _ taken => enforceFrequencyCeiling_eq taken)
    distinct enforced path

/-- Enforcing the ceiling of each cluster and of the GPU changes every node by its own. -/
theorem enforceFrequencies_apply {files little mid prime after : Files}
    {clusters : Cluster → String} {gpu : String}
    (atLittle
      : enforceClusterCeiling files Cluster.little.cores (clusters .little) = some little)
    (atMid : enforceClusterCeiling little Cluster.mid.cores (clusters .mid) = some mid)
    (atPrime : enforceClusterCeiling mid Cluster.prime.cores (clusters .prime) = some prime)
    (atGpu : enforceFrequencyCeiling prime .gpuMaxFreq gpu = some after) (path : Path)
    : after path
      = match nodeFrequency clusters gpu path with
        | some frequency => (files path).enforce frequency
        | none => files path :=
  nodes_apply (fun frequency file => file.enforce frequency)
    (enforceClusterCeiling_apply (by decide) atLittle)
    (enforceClusterCeiling_apply (by decide) atMid)
    (enforceClusterCeiling_apply (by decide) atPrime)
    (enforceFrequencyCeiling_eq atGpu) path

namespace App

variable {app next : App} {temperature : Int}

/-- The state that `adjustFrequencies` chooses. -/
def newState (app : App) (temperature : Int) : ThermalState :=
  .ofTemperature app.thresholds temperature

/-- Whether a temperature moves the limiter to a hotter state or keeps it in the same throttled
state.
-/
def throttlesAt (app : App) (temperature : Int) : Prop :=
  app.newState temperature ≠ .normal
    ∧ app.mCurrentThermalState.level ≤ (app.newState temperature).level

/-- A throttling adjustment changes every node, by a plain write where the state changes and by
comparison where it stays.
-/
theorem adjustFrequencies_files {state : ThermalState} (chosen : app.newState temperature = state)
    (hot : state ≠ .normal) (adjusted : app.adjustFrequencies temperature = some next)
    (path : Path)
    : next.files path
      = match nodeFrequency (·.frequency state) (gpuFrequency state) path with
        | some frequency =>
            if state ≠ app.mCurrentThermalState then (app.files path).put frequency
            else (app.files path).enforce frequency
        | none => app.files path := by
  have given (cluster : Cluster)
      : app.frequency state cluster = some (cluster.frequency state) :=
    if_neg hot
  rw [newState] at chosen
  simp only [adjustFrequencies, chosen, Option.bind_eq_bind, Option.pure_def] at adjusted
  split at adjusted
  · rename_i changes
    simp only [given, Option.bind_eq_some_iff] at adjusted
    obtain ⟨little, wroteLittle, mid, wroteMid, prime, wrotePrime, files, wroteGpu, shown⟩ :=
      adjusted
    rw [(showToast_statics shown).1]
    simp only [if_pos changes]
    exact setFrequencies_apply wroteLittle wroteMid wrotePrime wroteGpu path
  · rename_i stays
    simp only [Option.bind_eq_some_iff] at adjusted
    obtain ⟨little, atLittle, mid, atMid, prime, atPrime, files, atGpu, same⟩ := adjusted
    obtain rfl := Option.some.inj same
    simp only [if_neg stays]
    exact @enforceFrequencies_apply _ _ _ _ _ (·.frequency state) _ atLittle atMid atPrime atGpu
      path

/-- A throttling adjustment needs no ceiling and throws nowhere. -/
theorem throttle_isSome (ready : Ready app) (hot : app.newState temperature ≠ .normal)
    : (app.adjustFrequencies temperature).isSome = true := by
  rw [newState] at hot
  have given (cluster : Cluster)
      : (app.frequency (.ofTemperature app.thresholds temperature) cluster).isSome = true := by
    rw [frequency, if_neg hot]
    rfl
  simp only [adjustFrequencies]
  split
  · refine bind_isSome (setClusterFrequency_isSome _ _ (given _)) (fun little => ?_)
    refine bind_isSome (setClusterFrequency_isSome _ _ (given _)) (fun mid => ?_)
    refine bind_isSome (setClusterFrequency_isSome _ _ (given _)) (fun prime => ?_)
    refine bind_isSome (setGpuFrequency_isSome _ _) (fun gpu => ?_)
    rw [showToast]
    split
    · rename_i context
      rw [Option.isSome_map]
      exact ready.handler (ready.context.symm.trans context)
    · rfl
  · refine bind_isSome (enforceClusterCeiling_isSome _ _ _) (fun little => ?_)
    refine bind_isSome (enforceClusterCeiling_isSome _ _ _) (fun mid => ?_)
    refine bind_isSome (enforceClusterCeiling_isSome _ _ _) (fun prime => ?_)
    exact bind_isSome (enforceFrequencyCeiling_isSome _ _ _) (fun gpu => rfl)

/-- The limiter in the state that it would be in if it had been adjusted before. -/
def settled (app : App) (temperature : Int) : App :=
  { app with mCurrentThermalState := app.newState temperature }

end App

/-- What a throttling adjustment leaves: the minimum of its former value and its ceiling at each
node that takes writes, no node above its former value, and what the enforcement of a state that
stays leaves.
-/
structure ThrottlesDown (app : App) (temperature : Int) (next : App) : Prop where
  minimum
    : ∀ path limit,
        nodeLimit (app.newState temperature) path = some limit
        → (app.files path).accepts = true
        → (next.files path).value = some (lowered (app.files path).value limit)
  neverRaises
    : ∀ path ∈ frequencyNodes, ∀ held ∈ (app.files path).value,
        ∃ later ∈ (next.files path).value, later ≤ held
  agrees
    : ∀ enforced,
        (app.settled temperature).adjustFrequencies temperature = some enforced
        → ∀ path ∈ frequencyNodes, (next.files path).value = (enforced.files path).value

/-- The condition: every node that takes writes is one that the limiter lowers. -/
def lowersNodes (app : App) (temperature : Int) : Prop :=
  ∀ path limit,
    nodeLimit (app.newState temperature) path = some limit
    → (app.files path).accepts = true
    → (app.files path).lowersTo (app.newState temperature ≠ app.mCurrentThermalState) limit

/-- Every frequency node has a ceiling. -/
theorem nodeLimit_of_mem {path : Path} (node : path ∈ frequencyNodes) (state : ThermalState)
    : ∃ limit, nodeLimit state path = some limit := by
  cases path with
  | scalingMaxFreq core => exact ⟨_, rfl⟩
  | gpuMaxFreq => exact ⟨_, rfl⟩
  | batteryTemp | cpuinfoMaxFreq core => simp [frequencyNodes] at node

/-- Only frequency nodes have one. -/
theorem mem_of_nodeLimit {path : Path} {state : ThermalState} {limit : Int}
    (node : nodeLimit state path = some limit)
    : path ∈ frequencyNodes := by
  cases path with
  | scalingMaxFreq core => cases core <;> simp [frequencyNodes]
  | gpuMaxFreq => simp [frequencyNodes]
  | batteryTemp | cpuinfoMaxFreq core => cases node

/-- What a throttling adjustment makes of a node, and what the enforcement of the state that it
comes to would make of it.
-/
theorem adjusted_node {app next : App} {temperature : Int} {path : Path} {limit : Int}
    (hot : app.newState temperature ≠ .normal)
    (adjusted : app.adjustFrequencies temperature = some next)
    (node : nodeLimit (app.newState temperature) path = some limit)
    : ∃ frequency,
        parseLong frequency = some limit
          ∧ 0 ≤ limit
          ∧ next.files path
            = (if decide (app.newState temperature ≠ app.mCurrentThermalState) = true then
                (app.files path).put frequency
              else
                (app.files path).enforce frequency)
          ∧ ∀ enforced,
            (app.settled temperature).adjustFrequencies temperature = some enforced
            → enforced.files path = (app.files path).enforce frequency := by
  obtain ⟨frequency, given, number, positive⟩ := nodeLimit_eq_some node
  have left := App.adjustFrequencies_files rfl hot adjusted path
  refine ⟨frequency, number, positive, by simpa [given] using left, ?_⟩
  intro enforced steady
  have same : (app.settled temperature).newState temperature = app.newState temperature := rfl
  have atSteady := App.adjustFrequencies_files same hot steady path
  simpa [given, App.settled] using atSteady

/-- Where a throttling adjustment leaves the minimum and agrees with the enforcement, each node is
one that it lowers.
-/
theorem lowersNodes_of_throttlesDown {app next : App} {temperature : Int} (ready : Ready app)
    (hot : app.newState temperature ≠ .normal)
    (adjusted : app.adjustFrequencies temperature = some next)
    (down : ThrottlesDown app temperature next)
    : lowersNodes app temperature := by
  intro path limit node accepted
  obtain ⟨frequency, number, positive, left, steadyLeaves⟩ := adjusted_node hot adjusted node
  refine (SysFile.lowersTo_iff accepted number positive _).mp ⟨?_, ?_⟩
  · rw [← down.minimum path limit node accepted, left]
  · intro changes
    have readySettled : Ready (app.settled temperature) :=
      App.ready_congr ready rfl rfl rfl rfl
    obtain ⟨enforced, steady⟩ :=
      Option.isSome_iff_exists.mp (App.throttle_isSome readySettled hot)
    have agree := down.agrees enforced steady path (mem_of_nodeLimit node)
    rw [left, steadyLeaves enforced steady, if_pos changes] at agree
    exact agree

/-- Where each node is one that it lowers, a throttling adjustment leaves the minimum. -/
theorem throttlesDown_of_lowersNodes {app next : App} {temperature : Int}
    (hot : app.newState temperature ≠ .normal)
    (adjusted : app.adjustFrequencies temperature = some next)
    (lowers : lowersNodes app temperature)
    : ThrottlesDown app temperature next where
  minimum := by
    intro path limit node accepted
    obtain ⟨frequency, number, positive, left, _⟩ := adjusted_node hot adjusted node
    have both := (SysFile.lowersTo_iff accepted number positive _).mpr
      (lowers path limit node accepted)
    rw [left, both.1]
  neverRaises := by
    intro path node held some
    obtain ⟨limit, known⟩ := nodeLimit_of_mem node (app.newState temperature)
    obtain ⟨frequency, number, positive, left, _⟩ := adjusted_node hot adjusted known
    cases accepted : (app.files path).accepts with
    | false =>
        refine ⟨held, ?_, le_refl held⟩
        rw [left, SysFile.put_of_refused accepted, SysFile.enforce_of_refused accepted, ite_self]
        exact some
    | true =>
        have both := (SysFile.lowersTo_iff accepted number positive _).mpr
          (lowers path limit known accepted)
        exact ⟨_, by rw [left]; exact both.1, SysFile.lowered_le some limit⟩
  agrees := by
    intro enforced steady path node
    obtain ⟨limit, known⟩ := nodeLimit_of_mem node (app.newState temperature)
    obtain ⟨frequency, number, positive, left, steadyLeaves⟩ :=
      adjusted_node hot adjusted known
    rw [left, steadyLeaves enforced steady]
    cases accepted : (app.files path).accepts with
    | false =>
        rw [SysFile.put_of_refused accepted, SysFile.enforce_of_refused accepted, ite_self]
    | true =>
        have both := (SysFile.lowersTo_iff accepted number positive _).mpr
          (lowers path limit known accepted)
        split
        · rename_i changes
          exact both.2 changes
        · rfl

/-- A throttling adjustment lowers the nodes exactly where each of them is one that it lowers. -/
theorem throttlesDown_iff {app next : App} {temperature : Int} (ready : Ready app)
    (hot : app.newState temperature ≠ .normal)
    (adjusted : app.adjustFrequencies temperature = some next)
    : ThrottlesDown app temperature next ↔ lowersNodes app temperature :=
  ⟨lowersNodes_of_throttlesDown ready hot adjusted, throttlesDown_of_lowersNodes hot adjusted⟩

/-- In every state of every run, an adjustment for a temperature that throttles completes, and
lowers the nodes exactly where each node that takes its writes can be read and, on a change of
the state, holds no less than its ceiling. An unreadable node may hold what makes no difference.
-/
theorem throttlesDown_always_iff (files : Files) (prefs : Prefs) (events : List Event)
    : appMachine.Always
        (fun app =>
          ∀ temperature,
            app.throttlesAt temperature
            → ∃ next,
                app.adjustFrequencies temperature = some next
                  ∧ (ThrottlesDown app temperature next ↔ lowersNodes app temperature))
        (App.booted files prefs) events := by
  refine Machine.Always.of_invariant Ready ?_ ?_ (App.ready_of_fresh rfl)
    (Machine.along_true _ events)
  · intro app ready temperature throttles
    obtain ⟨next, adjusted⟩ :=
      Option.isSome_iff_exists.mp (App.throttle_isSome ready throttles.1)
    exact ⟨next, adjusted, throttlesDown_iff ready throttles.1 adjusted⟩
  · exact fun app event next ready taken _ => App.step_ready ready taken

/-- Another agent has lowered a core of the middle cluster to 1 GHz when the battery becomes
warm: the change of the state raises it.
-/
theorem throttlesDown_fails_lowered
    : ¬appMachine.Always
        (fun app =>
          ∀ temperature,
            app.throttlesAt temperature
            → ∃ next,
                app.adjustFrequencies temperature = some next
                  ∧ ThrottlesDown app temperature next)
        (App.booted hotDevice gamePrefs)
        [.startMonitoring (some true),
          .changeFile (.scalingMaxFreq .cpu4) (workingFile "1000000")] := by
  intro always
  obtain ⟨next, adjusted, down⟩ := always.of_run rfl 410 ⟨by decide +kernel, by decide +kernel⟩
  obtain ⟨later, holds, atMost⟩ :=
    down.neverRaises (.scalingMaxFreq .cpu4) (by decide) 1000000 (by decide +kernel)
  have raised := congrArg
    (Option.map (fun next => (next.files (.scalingMaxFreq .cpu4)).value)) adjusted
  have value : (next.files (.scalingMaxFreq .cpu4)).value = some 2092800 :=
    Option.some.inj (raised.symm.trans (by decide +kernel))
  obtain rfl := Option.some.inj (holds.symm.trans value)
  exact absurd atMost (by decide)

end PongDevice.Thermal
