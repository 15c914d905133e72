import PongDevice.Text.CString
import PongDevice.Transition.Machine

/-! The torch of the camera provider: two LEDs behind a switch. A call writes one node after another,
and the camera provider may look at them in between; a node may refuse a write.
-/

namespace PongDevice.Camera

open PongDevice.Text Transition

/-- `TOGGLE_SWITCH`, and the nodes of `kTorchLedPaths` for the brightness. -/
inductive Node where
  | toggleSwitch
  | torch0
  | torch1
deriving DecidableEq, Repr

def kTorchLedPaths : List Node := [.torch0, .torch1]

/-- The texts of the nodes, `none` for one that does not open, and the writes that are left to the
call under way.
-/
structure Torch where
  nodes : Node → Option String
  writes : List (Node × Int) := []

namespace Torch

/-- `get`: a file that does not open, and a text that starts with no `int`, give the default. -/
def get (torch : Torch) (path : Node) (default : Int) : Int :=
  ((torch.nodes path).bind stoi).getD default

/-- `set`, if the node takes it. -/
def set (torch : Torch) (path : Node) (value : Int) : Torch :=
  { torch with nodes := Function.update torch.nodes path (some (toString value)) }

def getTorchDefaultStrengthLevelExt : Int := 50

/-- Both LEDs are given the same value, so that one of them is read. -/
def getTorchStrengthLevelExt (torch : Torch) : Int := torch.get .torch0 0

/-- The writes of `setTorchStrengthLevelExt`. -/
def setTorchStrengthLevelExt (torchStrength : Int) (enabled : Bool) : List (Node × Int) :=
  (.toggleSwitch, 0) :: kTorchLedPaths.map (·, torchStrength)
    ++ if enabled then [(.toggleSwitch, 255)] else []

def setTorchModeExt (enabled : Bool) : List (Node × Int) :=
  setTorchStrengthLevelExt (if enabled then getTorchDefaultStrengthLevelExt else 0) enabled

/-- A call, or the next write of the one under way, which the node takes or refuses. -/
inductive Event where
  | setTorchStrengthLevelExt (torchStrength : Int) (enabled : Bool)
  | setTorchModeExt (enabled : Bool)
  | write (taken : Bool)
deriving DecidableEq, Repr

def step (torch : Torch) : Event → Option Torch
  | .setTorchStrengthLevelExt torchStrength enabled =>
      if torch.writes.isEmpty then
        some { torch with writes := setTorchStrengthLevelExt torchStrength enabled }
      else
        none
  | .setTorchModeExt enabled =>
      if torch.writes.isEmpty then some { torch with writes := setTorchModeExt enabled } else none
  | .write taken =>
      match torch.writes with
      | [] => none
      | (path, value) :: writes =>
          some { (if taken then torch.set path value else torch) with writes }

end Torch

def torchMachine : Machine Torch Torch.Event where
  step := Torch.step

-----------------------------------------------------------------------------------------
-- What the calls have asked for
-----------------------------------------------------------------------------------------

/-- The strength of a call and whether it enables the torch. -/
structure Request where
  torchStrength : Int
  enabled : Bool
deriving DecidableEq, Repr

/-- The writes of a request. -/
def Request.writes (request : Request) : List (Node × Int) :=
  Torch.setTorchStrengthLevelExt request.torchStrength request.enabled

/-- The last request, and the one that has switched the torch on last. -/
structure Requests where
  last : Option Request := none
  lit : Option Request := none

def noteRequest (seen : Requests) (before : Torch) (event : Torch.Event) (_ : Torch) : Requests :=
  match event with
  | .setTorchStrengthLevelExt torchStrength enabled =>
      { seen with last := some { torchStrength, enabled } }
  | .setTorchModeExt enabled =>
      { seen with
        last :=
          some
            {
              torchStrength := if enabled then Torch.getTorchDefaultStrengthLevelExt else 0
              enabled
            } }
  | .write taken =>
      if taken = true ∧ before.writes.head? = some (.toggleSwitch, 255) then
        { seen with lit := seen.last }
      else
        seen

def requestedMachine : Machine (Torch × Requests) Torch.Event :=
  torchMachine.observe noteRequest

/-- The LEDs hold a strength. -/
def Torch.Holds (torch : Torch) (torchStrength : Int) : Prop :=
  ∀ led ∈ kTorchLedPaths, torch.nodes led = some (toString torchStrength)

/-- The torch is lit only with the strength of the request that has lit it, also while the next call
is under way; between two calls it is lit if the last one has enabled it, and its strength is read
back.
-/
structure LitAsRequested (torch : Torch) (seen : Requests) : Prop where
  lit
    : ∀ request ∈ seen.lit, torch.nodes .toggleSwitch = some (toString (255 : Int))
        → torch.Holds request.torchStrength
  settled
    : torch.writes = []
      → ∀ request ∈ seen.last,
          torch.Holds request.torchStrength
          ∧ torch.nodes .toggleSwitch
            = some (toString (if request.enabled then (255 : Int) else 0))
          ∧ (-0x80000000 ≤ request.torchStrength → request.torchStrength < 0x80000000
            → torch.getTorchStrengthLevelExt = request.torchStrength)

-----------------------------------------------------------------------------------------
-- A call, write by write
-----------------------------------------------------------------------------------------

namespace Torch

variable {before after : Torch} {seen : Requests}

/-- A lit torch has the strength of the request that has lit it. -/
def LitOnly (torch : Torch) (seen : Requests) : Prop :=
  ∀ request ∈ seen.lit, torch.nodes .toggleSwitch = some (toString (255 : Int))
    → torch.Holds request.torchStrength

theorem litOnly_of_off (off : before.nodes .toggleSwitch = some (toString (0 : Int)))
    : before.LitOnly seen := by
  intro request _ on
  rw [off] at on
  exact absurd on (by decide)

/-- Between which of its writes a call stands, and what the earlier ones have left. -/
inductive Phase (torch : Torch) (seen : Requests) : Prop where
  | untouched (none : torch.writes = []) (never : seen.last = .none) (unlit : seen.lit = .none)
  | settled (request : Request) (last : seen.last = some request) (none : torch.writes = [])
    (lit : torch.LitOnly seen) (holds : torch.Holds request.torchStrength)
    (toggled
      : torch.nodes .toggleSwitch
        = some (toString (if request.enabled then (255 : Int) else 0)))
  | asked (request : Request) (last : seen.last = some request)
    (next : torch.writes = request.writes) (lit : torch.LitOnly seen)
  | off (request : Request) (last : seen.last = some request)
    (next : torch.writes = request.writes.drop 1)
    (off : torch.nodes .toggleSwitch = some (toString (0 : Int)))
  | first (request : Request) (last : seen.last = some request)
    (next : torch.writes = request.writes.drop 2)
    (off : torch.nodes .toggleSwitch = some (toString (0 : Int)))
    (torch0 : torch.nodes .torch0 = some (toString request.torchStrength))
  | both (request : Request) (last : seen.last = some request) (enabled : request.enabled = true)
    (next : torch.writes = [(.toggleSwitch, 255)])
    (off : torch.nodes .toggleSwitch = some (toString (0 : Int)))
    (holds : torch.Holds request.torchStrength)

namespace Phase

theorem litOnly (phase : before.Phase seen) : before.LitOnly seen := by
  cases phase with
  | untouched none never unlit => simp [LitOnly, unlit]
  | settled request last none lit | asked request last next lit => exact lit
  | off _ _ _ off | first _ _ _ off | both _ _ _ _ off => exact litOnly_of_off off

/-- A request starts a call when no other one is under way. -/
theorem request (phase : before.Phase seen) (asked : Request)
    : { before with writes := asked.writes }.Phase { seen with last := some asked } :=
  .asked asked rfl rfl phase.litOnly

/-- A write that is taken leads from one phase to the next. -/
theorem write (phase : before.Phase seen) (taken : before.step (.write true) = some after)
    : after.Phase (noteRequest seen before (.write true) after) := by
  simp only [step] at taken
  split at taken
  · cases taken
  · rename_i path value writes left
    obtain rfl := Option.some.inj taken
    cases phase with
    | untouched none | settled _ _ none =>
        rw [none] at left
        cases left
    | asked request last next =>
        rw [next] at left
        obtain ⟨same, rfl⟩ := List.cons.inj left
        obtain ⟨rfl, rfl⟩ := Prod.mk.inj same
        refine .off request ?_ rfl (by simp [set])
        simp [noteRequest, next, Request.writes, setTorchStrengthLevelExt, last]
    | off request last next off =>
        rw [next] at left
        obtain ⟨same, rfl⟩ := List.cons.inj left
        obtain ⟨rfl, rfl⟩ := Prod.mk.inj same
        refine .first request ?_ rfl (by simpa [set] using off) (by simp [set])
        simp [noteRequest, next, Request.writes, setTorchStrengthLevelExt, kTorchLedPaths, last]
    | first request last next off torch0 =>
        rw [next] at left
        obtain ⟨same, rfl⟩ := List.cons.inj left
        obtain ⟨rfl, rfl⟩ := Prod.mk.inj same
        have seenSame (after : Torch) : noteRequest seen before (.write true) after = seen := by
          simp [noteRequest, next, Request.writes, setTorchStrengthLevelExt, kTorchLedPaths]
        rw [seenSame]
        have holds : (before.set .torch1 request.torchStrength).Holds request.torchStrength := by
          simp [Holds, kTorchLedPaths, set, torch0]
        have stays
            : (before.set .torch1 request.torchStrength).nodes .toggleSwitch
              = some (toString (0 : Int)) := by
          simpa [set] using off
        cases enabled : request.enabled with
        | true => exact .both request last enabled (by simp) stays holds
        | false =>
            exact .settled request last (by simp) (litOnly_of_off stays) holds
              (by simpa [enabled] using stays)
    | both request last enabled next off holds =>
        rw [next] at left
        obtain ⟨same, rfl⟩ := List.cons.inj left
        obtain ⟨rfl, rfl⟩ := Prod.mk.inj same
        have lights (after : Torch)
            : noteRequest seen before (.write true) after = { seen with lit := seen.last } := by
          simp [noteRequest, next]
        rw [lights]
        have still : (before.set .toggleSwitch 255).Holds request.torchStrength := by
          simpa [Holds, kTorchLedPaths, set] using holds
        refine .settled request last rfl ?_ still (by simp [set, enabled])
        intro lighter lit _
        obtain rfl := Option.some.inj (last.symm.trans lit)
        exact still

/-- Between two calls both LEDs hold the last strength, which is read back from one of them. -/
theorem litAsRequested (phase : before.Phase seen) : LitAsRequested before seen where
  lit := phase.litOnly
  settled := by
    intro idle request asked
    cases phase with
    | untouched none never => simp [never] at asked
    | settled last isLast none lit holds toggled =>
        obtain rfl := Option.some.inj (isLast.symm.trans asked)
        refine ⟨holds, toggled, fun low high => ?_⟩
        have torch0 := holds .torch0 (.head _)
        rw [getTorchStrengthLevelExt, get, torch0, Option.bind_some, stoi_toString low high,
          Option.getD_some]
    | asked last isLast next =>
        rw [idle] at next
        simp [Request.writes, setTorchStrengthLevelExt] at next
    | off last isLast next | first last isLast next =>
        rw [idle] at next
        simp [Request.writes, setTorchStrengthLevelExt, kTorchLedPaths] at next
    | both last isLast enabled next =>
        rw [idle] at next
        cases next

/-- Every event leads on, as long as no write is refused. -/
theorem step {event : Event} (phase : before.Phase seen)
    (taken : before.step event = some after) (takes : event ≠ .write false)
    : after.Phase (noteRequest seen before event after) := by
  cases event with
  | setTorchStrengthLevelExt torchStrength enabled =>
      simp only [Torch.step] at taken
      split at taken
      · obtain rfl := Option.some.inj taken
        exact phase.request { torchStrength, enabled }
      · cases taken
  | setTorchModeExt enabled =>
      simp only [Torch.step] at taken
      split at taken
      · obtain rfl := Option.some.inj taken
        exact phase.request
          { torchStrength := if enabled then getTorchDefaultStrengthLevelExt else 0, enabled }
      · cases taken
  | write took =>
      cases took with
      | true => exact phase.write taken
      | false => exact absurd rfl takes

end Phase

end Torch

/-- In every run of calls one after another whose writes are all taken, whatever the nodes held
before: at every moment, also between two writes, the torch is lit only with the strength that it
was lit with, and between two calls it is as the last one has asked.
-/
theorem torch_lit_as_requested (nodes : Node → Option String) (events : List Torch.Event)
    (takes : torchMachine.Along (fun _ event _ => event ≠ .write false) { nodes } events)
    : requestedMachine.Always (fun state => LitAsRequested state.1 state.2) ({ nodes }, {})
        events := by
  refine Machine.observe_always_of_invariant (fun state : Torch × Requests =>
      state.1.Phase state.2)
    (fun _ _ phase => phase.litAsRequested) ?_ (.untouched rfl rfl rfl)
    (Machine.observe_along.mpr takes)
  intro torch seen event after phase taken takes
  exact phase.step taken takes

/-- The torch is lit, made brighter, and turned off. -/
theorem torch_lit_as_requested_twice
    : requestedMachine.Always (fun state => LitAsRequested state.1 state.2)
        ({ nodes := fun _ => some "0" }, {})
        [.setTorchModeExt true, .write true, .write true, .write true, .write true,
          .setTorchStrengthLevelExt 230 true, .write true, .write true, .write true, .write true,
          .setTorchModeExt false, .write true, .write true, .write true] :=
  torch_lit_as_requested _ _ (Machine.Along.of_labels _ (by decide))

-- A second strength is written to an LED while the switch does not take its 0: the torch is lit
-- with two strengths.
example
    : ((torchMachine.run { nodes := fun _ => some "0" }
        [.setTorchModeExt true, .write true, .write true, .write true, .write true,
          .setTorchStrengthLevelExt 230 true, .write false, .write true]).map
        (fun torch => (torch.nodes .toggleSwitch, torch.nodes .torch0, torch.nodes .torch1)))
      = some (some "255", some "230", some "50") := by
  decide

end PongDevice.Camera
