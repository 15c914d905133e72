import Mathlib.Data.BitVec
import PongDevice.Fingerprint.Session
import PongDevice.Transition.Machine

/-! The handler that tells the sensor of a finger under the display. A press that waits for
illumination is served by a worker thread, which lets go of the lock between two reads of
the illumination state.
-/

namespace PongDevice.Fingerprint

open Transition

/-- Where the worker thread waits: for a request, in `wait`, or between two reads, in
`wait_for`, with the locals of its inner loop.
-/
inductive UdfpsWorker where
  | waiting
  | polling (requestId : BitVec 64) (deadline : Int)
  | exited
deriving DecidableEq, Repr

/-- The handler's members with its worker and the commands it gave to `mSetFingerDown`,
newest first.
-/
structure UdfpsHandler where
  mStopped : Bool := false
  mFingerDown : Bool := false
  mPending : Bool := false
  mRequestId : BitVec 64 := 0
  worker : UdfpsWorker := .waiting
  commands : List Bool := []
deriving DecidableEq, Repr

namespace UdfpsHandler

def mSetFingerDown (handler : UdfpsHandler) (down : Bool) : UdfpsHandler :=
  { handler with commands := down :: handler.commands }

def onUiReady (handler : UdfpsHandler) (waitForIllumination : Bool) : UdfpsHandler :=
  if handler.mFingerDown then
    handler
  else
    let handler :=
      { handler with mFingerDown := true, mRequestId := handler.mRequestId + 1 }
    if waitForIllumination then { handler with mPending := true }
    else handler.mSetFingerDown true

def onFingerUp (handler : UdfpsHandler) : UdfpsHandler :=
  { handler with
    mFingerDown := false
    mPending := false
    mRequestId := handler.mRequestId + 1
  }.mSetFingerDown false

/-- What the worker meets in one stretch under the lock: the clock as it starts a wait, in
milliseconds, what the illumination file reads as, if it can be read, and the clock as it
looks at the deadline.
-/
structure Reading where
  started : Int
  ready : Option Int
  checked : Int
deriving DecidableEq, Repr

/-- The body of the inner loop, up to the next wait of the thread. A loop that it leaves has
cleared `mPending`, so the thread waits for the next request.
-/
def poll (handler : UdfpsHandler) (requestId : BitVec 64) (deadline : Int)
    (reading : Reading)
    : UdfpsHandler :=
  match reading.ready with
  | none => { handler with mPending := false, worker := .waiting }
  | some ready =>
      if ready = 1 then
        { handler with mPending := false, worker := .waiting }.mSetFingerDown true
      else if deadline ≤ reading.checked then
        { handler with mPending := false, worker := .waiting }
      else
        { handler with worker := .polling requestId deadline }

/-- The outer loop from its test on: a pending request starts a new wait of 500 ms. -/
def awaitRequest (handler : UdfpsHandler) (reading : Reading) : UdfpsHandler :=
  if handler.mStopped then { handler with worker := .exited }
  else if handler.mPending then
    handler.poll handler.mRequestId (reading.started + 500) reading
  else { handler with worker := .waiting }

/-- The inner loop's condition, for a worker that wakes up in it. -/
def keepsPolling (handler : UdfpsHandler) : Bool :=
  match handler.worker with
  | .polling requestId _ =>
      !handler.mStopped && handler.mPending && requestId == handler.mRequestId
  | _ => false

/-- One stretch of `run` between two waits, woken by a notification, the passing of 10 ms or
nothing at all.
-/
def run (handler : UdfpsHandler) (reading : Reading) : Option UdfpsHandler :=
  match handler.worker with
  | .waiting => some (handler.awaitRequest reading)
  | .polling requestId deadline =>
      if handler.keepsPolling then some (handler.poll requestId deadline reading)
      else some (handler.awaitRequest reading)
  | .exited => none

/-- Calls of the session, stretches of the worker, and the locked part of the destructor. -/
inductive Event where
  | call (call : UdfpsCall)
  | run (reading : Reading)
  | destroy
deriving DecidableEq, Repr

def step (handler : UdfpsHandler) : Event → Option UdfpsHandler
  | .call (.onUiReady waitForIllumination) => some (handler.onUiReady waitForIllumination)
  | .call .onFingerUp => some handler.onFingerUp
  | .run reading => handler.run reading
  | .destroy => some { handler with mStopped := true }

end UdfpsHandler

def udfpsMachine : Machine UdfpsHandler UdfpsHandler.Event where
  step := UdfpsHandler.step

end PongDevice.Fingerprint
