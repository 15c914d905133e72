import Mathlib.Data.List.Basic
import Mathlib.Data.List.Perm.Basic

/-! A lossy channel that delivers in order: batches are posted, written to the receiver at
once or queued behind what is pending, and the oldest pending values are later delivered or
lost.
-/

namespace PongDevice.Delivery

/-- Every value that was ever posted, by what became of it. -/
structure Channel (α : Type*) where
  posted : List α := []
  written : List α := []
  pending : List α := []
  overflowed : List α := []
  failed : List α := []

namespace Channel

variable {α : Type*}

/-- Posts a batch of which `direct` is written, `queued` waits and `lost` is dropped. -/
def post (channel : Channel α) (direct queued lost : List α) : Channel α :=
  { channel with
    posted := channel.posted ++ (direct ++ (queued ++ lost))
    written := channel.written ++ direct
    pending := channel.pending ++ queued
    overflowed := channel.overflowed ++ lost
  }

/-- Delivers the oldest pending values. -/
def deliver (channel : Channel α) (count : Nat) : Channel α :=
  { channel with
    written := channel.written ++ channel.pending.take count
    pending := channel.pending.drop count
  }

/-- Gives the oldest pending values up. -/
def fail (channel : Channel α) (count : Nat) : Channel α :=
  { channel with
    pending := channel.pending.drop count
    failed := channel.failed ++ channel.pending.take count
  }

/-- What a channel may do; a batch is written at once only past no pending value. -/
inductive Step : Channel α → Channel α → Prop where
  | idle {channel} : Step channel channel
  | post {channel direct queued lost} (order : direct = [] ∨ channel.pending = [])
    : Step channel (channel.post direct queued lost)
  | deliver {channel} (count) : Step channel (channel.deliver count)
  | fail {channel} (count) : Step channel (channel.fail count)

/-- Delivery keeps the posted order, and every posted value is exactly one of written,
pending, overflowed and failed.
-/
structure Accounted (channel : Channel α) : Prop where
  ordered : (channel.written ++ channel.pending).Sublist channel.posted
  conserved
    : channel.posted.Perm
        (channel.written ++ channel.pending ++ channel.overflowed ++ channel.failed)

/-- A channel that has done nothing owes nothing. -/
theorem accounted_empty : Accounted ({} : Channel α) :=
  ⟨.slnil, .nil⟩

/-- The values that leave the pending ones and those that stay are the pending ones. -/
theorem count_take_add_count_drop [DecidableEq α] (value : α) (count : Nat)
    (pending : List α)
    : (pending.take count).count value + (pending.drop count).count value
      = pending.count value := by
  rw [← List.count_append, List.take_append_drop]

/-- Every step keeps the values accounted for.
Witness: delivered and failed values leave from the front, and a batch that passes the
pending values finds none of them.
-/
theorem Step.accounted {before after : Channel α} (step : Step before after)
    (accounted : before.Accounted)
    : after.Accounted := by
  classical
  cases step with
  | idle => exact accounted
  | @post direct queued lost order =>
      constructor
      · have batch : (direct ++ queued).Sublist (direct ++ (queued ++ lost)) := by
          simp
        have grown := accounted.ordered.append batch
        rcases order with none | none
        · simpa [Channel.post, none] using grown
        · simpa [Channel.post, none] using grown
      · have counts := List.perm_iff_count.mp accounted.conserved
        refine List.perm_iff_count.mpr (fun value => ?_)
        have same := counts value
        simp only [Channel.post, List.count_append] at same ⊢
        omega
  | deliver count =>
      constructor
      · simpa [Channel.deliver] using accounted.ordered
      · simpa [Channel.deliver] using accounted.conserved
  | fail count =>
      constructor
      · have shorter : (before.written ++ before.pending.drop count).Sublist
            (before.written ++ before.pending) :=
          (List.drop_sublist count before.pending).append_left before.written
        exact shorter.trans accounted.ordered
      · have counts := List.perm_iff_count.mp accounted.conserved
        refine List.perm_iff_count.mpr (fun value => ?_)
        have same := counts value
        have split := count_take_add_count_drop value count before.pending
        simp only [Channel.fail, List.count_append] at same ⊢
        omega

end Channel

end PongDevice.Delivery
