import Mathlib.Data.List.Basic

/-! Filters that may drop some elements and must keep the others, each once and in order. -/

namespace PongDevice.Delivery

variable {α : Type*} {droppable : α → Prop}

/-- The second list is the first one without some of its droppable elements. -/
inductive KeepsExcept (droppable : α → Prop) : List α → List α → Prop where
  | nil : KeepsExcept droppable [] []
  | keep {value input output} (rest : KeepsExcept droppable input output)
    : KeepsExcept droppable (value :: input) (value :: output)
  | drop {value input output} (allowed : droppable value)
    (rest : KeepsExcept droppable input output)
    : KeepsExcept droppable (value :: input) output

namespace KeepsExcept

/-- An element that is missing from the output was droppable, by induction. -/
theorem mem_or {input output : List α} (kept : KeepsExcept droppable input output)
    {value : α} (member : value ∈ input)
    : value ∈ output ∨ droppable value := by
  induction kept with
  | nil => cases member
  | keep rest ih =>
      rcases List.mem_cons.mp member with rfl | later
      · exact .inl List.mem_cons_self
      · exact (ih later).imp_left (List.mem_cons_of_mem _)
  | drop allowed rest ih =>
      rcases List.mem_cons.mp member with rfl | later
      · exact .inr allowed
      · exact ih later

/-- A filter keeps all that must be kept exactly when it drops nothing else. -/
theorem filter_iff {keeps : α → Bool} {input : List α}
    : KeepsExcept droppable input (input.filter keeps)
      ↔ ∀ value ∈ input, keeps value = false → droppable value := by
  constructor
  · intro kept value member dropped
    refine (kept.mem_or member).resolve_left (fun still => ?_)
    simp [dropped] at still
  · intro only
    induction input with
    | nil => exact .nil
    | cons value rest ih =>
        have tail := ih (fun later member => only later (List.mem_cons_of_mem _ member))
        cases keeping : keeps value with
        | true => simpa [keeping] using tail.keep
        | false => simpa [keeping] using tail.drop (only value List.mem_cons_self keeping)

end KeepsExcept

end PongDevice.Delivery
