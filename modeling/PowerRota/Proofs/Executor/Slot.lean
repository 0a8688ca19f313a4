import PowerRota.Executor

/-! Slots: what an invocation keeps to itself while it is in progress.

The executor knows a slot by its key only, a text in which the kind, the id and the
action are joined by colons. The id may hold colons of its own; the key still tells
which slot it stands for, since the labels on both sides of the id hold none. -/

set_option autoImplicit false

namespace PowerRota

/-- An action on a resource, which the folder of the resource does not matter to. -/
structure Slot where
  kind : ResourceKind
  id : String
  action : Action
  deriving DecidableEq, Repr

namespace Slot

def of (resource : Resource) (action : Action) : Slot :=
  ⟨resource.kind, resource.id, action⟩

def key (slot : Slot) : String :=
  slot.kind.label ++ ":" ++ slot.id ++ ":" ++ slot.action.label

theorem key_of (resource : Resource) (action : Action) :
    (Slot.of resource action).key = Executor.key resource action.label := rfl

theorem head?_key (slot : Slot) : slot.key.toList.head? = slot.kind.label.toList.head? := by
  obtain ⟨kind, _, _⟩ := slot
  cases kind <;> simp [key, ResourceKind.label]

theorem getLast?_key (slot : Slot) :
    slot.key.toList.getLast? = slot.action.label.toList.getLast? := by
  simp only [key, String.toList_append, List.getLast?_append]
  cases slot.action <;> rfl

theorem kind_eq_of_key_eq {first second : Slot} (same : first.key = second.key) :
    first.kind = second.kind := by
  have letters : first.kind.label.toList.head? = second.kind.label.toList.head? := by
    rw [← head?_key, ← head?_key, same]
  revert letters
  cases first.kind <;> cases second.kind <;> decide

theorem action_eq_of_key_eq {first second : Slot} (same : first.key = second.key) :
    first.action = second.action := by
  have letters : first.action.label.toList.getLast? = second.action.label.toList.getLast? := by
    rw [← getLast?_key, ← getLast?_key, same]
  revert letters
  cases first.action <;> cases second.action <;> decide

theorem key_injective : Function.Injective Slot.key := by
  intro first second same
  have kinds := kind_eq_of_key_eq same
  have actions := action_eq_of_key_eq same
  obtain ⟨kind, firstId, action⟩ := first
  obtain ⟨_, secondId, _⟩ := second
  cases kinds
  cases actions
  -- what stands before and after the ids is now the same on both sides
  have ids : firstId = secondId := by
    simp only [key, String.append_assoc, String.append_right_inj] at same
    exact (String.append_left_inj _).mp same
  rw [ids]

end Slot

namespace Invocation

def slot (invocation : Invocation) : Slot :=
  Slot.of invocation.resource invocation.action

def key (invocation : Invocation) : String :=
  Executor.key invocation.resource invocation.action.label

theorem key_slot (invocation : Invocation) : invocation.slot.key = invocation.key := rfl

theorem key_eq_iff {first second : Invocation} :
    first.key = second.key ↔ first.slot = second.slot := by
  rw [← first.key_slot, ← second.key_slot]
  exact Slot.key_injective.eq_iff

end Invocation

namespace Action

theorem ofLabel?_label (action : Action) : Action.ofLabel? action.label = some action := by
  cases action <;> rfl

theorem label_of_ofLabel? {label : String} {action : Action}
    (read : Action.ofLabel? label = some action) : action.label = label := by
  have fits := List.find?_some read
  exact eq_of_beq fits

end Action

end PowerRota
