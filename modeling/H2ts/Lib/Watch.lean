import Mathlib.Tactic

/-!
# A watch channel

A channel that keeps its latest value and counts the modifications.  A receiver
remembers the version that it saw last, and `changed` compares the two.
-/

namespace Watch

structure Channel (α : Type*) where
  value : α
  version : Nat
  /-- The sender is gone. -/
  closed : Bool
deriving DecidableEq, Repr

/-- A receiver's `changed` when it is polled. -/
inductive Changed where
  | ok
  | err
  | pending
deriving DecidableEq, Repr

namespace Channel

variable {α : Type*}

def new (value : α) : Channel α := ⟨value, 0, false⟩

def sendModify (c : Channel α) (f : α → α) : Channel α :=
  { c with value := f c.value, version := c.version + 1 }

/-- A newer version comes first, so that a closed channel still gives its last value. -/
def changed (c : Channel α) (seen : Nat) : Changed :=
  if seen < c.version then .ok else if c.closed then .err else .pending

@[simp] theorem value_sendModify (c : Channel α) (f : α → α) :
    (c.sendModify f).value = f c.value := rfl

@[simp] theorem version_sendModify (c : Channel α) (f : α → α) :
    (c.sendModify f).version = c.version + 1 := rfl

theorem changed_eq_ok_iff (c : Channel α) (seen : Nat) :
    c.changed seen = .ok ↔ seen < c.version := by
  unfold changed
  split
  · simp [*]
  · split <;> simp [*]

end Channel

end Watch
