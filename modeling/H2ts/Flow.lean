import Mathlib.Tactic

/-!
# Send windows

The send-side flow-control window of `flow.rs` (RFC 7540 §6.9).  A window may be
negative, after the peer has lowered SETTINGS_INITIAL_WINDOW_SIZE.

The window is an `i64`, and nothing bounds the sums.  They wrap here, as they do in a
release build; a debug build panics instead.  An argument is the integer of an `i64`.

A waker is the number of the upload it wakes.  The operations that wake return
the wakers they drain.
-/

namespace H2ts

structure SendWindow where
  available : Int64
  wakers : List Nat
  closed : Bool
deriving DecidableEq, Repr

namespace SendWindow

def new (initial : Int) : SendWindow := ⟨.ofInt initial, [], false⟩

def value (w : SendWindow) : Int := w.available.toInt

/-- Drain the wakers. -/
def wake (w : SendWindow) : SendWindow × List Nat := ({ w with wakers := [] }, w.wakers)

/-- Grant more capacity (a WINDOW_UPDATE arrived). -/
def update (w : SendWindow) (increment : Int) : SendWindow × List Nat :=
  let w := { w with available := w.available + Int64.ofInt increment }
  if w.value > 0 then w.wake else (w, [])

/-- Adjust by a SETTINGS_INITIAL_WINDOW_SIZE change (the delta may be negative). -/
def adjust (w : SendWindow) (delta : Int) : SendWindow × List Nat :=
  let w := { w with available := w.available + Int64.ofInt delta }
  if w.value > 0 then w.wake else (w, [])

/-- Consume capacity that a positive check has confirmed. -/
def consume (w : SendWindow) (n : Int) : SendWindow :=
  { w with available := w.available - Int64.ofInt n }

def isClosed (w : SendWindow) : Bool := w.closed

/-- Ready to send (positive capacity) or torn down. -/
def isReady (w : SendWindow) : Bool := w.value > 0 || w.closed

/-- Park a waker. -/
def registerWaker (w : SendWindow) (waker : Nat) : SendWindow :=
  { w with wakers := w.wakers ++ [waker] }

/-- Abort all waiters. -/
def close (w : SendWindow) : SendWindow × List Nat := wake { w with closed := true }

/-! ## What the operations change -/

@[simp] theorem update_available (w : SendWindow) (n : Int) :
    (w.update n).1.available = w.available + Int64.ofInt n := by
  unfold update
  dsimp only
  split <;> rfl

@[simp] theorem update_closed (w : SendWindow) (n : Int) :
    (w.update n).1.closed = w.closed := by
  unfold update
  dsimp only
  split <;> rfl

@[simp] theorem adjust_available (w : SendWindow) (delta : Int) :
    (w.adjust delta).1.available = w.available + Int64.ofInt delta :=
  update_available w delta

@[simp] theorem adjust_closed (w : SendWindow) (delta : Int) :
    (w.adjust delta).1.closed = w.closed :=
  update_closed w delta

@[simp] theorem consume_available (w : SendWindow) (n : Int) :
    (w.consume n).available = w.available - Int64.ofInt n := rfl

@[simp] theorem consume_closed (w : SendWindow) (n : Int) : (w.consume n).closed = w.closed := rfl

@[simp] theorem registerWaker_available (w : SendWindow) (waker : Nat) :
    (w.registerWaker waker).available = w.available := rfl

@[simp] theorem registerWaker_closed (w : SendWindow) (waker : Nat) :
    (w.registerWaker waker).closed = w.closed := rfl

@[simp] theorem close_available (w : SendWindow) : w.close.1.available = w.available := rfl

/-! ## Values -/

theorem value_lt (w : SendWindow) : w.value < 2 ^ 63 := w.available.toInt_lt

theorem le_value (w : SendWindow) : -2 ^ 63 ≤ w.value := w.available.le_toInt

theorem value_new {initial : Int} (low : -2 ^ 63 ≤ initial) (high : initial < 2 ^ 63) :
    (new initial).value = initial :=
  Int64.toInt_ofInt_of_le low high

/-- A sum is exact if it is in the range of an `i64`. -/
theorem value_update {w : SendWindow} {n : Int} (low : -2 ^ 63 ≤ w.value + n)
    (high : w.value + n < 2 ^ 63) : (w.update n).1.value = w.value + n := by
  have sum : (w.update n).1.value = (w.value + n).bmod (2 ^ 64) := by
    rw [value, update_available, Int64.toInt_add, Int64.toInt_ofInt, Int.add_bmod_bmod]
    rfl
  rw [sum]
  exact Int.bmod_eq_of_le low high

/-- A window that is raised does not leave the range below. -/
theorem value_raised {w : SendWindow} {n : Nat} (high : w.value + n < 2 ^ 63) :
    (w.update n).1.value = w.value + n := by
  have low := w.le_value
  exact value_update (by omega) high

theorem value_adjust {w : SendWindow} {delta : Int} (low : -2 ^ 63 ≤ w.value + delta)
    (high : w.value + delta < 2 ^ 63) : (w.adjust delta).1.value = w.value + delta :=
  value_update low high

/-- What is within the window is taken from it. -/
theorem value_consume {w : SendWindow} {n : Int} (low : 0 ≤ n) (high : n ≤ w.value) :
    (w.consume n).value = w.value - n := by
  have sum : (w.consume n).value = (w.value - n).bmod (2 ^ 64) := by
    rw [value, consume_available, Int64.toInt_sub, Int64.toInt_ofInt, Int.sub_bmod_bmod]
    rfl
  have upper := w.value_lt
  rw [sum]
  exact Int.bmod_eq_of_le (by omega) (by omega)

end SendWindow

end H2ts
