import H2ts.Lib.Machine
import H2ts.Lib.Watch

/-!
# Reaping idle connections

`idle.rs`: a guard for each open stream keeps a count in a watch channel, and
`wait_idle` waits until the count was zero for a while.  Guards come and go on other
tasks, so they move between any two steps of `wait_idle`.

When it is polled late, the sleep has elapsed and a change is there as well.  `select!`
may then take either branch.  So a busy connection is spared exactly if no poll takes
the sleep while a change is unseen (`spares_busy_iff`).
-/

namespace H2ts

namespace Idle

open Machine Watch

/-- Where `wait_idle` stands. -/
inductive WaitIdle where
  /-- At the head of its loop. -/
  | head
  /-- Streams are open: it awaits a change. -/
  | busy
  /-- The count was zero, and the sleep is still to begin. -/
  | zero
  /-- In the `select!`. -/
  | select (deadline : Nat)
  | returned (elapsed : Bool)
deriving DecidableEq, Repr

structure Connection where
  now : Nat
  /-- The `StreamCounter`. -/
  streams : Channel Nat
  /-- The guards that are held. -/
  guards : List Nat
  /-- The version that the receiver saw last. -/
  seen : Nat
  wait : WaitIdle
  /-- Every moment since `wait_idle` last read the count: the time and the count. -/
  period : List (Nat × Nat)
deriving DecidableEq, Repr

inductive Action where
  | tick (passed : Nat)
  /-- A request arrives. -/
  | enter (guard : Nat)
  /-- A response body is done, or its stream is dropped. -/
  | drop (guard : Nat)
  /-- The last handle of the counter is dropped. -/
  | gone
  /-- `wait_idle` reads the count. -/
  | borrow
  /-- `wait_idle` begins to sleep. -/
  | sleep
  /-- A poll of `changed`. -/
  | changed
  /-- A poll of the sleep. -/
  | elapsed
deriving DecidableEq, Repr

namespace Connection

/-- A connection with its counter, and `wait_idle` not yet polled. -/
def new (now : Nat) : Connection where
  now := now
  streams := Channel.new 0
  guards := []
  seen := 0
  wait := .head
  period := []

/-- `StreamCounter::enter`. -/
def enter (c : Connection) (guard : Nat) : Connection :=
  if c.streams.closed ∨ guard ∈ c.guards then c
  else { c with streams := c.streams.sendModify (· + 1), guards := guard :: c.guards }

/-- `StreamGuard::drop`. -/
def drop (c : Connection) (guard : Nat) : Connection :=
  if guard ∈ c.guards then
    { c with streams := c.streams.sendModify (· - 1), guards := c.guards.erase guard }
  else c

/-- A guard holds the counter. -/
def gone (c : Connection) : Connection :=
  if c.guards = [] then { c with streams := { c.streams with closed := true } } else c

/-- The head of the loop of `wait_idle`, with `borrow_and_update`. -/
def borrow (c : Connection) : Connection :=
  match c.wait with
  | .head =>
      { c with
        seen := c.streams.version
        wait := if c.streams.value ≠ 0 then .busy else .zero
        period := [] }
  | _ => c

def sleep (idle : Nat) (c : Connection) : Connection :=
  match c.wait with
  | .zero => { c with wait := .select (c.now + idle) }
  | _ => c

/-- `changed` in either place. -/
def pollChanged (c : Connection) : Connection :=
  match c.streams.changed c.seen with
  | .ok => { c with seen := c.streams.version, wait := .head }
  | .err => { c with wait := .returned false }
  | .pending => c

def changed (c : Connection) : Connection :=
  match c.wait with
  | .busy => c.pollChanged
  | .select _ => c.pollChanged
  | _ => c

def elapsed (c : Connection) : Connection :=
  match c.wait with
  | .select deadline => if deadline ≤ c.now then { c with wait := .returned true } else c
  | _ => c

def act (idle : Nat) (c : Connection) : Action → Connection
  | .tick passed => { c with now := c.now + passed }
  | .enter guard => c.enter guard
  | .drop guard => c.drop guard
  | .gone => c.gone
  | .borrow => c.borrow
  | .sleep => c.sleep idle
  | .changed => c.changed
  | .elapsed => c.elapsed

/-- The moment joins the period. -/
def mark (c : Connection) : Connection :=
  { c with period := c.period ++ [(c.now, c.streams.value)] }

def step (idle : Nat) (c : Connection) (a : Action) : Connection := (c.act idle a).mark

/-- The sleep is what makes `wait_idle` return. -/
def Reaps (idle : Nat) (c : Connection) (a : Action) : Prop :=
  c.wait ≠ .returned true ∧ (c.step idle a).wait = .returned true

/-- An idle period ends: it is long enough, and no stream was open in it. -/
structure WasIdle (idle : Nat) (c : Connection) : Prop where
  long : ∃ since, c.period.head? = some (since, 0) ∧ since + idle ≤ c.now
  quiet : ∀ moment ∈ c.period, moment.2 = 0
  none : c.streams.value = 0

/-- If this step reaps the connection, it was idle. -/
def SparesBusy (idle : Nat) (c : Connection) (a : Action) : Prop :=
  c.Reaps idle a → (c.step idle a).WasIdle idle

/-- The sleep has elapsed, a change is there, and the poll takes the sleep. -/
def Overtakes (c : Connection) (a : Action) : Prop :=
  a = .elapsed ∧ (∃ deadline, c.wait = .select deadline ∧ deadline ≤ c.now) ∧
    c.streams.changed c.seen = .ok

/-! ## What the period says -/

/-- It watches a period in which the count was zero at first. -/
def Watches (c : Connection) : Prop := c.wait = .zero ∨ ∃ deadline, c.wait = .select deadline

/-- What holds in every reachable state: in a watched period a stream was open if and only
if the receiver has a change to see. -/
structure Sound (idle : Nat) (c : Connection) : Prop where
  counted : c.streams.value = c.guards.length
  seen_le : c.seen ≤ c.streams.version
  began : c.Watches → ∃ since, c.period.head? = some (since, 0) ∧ since ≤ c.now
  long : ∀ deadline, c.wait = .select deadline →
    ∃ since, c.period.head? = some (since, 0) ∧ since + idle ≤ deadline
  quiet : c.Watches → c.seen = c.streams.version →
    c.streams.value = 0 ∧ ∀ moment ∈ c.period, moment.2 = 0
  busy : c.Watches → c.seen < c.streams.version → ∃ moment ∈ c.period, moment.2 ≠ 0

variable {idle : Nat} {c : Connection}

theorem head?_append_of_some {α : Type*} {l l' : List α} {a : α} (head : l.head? = some a) :
    (l ++ l').head? = some a := by
  rw [List.head?_append, head]
  rfl

/-- A step that neither moves `wait_idle` nor the count. -/
theorem Sound.mark (sound : c.Sound idle) : c.mark.Sound idle where
  counted := sound.counted
  seen_le := sound.seen_le
  began watches := by
    obtain ⟨since, head, before⟩ := sound.began watches
    exact ⟨since, head?_append_of_some head, before⟩
  long deadline select := by
    obtain ⟨since, head, enough⟩ := sound.long deadline select
    exact ⟨since, head?_append_of_some head, enough⟩
  quiet watches same := by
    obtain ⟨none, quiet⟩ := sound.quiet watches same
    refine ⟨none, fun moment mem => ?_⟩
    rcases List.mem_append.mp mem with mem | mem
    · exact quiet moment mem
    · rw [List.mem_singleton.mp mem]
      exact none
  busy watches newer := by
    obtain ⟨moment, mem, some⟩ := sound.busy watches newer
    exact ⟨moment, List.mem_append_left _ mem, some⟩

theorem Sound.new (now : Nat) : (new now).Sound idle where
  counted := rfl
  seen_le := le_rfl
  began := by rintro (watches | ⟨deadline, watches⟩) <;> cases watches
  long := by rintro deadline select; cases select
  quiet := by rintro (watches | ⟨deadline, watches⟩) <;> cases watches
  busy := by rintro (watches | ⟨deadline, watches⟩) <;> cases watches

theorem Sound.tick (sound : c.Sound idle) (passed : Nat) :
    ({ c with now := c.now + passed } : Connection).Sound idle where
  counted := sound.counted
  seen_le := sound.seen_le
  began watches := by
    obtain ⟨since, head, before⟩ := sound.began watches
    exact ⟨since, head, before.trans (Nat.le_add_right _ _)⟩
  long := sound.long
  quiet := sound.quiet
  busy := sound.busy

/-- A change of the count: in a watched period it is the one that opens a stream, or one
that comes after it. -/
theorem Sound.modify (sound : c.Sound idle) {f : Nat → Nat} {guards : List Nat}
    (counted : f c.streams.value = guards.length) (opens : c.streams.value = 0 → guards ≠ []) :
    ({ c with streams := c.streams.sendModify f, guards := guards } : Connection).mark.Sound idle
    where
  counted := counted
  seen_le := sound.seen_le.trans (Nat.le_succ _)
  began watches := by
    obtain ⟨since, head, before⟩ := sound.began watches
    exact ⟨since, head?_append_of_some head, before⟩
  long deadline select := by
    obtain ⟨since, head, enough⟩ := sound.long deadline select
    exact ⟨since, head?_append_of_some head, enough⟩
  quiet watches same := absurd (same.symm.le.trans sound.seen_le) (Nat.not_succ_le_self _)
  busy watches newer := by
    rcases sound.seen_le.lt_or_eq with old | fresh
    · obtain ⟨moment, mem, some⟩ := sound.busy watches old
      exact ⟨moment, List.mem_append_left _ mem, some⟩
    · refine ⟨_, List.mem_append_right _ (List.mem_singleton_self _), ?_⟩
      have none := (sound.quiet watches fresh).1
      show f c.streams.value ≠ 0
      rw [counted]
      exact fun empty => opens none (List.length_eq_zero_iff.mp empty)

theorem Sound.enter (sound : c.Sound idle) (guard : Nat) : (c.enter guard).mark.Sound idle := by
  unfold Connection.enter
  split
  · exact sound.mark
  · exact sound.modify (by simp [sound.counted]) fun _ => List.cons_ne_nil _ _

theorem Sound.drop (sound : c.Sound idle) (guard : Nat) : (c.drop guard).mark.Sound idle := by
  unfold Connection.drop
  split
  · rename_i held
    refine sound.modify ?_ fun none => ?_
    · rw [sound.counted, List.length_erase_of_mem held]
    · rw [sound.counted, List.length_eq_zero_iff] at none
      rw [none] at held
      cases held
  · exact sound.mark

theorem Sound.gone (sound : c.Sound idle) : c.gone.Sound idle := by
  unfold Connection.gone
  split
  · exact { sound with }
  · exact sound

/-- `wait_idle` goes on to a state in which it watches nothing. -/
theorem Sound.leave (sound : c.Sound idle) {seen : Nat} {wait : WaitIdle} {period : List (Nat × Nat)}
    (seen_le : seen ≤ c.streams.version) (zero : wait ≠ .zero)
    (select : ∀ deadline, wait ≠ .select deadline) :
    ({ c with seen := seen, wait := wait, period := period } : Connection).Sound idle := by
  have idles : ¬ ({ c with seen := seen, wait := wait, period := period } : Connection).Watches := by
    rintro (watches | ⟨deadline, watches⟩)
    · exact zero watches
    · exact select deadline watches
  exact {
    counted := sound.counted
    seen_le := seen_le
    began := fun watches => absurd watches idles
    long := fun deadline watches => absurd watches (select deadline)
    quiet := fun watches => absurd watches idles
    busy := fun watches => absurd watches idles }

/-- A period begins at the zero that was read. -/
theorem Sound.borrow (sound : c.Sound idle) : c.borrow.mark.Sound idle := by
  unfold Connection.borrow
  split
  · split
    · exact (sound.leave le_rfl (by decide) (by simp)).mark
    · rename_i none
      rw [not_not] at none
      exact {
        counted := sound.counted
        seen_le := le_rfl
        began := fun _ => ⟨c.now, by simp [Connection.mark, none], le_rfl⟩
        long := by rintro deadline select; cases select
        quiet := fun _ _ => ⟨none, by simp [Connection.mark, none]⟩
        busy := fun _ newer => absurd newer (lt_irrefl _) }
  · exact sound.mark

theorem Sound.sleep (sound : c.Sound idle) : (c.sleep idle).Sound idle := by
  unfold Connection.sleep
  split
  · rename_i zero
    have watches : c.Watches := .inl zero
    obtain ⟨since, head, before⟩ := sound.began watches
    exact {
      counted := sound.counted
      seen_le := sound.seen_le
      began := fun _ => ⟨since, head, before⟩
      long := by
        rintro deadline select
        cases select
        exact ⟨since, head, Nat.add_le_add_right before idle⟩
      quiet := fun _ => sound.quiet watches
      busy := fun _ => sound.busy watches }
  · exact sound

theorem Sound.changed (sound : c.Sound idle) : c.changed.Sound idle := by
  have polled : c.pollChanged.Sound idle := by
    unfold pollChanged
    split
    · exact sound.leave le_rfl (by decide) (by simp)
    · exact sound.leave sound.seen_le (by decide) (by simp)
    · exact sound
  unfold Connection.changed
  split
  · exact polled
  · exact polled
  · exact sound

theorem Sound.elapsed (sound : c.Sound idle) : c.elapsed.Sound idle := by
  unfold Connection.elapsed
  split
  · split
    · exact sound.leave sound.seen_le (by decide) (by simp)
    · exact sound
  · exact sound

theorem Sound.step (sound : c.Sound idle) (a : Action) : (c.step idle a).Sound idle := by
  cases a with
  | tick passed => exact (sound.tick passed).mark
  | enter guard => exact sound.enter guard
  | drop guard => exact sound.drop guard
  | gone => exact sound.gone.mark
  | borrow => exact sound.borrow
  | sleep => exact sound.sleep.mark
  | changed => exact sound.changed.mark
  | elapsed => exact sound.elapsed.mark

/-! ## When a connection is reaped -/

theorem wait_pollChanged (c : Connection) (wait : c.wait ≠ .returned true) :
    c.pollChanged.wait ≠ .returned true := by
  unfold pollChanged
  split
  · simp
  · simp
  · exact wait

/-- Only a poll of an elapsed sleep reaps. -/
theorem reaps_iff {a : Action} : c.Reaps idle a ↔
    a = .elapsed ∧ ∃ deadline, c.wait = .select deadline ∧ deadline ≤ c.now := by
  constructor
  · rintro ⟨before, after⟩
    cases a with
    | tick passed => exact absurd after before
    | enter guard =>
        simp only [Connection.step, act, Connection.enter, Connection.mark] at after
        split at after <;> exact absurd after before
    | drop guard =>
        simp only [Connection.step, act, Connection.drop, Connection.mark] at after
        split at after <;> exact absurd after before
    | gone =>
        simp only [Connection.step, act, Connection.gone, Connection.mark] at after
        split at after <;> exact absurd after before
    | borrow =>
        simp only [Connection.step, act, Connection.borrow, Connection.mark] at after
        split at after
        · dsimp only at after
          split at after <;> cases after
        · exact absurd after before
    | sleep =>
        simp only [Connection.step, act, Connection.sleep, Connection.mark] at after
        split at after
        · cases after
        · exact absurd after before
    | changed =>
        have polled := wait_pollChanged c before
        simp only [Connection.step, act, Connection.changed, Connection.mark] at after
        split at after
        · exact absurd after polled
        · exact absurd after polled
        · exact absurd after before
    | elapsed =>
        refine ⟨rfl, ?_⟩
        simp only [Connection.step, act, Connection.elapsed, Connection.mark] at after
        split at after
        · rename_i deadline select
          split at after
          · exact ⟨deadline, select, ‹_›⟩
          · exact absurd after before
        · exact absurd after before
  · rintro ⟨rfl, deadline, select, due⟩
    refine ⟨by simp [select], ?_⟩
    simp [Connection.step, act, Connection.elapsed, Connection.mark, select, due]

/-- A reaped connection was idle if and only if nothing was left to see. -/
theorem wasIdle_iff (sound : c.Sound idle) {deadline : Nat} (select : c.wait = .select deadline)
    (due : deadline ≤ c.now) :
    (c.step idle .elapsed).WasIdle idle ↔ c.streams.changed c.seen ≠ .ok := by
  have returns : c.step idle .elapsed = ({ c with wait := .returned true } : Connection).mark := by
    simp [Connection.step, act, Connection.elapsed, select, due]
  have watches : c.Watches := .inr ⟨deadline, select⟩
  rw [returns, Ne, Channel.changed_eq_ok_iff, not_lt]
  constructor
  · intro was
    by_contra newer
    obtain ⟨moment, mem, some⟩ := sound.busy watches (not_le.mp newer)
    exact some (was.quiet moment (List.mem_append_left _ mem))
  · intro seen
    obtain ⟨none, quiet⟩ := sound.quiet watches (le_antisymm sound.seen_le seen)
    obtain ⟨since, head, enough⟩ := sound.long deadline select
    refine ⟨⟨since, head?_append_of_some head, enough.trans due⟩, fun moment mem => ?_, none⟩
    rcases List.mem_append.mp mem with mem | mem
    · exact quiet moment mem
    · rw [List.mem_singleton.mp mem]
      exact none

theorem sparesBusy_iff (sound : c.Sound idle) (a : Action) :
    c.SparesBusy idle a ↔ ¬ c.Overtakes a := by
  unfold SparesBusy
  rw [reaps_iff]
  constructor
  · rintro spares ⟨rfl, ⟨deadline, select, due⟩, newer⟩
    exact (wasIdle_iff sound select due).mp (spares ⟨rfl, deadline, select, due⟩) newer
  · rintro ordered ⟨rfl, deadline, select, due⟩
    exact (wasIdle_iff sound select due).mpr fun newer =>
      ordered ⟨rfl, ⟨deadline, select, due⟩, newer⟩

/-- Along every run, a connection is only reaped after it was idle if and only if no poll
takes the sleep while a change is unseen. -/
theorem spares_busy_iff (idle now : Nat) (actions : List Action) :
    Along (step idle) (SparesBusy idle) (new now) actions ↔
      Along (step idle) (fun c a => ¬ c.Overtakes a) (new now) actions :=
  along_iff (P := Sound idle) (fun _ a sound => sound.step a)
    (fun _ a sound => sparesBusy_iff sound a) (Sound.new now) actions

/-- The task is polled after the sleep has elapsed and a request has come. -/
theorem not_spares_busy_late :
    ¬ Along (step 1) (SparesBusy 1) (new 0) [.borrow, .sleep, .tick 1, .enter 0, .elapsed] := by
  rintro ⟨-, -, -, -, spares, -⟩
  have reaped := spares (reaps_iff.mpr ⟨rfl, 1, rfl, le_rfl⟩)
  exact absurd reaped.none (by decide)

end Connection

end Idle

end H2ts
