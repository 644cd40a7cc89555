import AsyncUnsync.Library.Refinement
import Mathlib.Algebra.GroupWithZero.Nat
import Mathlib.Data.Finset.Card

/-! Tasks on one thread that share a system. A task makes one call after another. A call
may suspend its task, which then sleeps until its waker is invoked. Whoever is awake may
go on, in any order. -/

namespace Transition
variable {σ σ' κ α ω ε : Type*}

namespace System
variable {sys : System σ α ω ε} {start state : σ} {history : History σ α ω}

/-- A run whose steps all lower a measure is not longer than the measure. -/
theorem Run.bounded (run : sys.Run start history state) (measure : σ → Nat)
    (lowers : ∀ past event, sys.Run start (event :: past) event.after → measure event.after < measure event.before) :
    history.length + measure state ≤ measure start := by
  induction run with
  | start => simp
  | step run able stepped ih =>
    have lower := lowers _ _ (.step run able stepped)
    simp only [List.length_cons] at lower ⊢
    omega

/-- Such a run can be led to an end, if no step of it can fault. -/
theorem Run.ends (run : sys.Run start history state) (measure : σ → Nat)
    (lowers : ∀ past event, sys.Run start (event :: past) event.after → measure event.after < measure event.before)
    (returns : ∀ past state, sys.Run start past state → ∀ action, sys.Enabled state action →
      ∃ result, sys.step state action = .ok result) :
    ∃ later final, sys.Run start (later ++ history) final ∧ ∀ action, ¬ sys.Enabled final action := by
  induction left : measure state using Nat.strongRecOn generalizing history state with
  | ind left ih =>
    subst left
    by_cases stuck : ∀ action, ¬ sys.Enabled state action
    · exact ⟨[], state, run, stuck⟩
    · obtain ⟨action, able⟩ := not_forall_not.mp stuck
      obtain ⟨⟨after, outcome⟩, stepped⟩ := returns _ _ run action able
      have longer := Run.step run able stepped
      obtain ⟨later, final, ends, quiet⟩ := ih _ (lowers _ _ longer) longer rfl
      exact ⟨later ++ [_], final, by rwa [List.append_assoc], quiet⟩

end System

/-- `call` is what a task does next, and `resume` how it goes on after the answer. Tasks may share a waker. -/
structure Program (κ α ω : Type*) where
  tasks : Nat
  waker : Nat → Nat
  call : Nat → κ → Option α
  resume : Nat → κ → ω → κ
  suspends : ω → Bool
  woken : ω → List Nat

structure Crew (σ κ : Type*) where
  shared : σ
  place : Nat → κ
  awake : Nat → Bool

structure Turn (α : Type*) where
  task : Nat
  action : α
  deriving DecidableEq, Repr

def Crew.map (view : σ → σ') (crew : Crew σ κ) : Crew σ' κ := ⟨view crew.shared, crew.place, crew.awake⟩

def Event.call (event : Event (Crew σ κ) (Turn α) ω) : Event σ α ω :=
  event.image Crew.shared (fun event => event.action.action) Event.outcome

namespace Program
variable (program : Program κ α ω)

/-- A wake-up during the call that suspends a task counts. -/
def proceed (crew : Crew σ κ) (task : Nat) (shared : σ) (outcome : ω) : Crew σ κ where
  shared
  place := Function.update crew.place task (program.resume task (crew.place task) outcome)
  awake other :=
    (program.woken outcome).contains (program.waker other) ||
      if other = task then !program.suspends outcome else crew.awake other

/-- The tasks set out from a state that some run of the system has reached. -/
def executor (sys : System σ α ω ε) (Sets : Crew σ κ → Prop) : System (Crew σ κ) (Turn α) ω ε where
  Initial crew := (∃ start history, sys.Run start history crew.shared) ∧ Sets crew
  Enabled crew turn :=
    turn.task < program.tasks ∧ crew.awake turn.task = true ∧
      program.call turn.task (crew.place turn.task) = some turn.action ∧ sys.Enabled crew.shared turn.action
  step crew turn :=
    match sys.step crew.shared turn.action with
    | .ok (shared, outcome) => .ok (program.proceed crew turn.task shared outcome, outcome)
    | .error fault => .error fault

instance [DecidableEq α] (sys : System σ α ω ε) [∀ state action, Decidable (sys.Enabled state action)]
    (Sets : Crew σ κ → Prop) (crew : Crew σ κ) (turn : Turn α) :
    Decidable ((program.executor sys Sets).Enabled crew turn) :=
  inferInstanceAs (Decidable (_ ∧ _ ∧ _ ∧ _))

variable {program} {sys : System σ α ω ε} {sys' : System σ' α ω ε} {Sets : Crew σ κ → Prop} {Sets' : Crew σ' κ → Prop}
  {start crew : Crew σ κ} {history : History (Crew σ κ) (Turn α) ω}

theorem executor_ok {turn : Turn α} {after : Crew σ κ} {outcome : ω}
    (stepped : (program.executor sys Sets).step crew turn = .ok (after, outcome)) :
    ∃ shared, sys.step crew.shared turn.action = .ok (shared, outcome) ∧
      after = program.proceed crew turn.task shared outcome := by
  simp only [executor] at stepped
  split at stepped
  next done =>
    cases stepped
    exact ⟨_, done, rfl⟩
  next => cases stepped

/-- What the tasks do together is a run of what they share. -/
theorem run_shared {origin : σ} {past : History σ α ω} (reached : sys.Run origin past start.shared)
    (run : (program.executor sys Sets).Run start history crew) :
    sys.Run origin (history.map Event.call ++ past) crew.shared := by
  induction run with
  | start => exact reached
  | step run able stepped ih =>
    obtain ⟨shared, done, rfl⟩ := executor_ok stepped
    exact .step ih able.2.2.2 done

/-- Tasks cannot tell a system from its view either. -/
theorem refines {view : σ → σ'} {good : σ → Prop} (refines : sys.Refines sys' view good)
    (sets : ∀ crew, Sets crew → Sets' (crew.map view)) :
    (program.executor sys Sets).Refines (program.executor sys' Sets') (Crew.map view) fun crew => good crew.shared where
  initial crew initial := by
    obtain ⟨⟨origin, past, run⟩, set⟩ := initial
    obtain ⟨fine, run'⟩ := refines.run run
    exact ⟨fine, ⟨_, _, run'⟩, sets crew set⟩
  enabled crew turn fine := by
    simp only [executor, Crew.map, refines.enabled _ _ fine]
  step crew turn fine able := by
    have both := refines.step _ _ fine able.2.2.2
    simp only [executor, Crew.map]
    generalize sys.step crew.shared turn.action = result, sys'.step (view crew.shared) turn.action = result' at both
    cases both with
    | ok holds =>
      obtain ⟨rfl, better⟩ := holds
      exact .ok ⟨rfl, better⟩
    | error fault => exact .error fault

section Proceed
variable {task other : Nat} {shared : σ} {outcome : ω}

@[simp] theorem proceed_shared : (program.proceed crew task shared outcome).shared = shared := rfl

@[simp] theorem proceed_self :
    (program.proceed crew task shared outcome).place task = program.resume task (crew.place task) outcome :=
  Function.update_self ..

theorem proceed_place {role : κ} (resumed : program.resume task (crew.place task) outcome = role) :
    (program.proceed crew task shared outcome).place = Function.update crew.place task role := by
  rw [proceed, resumed]

theorem proceed_other (different : other ≠ task) :
    (program.proceed crew task shared outcome).place other = crew.place other := Function.update_of_ne different ..

theorem proceed_asleep (sleeps : (program.proceed crew task shared outcome).awake other = false) :
    program.waker other ∉ program.woken outcome ∧
      (other = task ∧ program.suspends outcome = true ∨ other ≠ task ∧ crew.awake other = false) := by
  simp only [proceed, Bool.or_eq_false_iff, List.contains_eq_mem, decide_eq_false_iff_not] at sleeps
  refine ⟨sleeps.1, ?_⟩
  by_cases self : other = task
  · rw [if_pos self] at sleeps
    exact .inl ⟨self, by simpa using sleeps.2⟩
  · rw [if_neg self] at sleeps
    exact .inr ⟨self, sleeps.2⟩

theorem sum_moved {f g : Nat → Nat} (same : ∀ other, other ≠ task → g other = f other) {count : Nat} (within : task < count) :
    ((List.range count).map g).sum + f task = ((List.range count).map f).sum + g task := by
  induction count with
  | zero => omega
  | succ count ih =>
    simp only [List.range_succ, List.map_append, List.sum_append, List.map_cons, List.map_nil, List.sum_cons, List.sum_nil]
    by_cases last : task = count
    · have before : (List.range count).map g = (List.range count).map f := by
        apply List.map_congr_left
        intro other member
        have smaller := List.mem_range.mp member
        exact same other (by omega)
      rw [before, last]
      omega
    · have smaller := ih (by omega)
      have kept := same count (Ne.symm last)
      omega

end Proceed

section Holding
variable {ι : Type*}

/-- Whatever is live is held by a task, and by no other. -/
structure Held (holds : κ → Option ι) (live : ι → Prop) (place : Nat → κ) : Prop where
  held : ∀ id, live id ↔ ∃ task, holds (place task) = some id
  apart : ∀ task task' id, holds (place task) = some id → holds (place task') = some id → task = task'

variable {holds : κ → Option ι} {live live' : ι → Prop} {place : Nat → κ} {task : Nat} {role : κ} {id : ι}

theorem update_same {β : Type*} (f : κ → β) (same : f role = f (place task)) (other : Nat) :
    f (Function.update place task role other) = f (place other) := by
  by_cases self : other = task
  · rw [self, Function.update_self, same]
  · rw [Function.update_of_ne self]

theorem Held.keeps (held : Held holds live place) (same : holds role = holds (place task)) :
    Held holds live (Function.update place task role) := by
  constructor
  · simp only [update_same holds same]
    exact held.held
  · simp only [update_same holds same]
    exact held.apart

theorem Held.loses (held : Held holds live place) (owns : holds (place task) = some id) (none : holds role = none)
    (lost : ∀ other, live' other ↔ other ≠ id ∧ live other) : Held holds live' (Function.update place task role) := by
  have still : ∀ other found, holds (Function.update place task role other) = some found ↔
      found ≠ id ∧ holds (place other) = some found := by
    intro other found
    by_cases self : other = task
    · rw [self, Function.update_self, none, owns]
      simp [eq_comm]
    · rw [Function.update_of_ne self, iff_and_self]
      rintro keeps rfl
      exact self (held.apart other task found keeps owns)
  constructor
  · intro found
    rw [lost, held.held]
    constructor
    · rintro ⟨different, other, keeps⟩
      exact ⟨other, (still other found).mpr ⟨different, keeps⟩⟩
    · rintro ⟨other, keeps⟩
      obtain ⟨different, keeps⟩ := (still other found).mp keeps
      exact ⟨different, other, keeps⟩
  · intro first second found keeps keeps'
    exact held.apart first second found ((still first found).mp keeps).2 ((still second found).mp keeps').2

end Holding

def awake (program : Program κ α ω) (crew : Crew σ κ) : Finset Nat :=
  (Finset.range program.tasks).filter fun task => crew.awake task = true

theorem awake_le (program : Program κ α ω) (crew : Crew σ κ) : (program.awake crew).card ≤ program.tasks :=
  (Finset.card_filter_le _ _).trans (Finset.card_range _).le

/-- A rank makes a measure, with the tasks that are awake as its smaller part. -/
def measure (program : Program κ α ω) (rank : Crew σ κ → Nat) (crew : Crew σ κ) : Nat :=
  (program.tasks + 1) * rank crew + (program.awake crew).card

/-- A turn either lowers the rank, or it leaves the rank alone and puts its task to sleep. -/
def Lowers (program : Program κ α ω) (rank : Crew σ κ → Nat) (event : Event (Crew σ κ) (Turn α) ω) : Prop :=
  rank event.after < rank event.before ∨
    rank event.after = rank event.before ∧ program.suspends event.outcome = true ∧ program.woken event.outcome = []

theorem measure_lt {rank : Crew σ κ → Nat} {past : History (Crew σ κ) (Turn α) ω} {event : Event (Crew σ κ) (Turn α) ω}
    (reached : (program.executor sys Sets).Run start (event :: past) event.after) (lowers : program.Lowers rank event) :
    program.measure rank event.after < program.measure rank event.before := by
  obtain ⟨_, able, stepped, _⟩ := reached.last
  obtain ⟨shared, _, proceeded⟩ := executor_ok stepped
  rcases lowers with lower | ⟨same, suspends, nobody⟩
  · have few := awake_le program event.after
    have scaled := Nat.mul_le_mul_left (program.tasks + 1) (Nat.succ_le_of_lt lower)
    simp only [measure, Nat.mul_succ] at scaled ⊢
    omega
  · have fewer : program.awake event.after ⊂ program.awake event.before := by
      rw [Finset.ssubset_iff_of_subset]
      · refine ⟨event.action.task, ?_, ?_⟩
        · simp [awake, able.1, able.2.1]
        · simp [awake, proceeded, proceed, suspends, nobody]
      · intro task member
        simp only [awake, proceeded, proceed, nobody, suspends, Finset.mem_filter, List.contains_nil, Bool.false_or] at member ⊢
        refine ⟨member.1, ?_⟩
        have now := member.2
        split at now
        · cases now
        · exact now
    have less := Finset.card_lt_card fewer
    simp only [measure, same]
    omega

/-- So the rank bounds the number of turns. -/
theorem run_bounded (rank : Crew σ κ → Nat) (run : (program.executor sys Sets).Run start history crew)
    (lowers : ∀ past event, (program.executor sys Sets).Run start (event :: past) event.after → program.Lowers rank event) :
    history.length ≤ (program.tasks + 1) * rank start + program.tasks := by
  have bounded := run.bounded (program.measure rank) fun past event reached => measure_lt reached (lowers past event reached)
  have few := awake_le program start
  simp only [measure] at bounded
  omega

theorem run_ends (rank : Crew σ κ → Nat) (run : (program.executor sys Sets).Run start history crew)
    (lowers : ∀ past event, (program.executor sys Sets).Run start (event :: past) event.after → program.Lowers rank event)
    (returns : ∀ past crew, (program.executor sys Sets).Run start past crew → ∀ turn,
      (program.executor sys Sets).Enabled crew turn → ∃ result, (program.executor sys Sets).step crew turn = .ok result) :
    ∃ later final, (program.executor sys Sets).Run start (later ++ history) final ∧
      ∀ turn, ¬ (program.executor sys Sets).Enabled final turn :=
  run.ends (program.measure rank) (fun past event reached => measure_lt reached (lowers past event reached)) returns

end Program
end Transition
