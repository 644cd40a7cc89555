import AsyncUnsync.Proofs.LedgerSimulation
import AsyncUnsync.Proofs.PermitTotals

/-! Where the permits of a semaphore are, and what a step does to their number.
A waiter that is only partly served ends up holding what it still lacks, so the
total is kept exactly when that happens to be what it has collected. -/

namespace AsyncUnsync.Proofs.PermitConservation
open Memory Transition SemaphoreSystem LedgerSystem LedgerSimulation PermitTotals

/-- The permits in the pool, in live `Permit` guards, and in live `Acquire` futures. -/
def total (s : State) : Nat :=
  s.sem.availablePermits + s.permits.sum id + s.sem.memory.sum Waiter.permits

/-- What a step is meant to do to the total. -/
def Accounts (event : Event State Action Outcome) : Prop :=
  match event.action with
  | .addPermits n => total event.after = total event.before + n
  | .removePermits n => total event.after + min n event.before.sem.availablePermits = total event.before
  | .forgetPermit p => total event.after + (event.before.permits.get? p).getD 0 = total event.before
  | _ => total event.after = total event.before

instance (event : Event State Action Outcome) : Decidable (Accounts event) := by
  unfold Accounts
  cases event.action <;> infer_instance

def Unsaturated (event : Event State Action Outcome) : Prop :=
  let (l, n) := returned (view event.before) event.action
  Fits l n

def EvenRefill (event : Event State Action Outcome) : Prop :=
  let (l, n) := returned (view event.before) event.action
  EvenHandout l n

instance (event : Event State Action Outcome) : Decidable (Unsaturated event) :=
  inferInstanceAs (Decidable (Fits _ _))

instance (event : Event State Action Outcome) : Decidable (EvenRefill event) :=
  inferInstanceAs (Decidable (EvenHandout _ _))

private theorem total_eq (s : State) : total s = owned s.sem.ledger + s.permits.sum id := by
  have sums : s.sem.memory.sum Waiter.permits = (s.sem.memory.map Waiter.ticket).sum Ticket.permits :=
    (Arena.sum_map Ticket.permits Waiter.ticket _).symm
  simp only [total, owned, Semaphore.availablePermits, Semaphore.ledger, sums]
  omega

/-- The step lemma: a step does what it is meant to do to the total exactly when its refill is even. -/
theorem accounts_iff {start final : State} {past : History State Action Outcome} {event : Event State Action Outcome}
    (run : system.Run start (event :: past) final) (unsaturated : Unsaturated event) :
    Accounts event ↔ EvenRefill event := by
  obtain ⟨_, sound, _, enabled, turned⟩ := run_turn run
  obtain ⟨before, action, outcome, after⟩ := event
  simp only at sound enabled turned
  have valid := sound.valid
  have kept := congrArg (fun result => owned result.1.ledger) turned
  have guards := congrArg (fun result => result.1.permits.sum id) turned
  have idle : EvenHandout before.sem.ledger 0 := by
    left
    have spent := before.sem.ledger.handout_sum 0
    omega
  cases action with
  | tryAcquireMany n =>
    simp only [Accounts, EvenRefill, returned, view, total_eq, idle, iff_true]
    simp only [turn, view] at kept guards
    cases taken : before.sem.ledger.tryAcquire true n with
    | error error =>
      simp only [taken] at kept guards
      omega
    | ok result =>
      have fewer := tryAcquire_owned taken
      simp only [taken, Arena.sum_alloc, id] at kept guards
      omega
  | acquireMany n =>
    simp only [Accounts, EvenRefill, returned, view, total_eq, idle, iff_true]
    simp only [turn, view, Ledger.acquireMany, owned, Arena.sum_alloc] at kept guards
    simp only [owned]
    omega
  | poll a waker =>
    simp only [Accounts, EvenRefill, returned, view, total_eq, idle, iff_true]
    obtain ⟨ticket, held⟩ : ∃ ticket, before.sem.ledger.tickets.get? a = some ticket := ticket_of_live enabled
    have polled := poll_owned valid held waker
    simp only [turn, view, held] at kept guards
    revert polled kept guards
    rcases before.sem.ledger.poll a ticket waker with ⟨ledger, (_ | count) | _⟩
    all_goals
      intro kept guards polled
      simp only [Arena.sum_alloc, id] at kept guards polled
      omega
  | dropAcquire a =>
    obtain ⟨ticket, held⟩ : ∃ ticket, before.sem.ledger.tickets.get? a = some ticket := ticket_of_live enabled
    simp only [Unsaturated, returned, view, held, Option.map_some, Option.getD_some] at unsaturated
    simp only [Accounts, EvenRefill, returned, view, total_eq, held, Option.map_some, Option.getD_some,
      ← addPermits_owned (valid.forget a) unsaturated]
    have freed := forget_owned held
    simp only [turn, view, held, Ledger.drop] at kept guards
    omega
  | dropPermit p =>
    obtain ⟨count, live⟩ := Option.isSome_iff_exists.mp enabled
    simp only [Unsaturated, returned, view, live, Option.getD_some] at unsaturated
    simp only [Accounts, EvenRefill, returned, view, total_eq, live, Option.getD_some, ← addPermits_owned valid unsaturated]
    have freed := Arena.sum_free live id
    simp only [turn, view, live, id] at kept guards freed
    omega
  | forgetPermit p =>
    obtain ⟨count, live⟩ := Option.isSome_iff_exists.mp enabled
    simp only [Accounts, EvenRefill, returned, view, total_eq, idle, iff_true, live, Option.getD_some]
    have freed := Arena.sum_free live id
    simp only [turn, view, id] at kept guards freed
    omega
  | addPermits n =>
    simp only [Accounts, EvenRefill, returned, view, total_eq, ← addPermits_owned valid unsaturated]
    simp only [turn, view] at kept guards
    omega
  | removePermits n =>
    simp only [Accounts, EvenRefill, returned, view, total_eq, idle, iff_true]
    have pool : before.sem.availablePermits = before.sem.ledger.permits := rfl
    simp only [turn, view, owned] at kept guards
    simp only [owned]
    omega
  | close =>
    simp only [Accounts, EvenRefill, returned, view, total_eq, idle, iff_true]
    have same := close_owned valid
    simp only [turn, view] at kept guards
    omega

/-- Along every run in which the pool never saturates, permits are conserved exactly when
every partial refill is even. -/
theorem permits_conserved_iff {start final : State} {history : History State Action Outcome}
    (run : system.Run start history final) (unsaturated : ∀ event ∈ history, Unsaturated event) :
    (∀ event ∈ history, Accounts event) ↔ ∀ event ∈ history, EvenRefill event := by
  apply forall_congr'
  intro event
  apply forall_congr'
  intro member
  obtain ⟨past, reached⟩ := run.reaches member
  exact accounts_iff reached (unsaturated event member)

/-- A request for two permits is served in two halves: an even refill. -/
theorem permits_conserved_halves :
    ∃ history final, system.play [] (.new 0) [.acquireMany 2, .poll 0 7, .addPermits 1, .addPermits 1, .poll 0 7] =
        some (history, final) ∧
      (∀ event ∈ history, EvenRefill event) ∧ ((∀ event ∈ history, Accounts event) ↔ ∀ event ∈ history, EvenRefill event) := by
  obtain ⟨history, final, played, run, unsaturated, even⟩ := system.exists_run (.new 0) ⟨0, rfl⟩
    [.acquireMany 2, .poll 0 7, .addPermits 1, .addPermits 1, .poll 0 7]
    (fun history _ => (∀ event ∈ history, Unsaturated event) ∧ ∀ event ∈ history, EvenRefill event) (by decide)
  exact ⟨history, final, played, even, permits_conserved_iff run unsaturated⟩

/-- One permit added for a request of three makes two. -/
theorem permits_not_conserved :
    ¬ ∀ start final history, system.Run start history final → (∀ event ∈ history, Unsaturated event) →
      ∀ event ∈ history, Accounts event := by
  intro conserved
  obtain ⟨history, final, _, run, unsaturated, broken⟩ := system.exists_run (.new 0) ⟨0, rfl⟩
    [.acquireMany 3, .poll 0 7, .addPermits 1]
    (fun history _ => (∀ event ∈ history, Unsaturated event) ∧ ¬ ∀ event ∈ history, Accounts event) (by decide)
  exact broken (conserved _ _ _ run unsaturated)

end AsyncUnsync.Proofs.PermitConservation
