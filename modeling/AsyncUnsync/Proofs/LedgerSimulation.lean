import AsyncUnsync.LedgerSystem
import AsyncUnsync.Proofs.LedgerRefinement

/-! Every run of the clients of a semaphore is a run of the ledger. No call ever
faults, so the ledger says all there is to say about a reachable state. -/

namespace AsyncUnsync.Proofs.LedgerSimulation
open Memory Transition SemaphoreSystem LedgerSystem LedgerRefinement LedgerGrants

/-- The semaphore is well formed and its ledger is valid. -/
structure Sound (s : Semaphore) : Prop where
  refines : Refines s s.ledger
  valid : s.ledger.Valid

variable {s s' : Semaphore} {l : Ledger} {a : Addr}

theorem Sound.of (refines : Refines s l) (valid : l.Valid) : s.ledger = l ∧ Sound s := by
  have same := refines.ledger (Queued.of_valid valid)
  refine ⟨same, ?_⟩
  rw [← same] at refines valid
  exact ⟨refines, valid⟩

theorem Sound.queued (sound : Sound s) : Queued s.ledger := Queued.of_valid sound.valid

theorem Sound.new (permits : Nat) : (Semaphore.new permits).ledger = ⟨.empty, [], permits, false⟩ ∧ Sound (.new permits) :=
  Sound.of (.new permits) (.empty permits)

theorem Sound.addPermits (sound : Sound s) (n : Nat) :
    ∃ s', s.addPermits n = .ok (s', (s.ledger.addPermits n).2) ∧ s'.ledger = (s.ledger.addPermits n).1 ∧ Sound s' := by
  obtain ⟨s', added, refines⟩ := addPermits_spec sound.refines sound.queued n
  exact ⟨s', added, Sound.of refines (sound.valid.addPermits n)⟩

theorem Sound.pollFuture (sound : Sound s) {ticket : Ticket} (held : s.ledger.tickets.get? a = some ticket) (waker : Waker) :
    ∃ s', s.pollFuture a waker = .ok (s', (s.ledger.poll a ticket waker).2) ∧
      s'.ledger = (s.ledger.poll a ticket waker).1 ∧ Sound s' := by
  obtain ⟨s', polled, refines⟩ := poll_spec sound.refines sound.valid held waker
  exact ⟨s', polled, Sound.of refines (sound.valid.poll held waker)⟩

theorem Sound.dropFuture (sound : Sound s) {ticket : Ticket} (held : s.ledger.tickets.get? a = some ticket) :
    ∃ s', s.dropFuture a = .ok (s', (s.ledger.drop a ticket).2) ∧ s'.ledger = (s.ledger.drop a ticket).1 ∧ Sound s' := by
  obtain ⟨s', dropped, refines⟩ := drop_spec sound.refines sound.valid held
  exact ⟨s', dropped, Sound.of refines (sound.valid.drop a ticket)⟩

theorem Sound.close (sound : Sound s) :
    ∃ s', s.close = .ok ⟨s', s.ledger.close.2.length, s.ledger.close.2⟩ ∧ s'.ledger = s.ledger.close.1 ∧ Sound s' := by
  obtain ⟨s', closed, refines⟩ := close_spec sound.refines sound.queued
  exact ⟨s', closed, Sound.of refines sound.valid.close⟩

theorem Sound.acquireMany (sound : Sound s) (n : Nat) :
    (s.acquireMany n).ledger = s.ledger.acquireMany n ∧ Sound (s.acquireMany n) :=
  Sound.of (acquireMany_spec sound.refines sound.valid n) (sound.valid.acquireMany n)

theorem Sound.removePermits (sound : Sound s) (n : Nat) :
    (s.removePermits n).ledger = { s.ledger with permits := s.ledger.permits - n } ∧ Sound (s.removePermits n) :=
  Sound.of (sound.refines.setPermits _) (sound.valid.takePermits n)

theorem Sound.tryAcquireMany (sound : Sound s) (n : Nat) :
    match s.ledger.tryAcquire true n with
    | .ok (_, l) => ∃ s', s.tryAcquireMany n = .ok s' ∧ s'.ledger = l ∧ Sound s'
    | .error error => s.tryAcquireMany n = .error error := by
  have tried := tryAcquire_spec sound.refines true n
  simp only [Ledger.tryAcquire, Bool.true_or, if_true] at tried ⊢
  by_cases closed : s.ledger.closed = true
  · simp only [if_pos closed] at tried ⊢
    simp only [Semaphore.tryAcquireMany, tried]
  simp only [if_neg closed] at tried ⊢
  by_cases few : n > s.ledger.permits
  · simp only [if_pos few] at tried ⊢
    simp only [Semaphore.tryAcquireMany, tried]
  · simp only [if_neg few] at tried ⊢
    obtain ⟨shared, taken, refines⟩ := tried
    exact ⟨{ s with shared }, by simp only [Semaphore.tryAcquireMany, taken], Sound.of refines (sound.valid.takePermits n)⟩

theorem Sound.size (sound : Sound s) : s.memory.size = s.ledger.tickets.size := sound.refines.size

theorem ticket_of_live {state : State} (live : (state.sem.memory.get? a).isSome) :
    ∃ ticket, state.sem.ledger.tickets.get? a = some ticket := by
  obtain ⟨waiter, found⟩ := Option.isSome_iff_exists.mp live
  exact ⟨waiter.ticket, by simp [Semaphore.ledger, found]⟩

private theorem view_eq (same : s.ledger = l) (permits : Arena Nat) : view ⟨s, permits⟩ = ⟨l, permits⟩ := by
  rw [view, same]

/-- What every call does to a sound semaphore is what the ledger says. -/
theorem step_spec {state : State} (sound : Sound state.sem) {action : Action} (enabled : system.Enabled state action) :
    ∃ after, step state action = .ok (after, (turn (view state) action).2) ∧
      view after = (turn (view state) action).1 ∧ Sound after.sem := by
  cases action with
  | tryAcquireMany n =>
    have tried := sound.tryAcquireMany n
    simp only [step, turn, view]
    cases result : state.sem.ledger.tryAcquire true n with
    | ok taken =>
      rw [result] at tried
      obtain ⟨s', succeeded, same, sound'⟩ := tried
      rw [succeeded]
      exact ⟨_, rfl, view_eq same _, sound'⟩
    | error error =>
      rw [result] at tried
      rw [show state.sem.tryAcquireMany n = .error error from tried]
      exact ⟨_, rfl, rfl, sound⟩
  | acquireMany n =>
    obtain ⟨same, sound'⟩ := sound.acquireMany n
    simp only [step, turn, view, sound.size]
    exact ⟨_, rfl, view_eq same _, sound'⟩
  | poll a waker =>
    obtain ⟨ticket, held⟩ := ticket_of_live enabled
    obtain ⟨s', polled, same, sound'⟩ := sound.pollFuture held waker
    simp only [step, turn, view, held, polled, ok_bind]
    revert same
    rcases state.sem.ledger.poll a ticket waker with ⟨ledger, (_ | _) | _⟩
    all_goals intro same
    all_goals exact ⟨_, rfl, view_eq same _, sound'⟩
  | dropAcquire a =>
    obtain ⟨ticket, held⟩ := ticket_of_live enabled
    obtain ⟨s', dropped, same, sound'⟩ := sound.dropFuture held
    simp only [step, turn, view, held, dropped, ok_bind]
    exact ⟨_, rfl, view_eq same _, sound'⟩
  | dropPermit p =>
    obtain ⟨count, held⟩ := Option.isSome_iff_exists.mp enabled
    obtain ⟨s', added, same, sound'⟩ := sound.addPermits count
    simp only [step, turn, view, held, added, ok_bind]
    exact ⟨_, rfl, view_eq same _, sound'⟩
  | forgetPermit p => exact ⟨_, rfl, rfl, sound⟩
  | addPermits n =>
    obtain ⟨s', added, same, sound'⟩ := sound.addPermits n
    simp only [step, turn, view, added, ok_bind]
    exact ⟨_, rfl, view_eq same _, sound'⟩
  | removePermits n =>
    obtain ⟨same, sound'⟩ := sound.removePermits n
    exact ⟨_, rfl, view_eq same _, sound'⟩
  | close =>
    obtain ⟨s', closed, same, sound'⟩ := sound.close
    simp only [step, turn, view, closed, ok_bind]
    exact ⟨_, rfl, view_eq same _, sound'⟩

theorem run_sound {start state : State} {history : History State Action Outcome}
    (run : system.Run start history state) : Sound state.sem := by
  refine run.invariant (fun _ state => Sound state.sem) ?_ ?_
  · rintro ⟨permits, rfl⟩
    exact (Sound.new permits).2
  · intro past before action outcome after _ sound enabled stepped
    obtain ⟨after', stepped', _, sound'⟩ := step_spec sound enabled
    obtain ⟨rfl, rfl⟩ := Prod.mk.inj (Except.ok.inj (stepped.symm.trans stepped'))
    exact sound'

theorem run_turn {start state : State} {past : History State Action Outcome} {event : Event State Action Outcome}
    (run : system.Run start (event :: past) state) :
    system.Run start past event.before ∧ Sound event.before.sem ∧ Sound event.after.sem ∧
      system.Enabled event.before event.action ∧
      turn (view event.before) event.action = (view event.after, event.outcome) := by
  obtain ⟨before, enabled, stepped, rfl⟩ := run.last
  have sound := run_sound before
  obtain ⟨after, stepped', same, sound'⟩ := step_spec sound enabled
  obtain ⟨kept, told⟩ := Prod.mk.inj (Except.ok.inj (stepped.symm.trans stepped'))
  rw [← kept] at same sound'
  exact ⟨before, sound, sound', enabled, Prod.ext same.symm told.symm⟩

end AsyncUnsync.Proofs.LedgerSimulation
