import AsyncUnsync.Proofs.FirstPolls

/-! The representation invariant of the intrusive waiter queue, in every state that
any interleaving of the clients' calls can reach. -/

namespace AsyncUnsync.Proofs.WaiterQueue
open Memory Transition SemaphoreSystem LedgerSystem LedgerSimulation LedgerTurns FirstPolls

def enqueuings (a : Addr) : History State Action Outcome → Nat
  | [] => 0
  | event :: past =>
    enqueuings a past + if a ∉ event.before.sem.queue ∧ a ∈ event.after.sem.queue then 1 else 0

def registered (s : State) (a : Addr) : Option Waker := (s.sem.memory.get? a).bind Waiter.waker

def registrations (a : Addr) : History State Action Outcome → Nat
  | [] => 0
  | event :: past =>
    registrations a past +
      if (event.after.sem.memory.get? a).isSome ∧ registered event.after a ≠ registered event.before a then 1 else 0

structure WellFormed (history : History State Action Outcome) (s : State) : Prop where
  /-- Following `next` from `head` walks the queue to `tail`, and `prev` walks it back. -/
  chain : Chain s.sem.next s.sem.prev s.sem.shared.waiters.head s.sem.shared.waiters.tail s.sem.queue
  inverse : ∀ a ∈ s.sem.queue, ∀ b ∈ s.sem.queue, s.sem.next a = some b ↔ s.sem.prev b = some a
  ends : s.sem.shared.waiters.head = none ↔ s.sem.shared.waiters.tail = none
  members : ∀ a, a ∈ s.sem.queue ↔ ∃ waiter, s.sem.memory.get? a = some waiter ∧ waiter.state = .waiting
  order : s.sem.queue.Sublist (firstPolls history)
  ready : ∀ a ∈ s.sem.queue, ∀ waiter, s.sem.memory.get? a = some waiter →
    waiter.waker.isSome ∧ waiter.permits < waiter.wants
  first : ∀ a ∈ s.sem.queue.tail, ∀ waiter, s.sem.memory.get? a = some waiter → waiter.permits = 0
  /-- Only an inert waiter is ever enqueued, and it has neither a waker nor links yet. -/
  inert : ∀ a waiter, s.sem.memory.get? a = some waiter → waiter.state = .inert →
    waiter.waker = none ∧ waiter.next = none ∧ waiter.prev = none
  enqueued : ∀ a, enqueuings a history ≤ 1
  registered : ∀ a, registrations a history ≤ 1
  waiters : s.sem.waiters = .ok (s.sem.memory.count fun waiter => waiter.state = .waiting)
  /-- No call faults: nothing dangles, nothing underflows, no waker is missing, every loop ends. -/
  total : ∀ action, system.Enabled s action → ∃ after, step s action = .ok after

variable {start state : State} {past history : History State Action Outcome} {event : Event State Action Outcome} {a : Addr}

private theorem held_iff (s : State) (a : Addr) : s.sem.ledger.tickets.get? a = (s.sem.memory.get? a).map Waiter.ticket := by
  simp [Semaphore.ledger]

private theorem registered_eq (s : State) (a : Addr) :
    registered s a = (s.sem.ledger.tickets.get? a).bind Ticket.waker := by
  rw [held_iff, registered]
  cases s.sem.memory.get? a <;> rfl

/-- No future is queued or registered twice, and none before its first poll. -/
structure Once (history : History State Action Outcome) (a : Addr) : Prop where
  enqueued : enqueuings a history ≤ 1
  registered : registrations a history ≤ 1
  unpolled : a ∉ firstPolls history → enqueuings a history = 0 ∧ registrations a history = 0

private theorem once_step (run : system.Run start (event :: past) state) (a : Addr) (once : Once past a) :
    Once (event :: past) a := by
  obtain ⟨run', sound, _, enabled, turned⟩ := run_turn run
  have valid : (view event.before).ledger.Valid := sound.valid
  have polled := run_polled run'
  have after : event.after.sem.ledger = (turn (view event.before) event.action).1.ledger := by rw [turned]; rfl
  by_cases joins : ∃ waker ticket, event.action = .poll a waker ∧ Enqueues (view event.before) a ticket
  · obtain ⟨waker, ticket, polls, enqueues⟩ := joins
    have fresh := (polled.inert a ticket enqueues.held).mp enqueues.inert
    obtain ⟨none, unset⟩ := once.unpolled fresh
    refine ⟨?_, ?_, fun absent => absurd (firstPolls_self polls) absent⟩
    · simp only [enqueuings, none]
      split <;> omega
    · simp only [registrations, unset]
      split <;> omega
  · have outside : ¬ (a ∉ event.before.sem.queue ∧ a ∈ event.after.sem.queue) := by
      intro ⟨before, behind⟩
      rw [show event.after.sem.queue = _ from congrArg Ledger.queue after] at behind
      rcases turn_queue valid event.action with left | ⟨b, waker, ticket, polls, enqueues, queue⟩
      · exact before ((returned_sublist (view event.before) event.action).subset (left ▸ List.mem_append_right _ behind))
      · rw [queue, List.mem_append, List.mem_singleton] at behind
        rcases behind with behind | rfl
        · exact before behind
        · exact joins ⟨waker, ticket, polls, enqueues⟩
    have kept : ¬ ((event.after.sem.memory.get? a).isSome ∧ registered event.after a ≠ registered event.before a) := by
      intro ⟨live, changed⟩
      obtain ⟨waiter, found⟩ := Option.isSome_iff_exists.mp live
      have held : event.after.sem.ledger.tickets.get? a = some waiter.ticket := by rw [held_iff, found]; rfl
      rw [registered_eq, registered_eq, held] at changed
      rw [after] at held
      rcases turn_ticket valid event.action held with ⟨ticket, same⟩ | ⟨n, _, new, fresh⟩ | ⟨waker, ticket, polls, enqueues, _⟩
      · have before : event.before.sem.ledger.tickets.get? a = some ticket := same.held
        rw [before] at changed
        exact changed same.aged.waker
      · have before : event.before.sem.ledger.tickets.get? a = none := by
          rw [new]
          exact Arena.get?_of_size_le (Nat.le_refl _)
        rw [before, fresh] at changed
        exact changed rfl
      · exact joins ⟨waker, ticket, polls, enqueues⟩
    refine ⟨?_, ?_, fun absent => ?_⟩
    · simp only [enqueuings, if_neg outside]
      exact once.enqueued
    · simp only [registrations, if_neg kept]
      exact once.registered
    · simp only [enqueuings, registrations, if_neg outside, if_neg kept]
      exact once.unpolled fun member => absent (firstPolls_grows.subset member)

theorem run_once (run : system.Run start history state) (a : Addr) : Once history a := by
  refine run.invariant (fun history _ => Once history a) ?_ ?_
  · exact fun _ => ⟨Nat.zero_le _, Nat.zero_le _, fun _ => ⟨rfl, rfl⟩⟩
  · intro past state action outcome after run once enabled stepped
    exact once_step (.step run enabled stepped) a once

/-- The waiter queue is well formed in every reachable state. -/
theorem run_wellFormed (run : system.Run start history state) : WellFormed history state := by
  have sound := run_sound run
  have refines := sound.refines
  have valid := sound.valid
  have held {a : Addr} {waiter : Waiter} (live : state.sem.memory.get? a = some waiter) :
      state.sem.ledger.tickets.get? a = some waiter.ticket := refines.held live
  have chain : Chain state.sem.next state.sem.prev state.sem.shared.waiters.head state.sem.shared.waiters.tail
      state.sem.queue := refines.chain
  have members : ∀ a, a ∈ state.sem.queue ↔
      ∃ waiter, state.sem.memory.get? a = some waiter ∧ waiter.state = .waiting := by
    intro a
    refine (valid.waiting a).trans ⟨?_, ?_⟩
    · intro ⟨_, found, waiting⟩
      obtain ⟨waiter, live, rfl⟩ := refines.live found
      exact ⟨waiter, live, waiting⟩
    · intro ⟨waiter, live, waiting⟩
      exact ⟨waiter.ticket, held live, waiting⟩
  refine ⟨chain, fun a first b second => chain.next_iff_prev first second, ?_, members, (run_polled run).order, ?_, ?_, ?_,
    fun a => (run_once run a).enqueued, fun a => (run_once run a).registered, ?_, ?_⟩
  · rw [chain.head_none_iff, chain.tail_none_iff]
  · intro a member waiter live
    obtain ⟨_, waker, found, _, registered, short⟩ := valid.queued member
    rw [held live] at found
    cases found
    exact ⟨by simp [show waiter.waker = some waker from registered], short⟩
  · exact fun a behind waiter live => valid.first a behind _ (held live)
  · exact fun a waiter live inert => ⟨((valid.ticket a _ (held live)).inert inert).2, refines.unlinked a waiter live inert⟩
  · rw [LedgerRefinement.waiters_spec refines sound.queued]
    have counted := Arena.count_eq_length state.sem.memory (fun waiter => waiter.state = .waiting) valid.nodup
      (fun a => (members a).trans (by simp))
    rw [counted]
  · intro action enabled
    obtain ⟨after, stepped, _⟩ := step_spec sound enabled
    exact ⟨_, stepped⟩

/-- Three requests wait; the one in the middle is cancelled, and a permit is added. -/
theorem run_wellFormed_cancelled :
    ∃ history final, system.play [] (.new 0) [.acquireMany 2, .acquireMany 1, .acquireMany 1, .poll 0 7, .poll 1 8, .poll 2 9,
        .dropAcquire 1, .addPermits 1] = some (history, final) ∧
      final.sem.queue = [0, 2] ∧ WellFormed history final := by
  obtain ⟨history, final, played, run, walked⟩ := system.exists_run (.new 0) ⟨0, rfl⟩
    [.acquireMany 2, .acquireMany 1, .acquireMany 1, .poll 0 7, .poll 1 8, .poll 2 9, .dropAcquire 1, .addPermits 1]
    (fun _ final => final.sem.queue = [0, 2]) (by decide)
  exact ⟨history, final, played, walked, run_wellFormed run⟩

end AsyncUnsync.Proofs.WaiterQueue
