import AsyncUnsync.LedgerSystem
import AsyncUnsync.Proofs.LedgerValid

/-! Everything a call can do to the queue and to a single request, said once.
A request enters the queue by its own first poll, and leaves it when it is
complete, when the semaphore closes, or when it is dropped. -/

namespace AsyncUnsync.Proofs.LedgerTurns
open Memory Serving SemaphoreSystem LedgerSystem

/-- A request may be woken and permits may move, but it stays the same request. -/
structure Aged (before after : Ticket) : Prop where
  wants : after.wants = before.wants
  waker : after.waker = before.waker
  state : after.state = before.state ∨ after.state = .woken

theorem Aged.refl (ticket : Ticket) : Aged ticket ticket := ⟨rfl, rfl, .inl rfl⟩

/-- A first poll that does not find all the permits it wants. -/
structure Enqueues (v : View) (a : Addr) (ticket : Ticket) : Prop where
  held : v.ledger.tickets.get? a = some ticket
  inert : ticket.state = .inert
  opened : ¬ v.ledger.closed = true
  few : v.ledger.permits < ticket.wants

/-- The same request before and after a call. It changes its state when it is due or polled. -/
structure Continues (v : View) (action : Action) (b : Addr) (before after : Ticket) : Prop where
  held : v.ledger.tickets.get? b = some before
  aged : Aged before after
  woken : b ∈ due v action → after.state = .woken
  cause : after.state ≠ before.state → b ∈ due v action ∨ ∃ waker, action = .poll b waker

variable {l : Ledger} {v : View} {a b : Addr} {ticket ticket' : Ticket}

section Handout

theorem settle_queue (waiting : List Addr) (left : Nat) : (l.settle waiting left).queue = waiting := by
  unfold Ledger.settle
  split
  · rfl
  · split <;> rfl

theorem settle_ticket (waiting : List Addr) (left : Nat) (after : (l.settle waiting left).tickets.get? b = some ticket') :
    ∃ ticket, l.tickets.get? b = some ticket ∧ Aged ticket ticket' ∧ ticket'.state = ticket.state := by
  unfold Ledger.settle at after
  split at after
  · exact ⟨ticket', after, .refl _, rfl⟩
  · split at after
    · exact ⟨ticket', after, .refl _, rfl⟩
    · simp only [Arena.get?_modify] at after
      split at after
      · obtain ⟨ticket, held, rfl⟩ := Option.map_eq_some_iff.mp after
        exact ⟨ticket, held, ⟨rfl, rfl, .inl rfl⟩, rfl⟩
      · exact ⟨ticket', after, .refl _, rfl⟩

theorem addPermits_queue (n : Nat) : l.queue = (l.handout n).served ++ (l.addPermits n).1.queue := by
  simp only [Ledger.addPermits, settle_queue, l.handout_split]

theorem addPermits_ticket (valid : l.Valid) (n : Nat) (after : (l.addPermits n).1.tickets.get? b = some ticket') :
    ∃ ticket, l.tickets.get? b = some ticket ∧ Aged ticket ticket' ∧
      (b ∈ (l.handout n).served → ticket'.state = .woken) ∧
      (b ∉ (l.handout n).served → ticket'.state = ticket.state) := by
  obtain ⟨middle, granted, aged, same⟩ := settle_ticket _ _ after
  simp only [Arena.get?_modifyAll _ (valid.served_nodup n)] at granted
  split at granted
  next inside =>
    obtain ⟨ticket, held, rfl⟩ := Option.map_eq_some_iff.mp granted
    exact ⟨ticket, held, ⟨aged.wants, aged.waker, .inr same⟩, fun _ => same, fun outside => absurd inside outside⟩
  next outside => exact ⟨middle, granted, aged, fun member => absurd member outside, fun _ => same⟩

@[simp] theorem settle_closed (l : Ledger) (waiting : List Addr) (left : Nat) : (l.settle waiting left).closed = l.closed := by
  unfold Ledger.settle
  split
  · rfl
  · split <;> rfl

@[simp] theorem addPermits_closed (l : Ledger) (n : Nat) : (l.addPermits n).1.closed = l.closed := by
  simp only [Ledger.addPermits, settle_closed]

theorem addPermits_held (valid : l.Valid) (n : Nat) (after : (l.addPermits n).1.tickets.get? b = some ticket') :
    ∃ ticket, l.tickets.get? b = some ticket ∧ (ticket' = ticket ∨
      (b ∈ (l.handout n).served ∧ ticket.state = .waiting ∧ ticket' = ticket.grant) ∨
      (ticket.state = .waiting ∧ ticket'.state = .waiting ∧ ticket'.wants = ticket.wants)) := by
  obtain ⟨ticket, held, aged, _, unserved⟩ := addPermits_ticket valid n after
  refine ⟨ticket, held, ?_⟩
  have nodup := valid.served_nodup n
  have waits : ∀ other, other ∈ l.queue → other = b → ticket.state = .waiting := by
    intro other member same
    subst same
    obtain ⟨_, _, found, state, _⟩ := valid.queued member
    cases held.symm.trans found
    exact state
  by_cases served : b ∈ (l.handout n).served
  · right
    left
    refine ⟨served, waits b (mem_of_served served) rfl, ?_⟩
    simp only [Ledger.addPermits, Ledger.settle] at after
    split at after
    · simpa [Arena.get?_modifyAll _ nodup, served, held, eq_comm] using after
    · split at after
      · simpa [Arena.get?_modifyAll _ nodup, served, held, eq_comm] using after
      next first behind waiting =>
        have apart : first ≠ b := by
          intro same
          have distinct := valid.nodup
          rw [← l.handout_split n, waiting] at distinct
          exact (List.nodup_append.mp distinct).2.2 b served first (by simp) same.symm
        simpa [Arena.get?_modify, apart, Arena.get?_modifyAll _ nodup, served, held, eq_comm] using after
  · simp only [Ledger.addPermits, Ledger.settle] at after
    split at after
    · left
      simpa [Arena.get?_modifyAll _ nodup, served, held, eq_comm] using after
    · split at after
      · left
        simpa [Arena.get?_modifyAll _ nodup, served, held, eq_comm] using after
      next first behind waiting =>
        by_cases same : first = b
        · have state := waits first (Ledger.queued_of_waiting waiting) same
          exact .inr (.inr ⟨state, (unserved served).trans state, aged.wants⟩)
        · left
          simpa [Arena.get?_modify, same, Arena.get?_modifyAll _ nodup, served, held, eq_comm] using after

theorem addPermits_live (valid : l.Valid) (n : Nat) (held : l.tickets.get? b = some ticket) :
    ∃ ticket', (l.addPermits n).1.tickets.get? b = some ticket' := by
  have granted : ∃ middle, (l.tickets.modifyAll Ticket.grant (l.handout n).served).get? b = some middle := by
    rw [Arena.get?_modifyAll _ (valid.served_nodup n), held]
    split <;> exact ⟨_, rfl⟩
  obtain ⟨middle, granted⟩ := granted
  simp only [Ledger.addPermits, Ledger.settle]
  split
  · exact ⟨middle, granted⟩
  · split
    · exact ⟨middle, granted⟩
    · simp only [Arena.get?_modify, granted]
      split <;> exact ⟨_, rfl⟩

@[simp] theorem addPermits_size (n : Nat) : (l.addPermits n).1.tickets.size = l.tickets.size := by
  simp only [Ledger.addPermits, Ledger.settle]
  split
  · simp
  · split <;> simp

theorem handout_zero (valid : l.Valid) : l.handout 0 = ⟨[], l.queue, 0⟩ := serve_zero fun _ member => valid.need_pos member

theorem tryAcquire_tickets {l' : Ledger} {n count : Nat} (taken : l.tryAcquire true n = .ok (count, l')) :
    l'.tickets = l.tickets ∧ l'.closed = l.closed := by
  unfold Ledger.tryAcquire at taken
  split at taken
  · cases taken
  · split at taken
    · simp at taken
    · cases taken
      exact ⟨rfl, rfl⟩

end Handout

section Poll

private theorem poll_cases (held : v.ledger.tickets.get? a = some ticket) (waker : Waker) :
    (Enqueues v a ticket ∧ v.ledger.poll a ticket waker =
      ({ v.ledger with permits := 0 }.enqueue a { ticket with permits := v.ledger.permits } waker, .pending)) ∨
    (∃ ticket', Aged ticket ticket' ∧ ticket'.state ≠ .inert ∧
      (v.ledger.poll a ticket waker).1.tickets = v.ledger.tickets.put a ticket' ∧
      (v.ledger.poll a ticket waker).1.queue = v.ledger.queue ∧
      ((v.ledger.poll a ticket waker).2 = .pending ↔ ticket'.state = .waiting) ∧
      (ticket'.state = .waiting → ticket' = ticket)) := by
  by_cases closed : v.ledger.closed = true
  · right
    rw [Ledger.poll_closed closed]
    exact ⟨ticket.wake, ⟨rfl, rfl, .inr rfl⟩, by simp [Ticket.wake], rfl, rfl, by simp [Ticket.wake], by simp [Ticket.wake]⟩
  cases state : ticket.state with
  | waiting =>
    right
    rw [Ledger.poll_waiting closed state]
    exact ⟨ticket, .refl _, by simp [state], (Arena.put_same held).symm, rfl, by simp [state], fun _ => rfl⟩
  | woken =>
    right
    rw [Ledger.poll_woken closed state]
    exact ⟨{ ticket with permits := 0 }, ⟨rfl, rfl, .inl rfl⟩, by simp [state], rfl, rfl, by simp [state], by simp [state]⟩
  | inert =>
    rw [Ledger.poll_inert closed state]
    by_cases enough : ticket.wants ≤ v.ledger.permits
    · right
      rw [if_pos enough]
      exact ⟨{ ticket.wake with permits := 0 }, ⟨rfl, rfl, .inr rfl⟩, by simp [Ticket.wake], rfl, rfl,
        by simp [Ticket.wake], by simp [Ticket.wake]⟩
    · left
      rw [if_neg enough]
      exact ⟨⟨held, state, closed, Nat.lt_of_not_le enough⟩, rfl⟩

theorem Enqueues.turn (enqueues : Enqueues v a ticket) (waker : Waker) :
    turn v (.poll a waker) =
      (⟨{ v.ledger with permits := 0 }.enqueue a { ticket with permits := v.ledger.permits } waker, v.permits⟩,
        { reply := .pending }) := by
  have few : ¬ ticket.wants ≤ v.ledger.permits := Nat.not_le_of_lt enqueues.few
  simp only [LedgerSystem.turn, enqueues.held, Ledger.poll_inert enqueues.opened enqueues.inert, if_neg few]

theorem turn_poll (held : v.ledger.tickets.get? a = some ticket) (waker : Waker) :
    (Enqueues v a ticket ∧ turn v (.poll a waker) =
      (⟨{ v.ledger with permits := 0 }.enqueue a { ticket with permits := v.ledger.permits } waker, v.permits⟩,
        { reply := .pending })) ∨
    (∃ ticket', Aged ticket ticket' ∧ ticket'.state ≠ .inert ∧
      (turn v (.poll a waker)).1.ledger.tickets = v.ledger.tickets.put a ticket' ∧
      (turn v (.poll a waker)).1.ledger.queue = v.ledger.queue ∧
      ((turn v (.poll a waker)).2.reply = .pending ↔ ticket'.state = .waiting) ∧
      (ticket'.state = .waiting → ticket' = ticket) ∧ (turn v (.poll a waker)).2.woken = []) := by
  rcases poll_cases held waker with ⟨enqueues, polled⟩ | ⟨ticket', aged, polled, tickets, queue, pending, same⟩
  · left
    refine ⟨enqueues, ?_⟩
    simp only [turn, held, polled]
  · right
    refine ⟨ticket', aged, polled, ?_⟩
    simp only [turn, held]
    revert tickets queue pending
    rcases v.ledger.poll a ticket waker with ⟨ledger, (_ | count) | _⟩
    all_goals
      intro tickets queue pending
      exact ⟨tickets, queue, by simpa using pending, same, rfl⟩

theorem turn_polled (held : v.ledger.tickets.get? a = some ticket) {waker : Waker}
    (after : (turn v (.poll a waker)).1.ledger.tickets.get? a = some ticket') : ticket'.state ≠ .inert := by
  rcases turn_poll held waker with ⟨_, turned⟩ | ⟨updated, _, active, tickets, _⟩
  · simp only [turned, Ledger.enqueue, Arena.get?_put_self held] at after
    cases after
    simp
  · rw [tickets, Arena.get?_put_self held] at after
    cases after
    exact active

end Poll

section Turn

private theorem returned_idle (valid : v.ledger.Valid) {action : Action} (ordinary : action ≠ .close)
    (idle : returned v action = (v.ledger, 0)) : due v action = [] := by
  rw [due, if_neg ordinary, idle]
  simp only [handout_zero valid]

theorem returned_sublist (v : View) (action : Action) : (returned v action).1.queue.Sublist v.ledger.queue := by
  cases action with
  | dropAcquire a => exact List.erase_sublist ..
  | _ => exact .refl _

theorem due_queued {action : Action} (member : b ∈ due v action) : b ∈ v.ledger.queue := by
  simp only [due] at member
  split at member
  · exact member
  · exact (returned_sublist v action).subset (mem_of_served member)

/-- The queue loses the requests that are due from its front, or gains one at its back. -/
theorem turn_queue (valid : v.ledger.Valid) (action : Action) :
    (returned v action).1.queue = due v action ++ (turn v action).1.ledger.queue ∨
    ∃ a waker ticket, action = .poll a waker ∧ Enqueues v a ticket ∧
      (turn v action).1.ledger.queue = v.ledger.queue ++ [a] := by
  cases action with
  | tryAcquireMany n =>
    left
    rw [returned_idle valid (by simp) rfl]
    simp only [returned, turn, List.nil_append]
    cases taken : v.ledger.tryAcquire true n with
    | error => rfl
    | ok result =>
      unfold Ledger.tryAcquire at taken
      split at taken
      · cases taken
      · split at taken
        · simp at taken
        · cases taken
          rfl
  | acquireMany | forgetPermit | removePermits =>
    left
    rw [returned_idle valid (by simp) rfl]
    rfl
  | poll a waker =>
    cases held : v.ledger.tickets.get? a with
    | none =>
      left
      rw [returned_idle valid (by simp) rfl]
      simp [returned, turn, held]
    | some ticket =>
      rcases turn_poll held waker with ⟨enqueues, turned⟩ | ⟨_, _, _, _, queue, _⟩
      · exact .inr ⟨a, waker, ticket, rfl, enqueues, by rw [turned]; rfl⟩
      · left
        rw [returned_idle valid (by simp) rfl, queue]
        rfl
  | dropAcquire a =>
    left
    simp only [due, reduceCtorEq, if_false]
    cases held : v.ledger.tickets.get? a with
    | none =>
      have absent : a ∉ v.ledger.queue := by
        intro member
        obtain ⟨_, _, found, _⟩ := valid.queued member
        simp [held] at found
      have idle := handout_zero (valid.forget a)
      simp only [returned, held, Option.map_none, Option.getD_none, idle, turn, List.nil_append]
      exact List.erase_of_not_mem absent
    | some ticket =>
      simp only [returned, turn, held, Option.map_some, Option.getD_some]
      exact addPermits_queue ticket.permits
  | dropPermit p =>
    left
    simp only [due, reduceCtorEq, if_false]
    cases held : v.permits.get? p with
    | none => simp [returned, turn, held, handout_zero valid]
    | some count =>
      simp only [returned, turn, held, Option.getD_some]
      exact addPermits_queue count
  | addPermits n =>
    left
    simp only [due, reduceCtorEq, if_false]
    exact addPermits_queue n
  | close =>
    left
    simp [returned, due, turn, Ledger.close]

private theorem Continues.same (valid : v.ledger.Valid) {action : Action} (ordinary : action ≠ .close)
    (idle : returned v action = (v.ledger, 0)) (held : v.ledger.tickets.get? b = some ticket) :
    Continues v action b ticket ticket :=
  ⟨held, .refl _, by simp [returned_idle valid ordinary idle], fun changed => absurd rfl changed⟩

private theorem Continues.handout (valid : l.Valid) {action : Action} {n : Nat} (ordinary : action ≠ .close)
    (handed : returned v action = (l, n)) (same : l.tickets.get? b = some ticket → v.ledger.tickets.get? b = some ticket)
    (before : l.tickets.get? b = some ticket) (after : (l.addPermits n).1.tickets.get? b = some ticket') :
    Continues v action b ticket ticket' := by
  obtain ⟨old, held, aged, granted, kept⟩ := addPermits_ticket valid n after
  rw [before] at held
  cases held
  have dues : due v action = (l.handout n).served := by rw [due, if_neg ordinary, handed]
  refine ⟨same before, aged, fun member => granted (dues ▸ member), fun changed => ?_⟩
  by_cases member : b ∈ (l.handout n).served
  · exact .inl (dues ▸ member)
  · exact absurd (kept member) changed

/-- Every request that exists after a call existed before it, unless it is a new one. It is
the same request, unless this is the poll that enqueues it. -/
theorem turn_ticket (valid : v.ledger.Valid) (action : Action)
    (after : (turn v action).1.ledger.tickets.get? b = some ticket') :
    (∃ ticket, Continues v action b ticket ticket') ∨
    (∃ n, action = .acquireMany n ∧ b = v.ledger.tickets.size ∧ ticket' = ⟨n, none, .inert, 0⟩) ∨
    (∃ waker ticket, action = .poll b waker ∧ Enqueues v b ticket ∧
      ticket' = ⟨ticket.wants, some waker, .waiting, v.ledger.permits⟩) := by
  cases action with
  | tryAcquireMany n =>
    refine .inl ⟨ticket', .same valid (by simp) rfl ?_⟩
    simp only [turn] at after
    cases taken : v.ledger.tryAcquire true n with
    | error => simpa only [taken] using after
    | ok result =>
      simp only [taken] at after
      unfold Ledger.tryAcquire at taken
      split at taken
      · cases taken
      · split at taken
        · simp at taken
        · cases taken
          exact after
  | acquireMany n =>
    rcases Arena.of_alloc after with ⟨fresh, rfl⟩ | before
    · exact .inr (.inl ⟨n, rfl, fresh, rfl⟩)
    · exact .inl ⟨ticket', .same valid (by simp) rfl before⟩
  | forgetPermit | removePermits => exact .inl ⟨ticket', .same valid (by simp) rfl after⟩
  | poll a waker =>
    cases held : v.ledger.tickets.get? a with
    | none =>
      simp only [turn, held] at after
      exact .inl ⟨ticket', .same valid (by simp) rfl after⟩
    | some ticket =>
      by_cases same : b = a
      · subst b
        rcases turn_poll held waker with ⟨enqueues, turned⟩ | ⟨updated, aged, _, tickets, _⟩
        · simp only [turned, Ledger.enqueue, Arena.get?_put_self held] at after
          cases after
          exact .inr (.inr ⟨waker, ticket, rfl, enqueues, rfl⟩)
        · rw [tickets, Arena.get?_put_self held] at after
          cases after
          have nobody : due v (.poll a waker) = [] := returned_idle valid (by simp) rfl
          exact .inl ⟨ticket, held, aged, by simp [nobody], fun _ => .inr ⟨waker, rfl⟩⟩
      · rcases turn_poll held waker with ⟨_, turned⟩ | ⟨_, _, _, tickets, _⟩
        · simp only [turned, Ledger.enqueue, Arena.get?_put_ne _ same] at after
          exact .inl ⟨ticket', .same valid (by simp) rfl after⟩
        · rw [tickets, Arena.get?_put_ne _ same] at after
          exact .inl ⟨ticket', .same valid (by simp) rfl after⟩
  | dropAcquire a =>
    left
    cases held : v.ledger.tickets.get? a with
    | none =>
      simp only [turn, held] at after
      refine ⟨ticket', after, .refl _, ?_, fun changed => absurd rfl changed⟩
      simp [due, returned, held, handout_zero (valid.forget a)]
    | some ticket =>
      simp only [turn, held] at after
      obtain ⟨old, before, _⟩ := addPermits_ticket (valid.forget a) ticket.permits after
      have different : b ≠ a := by
        intro same
        subst same
        simp [Ledger.forget] at before
      exact ⟨old, .handout (valid.forget a) (by simp) (by simp [returned, held])
        (by simp [Ledger.forget, different]) before after⟩
  | dropPermit p =>
    left
    cases held : v.permits.get? p with
    | none =>
      simp only [turn, held] at after
      refine ⟨ticket', after, .refl _, ?_, fun changed => absurd rfl changed⟩
      simp [due, returned, held, handout_zero valid]
    | some count =>
      simp only [turn, held] at after
      obtain ⟨old, before, _⟩ := addPermits_ticket valid count after
      exact ⟨old, .handout valid (by simp) (by simp [returned, held]) id before after⟩
  | addPermits n =>
    obtain ⟨old, before, _⟩ := addPermits_ticket valid n after
    exact .inl ⟨old, .handout valid (by simp) rfl id before after⟩
  | close =>
    left
    simp only [turn, Ledger.close, Arena.get?_modifyAll _ valid.nodup] at after
    split at after
    next inside =>
      obtain ⟨ticket, held, rfl⟩ := Option.map_eq_some_iff.mp after
      exact ⟨ticket, held, ⟨rfl, rfl, .inr rfl⟩, fun _ => rfl, fun _ => .inl inside⟩
    next outside => exact ⟨ticket', after, .refl _, by simp [due, outside], fun changed => absurd rfl changed⟩

theorem turn_live (valid : v.ledger.Valid) (action : Action) (kept : action ≠ .dropAcquire b)
    (held : v.ledger.tickets.get? b = some ticket) :
    ∃ ticket', (turn v action).1.ledger.tickets.get? b = some ticket' := by
  cases action with
  | tryAcquireMany n =>
    simp only [turn, Ledger.tryAcquire, Bool.true_or, if_true]
    by_cases closed : v.ledger.closed = true
    · simp only [if_pos closed]
      exact ⟨ticket, held⟩
    · simp only [if_neg closed]
      by_cases few : n > v.ledger.permits
      · simp only [if_pos few]
        exact ⟨ticket, held⟩
      · simp only [if_neg few]
        exact ⟨ticket, held⟩
  | acquireMany n => exact ⟨ticket, Arena.get?_alloc_of_live held _⟩
  | forgetPermit | removePermits => exact ⟨ticket, held⟩
  | poll a waker =>
    cases found : v.ledger.tickets.get? a with
    | none =>
      simp only [turn, found]
      exact ⟨ticket, held⟩
    | some polled =>
      have written : ∀ updated, ∃ ticket', (v.ledger.tickets.put a updated).get? b = some ticket' := by
        intro updated
        by_cases same : b = a
        · subst b
          exact ⟨updated, Arena.get?_put_self found updated⟩
        · exact ⟨ticket, by rw [Arena.get?_put_ne _ same, held]⟩
      rcases turn_poll found waker with ⟨_, turned⟩ | ⟨updated, _, _, tickets, _⟩
      · rw [turned]
        exact written _
      · rw [tickets]
        exact written updated
  | dropAcquire a =>
    have different : b ≠ a := by
      intro same
      subst same
      exact kept rfl
    cases found : v.ledger.tickets.get? a with
    | none =>
      simp only [turn, found]
      exact ⟨ticket, held⟩
    | some dropped =>
      simp only [turn, found]
      apply addPermits_live (valid.forget a) dropped.permits
      simpa [Ledger.forget, different] using held
  | dropPermit p =>
    cases found : v.permits.get? p with
    | none =>
      simp only [turn, found]
      exact ⟨ticket, held⟩
    | some count =>
      simp only [turn, found]
      exact addPermits_live valid count held
  | addPermits n => exact addPermits_live valid n held
  | close =>
    simp only [turn, Ledger.close, Arena.get?_modifyAll _ valid.nodup, held]
    split <;> exact ⟨_, rfl⟩

theorem turn_dropped (valid : v.ledger.Valid) (a : Addr) :
    (turn v (.dropAcquire a)).1.ledger.tickets.get? a = none := by
  cases held : v.ledger.tickets.get? a with
  | none => simp only [turn, held]
  | some ticket =>
    simp only [turn, held]
    cases after : ((v.ledger.forget a).addPermits ticket.permits).1.tickets.get? a with
    | none => exact after
    | some ticket' =>
      obtain ⟨_, gone, _⟩ := addPermits_ticket (valid.forget a) ticket.permits after
      simp [Ledger.forget] at gone

theorem returned_live (valid : v.ledger.Valid) {action : Action} (queued : b ∈ v.ledger.queue)
    (after : (turn v action).1.ledger.tickets.get? b = some ticket') : b ∈ (returned v action).1.queue := by
  cases action with
  | dropAcquire a =>
    have different : b ≠ a := by
      intro same
      subst same
      rw [turn_dropped valid b] at after
      cases after
    exact (List.mem_erase_of_ne different).mpr queued
  | _ => exact queued

theorem turn_size (action : Action) : v.ledger.tickets.size ≤ (turn v action).1.ledger.tickets.size := by
  cases action with
  | tryAcquireMany n =>
    simp only [turn, Ledger.tryAcquire, Bool.true_or, if_true]
    by_cases closed : v.ledger.closed = true
    · simp only [if_pos closed, Nat.le_refl]
    · by_cases few : n > v.ledger.permits
      · simp only [if_neg closed, if_pos few, Nat.le_refl]
      · simp only [if_neg closed, if_neg few, Nat.le_refl]
  | acquireMany n => simp [turn, Ledger.acquireMany]
  | forgetPermit | removePermits => exact Nat.le_refl _
  | poll a waker =>
    cases held : v.ledger.tickets.get? a with
    | none => simp [turn, held]
    | some ticket =>
      rcases turn_poll held waker with ⟨_, turned⟩ | ⟨_, _, _, tickets, _⟩
      · simp [turned, Ledger.enqueue]
      · simp [tickets]
  | dropAcquire a =>
    cases held : v.ledger.tickets.get? a with
    | none => simp [turn, held]
    | some ticket => simp [turn, held, Ledger.drop, Ledger.forget]
  | dropPermit p =>
    cases held : v.permits.get? p with
    | none => simp [turn, held]
    | some count => simp [turn, held]
  | addPermits n => simp [turn]
  | close => simp [turn, Ledger.close]

/-- A call wakes exactly the tasks registered by the requests that are due. -/
theorem turn_woken (valid : v.ledger.Valid) (action : Action) :
    (turn v action).2.woken = v.ledger.wakers (due v action) := by
  have nobody : v.ledger.wakers [] = [] := rfl
  cases action with
  | tryAcquireMany n =>
    rw [returned_idle valid (by simp) rfl, nobody]
    simp only [turn]
    split <;> rfl
  | acquireMany | forgetPermit | removePermits =>
    rw [returned_idle valid (by simp) rfl, nobody]
    rfl
  | poll a waker =>
    rw [returned_idle valid (by simp) rfl, nobody]
    cases held : v.ledger.tickets.get? a with
    | none => simp [turn, held]
    | some ticket =>
      rcases turn_poll held waker with ⟨_, turned⟩ | ⟨_, _, _, _, _, _, _, woken⟩
      · rw [turned]
      · exact woken
  | dropAcquire a =>
    simp only [due, reduceCtorEq, if_false]
    cases held : v.ledger.tickets.get? a with
    | none => simp [turn, returned, held, handout_zero (valid.forget a), Ledger.wakers]
    | some ticket =>
      simp only [turn, returned, held, Option.map_some, Option.getD_some]
      apply List.filterMap_congr
      intro b member
      have inside : b ∈ v.ledger.queue.erase a := mem_of_served member
      have different : b ≠ a := by
        intro same
        subst same
        exact (valid.nodup.mem_erase_iff.mp inside).1 rfl
      simp [Ledger.forget, different]
  | dropPermit p =>
    simp only [due, reduceCtorEq, if_false]
    cases held : v.permits.get? p with
    | none => simp [turn, returned, held, handout_zero valid, Ledger.wakers]
    | some count => simp only [turn, returned, held, Option.getD_some, Ledger.addPermits]
  | addPermits n => simp only [due, reduceCtorEq, if_false, turn, returned, Ledger.addPermits]
  | close => simp [turn, due, Ledger.close]

theorem poll_flag (l : Ledger) (a : Addr) (ticket : Ticket) (waker : Waker) :
    (l.poll a ticket waker).1.closed = l.closed := by
  unfold Ledger.poll
  split
  · rfl
  · split
    · rfl
    · rfl
    · split <;> rfl

theorem turn_closed (v : View) (action : Action) :
    (turn v action).1.ledger.closed = (v.ledger.closed || decide (action = .close)) := by
  cases action with
  | tryAcquireMany n =>
    simp only [turn, Ledger.tryAcquire, Bool.true_or, if_true]
    by_cases closed : v.ledger.closed = true
    · simp [closed]
    · by_cases few : n > v.ledger.permits <;> simp [closed, few]
  | poll a waker =>
    cases held : v.ledger.tickets.get? a with
    | none => simp [turn, held]
    | some ticket =>
      have kept := poll_flag v.ledger a ticket waker
      simp only [turn, held]
      revert kept
      rcases v.ledger.poll a ticket waker with ⟨ledger, (_ | count) | _⟩ <;> intro kept <;> simpa using kept
  | dropAcquire a =>
    cases held : v.ledger.tickets.get? a with
    | none => simp [turn, held]
    | some ticket => simp [turn, held, Ledger.drop, Ledger.forget]
  | dropPermit p =>
    cases held : v.permits.get? p with
    | none => simp [turn, held]
    | some count => simp [turn, held]
  | acquireMany | forgetPermit | addPermits | removePermits | close => simp [turn, Ledger.acquireMany, Ledger.close]

end Turn

end AsyncUnsync.Proofs.LedgerTurns
