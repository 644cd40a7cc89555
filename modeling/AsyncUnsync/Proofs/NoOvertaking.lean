import AsyncUnsync.Proofs.FirstPolls

/-! First come, first served. The fast paths never look at the queue, but while
anyone waits the pool is empty, so there is nothing they could take. -/

namespace AsyncUnsync.Proofs.NoOvertaking
open Memory Transition SemaphoreSystem LedgerSystem LedgerSimulation LedgerTurns FirstPolls

def Waits (s : State) (a : Addr) : Prop := ∃ waiter, s.sem.memory.get? a = some waiter ∧ waiter.state = .waiting

/-- The first poll of `a` came before the first poll of `b`. -/
def Earlier (history : History State Action Outcome) (a b : Addr) : Prop :=
  ∃ front back, firstPolls history = front ++ b :: back ∧ a ∈ front

/-- While a request waits, the pool is empty, and every later request for at least one permit
waits as well and has been given nothing. -/
structure InOrder (history : History State Action Outcome) (s : State) : Prop where
  drained : ∀ a, Waits s a → s.sem.availablePermits = 0
  opened : ∀ a, Waits s a → s.sem.shared.closed = false
  behind : ∀ a b waiter, Waits s a → Earlier history a b → s.sem.memory.get? b = some waiter → 1 ≤ waiter.wants →
    waiter.state = .waiting ∧ waiter.permits = 0

/-- While a request waits, neither `try_acquire_many` nor a request that was first polled later gets a permit. -/
def Fair (past : History State Action Outcome) (event : Event State Action Outcome) : Prop :=
  ∀ a, Waits event.before a →
    (∀ n, 1 ≤ n → event.action = .tryAcquireMany n → ∀ p, event.outcome.reply ≠ .acquired p) ∧
    ∀ b waker waiter, event.action = .poll b waker → Earlier (event :: past) a b →
      event.before.sem.memory.get? b = some waiter → 1 ≤ waiter.wants → ∀ p, event.outcome.reply ≠ .acquired p

variable {start state : State} {past history : History State Action Outcome} {event : Event State Action Outcome}
  {a b : Addr} {ticket : Ticket}

theorem waits_iff (sound : Sound state.sem) (a : Addr) : Waits state a ↔ a ∈ state.sem.ledger.queue := by
  rw [sound.valid.waiting a]
  constructor
  · intro ⟨waiter, live, waiting⟩
    exact ⟨waiter.ticket, sound.refines.held live, waiting⟩
  · intro ⟨ticket, held, waiting⟩
    obtain ⟨waiter, live, rfl⟩ := sound.refines.live held
    exact ⟨waiter, live, waiting⟩

theorem Earlier.member (earlier : Earlier history a b) : a ∈ firstPolls history ∧ b ∈ firstPolls history := by
  obtain ⟨front, back, split, before⟩ := earlier
  simp [split, before]

theorem Earlier.asymm (earlier : Earlier history a b) (nodup : (firstPolls history).Nodup)
    (reversed : [b, a].Sublist (firstPolls history)) : False := by
  obtain ⟨front, back, split, before⟩ := earlier
  rw [split] at nodup reversed
  have apart := (List.nodup_append.mp nodup).2.2
  obtain ⟨first, second, parts, early, late⟩ := List.sublist_append_iff.mp reversed
  cases first with
  | nil =>
    have behind : a ∈ b :: back := late.subset (by simp [← show [b, a] = second from parts])
    exact apart a before a behind rfl
  | cons c first =>
    obtain ⟨rfl, _⟩ := List.cons.inj parts
    exact apart b (early.subset (by simp)) b (by simp) rfl

theorem Earlier.cases (earlier : Earlier (event :: past) a b) :
    Earlier past a b ∨ (∃ waker, event.action = .poll b waker) ∧ b ∉ firstPolls past ∧ a ∈ firstPolls past := by
  obtain ⟨front, back, split, before⟩ := earlier
  simp only [firstPolls] at split
  split at split
  next c waker polls =>
    split at split
    · exact .inl ⟨front, back, split, before⟩
    next fresh =>
      rcases List.eq_nil_or_concat back with rfl | ⟨rest, d, rfl⟩
      · obtain ⟨rfl, same⟩ := List.append_inj' split rfl
        cases same
        exact .inr ⟨⟨waker, polls⟩, fresh, before⟩
      · have shape : firstPolls past ++ [c] = (front ++ b :: rest) ++ [d] := by simpa using split
        exact .inl ⟨front, rest, (List.append_inj' shape rfl).1, before⟩
  · exact .inl ⟨front, back, split, before⟩

/-- Behind a waiting request everyone who wants a permit is waiting. -/
def Held (history : History State Action Outcome) (s : State) : Prop :=
  ∀ a b ticket, a ∈ s.sem.ledger.queue → Earlier history a b → s.sem.ledger.tickets.get? b = some ticket →
    1 ≤ ticket.wants → b ∈ s.sem.ledger.queue

/-- A later request stays behind the one that waits, whoever else leaves the queue. -/
private theorem stays (run : system.Run start (event :: past) state) (held : Held past event.before)
    (earlier : Earlier past a b) (waits : a ∈ event.after.sem.ledger.queue)
    (live : event.after.sem.ledger.tickets.get? b = some ticket) (wants : 1 ≤ ticket.wants) :
    b ∈ event.after.sem.ledger.queue := by
  obtain ⟨run', sound, _, _, turned⟩ := run_turn run
  have valid : (view event.before).ledger.Valid := sound.valid
  have polled := run_polled run'
  have after : event.after.sem.ledger = (turn (view event.before) event.action).1.ledger := by rw [turned]; rfl
  rw [after] at waits live ⊢
  obtain ⟨old, before, same⟩ : ∃ old, event.before.sem.ledger.tickets.get? b = some old ∧ ticket.wants = old.wants := by
    rcases turn_ticket valid event.action live with ⟨old, same⟩ | ⟨_, _, rfl, _⟩ | ⟨_, old, _, enqueues, _⟩
    · exact ⟨old, same.held, same.aged.wants⟩
    · exact absurd (polled.allocated _ earlier.member.2) (Nat.lt_irrefl _)
    · exact absurd earlier.member.2 ((polled.inert b old enqueues.held).mp enqueues.inert)
  rcases turn_queue valid event.action with left | ⟨c, _, _, _, enqueues, queue⟩
  · have inside : a ∈ event.before.sem.ledger.queue :=
      (returned_sublist (view event.before) event.action).subset (left ▸ List.mem_append_right _ waits)
    have queued := held a b old inside earlier before (same ▸ wants)
    have present := returned_live valid queued live
    rw [left, List.mem_append] at present
    apply present.resolve_left
    intro served
    apply earlier.asymm polled.nodup
    have ordered : [b, a].Sublist (returned (view event.before) event.action).1.queue := by
      rw [left]
      exact (List.singleton_sublist.mpr served).append (List.singleton_sublist.mpr waits)
    exact (ordered.trans (returned_sublist ..)).trans polled.order
  · rw [queue, List.mem_append, List.mem_singleton] at waits ⊢
    have inside : a ∈ event.before.sem.ledger.queue := by
      apply waits.resolve_right
      intro same
      subst same
      exact (polled.inert a _ enqueues.held).mp enqueues.inert earlier.member.1
    exact .inl (held a b old inside earlier before (same ▸ wants))

private theorem joins (run : system.Run start (event :: past) state) {waker : Waker} (polls : event.action = .poll b waker)
    (fresh : b ∉ firstPolls past) (earlier : a ∈ firstPolls past) (waits : a ∈ event.after.sem.ledger.queue)
    (live : event.after.sem.ledger.tickets.get? b = some ticket) (wants : 1 ≤ ticket.wants) :
    b ∈ event.after.sem.ledger.queue := by
  obtain ⟨run', sound, _, enabled, turned⟩ := run_turn run
  have valid : (view event.before).ledger.Valid := sound.valid
  have polled := run_polled run'
  have after : event.after.sem.ledger = (turn (view event.before) event.action).1.ledger := by rw [turned]; rfl
  rw [polls] at enabled after
  obtain ⟨old, before⟩ := ticket_of_live enabled
  have inert := (polled.inert b old before).mpr fresh
  have same : ticket.wants = old.wants := by
    rw [after] at live
    rcases turn_ticket valid (.poll b waker) live with ⟨_, same⟩ | ⟨_, impossible, _⟩ | ⟨_, _, _, enqueues, rfl⟩
    · have found : event.before.sem.ledger.tickets.get? b = _ := same.held
      rw [before] at found
      cases found
      exact same.aged.wants
    · cases impossible
    · have found : event.before.sem.ledger.tickets.get? b = _ := enqueues.held
      rw [before] at found
      cases found
      rfl
  have inside : a ∈ event.before.sem.ledger.queue := by
    rw [after] at waits
    rcases turn_queue valid (.poll b waker) with left | ⟨c, _, _, polling, _, queue⟩
    · exact (returned_sublist (view event.before) (.poll b waker)).subset (left ▸ List.mem_append_right _ waits)
    · cases polling
      rw [queue, List.mem_append, List.mem_singleton] at waits
      apply waits.resolve_right
      intro same
      subst same
      exact fresh earlier
  have drained : event.before.sem.ledger.permits = 0 := valid.idle (List.ne_nil_of_mem inside)
  have opened : ¬ event.before.sem.ledger.closed = true := by
    intro closed
    simp [show event.before.sem.ledger.queue = [] from valid.closed closed] at inside
  have enqueues : Enqueues (view event.before) b old := by
    refine ⟨before, inert, opened, ?_⟩
    simp only [view]
    omega
  rw [after, enqueues.turn waker]
  simp [Ledger.enqueue]

theorem run_held (run : system.Run start history state) : Held history state := by
  apply run.invariant Held
  · rintro _ a b _ _ ⟨front, _, split, _⟩
    simp [firstPolls] at split
  · intro past before action outcome after run held enabled stepped a b ticket waits earlier live wants
    have run' : system.Run start (⟨before, action, outcome, after⟩ :: past) after := .step run enabled stepped
    rcases earlier.cases with earlier | ⟨⟨waker, polls⟩, fresh, first⟩
    · exact stays run' held earlier waits live wants
    · exact joins run' polls fresh first waits live wants

private theorem run_inOrder (run : system.Run start history state) : InOrder history state := by
  have sound := run_sound run
  have valid := sound.valid
  have polled := run_polled run
  refine ⟨?_, ?_, ?_⟩
  · intro a waits
    exact valid.idle (List.ne_nil_of_mem ((waits_iff sound a).mp waits))
  · intro a waits
    cases closed : state.sem.shared.closed with
    | false => rfl
    | true =>
      have member := (waits_iff sound a).mp waits
      simp [valid.closed closed] at member
  · intro a b waiter waits earlier live wants
    have front := (waits_iff sound a).mp waits
    have found := sound.refines.held live
    have member := run_held run a b waiter.ticket front earlier found wants
    obtain ⟨_, heldNow, waiting⟩ := (valid.waiting b).mp member
    rw [found] at heldNow
    cases heldNow
    refine ⟨waiting, valid.first b ?_ waiter.ticket found⟩
    cases queue : state.sem.ledger.queue with
    | nil => simp [queue] at member
    | cons c rest =>
      rw [queue, List.mem_cons] at member front
      apply member.resolve_left
      intro same
      subst same
      have different : a ≠ b := by
        intro same
        subst same
        obtain ⟨before, after, split, inside⟩ := earlier
        have nodup := polled.nodup
        rw [split] at nodup
        exact (List.nodup_append.mp nodup).2.2 a inside a (by simp) rfl
      have behind := front.resolve_left different
      refine earlier.asymm polled.nodup ((List.Sublist.cons_cons b (List.singleton_sublist.mpr behind)).trans ?_)
      rw [← queue]
      exact polled.order

private theorem refused {n : Nat} (sound : Sound event.before.sem) (waits : a ∈ event.before.sem.ledger.queue) (wants : 1 ≤ n)
    (turned : turn (view event.before) (.tryAcquireMany n) = (view event.after, event.outcome)) (p : Addr) :
    event.outcome.reply ≠ .acquired p := by
  have drained := sound.valid.idle (List.ne_nil_of_mem waits)
  have told : event.outcome = (turn (view event.before) (.tryAcquireMany n)).2 := by rw [turned]
  have few : n > event.before.sem.ledger.permits := by omega
  rw [told]
  simp only [turn, view, Ledger.tryAcquire, Bool.true_or, if_true, if_pos few]
  by_cases closed : event.before.sem.ledger.closed = true
  · simp only [if_pos closed]
    simp
  · simp only [if_neg closed]
    simp

private theorem step_fair (run : system.Run start (event :: past) state) : Fair past event := by
  obtain ⟨_, sound, sound', _, turned⟩ := run_turn run
  obtain ⟨_, _, _, rfl⟩ := run.last
  intro a waits
  have front := (waits_iff sound a).mp waits
  refine ⟨?_, ?_⟩
  · intro n wants tries
    rw [tries] at turned
    exact refused sound front wants turned
  · intro b waker waiter polls earlier live wants p acquired
    have before : (view event.before).ledger.tickets.get? b = some waiter.ticket := sound.refines.held live
    have after : event.after.sem.ledger = (turn (view event.before) (.poll b waker)).1.ledger := by
      rw [← polls, turned]
      rfl
    have told : event.outcome.reply = (turn (view event.before) (.poll b waker)).2.reply := by rw [← polls, turned]
    rcases turn_poll before waker with ⟨_, enqueued⟩ | ⟨updated, aged, _, tickets, queue, pending, _⟩
    · rw [told, enqueued] at acquired
      cases acquired
    · have found : event.after.sem.ledger.tickets.get? b = some updated := by
        rw [after, tickets]
        exact Arena.get?_put_self before updated
      have still : a ∈ event.after.sem.ledger.queue := by
        rw [after, queue]
        exact front
      have member := run_held run a b updated still earlier found (aged.wants ▸ wants)
      obtain ⟨_, heldNow, waiting⟩ := (sound'.valid.waiting b).mp member
      rw [found] at heldNow
      cases heldNow
      rw [told, pending.mpr waiting] at acquired
      cases acquired

/-- First come, first served, in every reachable state and at every step. -/
theorem run_first_come_first_served (run : system.Run start history state) :
    InOrder history state ∧ Along Fair history :=
  ⟨run_inOrder run, run.along fun _ _ reached => step_fair reached⟩

/-- A request for two permits finds one and waits; later requests for one permit do not get past it. -/
theorem run_first_come_first_served_pair :
    ∃ history final, system.play [] (.new 1) [.acquireMany 2, .acquireMany 1, .poll 0 7, .poll 1 8, .tryAcquireMany 1] =
        some (history, final) ∧
      final.sem.queue = [0, 1] ∧ InOrder history final ∧ Along Fair history := by
  obtain ⟨history, final, played, run, walked⟩ := system.exists_run (.new 1) ⟨1, rfl⟩
    [.acquireMany 2, .acquireMany 1, .poll 0 7, .poll 1 8, .tryAcquireMany 1]
    (fun _ final => final.sem.queue = [0, 1]) (by decide)
  exact ⟨history, final, played, walked, run_first_come_first_served run⟩

end AsyncUnsync.Proofs.NoOvertaking
