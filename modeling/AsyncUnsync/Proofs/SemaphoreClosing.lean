import AsyncUnsync.Proofs.LedgerSimulation
import AsyncUnsync.Proofs.LedgerTurns

/-! Closing a semaphore is final. What its futures still hold goes back to the pool when
they are dropped, and nobody can take it from there. -/

namespace AsyncUnsync.Proofs.SemaphoreClosing
open Memory Transition SemaphoreSystem LedgerSystem LedgerSimulation LedgerGrants LedgerTurns

/-- A close wakes every waiter of the queue once, in order, and returns their number. -/
structure ClosesAll (event : Event State Action Outcome) : Prop where
  woken : event.outcome.woken.map some =
    event.before.sem.queue.map fun a => (event.before.sem.memory.get? a).bind Waiter.waker
  notified : event.outcome.reply = .closed event.before.sem.queue.length

/-- Whether the drop of a future that was alive at the close gives back what it held then, as `sum`
adds it to the pool, and changes nothing else. -/
def GivesBack (sum : Nat → Nat → Nat) (closing event : Event State Action Outcome) : Prop :=
  ∀ a, event.action = .dropAcquire a → ∀ waiter ∈ closing.before.sem.memory.get? a,
    event.after.sem = { event.before.sem with
      shared.permits := sum event.before.sem.availablePermits waiter.permits, memory := event.before.sem.memory.free a }

/-- A step after the close. -/
structure Final (sum : Nat → Nat → Nat) (closing event : Event State Action Outcome) : Prop where
  refuses : ∀ n, event.action = .tryAcquireMany n → event.outcome.reply = .refused .closed
  fails : ∀ a waker, event.action = .poll a waker → event.outcome.reply = .failed
  issues : event.after.permits.size = event.before.permits.size
  empty : event.after.sem.shared.waiters = .new
  gives : GivesBack sum closing event

/-- What a close means in a run that goes on with `later`. -/
def Closes (sum : Nat → Nat → Nat) (later : History State Action Outcome) (closing : Event State Action Outcome) : Prop :=
  ClosesAll closing ∧ closing.after.sem.shared.waiters = .new ∧ ∀ event ∈ later, Final sum closing event

variable {s : Semaphore} {a : Addr} {waiter : Waiter} {start state final : State} {v : View}
  {past later history : History State Action Outcome} {closing event : Event State Action Outcome}

section Closed
variable (sound : Sound s) (closed : s.ledger.closed = true)
include sound closed

theorem waiters_closed : s.shared.waiters = .new := by
  have chain := sound.refines.chain
  rw [sound.valid.closed closed] at chain
  have head : s.shared.waiters.head = none := chain.head_eq
  have tail : s.shared.waiters.tail = none := chain.tail_eq
  cases waiters : s.shared.waiters with
  | mk first last =>
    rw [waiters] at head tail
    cases head
    cases tail
    rfl

theorem dropFuture_closed (live : s.memory.get? a = some waiter) (bound : s.shared.permits ≤ usizeMax) :
    s.dropFuture a =
      .ok ({ s with shared.permits := saturatingAdd s.shared.permits waiter.permits, memory := s.memory.free a }, []) := by
  have idle : waiter.state ≠ .waiting := by
    intro waits
    have queued := (sound.valid.waiting a).mpr ⟨_, sound.refines.held live, waits⟩
    rw [sound.valid.closed closed] at queued
    cases queued
  have unlinked : s.dequeue a = .ok s := by
    simp only [Semaphore.dequeue, WaiterLinks.deref_eq live, ok_bind]
  have front : s.shared.waiters.front = none := by
    rw [waiters_closed sound closed]
    rfl
  have added : s.addPermits waiter.permits =
      .ok ({ s with shared.permits := saturatingAdd s.shared.permits waiter.permits }, []) := by
    unfold Semaphore.addPermits Semaphore.addPermitsLoop
    by_cases nothing : waiter.permits = 0
    · have same : saturatingAdd s.shared.permits 0 = s.shared.permits := Nat.min_eq_left bound
      rw [if_pos nothing, nothing, same]
    · rw [if_neg nothing, front]
  simp only [Semaphore.dropFuture, unlinked, WaiterLinks.deref_eq live, added, ok_bind]

end Closed

section Turns
variable (valid : v.ledger.Valid) (closed : v.ledger.closed = true)
include valid closed

private theorem unqueued {ticket : Ticket} {b : Addr} (held : v.ledger.tickets.get? b = some ticket) : ticket.state ≠ .waiting := by
  intro waits
  have queued := (valid.waiting b).mpr ⟨_, held, waits⟩
  rw [valid.closed closed] at queued
  cases queued

private theorem handout_closed {l : Ledger} {n : Nat} {b : Addr} {ticket' : Ticket} (lawful : l.Valid)
    (same : ∀ ticket, l.tickets.get? b = some ticket → v.ledger.tickets.get? b = some ticket)
    (after : (l.addPermits n).1.tickets.get? b = some ticket') : v.ledger.tickets.get? b = some ticket' := by
  obtain ⟨ticket, held, rfl | ⟨_, waits, _⟩ | ⟨waits, _⟩⟩ := addPermits_held lawful n after
  · exact same _ held
  · exact absurd waits (unqueued valid closed (same _ held))
  · exact absurd waits (unqueued valid closed (same _ held))

theorem turn_keeps (action : Action) {b : Addr} {ticket' : Ticket}
    (after : (turn v action).1.ledger.tickets.get? b = some ticket') :
    (∃ ticket, v.ledger.tickets.get? b = some ticket ∧ ticket'.permits = ticket.permits) ∨
      b = v.ledger.tickets.size := by
  cases action with
  | tryAcquireMany n =>
    left
    simp only [turn, Ledger.tryAcquire, if_pos closed] at after
    exact ⟨ticket', after, rfl⟩
  | acquireMany n =>
    rcases Arena.of_alloc after with ⟨fresh, _⟩ | before
    · exact .inr fresh
    · exact .inl ⟨ticket', before, rfl⟩
  | poll a waker =>
    left
    cases held : v.ledger.tickets.get? a with
    | none =>
      simp only [turn, held] at after
      exact ⟨ticket', after, rfl⟩
    | some ticket =>
      simp only [turn, held, Ledger.poll_closed closed] at after
      by_cases same : b = a
      · subst b
        rw [Arena.get?_put_self held] at after
        cases after
        exact ⟨ticket, held, rfl⟩
      · rw [Arena.get?_put_ne _ same] at after
        exact ⟨ticket', after, rfl⟩
  | dropAcquire a =>
    left
    cases held : v.ledger.tickets.get? a with
    | none =>
      simp only [turn, held] at after
      exact ⟨ticket', after, rfl⟩
    | some ticket =>
      simp only [turn, held] at after
      refine ⟨ticket', handout_closed valid closed (valid.forget a) ?_ after, rfl⟩
      intro current found
      exact (Arena.of_free found).2
  | dropPermit p =>
    left
    cases held : v.permits.get? p with
    | none =>
      simp only [turn, held] at after
      exact ⟨ticket', after, rfl⟩
    | some count =>
      simp only [turn, held] at after
      exact ⟨ticket', handout_closed valid closed valid (fun _ held => held) after, rfl⟩
  | addPermits n => exact .inl ⟨ticket', handout_closed valid closed valid (fun _ held => held) after, rfl⟩
  | forgetPermit | removePermits => exact .inl ⟨ticket', after, rfl⟩
  | close =>
    left
    simp only [turn, Ledger.close, valid.closed closed, Arena.modifyAll_nil] at after
    exact ⟨ticket', after, rfl⟩

omit valid in
theorem turn_refuses (n : Nat) : (turn v (.tryAcquireMany n)).2.reply = .refused .closed := by
  simp only [turn, Ledger.tryAcquire, if_pos closed]

omit valid in
theorem turn_fails {ticket : Ticket} (held : v.ledger.tickets.get? a = some ticket) (waker : Waker) :
    (turn v (.poll a waker)).2.reply = .failed := by
  simp only [turn, held, Ledger.poll_closed closed]

omit valid in
theorem turn_issues (action : Action) : (turn v action).1.permits.size = v.permits.size := by
  cases action with
  | tryAcquireMany n => simp only [turn, Ledger.tryAcquire, if_pos closed]
  | poll a waker =>
    cases held : v.ledger.tickets.get? a with
    | none => simp [turn, held]
    | some ticket => simp only [turn, held, Ledger.poll_closed closed]
  | dropAcquire a => cases held : v.ledger.tickets.get? a <;> simp [turn, held]
  | dropPermit p => cases held : v.permits.get? p <;> simp [turn, held]
  | forgetPermit p => simp [turn]
  | acquireMany | addPermits | removePermits | close => rfl

end Turns

section Pool
variable {l : Ledger}

private theorem addPermits_pool (bound : l.permits ≤ usizeMax) (n : Nat) : (l.addPermits n).1.permits ≤ usizeMax := by
  unfold Ledger.addPermits Ledger.settle
  split
  · exact bound
  · split
    · exact Nat.min_le_right _ _
    · exact bound

private theorem poll_pool (ticket : Ticket) (waker : Waker) : (l.poll a ticket waker).1.permits ≤ l.permits := by
  unfold Ledger.poll
  split
  · exact Nat.le_refl _
  · split
    · exact Nat.le_refl _
    · exact Nat.le_refl _
    · split
      · exact Nat.sub_le _ _
      · exact Nat.zero_le _

theorem turn_pool (bound : v.ledger.permits ≤ usizeMax) (action : Action) : (turn v action).1.ledger.permits ≤ usizeMax := by
  cases action with
  | tryAcquireMany n =>
    have less : v.ledger.permits - n ≤ usizeMax := Nat.le_trans (Nat.sub_le _ _) bound
    simp only [turn, Ledger.tryAcquire, Bool.true_or, if_true]
    by_cases closed : v.ledger.closed = true
    · simpa [closed] using bound
    · by_cases few : n > v.ledger.permits
      · simpa [closed, few] using bound
      · simpa [closed, few] using less
  | poll a waker =>
    cases held : v.ledger.tickets.get? a with
    | none => simpa [turn, held] using bound
    | some ticket =>
      have polled := Nat.le_trans (poll_pool (l := v.ledger) (a := a) ticket waker) bound
      simp only [turn, held]
      revert polled
      rcases v.ledger.poll a ticket waker with ⟨ledger, (_ | count) | _⟩ <;> exact fun polled => polled
  | dropAcquire a =>
    cases held : v.ledger.tickets.get? a with
    | none => simpa [turn, held] using bound
    | some ticket =>
      simp only [turn, held]
      exact addPermits_pool (l := v.ledger.forget a) bound _
  | dropPermit p =>
    cases held : v.permits.get? p with
    | none => simpa [turn, held] using bound
    | some count =>
      simp only [turn, held]
      exact addPermits_pool bound _
  | addPermits n => exact addPermits_pool bound n
  | removePermits n => exact Nat.le_trans (Nat.sub_le _ _) bound
  | acquireMany | forgetPermit | close => exact bound

theorem run_pool (run : system.Run start history state) (bound : start.sem.availablePermits ≤ usizeMax) :
    state.sem.availablePermits ≤ usizeMax := by
  refine run.invariant (fun _ state => state.sem.availablePermits ≤ usizeMax) (fun _ => bound) ?_
  intro past before action outcome after reached kept enabled stepped
  obtain ⟨_, _, _, _, turned⟩ := run_turn (.step reached enabled stepped)
  have fits := turn_pool (v := view before) kept action
  rw [turned] at fits
  exact fits

end Pool

section Run

/-- What stays true after a close: the futures alive then keep what they hold. -/
private structure Quiet (closing state : State) : Prop where
  closed : state.sem.ledger.closed = true
  older : closing.sem.memory.size ≤ state.sem.memory.size
  keeps : ∀ a < closing.sem.memory.size, ∀ waiter' ∈ state.sem.memory.get? a,
    ∃ waiter ∈ closing.sem.memory.get? a, waiter'.permits = waiter.permits

private theorem ticket_get? {ticket : Ticket} (held : s.ledger.tickets.get? a = some ticket) :
    ∃ waiter, s.memory.get? a = some waiter ∧ waiter.ticket = ticket := by
  simpa [Semaphore.ledger] using held

private theorem get?_ticket (held : s.memory.get? a = some waiter) : s.ledger.tickets.get? a = some waiter.ticket := by
  simp [Semaphore.ledger, held]

private theorem wakers_all {l : Ledger} (addresses : List Addr)
    (registered : ∀ a ∈ addresses, ∃ waker, (l.tickets.get? a).bind Ticket.waker = some waker) :
    (l.wakers addresses).map some = addresses.map fun a => (l.tickets.get? a).bind Ticket.waker := by
  induction addresses with
  | nil => rfl
  | cons a rest ih =>
    obtain ⟨waker, stored⟩ := registered a (by simp)
    have later := ih fun b member => registered b (List.mem_cons_of_mem a member)
    simp only [Ledger.wakers, List.filterMap_cons, stored, List.map_cons] at later ⊢
    rw [later]

private theorem close_event (run : system.Run start (closing :: past) closing.after) (closes : closing.action = .close) :
    ClosesAll closing ∧ Quiet closing.before closing.after := by
  obtain ⟨_, sound, sound', _, turned⟩ := run_turn run
  rw [closes] at turned
  obtain ⟨after, outcome⟩ := Prod.mk.inj turned
  have ledger : closing.after.sem.ledger = closing.before.sem.ledger.close.1 := (congrArg View.ledger after).symm
  have registered : ∀ a ∈ closing.before.sem.queue, ∃ waker,
      (closing.before.sem.ledger.tickets.get? a).bind Ticket.waker = some waker := by
    intro a member
    obtain ⟨ticket, waker, held, _, stored, _⟩ := sound.valid.queued member
    exact ⟨waker, by rw [held, Option.bind_some, stored]⟩
  have wakers := wakers_all _ registered
  have size := sound'.size
  rw [ledger] at size
  simp only [Ledger.close, Arena.size_modifyAll, ← sound.size] at size
  refine ⟨⟨?_, ?_⟩, ⟨?_, ?_, ?_⟩⟩
  · rw [← outcome]
    refine wakers.trans (List.map_congr_left fun a _ => ?_)
    simp only [Semaphore.ledger, Arena.get?_map]
    cases closing.before.sem.memory.get? a <;> rfl
  · have count := congrArg List.length wakers
    rw [List.length_map, List.length_map] at count
    rw [← outcome]
    exact congrArg Reply.closed count
  · rw [ledger]
    rfl
  · exact Nat.le_of_eq size.symm
  · intro a _ waiter' held
    have ticket := get?_ticket (Option.mem_def.mp held)
    rw [ledger] at ticket
    simp only [Ledger.close, Arena.get?_modifyAll _ sound.valid.nodup] at ticket
    split at ticket
    · obtain ⟨before, found, woken⟩ := Option.map_eq_some_iff.mp ticket
      obtain ⟨waiter, live, rfl⟩ := ticket_get? found
      exact ⟨waiter, live, (congrArg Ticket.permits woken).symm⟩
    · obtain ⟨waiter, live, same⟩ := ticket_get? ticket
      exact ⟨waiter, live, (congrArg Ticket.permits same).symm⟩

private theorem quiet_step (run : system.Run start (event :: past) event.after) (quiet : Quiet closing.before event.before) :
    Quiet closing.before event.after := by
  obtain ⟨_, sound, sound', _, turned⟩ := run_turn run
  have ledger : event.after.sem.ledger = (turn (view event.before) event.action).1.ledger := by
    rw [turned]
    rfl
  have grown := turn_size (v := view event.before) event.action
  rw [← ledger, ← sound'.size] at grown
  have older : event.before.sem.memory.size ≤ event.after.sem.memory.size := sound.size ▸ grown
  refine ⟨?_, Nat.le_trans quiet.older older, ?_⟩
  · rw [ledger, turn_closed]
    simp [view, quiet.closed]
  · intro a inside waiter' held
    have ticket := get?_ticket (Option.mem_def.mp held)
    rw [ledger] at ticket
    rcases turn_keeps sound.valid quiet.closed event.action ticket with ⟨before, found, same⟩ | fresh
    · obtain ⟨middle, live, rfl⟩ := ticket_get? found
      obtain ⟨waiter, first, kept⟩ := quiet.keeps a inside middle live
      exact ⟨waiter, first, same.trans kept⟩
    · have bounds := quiet.older
      rw [sound.size] at bounds
      exact absurd (Nat.lt_of_lt_of_le inside bounds) (by rw [fresh]; exact Nat.lt_irrefl _)

/-- The step lemma: nothing is given out after a close, and a drop gives back what it held at the close. -/
private theorem quiet_final (run : system.Run start (event :: past) event.after)
    (quiet : Quiet closing.before event.before) (bound : event.before.sem.availablePermits ≤ usizeMax) :
    Final saturatingAdd closing event := by
  obtain ⟨_, sound, sound', enabled, turned⟩ := run_turn run
  obtain ⟨_, _, stepped, _⟩ := run.last
  have outcome : event.outcome = (turn (view event.before) event.action).2 := by rw [turned]
  refine ⟨?_, ?_, ?_, waiters_closed sound' (quiet_step run quiet).closed, ?_⟩
  · intro n action
    rw [outcome, action, turn_refuses quiet.closed]
  · intro a waker action
    rw [action] at enabled
    obtain ⟨ticket, held⟩ := ticket_of_live enabled
    rw [outcome, action, turn_fails quiet.closed held]
  · have issued := turn_issues (v := view event.before) quiet.closed event.action
    rw [turned] at issued
    exact issued
  · intro a action waiter held
    rw [action] at enabled stepped
    obtain ⟨waiter', live⟩ := Option.isSome_iff_exists.mp enabled
    obtain ⟨first, found, kept⟩ := quiet.keeps a (Arena.lt_size (Option.mem_def.mp held)) waiter' live
    have same : first = waiter := Option.some.inj ((Option.mem_def.mp found).symm.trans (Option.mem_def.mp held))
    rw [same] at kept
    have dropped := dropFuture_closed sound quiet.closed live bound
    have result := stepped
    simp only [system, step, dropped, ok_bind, kept] at result
    exact (congrArg (fun pair => pair.1.sem) (Except.ok.inj result)).symm

/-- After `close` nothing is granted any more: every request fails, nobody waits, no permit is issued,
and each future gives back on its drop exactly what it held at the close, as far as the pool can take it. -/
theorem run_closes (run : system.Run start (later ++ closing :: past) final) (closes : closing.action = .close)
    (bound : start.sem.availablePermits ≤ usizeMax) : Closes saturatingAdd later closing := by
  have reached := run.upTo
  obtain ⟨all, quiet⟩ := close_event reached closes
  have waiters := waiters_closed (run_sound reached) quiet.closed
  refine ⟨all, waiters, ?_⟩
  have since := run.since (fun _ => True) (fun _ _ => trivial) (· = closing) ⟨closing, List.mem_cons_self .., rfl⟩
    (Quiet closing.before) (fun _ _ _ _ same => same ▸ quiet) (fun _ _ later _ quiet => quiet_step later quiet)
  intro event member
  obtain ⟨_, reached, _, quiet⟩ := since event member
  exact quiet_final reached quiet (run_pool reached.last.1 bound)

/-- A future that waits with a part and one that was granted but not polled, both dropped after the close. -/
theorem run_closes_held :
    ∃ later closing past final, system.play [] (.new 1)
        [.acquireMany 2, .poll 0 7, .acquireMany 3, .poll 1 8, .addPermits 1, .close, .dropAcquire 0, .dropAcquire 1] =
          some (later ++ closing :: past, final) ∧
      final.sem.availablePermits = 2 ∧ Closes saturatingAdd later closing := by
  obtain ⟨history, final, played, run, last, returned⟩ := system.exists_run (.new 1) ⟨1, rfl⟩
    [.acquireMany 2, .poll 0 7, .acquireMany 3, .poll 1 8, .addPermits 1, .close, .dropAcquire 0, .dropAcquire 1]
    (fun history final => (history.drop 2).head?.map Event.action = some .close ∧ final.sem.availablePermits = 2)
    (by decide)
  obtain ⟨closing, first, closes⟩ := Option.map_eq_some_iff.mp last
  obtain ⟨past, shape⟩ := List.head?_eq_some_iff.mp first
  have split := List.take_append_drop 2 history
  rw [shape] at split
  rw [← split] at run played
  exact ⟨_, closing, past, final, played, returned, run_closes run closes (by decide)⟩

/-- A full pool takes nothing back. -/
theorem full_pool_keeps :
    ¬ ∀ start later closing past final, system.Run start (later ++ closing :: past) final → closing.action = .close →
      start.sem.availablePermits ≤ usizeMax → Closes (· + ·) later closing := by
  intro closes
  obtain ⟨history, final, _, run, closed, dropped⟩ := system.exists_run (.new 0) ⟨0, rfl⟩
    [.acquireMany 1, .poll 0 7, .addPermits 1, .addPermits usizeMax, .close, .dropAcquire 0]
    (fun history _ =>
      (history.drop 1).head?.map (fun closing => (closing.action, (closing.before.sem.memory.get? 0).map Waiter.permits)) =
          some (.close, some 1) ∧
        history.head?.map (fun drop => (drop.action, drop.before.sem.availablePermits, drop.after.sem.availablePermits)) =
          some (.dropAcquire 0, usizeMax, usizeMax)) (by decide)
  obtain ⟨closing, first, same⟩ := Option.map_eq_some_iff.mp closed
  obtain ⟨closes', held⟩ := Prod.mk.inj same
  obtain ⟨waiter, live, one⟩ := Option.map_eq_some_iff.mp held
  obtain ⟨drop, latest, same⟩ := Option.map_eq_some_iff.mp dropped
  obtain ⟨drops, same⟩ := Prod.mk.inj same
  obtain ⟨full, kept⟩ := Prod.mk.inj same
  obtain ⟨rest, rfl⟩ := List.head?_eq_some_iff.mp latest
  obtain ⟨past, rfl⟩ := List.head?_eq_some_iff.mp first
  have law := (closes _ [drop] closing past _ run closes' (by decide)).2.2 drop (by simp)
  have grown : drop.after.sem.availablePermits = drop.before.sem.availablePermits + waiter.permits :=
    congrArg Semaphore.availablePermits (law.gives 0 drops waiter live)
  rw [kept, full, one] at grown
  exact absurd grown (by decide)

end Run

end AsyncUnsync.Proofs.SemaphoreClosing
