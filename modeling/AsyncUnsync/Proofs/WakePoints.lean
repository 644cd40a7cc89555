import AsyncUnsync.Reentrancy
import AsyncUnsync.Proofs.LedgerSimulation

/-! What foreign code finds while its waker is invoked. The waiter that is woken is still
linked then, so the queue is consistent only as long as nobody is woken at all. -/

namespace AsyncUnsync.Proofs.WakePoints
open Memory Transition Reentrancy LedgerSimulation LedgerRefinement LedgerGrants WaiterLinks

def world (result : EStateM.Result Stop World Unit) : World :=
  match result with
  | .ok _ world | .error _ world => world

def stopped (result : EStateM.Result Stop World Unit) : Option Stop :=
  match result with
  | .ok _ _ => none
  | .error stop _ => some stop

/-- The list links exactly the waiters that wait, except those that are being dropped. -/
def Consistent (dropping : List Addr) (s : Semaphore) : Prop :=
  ∀ a, a ∈ s.queue ↔ a ∉ dropping ∧ ∃ waiter, s.memory.get? a = some waiter ∧ waiter.state = .waiting

/-- What the code behind the wakers may rely on in one execution of a call. -/
structure Undisturbed (s : Semaphore) (operation : Operation) (result : EStateM.Result Stop World Unit) : Prop where
  consistent : ∀ moment ∈ (world result).moments, Consistent moment.dropping moment.sem
  /-- Nobody is woken by a close before the semaphore counts as closed. -/
  closed : operation = .close → ∀ moment ∈ (world result).moments, moment.sem.shared.closed = true
  faultless : ∀ fault, stopped result = some (.fault fault) → fault = .diverges
  /-- Whether the call returned or a panic was caught, no woken or freed waiter stays in the queue. -/
  left : (∀ fault, stopped result ≠ some (.fault fault)) → Consistent [] (world result).sem
  /-- A future that had not been ready before returns all it wants. -/
  yields : ∀ a count waiter, (a, count) ∈ (world result).yields → s.memory.get? a = some waiter →
    (waiter.state = .woken → 0 < waiter.permits) → count = waiter.wants

/-- Whatever the wakers do, and however deep they call back. -/
def Safe (s : Semaphore) (operation : Operation) : Prop :=
  ∀ fuel depth reactions, Undisturbed s operation
    ((operation.run (wakeByRef fuel depth) fuel).run (.new s reactions))

/-- The call completes no request, and closes none. -/
def wakesNobody (l : Ledger) : Operation → Bool
  | .addPermits n => l.queue.head?.all fun a => n < l.need a
  | .dropAcquire a =>
    (l.tickets.get? a).all fun ticket => (l.queue.erase a).head?.all fun b => ticket.permits < l.need b
  | .close => l.queue.isEmpty

def possible (s : Semaphore) : Operation → Bool
  | .dropAcquire a => (s.memory.get? a).isSome
  | .addPermits _ | .close => true

variable {s s' : Semaphore} {l : Ledger} {a : Addr} {n fuel : Nat} {w : World} {woken : List Waker}

theorem live_of_deref {waiter : Waiter} (read : s.deref a = .ok waiter) : s.memory.get? a = some waiter := by
  unfold Semaphore.deref at read
  split at read
  next held =>
    cases read
    exact held
  next => cases read

section Notify

private theorem loop_idle (idle : n = 0 ∨ w.sem.shared.waiters.front = none) :
    ∃ sem, ∀ fuel, w.sem.addPermitsLoop fuel n = .ok (sem, []) ∧
      ∀ wake, (addPermitsLoop wake fuel n).run w = .ok () { w with sem } := by
  by_cases nothing : n = 0
  · refine ⟨w.sem, fun fuel => ?_⟩
    unfold Semaphore.addPermitsLoop addPermitsLoop
    simp only [nothing, if_true]
    exact ⟨trivial, fun _ => rfl⟩
  · have alone := idle.resolve_left nothing
    refine ⟨{ w.sem with shared.permits := saturatingAdd w.sem.shared.permits n }, fun fuel => ?_⟩
    unfold Semaphore.addPermitsLoop addPermitsLoop
    simp only [nothing, if_false, alone, EStateM.run_bind, EStateM.run_get]
    exact ⟨trivial, fun _ => update_run _ _⟩

theorem addPermits_notifies (done : w.sem.addPermitsLoop fuel n = .ok (s', woken)) :
    ∃ moments, moments.map Moment.waker = woken.reverse ∧
      (addPermitsLoop notify fuel n).run w = .ok () { w with sem := s', moments := moments ++ w.moments } := by
  induction fuel generalizing w n woken with
  | zero =>
    by_cases idle : n = 0 ∨ w.sem.shared.waiters.front = none
    · obtain ⟨_, loop⟩ := loop_idle idle
      cases done.symm.trans (loop _).1
      exact ⟨[], rfl, (loop _).2 notify⟩
    · obtain ⟨some, first⟩ := not_or.mp idle
      obtain ⟨front, first⟩ := Option.ne_none_iff_exists'.mp first
      simp only [Semaphore.addPermitsLoop, some, first, if_false] at done
      cases done
  | succ fuel ih =>
    by_cases idle : n = 0 ∨ w.sem.shared.waiters.front = none
    · obtain ⟨_, loop⟩ := loop_idle idle
      cases done.symm.trans (loop _).1
      exact ⟨[], rfl, (loop _).2 notify⟩
    · obtain ⟨some, first⟩ := not_or.mp idle
      obtain ⟨front, first⟩ := Option.ne_none_iff_exists'.mp first
      unfold Semaphore.addPermitsLoop at done
      unfold addPermitsLoop
      simp only [some, if_false, first] at done ⊢
      obtain ⟨waiter, live, done⟩ := bind_ok done
      obtain ⟨diff, missing, done⟩ := bind_ok done
      simp only [EStateM.run_bind, EStateM.run_get, first, live, missing, lift_ok, EStateM.run_pure]
      split at done
      next more =>
        cases done
        simp only [more, if_true]
        exact ⟨[], rfl, update_run _ _⟩
      next enough =>
        obtain ⟨waker, known, done⟩ := bind_ok done
        obtain ⟨popped, removed, done⟩ := bind_ok done
        obtain ⟨⟨rest, later⟩, looped, stored⟩ := bind_ok done
        cases stored
        simp only [enough, if_false, EStateM.run_bind, update_run, known, lift_ok, EStateM.run_pure, notify_run, removed]
        let met : Moment :=
          ⟨waker, w.sem.write front { waiter with permits := waiter.wants, state := .woken }, w.dropping⟩
        obtain ⟨moments, wakers, ran⟩ := ih (w := { w with sem := popped, moments := met :: w.moments }) looped
        refine ⟨moments ++ [met], by simp [wakers, met], ?_⟩
        rw [ran]
        simp

theorem wakeAllFrom_notifies {curr : Option Addr} (done : w.sem.wakeAllFrom fuel curr = .ok (s', woken)) :
    ∃ moments, moments.map Moment.waker = woken.reverse ∧
      (wakeAllFrom notify fuel curr).run w = .ok () { w with sem := s', moments := moments ++ w.moments } := by
  induction fuel generalizing w curr woken with
  | zero =>
    cases curr with
    | none =>
      cases done
      exact ⟨[], rfl, rfl⟩
    | some curr => cases done
  | succ fuel ih =>
    cases curr with
    | none =>
      cases done
      exact ⟨[], rfl, rfl⟩
    | some curr =>
      obtain ⟨waiter, live, done⟩ := bind_ok done
      obtain ⟨waker, known, done⟩ := bind_ok done
      obtain ⟨⟨rest, later⟩, looped, stored⟩ := bind_ok done
      cases stored
      have stays : (w.sem.write curr { waiter with state := .woken }).deref curr = .ok { waiter with state := .woken } := by
        simp [Semaphore.deref, Semaphore.write, Arena.get?_put_self (live_of_deref live)]
      simp only [wakeAllFrom, EStateM.run_bind, EStateM.run_get, live, lift_ok, EStateM.run_pure, update_run, known,
        notify_run, stays]
      let met : Moment := ⟨waker, w.sem.write curr { waiter with state := .woken }, w.dropping⟩
      obtain ⟨moments, wakers, ran⟩ := ih (w := { w with sem := met.sem, moments := met :: w.moments }) looped
      refine ⟨moments ++ [met], by simp [wakers, met], ?_⟩
      rw [ran]
      simp

def performed (s : Semaphore) : Operation → Except Fault (Semaphore × List Waker)
  | .addPermits n => s.addPermits n
  | .dropAcquire a => s.dropFuture a
  | .close => s.close.map fun effect => (effect.state, effect.woken)

/-- The refinement: with wakers that only notify, every call is the one of `Semaphore`. -/
theorem operation_notifies {operation : Operation} (done : performed s operation = .ok (s', woken)) :
    ∃ fuel moments, moments.map Moment.waker = woken.reverse ∧
      (operation.run notify fuel).run (.new s []) = .ok () { World.new s' [] with moments } := by
  cases operation with
  | addPermits n =>
    obtain ⟨moments, wakers, ran⟩ := addPermits_notifies (w := .new s []) done
    refine ⟨s.memory.size, moments, wakers, ran.trans ?_⟩
    simp [World.new]
  | close =>
    cases closing : s.wakeAllFrom s.memory.size s.shared.waiters.head with
    | error fault =>
      simp only [performed, Semaphore.close, closing] at done
      cases done
    | ok result =>
      obtain ⟨notified, later⟩ := result
      simp only [performed, Semaphore.close, closing, ok_bind, Except.map] at done
      cases done
      obtain ⟨moments, wakers, ran⟩ := wakeAllFrom_notifies (w := .new s []) closing
      refine ⟨s.memory.size, moments, wakers, ?_⟩
      simp only [Operation.run, close, EStateM.run_bind, EStateM.run_get]
      rw [show (World.new s []).sem.shared.waiters.head = s.shared.waiters.head from rfl, ran]
      simp [World.new]
  | dropAcquire a =>
    obtain ⟨dequeued, removed, done⟩ := bind_ok done
    obtain ⟨waiter, live, done⟩ := bind_ok done
    obtain ⟨⟨added, later⟩, given, stored⟩ := bind_ok done
    cases stored
    obtain ⟨moments, wakers, ran⟩ := addPermits_notifies (w := ⟨dequeued, [a], [], [], []⟩) given
    refine ⟨dequeued.memory.size, moments, wakers, ?_⟩
    simp only [Operation.run, dropFuture, EStateM.run_bind, EStateM.run_modify, update_run, World.new, removed,
      EStateM.run_get, live, lift_ok, EStateM.run_pure, freeing_run, ran]
    simp [World.free]

end Notify

section Quiet

theorem consistent_of_sound (sound : Sound s) : Consistent [] s := by
  intro a
  have members := sound.valid.waiting a
  simpa [Semaphore.ledger, Waiter.ticket] using members

private theorem loop_quiet (refines : Refines w.sem l) (queued : Queued l)
    (quiet : l.queue.head?.all (fun a => n < l.need a) = true) (wake : Waker → Exec Unit) (fuel : Nat) :
    (addPermitsLoop wake fuel n).run w = .error (.fault .diverges) w ∨
      ∃ sem, w.sem.addPermits n = .ok (sem, []) ∧ (addPermitsLoop wake fuel n).run w = .ok () { w with sem } := by
  by_cases idle : n = 0 ∨ w.sem.shared.waiters.front = none
  · obtain ⟨sem, loop⟩ := loop_idle idle
    exact .inr ⟨sem, (loop _).1, (loop fuel).2 wake⟩
  · obtain ⟨more, first⟩ := not_or.mp idle
    obtain ⟨front, first⟩ := Option.ne_none_iff_exists'.mp first
    have head : l.queue.head? = some front := refines.chain.head_eq.symm.trans first
    obtain ⟨ticket, waker, held, _, _, short⟩ := queued front (List.mem_of_head? head)
    obtain ⟨waiter, live, rfl⟩ := refines.live held
    rw [head, Option.all_some, decide_eq_true_eq, Ledger.need_eq held] at quiet
    simp only [Waiter.ticket] at quiet short
    have missing : checkedSub waiter.wants waiter.permits = .ok (waiter.wants - waiter.permits) :=
      checkedSub_of_le (Nat.le_of_lt short)
    cases fuel with
    | zero =>
      left
      unfold addPermitsLoop
      simp only [more, if_false, EStateM.run_bind, EStateM.run_get, first]
      rfl
    | succ fuel =>
      obtain ⟨k, size⟩ := Nat.exists_eq_succ_of_ne_zero (Nat.ne_of_gt (Nat.lt_of_le_of_lt (Nat.zero_le _) (Arena.lt_size live)))
      refine .inr ⟨w.sem.write front { waiter with permits := waiter.wants - waiter.permits - n }, ?_, ?_⟩
      · rw [Semaphore.addPermits, size]
        unfold Semaphore.addPermitsLoop
        simp only [more, if_false, first, deref_eq live, missing, ok_bind, quiet, if_true]
      · unfold addPermitsLoop
        simp only [more, if_false, EStateM.run_bind, EStateM.run_get, first, deref_eq live, missing, lift_ok,
          EStateM.run_pure, quiet, if_true]
        exact update_run _ _

private theorem undisturbed {operation : Operation} {result : EStateM.Result Stop World Unit}
    (unwoken : (world result).moments = []) (unpolled : (world result).yields = [])
    (ended : (∃ w, result = .error (.fault .diverges) w) ∨ ∃ w, result = .ok () w ∧ Sound w.sem) :
    Undisturbed s operation result := by
  refine ⟨?_, ?_, ?_, ?_, ?_⟩
  · rw [unwoken]
    exact fun _ member => by cases member
  · rw [unwoken]
    exact fun _ _ member => by cases member
  · intro fault faulted
    rcases ended with ⟨_, rfl⟩ | ⟨_, rfl, _⟩ <;> cases faulted
    rfl
  · intro faultless
    rcases ended with ⟨w, rfl⟩ | ⟨w, rfl, sound⟩
    · exact absurd rfl (faultless _)
    · exact consistent_of_sound sound
  · rw [unpolled]
    exact fun _ _ _ member => by cases member

private theorem dequeued_spec (sound : Sound s) {waiter : Waiter} (found : s.memory.get? a = some waiter) :
    ∃ dequeued, s.dequeue a = .ok dequeued ∧ Refines dequeued { s.ledger with queue := s.ledger.queue.erase a } ∧
      Queued { s.ledger with queue := s.ledger.queue.erase a } ∧
      ∃ waiter', dequeued.memory.get? a = some waiter' ∧ waiter'.ticket = waiter.ticket := by
  obtain ⟨dequeued, removed, refines⟩ := dequeue_spec sound.refines sound.valid found
  exact ⟨dequeued, removed, refines, fun _ member => sound.queued _ (List.mem_of_mem_erase member),
    refines.live (sound.refines.held found)⟩

private theorem dropFuture_run {dequeued : Semaphore} {waiter : Waiter} (removed : w.sem.dequeue a = .ok dequeued)
    (live : dequeued.memory.get? a = some waiter) (wake : Waker → Exec Unit) (fuel : Nat) :
    ((Operation.dropAcquire a).run wake fuel).run w = (freeing a (addPermitsLoop wake fuel waiter.permits)).run
      { w with sem := dequeued, dropping := a :: w.dropping } := by
  simp only [Operation.run, dropFuture, EStateM.run_bind, EStateM.run_modify, update_run, removed, EStateM.run_get,
    deref_eq live, lift_ok, EStateM.run_pure]

theorem safe_of_quiet {operation : Operation} (sound : Sound s) (live : possible s operation = true)
    (quiet : wakesNobody s.ledger operation = true) : Safe s operation := by
  intro fuel depth reactions
  cases operation with
  | addPermits n =>
    rcases loop_quiet (w := .new s reactions) sound.refines sound.queued quiet (wakeByRef fuel depth) fuel with
      ran | ⟨sem, added, ran⟩
    · rw [Operation.run, ran]
      exact undisturbed rfl rfl (.inl ⟨_, rfl⟩)
    · obtain ⟨_, added', _, sound'⟩ := sound.addPermits n
      obtain ⟨rfl, _⟩ := Prod.mk.inj (Except.ok.inj (added.symm.trans added'))
      rw [Operation.run, ran]
      exact undisturbed rfl rfl (.inr ⟨_, rfl, sound'⟩)
  | dropAcquire a =>
    obtain ⟨waiter, found⟩ := Option.isSome_iff_exists.mp live
    obtain ⟨dequeued, removed, refines, queued, waiter', live', same⟩ := dequeued_spec sound found
    have ticket : s.ledger.tickets.get? a = some waiter.ticket := sound.refines.held found
    simp only [wakesNobody, ticket, Option.all_some] at quiet
    rw [show waiter.ticket.permits = waiter'.permits from congrArg Ticket.permits same.symm] at quiet
    rw [dropFuture_run (w := .new s reactions) removed live']
    rcases loop_quiet (w := ⟨dequeued, [a], reactions, [], []⟩) refines queued quiet (wakeByRef fuel depth) fuel with
      ran | ⟨sem, added, ran⟩
    · simp only [World.new, freeing_run, ran]
      exact undisturbed rfl rfl (.inl ⟨_, rfl⟩)
    · have dropped : s.dropFuture a = .ok ({ sem with memory := sem.memory.free a }, []) := by
        simp only [Semaphore.dropFuture, removed, ok_bind, deref_eq live', added]
      obtain ⟨_, dropped', _, sound'⟩ := sound.dropFuture ticket
      obtain ⟨rfl, _⟩ := Prod.mk.inj (Except.ok.inj (dropped.symm.trans dropped'))
      simp only [World.new, freeing_run, ran]
      exact undisturbed rfl rfl (.inr ⟨_, rfl, sound'⟩)
  | close =>
    have nobody : s.ledger.queue = [] := List.isEmpty_iff.mp quiet
    have head : s.shared.waiters.head = none := by rw [sound.refines.chain.head_eq, nobody, List.head?_nil]
    obtain ⟨_, closed, _, sound'⟩ := sound.close
    simp only [Semaphore.close, head, Semaphore.wakeAllFrom, ok_bind, Except.ok.injEq, Effect.mk.injEq] at closed
    obtain ⟨rfl, _⟩ := closed
    simp only [Operation.run, close, EStateM.run_bind, EStateM.run_get, World.new, head, wakeAllFrom, EStateM.run_pure,
      update_run]
    exact undisturbed rfl rfl (.inr ⟨_, rfl, sound'⟩)

end Quiet

section Loud

private def interrupted (w : World) (waker : Waker) (sem : Semaphore) : World :=
  { w with sem, reactions := [], moments := ⟨waker, sem, w.dropping⟩ :: w.moments }

private theorem wakeByRef_panics (panics : w.reactions = [⟨[], true⟩]) (waker : Waker) :
    (wakeByRef fuel 1 waker).run w = .error .panic (interrupted w waker w.sem) := by
  simp only [wakeByRef, EStateM.run_bind, notify_run, EStateM.run_get, panics, EStateM.run_modify, react, EStateM.run_pure,
    if_true]
  rfl

private theorem head_inconsistent {waiter : Waiter} {dropping : List Addr} (head : s.shared.waiters.head = some a)
    (live : s.memory.get? a = some waiter) (woken : waiter.state = .woken) : ¬ Consistent dropping s := by
  intro consistent
  have linked : a ∈ s.queue := by
    obtain ⟨k, size⟩ := Nat.exists_eq_succ_of_ne_zero (Nat.ne_of_gt (Nat.lt_of_le_of_lt (Nat.zero_le _) (Arena.lt_size live)))
    simp [Semaphore.queue, head, size, follow]
  obtain ⟨_, other, held, waiting⟩ := (consistent a).mp linked
  cases live.symm.trans held
  cases woken.symm.trans waiting

private theorem loop_loud (refines : Refines w.sem l) (queued : Queued l) (panics : w.reactions = [⟨[], true⟩])
    (loud : ¬ l.queue.head?.all (fun a => n < l.need a) = true) :
    ∃ waker sem, (∀ dropping, ¬ Consistent dropping sem) ∧
      (addPermitsLoop (wakeByRef 1 1) 1 n).run w = .error .panic (interrupted w waker sem) := by
  cases head : l.queue.head? with
  | none => simp [head] at loud
  | some front =>
    obtain ⟨ticket, waker, held, _, asked, short⟩ := queued front (List.mem_of_head? head)
    obtain ⟨waiter, live, rfl⟩ := refines.live held
    simp only [head, Option.all_some, decide_eq_true_eq, Ledger.need_eq held] at loud
    simp only [Waiter.ticket] at loud short asked
    have first : w.sem.shared.waiters.front = some front := refines.chain.head_eq.trans head
    have missing : checkedSub waiter.wants waiter.permits = .ok (waiter.wants - waiter.permits) :=
      checkedSub_of_le (Nat.le_of_lt short)
    have known : getWaker waiter.waker = .ok waker := by rw [asked, getWaker]
    have more : ¬ n = 0 := by omega
    have enough : ¬ waiter.wants - waiter.permits > n := by omega
    let granted : Waiter := { waiter with permits := waiter.wants, state := .woken }
    refine ⟨waker, w.sem.write front granted, ?_, ?_⟩
    · intro dropping
      exact head_inconsistent first (Arena.get?_put_self live granted) rfl
    · unfold addPermitsLoop
      simp only [more, if_false, EStateM.run_bind, EStateM.run_get, first, deref_eq live, missing, lift_ok,
        EStateM.run_pure, enough, update_run, known]
      rw [wakeByRef_panics (w := { w with sem := w.sem.write front granted }) panics]
      rfl

/-- When somebody is woken and the waker panics, it has seen a queue that is not consistent. -/
private theorem operation_loud {operation : Operation} (sound : Sound s) (live : possible s operation = true)
    (loud : ¬ wakesNobody s.ledger operation = true) :
    ∃ moment, (∀ dropping, ¬ Consistent dropping moment.sem) ∧
      moment ∈ (world ((operation.run (wakeByRef 1 1) 1).run (.new s [⟨[], true⟩]))).moments := by
  cases operation with
  | addPermits n =>
    obtain ⟨waker, sem, inconsistent, ran⟩ := loop_loud (w := .new s [⟨[], true⟩]) sound.refines sound.queued rfl loud
    rw [Operation.run, ran]
    exact ⟨_, inconsistent, List.mem_cons_self ..⟩
  | dropAcquire a =>
    obtain ⟨waiter, found⟩ := Option.isSome_iff_exists.mp live
    obtain ⟨dequeued, removed, refines, queued, waiter', live', same⟩ := dequeued_spec sound found
    have ticket : s.ledger.tickets.get? a = some waiter.ticket := sound.refines.held found
    simp only [wakesNobody, ticket, Option.all_some] at loud
    rw [show waiter.ticket.permits = waiter'.permits from congrArg Ticket.permits same.symm] at loud
    obtain ⟨waker, sem, inconsistent, ran⟩ := loop_loud (w := ⟨dequeued, [a], [⟨[], true⟩], [], []⟩) refines queued rfl loud
    rw [dropFuture_run (w := .new s [⟨[], true⟩]) removed live']
    simp only [World.new, freeing_run, ran]
    exact ⟨_, inconsistent, List.mem_cons_self ..⟩
  | close =>
    cases head : s.ledger.queue with
    | nil => simp [wakesNobody, head] at loud
    | cons front rest =>
      obtain ⟨ticket, waker, held, _, asked, _⟩ := sound.queued front (by simp [head])
      obtain ⟨waiter, live, rfl⟩ := sound.refines.live held
      have first : s.shared.waiters.head = some front := by rw [sound.refines.chain.head_eq, head, List.head?_cons]
      have known : getWaker waiter.waker = .ok waker := by
        rw [show waiter.waker = some waker from asked, getWaker]
      refine ⟨⟨waker, s.write front { waiter with state := .woken }, []⟩, fun dropping => ?_, ?_⟩
      · exact head_inconsistent first (Arena.get?_put_self live { waiter with state := .woken }) rfl
      · simp only [Operation.run, close, EStateM.run_bind, EStateM.run_get, World.new, first, wakeAllFrom, deref_eq live,
          lift_ok, EStateM.run_pure, update_run, known]
        rw [wakeByRef_panics (w := ⟨s.write front { waiter with state := .woken }, [], [⟨[], true⟩], [], []⟩) rfl]
        exact List.mem_cons_self ..

/-- A call is safe from the wakers only if it invokes none of them. -/
theorem safe_iff {operation : Operation} (sound : Sound s) (live : possible s operation = true) :
    Safe s operation ↔ wakesNobody s.ledger operation = true := by
  refine ⟨fun safe => ?_, safe_of_quiet sound live⟩
  by_contra loud
  obtain ⟨moment, inconsistent, met⟩ := operation_loud sound live loud
  exact inconsistent _ ((safe 1 1 [⟨[], true⟩]).consistent moment met)

end Loud

end AsyncUnsync.Proofs.WakePoints
