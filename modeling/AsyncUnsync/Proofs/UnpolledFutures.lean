import AsyncUnsync.Proofs.GrantedSlots

/-! A future that nobody has polled did not ask for its slot: it neither waits nor holds one. -/

namespace AsyncUnsync.Proofs.UnpolledFutures
open Memory Transition BoundedSystem BoundedValid LedgerSimulation LedgerTurns SlotAccounting GrantedSlots
variable {T : Type}

/-- The request of the future, if there is one, was never seen by the semaphore. -/
def Unpolled (a : Addr) (s : Semaphore) : Prop := ∀ ticket, s.ledger.tickets.get? a = some ticket → ticket.state = .inert

section Ledger
variable {l : Ledger} {a b : Addr} {ticket : Ticket}

private theorem addPermits_inert (valid : l.Valid) (inert : ∀ ticket, l.tickets.get? a = some ticket → ticket.state = .inert)
    (n : Nat) (after : (l.addPermits n).1.tickets.get? a = some ticket) : ticket.state = .inert := by
  obtain ⟨before, held, rfl | ⟨_, waiting, _⟩ | ⟨waiting, _⟩⟩ := addPermits_held valid n after
  · exact inert _ held
  · cases waiting.symm.trans (inert before held)
  · cases waiting.symm.trans (inert before held)

private theorem forget_inert (inert : ∀ ticket, l.tickets.get? a = some ticket → ticket.state = .inert) (b : Addr)
    (after : (l.forget b).tickets.get? a = some ticket) : ticket.state = .inert := by
  exact inert _ (Arena.of_free after).2

private theorem drop_inert (valid : l.Valid) (inert : ∀ ticket, l.tickets.get? a = some ticket → ticket.state = .inert)
    {dropped : Ticket} (after : (l.drop b dropped).1.tickets.get? a = some ticket) : ticket.state = .inert :=
  addPermits_inert (valid.forget b) (fun _ held => forget_inert inert b held) _ after

private theorem close_inert (valid : l.Valid) (inert : ∀ ticket, l.tickets.get? a = some ticket → ticket.state = .inert)
    (after : l.close.1.tickets.get? a = some ticket) : ticket.state = .inert := by
  simp only [Ledger.close, Arena.get?_modifyAll _ valid.nodup] at after
  split at after
  next queued =>
    obtain ⟨waiting, _, held, state, _⟩ := valid.queued queued
    cases state.symm.trans (inert waiting held)
  next => exact inert _ after

private theorem poll_other (other : a ≠ b) (ticket : Ticket) (waker : Waker) :
    (l.poll b ticket waker).1.tickets.get? a = l.tickets.get? a := by
  by_cases closed : l.closed = true
  · rw [Ledger.poll_closed closed]
    exact Arena.get?_put_ne _ other _
  cases state : ticket.state with
  | waiting => rw [Ledger.poll_waiting closed state]
  | woken =>
    rw [Ledger.poll_woken closed state]
    exact Arena.get?_put_ne _ other _
  | inert =>
    rw [Ledger.poll_inert closed state]
    split
    · exact Arena.get?_put_ne _ other _
    · exact Arena.get?_put_ne _ other _

end Ledger

theorem persists_unpolled (a : Addr) : Persists (fun b => a ≠ b) (Unpolled a) where
  addPermits := by
    intro s s' n woken sound done inert ticket after
    obtain ⟨_, same, _⟩ := addPermits_ok sound done
    rw [same] at after
    exact addPermits_inert sound.valid inert n after
  close := by
    intro s effect sound done inert ticket after
    obtain ⟨_, same, _⟩ := SlotAccounting.close_ok sound done
    rw [same] at after
    exact close_inert sound.valid inert after
  tryAcquireMany := by
    intro s s' n sound done inert ticket after
    obtain ⟨_, _, taken⟩ := tryAcquireMany_ok sound done
    rw [(tryAcquire_tickets taken).1] at after
    exact inert ticket after
  acquireMany := by
    intro s n sound inert ticket after
    obtain ⟨same, _⟩ := sound.acquireMany n
    rw [same] at after
    rcases Arena.of_alloc after with ⟨_, rfl⟩ | before
    · rfl
    · exact inert ticket before
  dropFuture := by
    intro s s' b dropped woken sound held done inert ticket after
    obtain ⟨_, same, _⟩ := dropFuture_ok sound held done
    rw [same] at after
    exact drop_inert sound.valid inert after
  awaitAcquire := by
    intro s b awaited waker effect other sound held done inert ticket after
    obtain ⟨_, ⟨_, _, polled⟩ | ⟨_, _, _, ⟨_, same⟩ | ⟨_, _, same⟩⟩ | ⟨_, _, same, _⟩⟩ := awaitAcquire_ok sound held done
    · have unchanged := poll_other (l := s.ledger) other awaited waker
      rw [polled] at unchanged
      rw [unchanged] at after
      exact inert ticket after
    · rw [same] at after
      exact forget_inert inert b after
    · rw [same] at after
      exact forget_inert inert b after
    · rw [same] at after
      exact drop_inert sound.valid inert after

/-- The run lemma: whoever was never polled is as it was created. -/
theorem run_unpolled {build : Build} {start state : State T} {history : History (State T) (Action T) (Outcome T)} {a : Addr}
    (run : (system T build).Run start history state)
    (untouched : ∀ event ∈ history, ∀ waker, event.action ≠ .pollFuture a waker) : Unpolled a state.queue.extra.semaphore := by
  revert untouched
  refine run.invariant (fun history state => (∀ event ∈ history, ∀ waker, event.action ≠ .pollFuture a waker) →
    Unpolled a state.queue.extra.semaphore) ?_ ?_
  · rintro ⟨queue, constructed, rfl⟩ _ ticket held
    obtain ⟨_, _, _, rfl, _⟩ := constructed_eq constructed
    cases held
  · intro past before action outcome after reached earlier able stepped untouched
    have valid := run_valid reached
    obtain ⟨effect, operated, rfl, rfl⟩ := step_ok stepped
    have others : ∀ b waker, action = .pollFuture b waker → a ≠ b := by
      rintro b waker polls rfl
      exact untouched _ (List.mem_cons_self ..) waker polls
    exact ((persists_unpolled a).step valid.housed others operated).semaphore
      (earlier fun event member => untouched event (List.mem_cons_of_mem _ member))

end AsyncUnsync.Proofs.UnpolledFutures
