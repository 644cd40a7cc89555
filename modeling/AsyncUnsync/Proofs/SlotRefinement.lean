import AsyncUnsync.Mailbox
import AsyncUnsync.Proofs.SlotAccounting

/-! When every request is for one slot, the ledger of a semaphore keeps slots: permits
and demands can be forgotten, and with them every way of collecting a part. -/

namespace AsyncUnsync.Proofs.SlotRefinement
open Memory Serving LedgerSimulation LedgerGrants SlotAccounting

variable {l : Ledger} {a : Addr} {ticket : Ticket} {n : Nat}

section Ledger

theorem held_request (l : Ledger) (a : Addr) : l.slots.requests.get? a = (l.tickets.get? a).map Ticket.request :=
  Arena.get?_map ..

theorem need_one (valid : l.Valid) (single : Single l) (queued : a ∈ l.queue) : l.need a = 1 := by
  obtain ⟨ticket, _, held, _, _, short⟩ := valid.queued queued
  have one := single a _ (demand_of_held held)
  rw [Ledger.need_eq held]
  omega

theorem handout_one (valid : l.Valid) (single : Single l) (n : Nat) :
    l.handout n = ⟨l.queue.take n, l.queue.drop n, n - l.queue.length⟩ :=
  serve_one (fun _ queued => need_one valid single queued) n

theorem queued_request (valid : l.Valid) (queued : a ∈ l.queue) :
    ∃ waker, (l.tickets.get? a).bind Ticket.waker = some waker ∧ l.slots.requests.get? a = some (.waiting waker) := by
  obtain ⟨ticket, waker, held, state, stored, _⟩ := valid.queued queued
  exact ⟨waker, by simp [held, stored], by simp [held_request, held, Ticket.request, state, stored]⟩

theorem wakers_eq (valid : l.Valid) {line : List Addr} (inside : ∀ a ∈ line, a ∈ l.queue) :
    l.wakers line = l.slots.wakers line := by
  apply List.filterMap_congr
  intro a member
  obtain ⟨waker, registered, waits⟩ := queued_request valid (inside a member)
  rw [registered, waits]
  rfl

private theorem granted_requests (single : Single l) {line : List Addr} (nodup : line.Nodup) :
    (l.tickets.modifyAll Ticket.grant line).map Ticket.request = l.slots.requests.modifyAll (fun _ => .granted) line := by
  apply Arena.map_modifyAll _ _ _ nodup
  intro a member ticket held
  have one := single a _ (demand_of_held held)
  simp [Ticket.request, Ticket.grant, one]

/-- Permits that are handed out are slots that come back. -/
theorem addPermits_give (valid : l.Valid) (single : Single l) (n : Nat) :
    ((l.addPermits n).1.slots, (l.addPermits n).2) = l.slots.give n := by
  have inside : ∀ a ∈ l.queue.take n, a ∈ l.queue := fun _ member => List.mem_of_mem_take member
  have requests := granted_requests single (valid.nodup.sublist (List.take_sublist n l.queue))
  simp only [Ledger.addPermits, handout_one valid single, Slots.give, wakers_eq valid inside, Prod.mk.injEq]
  refine ⟨?_, rfl⟩
  simp only [Ledger.settle]
  split
  next spent =>
    have covered : ¬ l.slots.line.length < n := by simp only [Ledger.slots]; omega
    rw [if_neg covered]
    simp only [Ledger.slots] at requests ⊢
    rw [requests]
  next some =>
    have more : l.slots.line.length < n := by simp only [Ledger.slots]; omega
    have none : l.queue.drop n = [] := List.drop_eq_nil_of_le (Nat.le_of_lt more)
    rw [if_pos more]
    simp only [Ledger.slots, none] at requests ⊢
    rw [requests]

theorem forget_forget (l : Ledger) (a : Addr) : (l.forget a).slots = l.slots.forget a := by
  simp [Ledger.slots, Ledger.forget, Slots.forget]

private theorem granted_iff (valid : l.Valid) (single : Single l) (held : l.tickets.get? a = some ticket) :
    ticket.request = .granted ∧ ticket.permits = 1 ∨ ticket.request ≠ .granted ∧ ticket.permits = 0 := by
  obtain ⟨bounded, inert, waiting⟩ := valid.ticket a ticket held
  have one := single a _ (demand_of_held held)
  cases state : ticket.state with
  | inert => exact .inr ⟨by simp [Ticket.request, state], (inert state).1⟩
  | waiting =>
    have short := (waiting state).1
    exact .inr ⟨by simp [Ticket.request, state], by omega⟩
  | woken =>
    by_cases none : ticket.permits = 0
    · exact .inr ⟨by simp [Ticket.request, state, none], none⟩
    · exact .inl ⟨by simp [Ticket.request, state, none], by omega⟩

theorem drop_withdraw (valid : l.Valid) (single : Single l) (held : l.tickets.get? a = some ticket) :
    ((l.drop a ticket).1.slots, (l.drop a ticket).2) = l.slots.withdraw a := by
  have seen : l.slots.requests.get? a = some ticket.request := by simp [held_request, held]
  rcases granted_iff valid single held with ⟨granted, one⟩ | ⟨other, none⟩
  · have given := addPermits_give (valid.forget a) (single.forget a) 1
    rw [forget_forget] at given
    simp only [Slots.withdraw, seen, granted, if_true, ← given, Ledger.drop, one]
  · rw [Slots.withdraw, if_neg (by simpa [seen] using other), drop_empty valid none, forget_forget]

theorem acquireMany_request (l : Ledger) : (l.acquireMany 1).slots = l.slots.request := by
  simp [Ledger.slots, Ledger.acquireMany, Slots.request, Ticket.request]

theorem close_close (valid : l.Valid) (single : Single l) : (l.close.1.slots, l.close.2) = l.slots.close := by
  have requests : (l.tickets.modifyAll Ticket.wake l.queue).map Ticket.request =
      l.slots.requests.modifyAll (fun _ => .refused) l.queue := by
    apply Arena.map_modifyAll _ _ _ valid.nodup
    intro a member ticket held
    obtain ⟨_, found, state⟩ := (valid.waiting a).mp member
    cases held.symm.trans found
    have short := ((valid.ticket a ticket held).waiting state).1
    have one := single a _ (demand_of_held held)
    have none : ticket.permits = 0 := by omega
    simp [Ticket.request, Ticket.wake, none]
  simp only [Ledger.close, Slots.close, wakers_eq valid fun _ member => member, Prod.mk.injEq]
  refine ⟨?_, rfl⟩
  simp only [Ledger.slots] at requests ⊢
  rw [requests]

end Ledger

/-- A sound semaphore for single slots, in which whoever was woken has its slot. -/
structure Fit (s : Semaphore) : Prop where
  sound : Sound s
  single : Single s.ledger
  full : Full s.ledger

section Semaphore
variable {s : Semaphore} {waker : Waker}

theorem Fit.addPermits (fit : Fit s) (n : Nat) :
    ∃ s', s.addPermits n = .ok (s', (s.ledger.slots.give n).2) ∧ s'.ledger.slots = (s.ledger.slots.give n).1 := by
  obtain ⟨s', added, same, _⟩ := fit.sound.addPermits n
  have given := addPermits_give fit.sound.valid fit.single n
  rw [← given]
  exact ⟨s', added, by rw [same]⟩

theorem Fit.close (fit : Fit s) :
    ∃ s' notified, s.close = .ok ⟨s', notified, s.ledger.slots.close.2⟩ ∧ s'.ledger.slots = s.ledger.slots.close.1 := by
  obtain ⟨s', closed, same, _⟩ := fit.sound.close
  have refused := close_close fit.sound.valid fit.single
  rw [← refused]
  exact ⟨s', _, closed, by rw [same]⟩

theorem Fit.acquireMany (fit : Fit s) : (s.acquireMany 1).ledger.slots = s.ledger.slots.request := by
  rw [(fit.sound.acquireMany 1).1, acquireMany_request]

theorem Fit.dropFuture (fit : Fit s) (held : s.ledger.tickets.get? a = some ticket) :
    ∃ s', s.dropFuture a = .ok (s', (s.ledger.slots.withdraw a).2) ∧
      s'.ledger.slots = (s.ledger.slots.withdraw a).1 := by
  obtain ⟨s', dropped, same, _⟩ := fit.sound.dropFuture held
  have withdrawn := drop_withdraw fit.sound.valid fit.single held
  rw [← withdrawn]
  exact ⟨s', dropped, by rw [same]⟩

theorem Fit.tryAcquireMany (fit : Fit s) :
    match s.ledger.slots.take with
    | .ok slots => ∃ s', s.tryAcquireMany 1 = .ok s' ∧ s'.ledger.slots = slots
    | .error error => s.tryAcquireMany 1 = .error error := by
  have tried := fit.sound.tryAcquireMany 1
  simp only [Ledger.tryAcquire, Bool.true_or, if_true] at tried
  cases closed : s.ledger.closed with
  | true =>
    rw [Slots.take_closed (show s.ledger.slots.closed = true from closed)]
    simpa only [closed, if_true] using tried
  | false =>
    have opened : s.ledger.slots.closed = false := closed
    simp only [closed, Bool.false_eq_true, if_false] at tried
    by_cases none : s.ledger.permits = 0
    · rw [Slots.take_none opened none]
      simpa only [if_pos (show 1 > s.ledger.permits by omega)] using tried
    · rw [Slots.take_some opened none]
      simp only [if_neg (show ¬ 1 > s.ledger.permits by omega)] at tried
      obtain ⟨s', taken, same, _⟩ := tried
      exact ⟨s', taken, by simp [Ledger.slots, same, closed]⟩

theorem Fit.awaitAcquire (fit : Fit s) (held : s.ledger.tickets.get? a = some ticket) (waker : Waker) :
    ∃ s', s.awaitAcquire a waker =
        .ok ⟨s', (s.ledger.slots.poll a waker).value, (s.ledger.slots.poll a waker).woken⟩ ∧
      s'.ledger.slots = (s.ledger.slots.poll a waker).state := by
  have valid := fit.sound.valid
  have one := fit.single a _ (demand_of_held held)
  have seen : s.ledger.slots.requests.get? a = some ticket.request := by simp [held_request, held]
  obtain ⟨⟨s', value, woken⟩, done⟩ := awaitAcquire_total fit.sound held waker
  refine ⟨s', ?_⟩
  obtain ⟨_, ⟨rfl, rfl, polled⟩ | ⟨rfl, rfl, opened, ⟨state, same⟩ | ⟨state, enough, same⟩⟩ |
    ⟨⟨⟨⟩, rfl⟩, closed, same, woke⟩⟩ := awaitAcquire_ok fit.sound held done
  · cases closed : s.ledger.closed with
    | true =>
      rw [Ledger.poll_closed closed] at polled
      cases (Prod.mk.inj polled).2
    | false =>
      have opened : s.ledger.slots.closed = false := closed
      have unclosed : ¬ s.ledger.closed = true := by simp [closed]
      cases state : ticket.state with
      | waiting =>
        rw [Ledger.poll_waiting unclosed state] at polled
        simp only [Ticket.request, state] at seen
        rw [Slots.poll_waiting opened seen, done, (Prod.mk.inj polled).1]
        exact ⟨rfl, rfl⟩
      | woken =>
        rw [Ledger.poll_woken unclosed state] at polled
        cases (Prod.mk.inj polled).2
      | inert =>
        rw [Ledger.poll_inert unclosed state] at polled
        split at polled
        next => cases (Prod.mk.inj polled).2
        next few =>
          have none : s.ledger.permits = 0 := by omega
          simp only [Ticket.request, state] at seen
          rw [Slots.poll_fresh opened seen, if_pos (show s.ledger.slots.free = 0 from none), done,
            ← (Prod.mk.inj polled).1]
          refine ⟨rfl, ?_⟩
          simp [Ledger.slots, Ledger.enqueue, Ticket.request, none]
  · have filled := fit.full opened a ticket held state
    have granted : ticket.request = .granted := by simp [Ticket.request, state, filled, one]
    rw [granted] at seen
    rw [Slots.poll_granted (show s.ledger.slots.closed = false from opened) seen, done, same, forget_forget]
    exact ⟨rfl, rfl⟩
  · simp only [Ticket.request, state] at seen
    rw [Slots.poll_fresh (show s.ledger.slots.closed = false from opened) seen,
      if_neg (show ¬ s.ledger.slots.free = 0 by simp only [Ledger.slots]; omega), done, same, forget_forget, one]
    exact ⟨rfl, rfl⟩
  · have withdrawn := drop_withdraw valid fit.single held
    obtain rfl : woken = (s.ledger.drop a ticket).2 := woke
    rw [Slots.poll_closed (show s.ledger.slots.closed = true from closed), ← withdrawn, done, same]
    exact ⟨rfl, rfl⟩

end Semaphore
end AsyncUnsync.Proofs.SlotRefinement
