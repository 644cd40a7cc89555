import AsyncUnsync.Proofs.LedgerGrants
import AsyncUnsync.Proofs.WaiterLinks

/-! The pointer program computes what the ledger says. Every loop ends, no freed
waiter is read, and no waker is missing. -/

namespace AsyncUnsync.Proofs.LedgerRefinement
open Memory Serving Semaphore WaiterLinks LedgerGrants

structure Refines (s : Semaphore) (l : Ledger) : Prop where
  tickets : tickets s = l.tickets
  permits : s.shared.permits = l.permits
  closed : s.shared.closed = l.closed
  chain : Linked s l.queue
  unlinked : ∀ a waiter, s.memory.get? a = some waiter → waiter.state = .inert →
    waiter.next = none ∧ waiter.prev = none

variable {s : Semaphore} {l : Ledger} {a : Addr}

theorem Refines.new (permits : Nat) : Refines (.new permits) ⟨.empty, [], permits, false⟩ :=
  ⟨rfl, rfl, rfl, Chain.nil, by simp [Semaphore.new]⟩

theorem Refines.live (refines : Refines s l) {ticket : Ticket} (held : l.tickets.get? a = some ticket) :
    ∃ waiter, s.memory.get? a = some waiter ∧ waiter.ticket = ticket := by
  rw [← refines.tickets, Arena.get?_map] at held
  exact Option.map_eq_some_iff.mp held

theorem Refines.held (refines : Refines s l) {waiter : Waiter} (live : s.memory.get? a = some waiter) :
    l.tickets.get? a = some waiter.ticket := by
  rw [← refines.tickets, Arena.get?_map, live]
  rfl

theorem Refines.queued (refines : Refines s l) (queued : Queued l) : ∀ b ∈ l.queue, (s.memory.get? b).isSome := by
  intro b member
  obtain ⟨_, _, held, _⟩ := queued b member
  obtain ⟨_, live, _⟩ := refines.live held
  simp [live]

theorem Refines.fuel (refines : Refines s l) (queued : Queued l) : l.queue.length ≤ s.memory.size :=
  Arena.length_le_size refines.chain.nodup (refines.queued queued)

theorem Refines.size (refines : Refines s l) : s.memory.size = l.tickets.size := by
  rw [← refines.tickets, Arena.size_map]

/-- The ledger is read off the semaphore by forgetting its links. -/
theorem Refines.ledger (refines : Refines s l) (queued : Queued l) : s.ledger = l := by
  have walked : s.queue = l.queue := refines.chain.follow_eq (refines.fuel queued)
  simp only [Semaphore.ledger, walked, refines.permits, refines.closed]
  exact congrArg (fun arena => (⟨arena, l.queue, l.permits, l.closed⟩ : Ledger)) refines.tickets

theorem Refines.write (refines : Refines s l) {old : Waiter} (live : s.memory.get? a = some old) (waiter : Waiter)
    (sameNext : waiter.next = old.next) (samePrev : waiter.prev = old.prev)
    (aged : waiter.state = .inert → old.state = .inert) :
    Refines (s.write a waiter) { l with tickets := l.tickets.put a waiter.ticket } := by
  obtain ⟨keptNext, keptPrev⟩ := links_write live sameNext samePrev
  refine ⟨?_, refines.permits, refines.closed, ?_, ?_⟩
  · simp only [Semaphore.write, WaiterLinks.tickets, Arena.map_put]
    rw [← refines.tickets]
  · exact refines.chain.congr (fun _ _ => by rw [keptNext]) (fun _ _ => by rw [keptPrev])
  · intro b current found inert
    by_cases same : b = a
    · subst b
      have stored := Arena.get?_put_self live waiter
      rw [show (s.write a waiter).memory = s.memory.put a waiter from rfl, stored] at found
      cases found
      rw [sameNext, samePrev]
      exact refines.unlinked a old live (aged inert)
    · exact refines.unlinked b current (by simpa [Semaphore.write, same] using found) inert

theorem Refines.relinked (refines : Refines s l) {s' : Semaphore} {queue : List Addr}
    (relinked : Relinked s s' l.queue queue)
    (polled : ∀ b ticket, b ∈ l.queue ∨ b ∈ queue → l.tickets.get? b = some ticket → ticket.state ≠ .inert) :
    Refines s' { l with queue } := by
  refine ⟨relinked.tickets.trans refines.tickets, relinked.permits.trans refines.permits,
    relinked.closed.trans refines.closed, relinked.chain, ?_⟩
  intro b current found inert
  have kept : l.tickets.get? b = some current.ticket := by
    rw [← refines.tickets, ← relinked.tickets, Arena.get?_map, found]
    rfl
  have outside : ¬ (b ∈ l.queue ∨ b ∈ queue) := fun inside => polled b _ inside kept inert
  rw [not_or] at outside
  rw [relinked.outside b outside.1 outside.2] at found
  exact refines.unlinked b current found inert

theorem Refines.setPermits (refines : Refines s l) (permits : Nat) :
    Refines { s with shared.permits := permits } { l with permits } :=
  ⟨refines.tickets, rfl, refines.closed, refines.chain, refines.unlinked⟩

theorem Refines.free (refines : Refines s l) (outside : a ∉ l.queue) :
    Refines { s with memory := s.memory.free a } { l with tickets := l.tickets.free a } := by
  have apart : ∀ b ∈ l.queue, b ≠ a := fun b member same => outside (same ▸ member)
  refine ⟨?_, refines.permits, refines.closed, ?_, ?_⟩
  · simp only [WaiterLinks.tickets, Arena.map_free]
    rw [← refines.tickets]
  · refine refines.chain.congr (fun b member => ?_) (fun b member => ?_)
    · simp [Semaphore.next, apart b member]
    · simp [Semaphore.prev, apart b member]
  · intro b current found
    exact refines.unlinked b current (Arena.of_free found).2

section AddPermits
variable {rest : List Addr}

private theorem front_eq (refines : Refines s l) : s.shared.waiters.front = l.queue.head? := refines.chain.head_eq

private theorem grant_spec (refines : Refines s l) (queued : Queued l) (shape : l.queue = a :: rest) {waiter : Waiter}
    (live : s.memory.get? a = some waiter) :
    ∃ s', (s.write a { waiter with permits := waiter.wants, state := .woken }).popFront a = .ok s' ∧
      Refines s' (granted l a rest waiter.ticket) ∧ Queued (granted l a rest waiter.ticket) := by
  have distinct := refines.chain.nodup
  rw [shape] at distinct
  obtain ⟨fresh, _⟩ := List.nodup_cons.mp distinct
  have written := refines.write live { waiter with permits := waiter.wants, state := .woken } rfl rfl
    (fun inert => by cases inert)
  have alive : ∀ b ∈ a :: rest,
      ((s.write a { waiter with permits := waiter.wants, state := .woken }).memory.get? b).isSome := by
    intro b member
    by_cases same : b = a
    · subst b
      simp [Semaphore.write, Arena.get?_put_self live]
    · simpa [Semaphore.write, same] using refines.queued queued b (shape ▸ member)
  have chain := written.chain
  simp only [shape] at chain
  obtain ⟨s', popped, relinked⟩ := popFront_spec chain alive
  rw [show a :: rest = Ledger.queue { l with tickets := l.tickets.put a waiter.ticket.grant } from shape.symm] at relinked
  refine ⟨s', popped, Refines.relinked written relinked ?_, ?_⟩
  · intro b current inside found inert
    have member : b ∈ l.queue := by
      rcases inside with inside | inside
      · exact inside
      · simp [shape, inside]
    by_cases same : b = a
    · subst b
      rw [Arena.get?_put_self (refines.held live)] at found
      cases found
      cases inert
    · obtain ⟨_, _, heldThen, stateThen, _⟩ := queued b member
      rw [Arena.get?_put_ne _ same, heldThen] at found
      cases found
      simp [stateThen] at inert
  · intro b member
    obtain ⟨current, registered, held, others⟩ := queued b (shape ▸ List.mem_cons_of_mem a member)
    exact ⟨current, registered, (granted_other l waiter.ticket fresh member).trans held, others⟩

/-- The loop of `add_permits`: by induction on the queue, the pointers keep up with the ledger. -/
private theorem addPermitsLoop_spec {queue : List Addr} (fuel : Nat) (enough : queue.length ≤ fuel) :
    ∀ (s : Semaphore) (l : Ledger) (n : Nat), l.queue = queue → Refines s l → Queued l →
      ∃ s', s.addPermitsLoop fuel n = .ok (s', (l.addPermits n).2) ∧ Refines s' (l.addPermits n).1 := by
  induction queue generalizing fuel with
  | nil =>
    intro s l n shape refines queued
    by_cases zero : n = 0
    · subst zero
      rw [addPermits_zero queued]
      exact ⟨s, by simp [addPermitsLoop], refines⟩
    · refine ⟨{ s with shared.permits := saturatingAdd s.shared.permits n }, ?_, ?_⟩
      · unfold addPermitsLoop
        simp [zero, front_eq refines, shape, Ledger.addPermits, Ledger.wakers, Ledger.handout]
      · have pooled : (l.addPermits n).1 = { l with permits := saturatingAdd l.permits n } := by
          simp [Ledger.addPermits, Ledger.settle, Ledger.handout, shape, zero]
        rw [pooled, ← refines.permits]
        exact refines.setPermits _
  | cons a rest ih =>
    intro s l n shape refines queued
    by_cases zero : n = 0
    · subst zero
      rw [addPermits_zero queued]
      exact ⟨s, by simp [addPermitsLoop], refines⟩
    obtain ⟨fuel, rfl⟩ : ∃ smaller, fuel = smaller + 1 := ⟨fuel - 1, by simp at enough; omega⟩
    obtain ⟨ticket, waker, held, _, registered, short⟩ := queued a (by simp [shape])
    obtain ⟨waiter, live, rfl⟩ := refines.live held
    have front : s.shared.waiters.front = some a := by rw [front_eq refines, shape]; rfl
    have difference : checkedSub waiter.wants waiter.permits = .ok (l.need a) := by
      rw [Ledger.need_eq held]
      exact checkedSub_of_le (Nat.le_of_lt short)
    by_cases few : n < l.need a
    · rw [addPermits_short shape held (by rwa [← Ledger.need_eq held]) (Nat.pos_of_ne_zero zero)]
      refine ⟨s.write a { waiter with permits := l.need a - n }, ?_, ?_⟩
      · unfold addPermitsLoop
        simp only [zero, if_false, front, deref_eq live, ok_bind, difference, gt_iff_lt, few, if_true]
      · have written := refines.write live { waiter with permits := l.need a - n } rfl rfl id
        rw [Ledger.need_eq held] at written ⊢
        exact written
    · have distinct := refines.chain.nodup
      rw [shape] at distinct
      rw [addPermits_served shape (List.nodup_cons.mp distinct).1 held registered (Nat.le_of_not_lt few)]
      obtain ⟨s₁, popped, next, queuedNext⟩ := grant_spec refines queued shape live
      obtain ⟨s', looped, final⟩ := ih fuel (by simpa using enough) s₁ _ (n - l.need a) rfl next queuedNext
      refine ⟨s', ?_, final⟩
      have got : getWaker waiter.waker = .ok waker := by rw [show waiter.waker = some waker from registered]; rfl
      unfold addPermitsLoop
      simp only [zero, if_false, front, deref_eq live, ok_bind, difference, gt_iff_lt, few, got, popped, looped]

theorem addPermits_spec (refines : Refines s l) (queued : Queued l) (n : Nat) :
    ∃ s', s.addPermits n = .ok (s', (l.addPermits n).2) ∧ Refines s' (l.addPermits n).1 :=
  addPermitsLoop_spec s.memory.size (refines.fuel queued) s l n rfl refines queued

end AddPermits

section Queue

private theorem wakeAllFrom_spec {back : List Addr} (fuel : Nat) (enough : back.length ≤ fuel) :
    ∀ (s : Semaphore) (l : Ledger) (front : List Addr), Refines s l → l.queue = front ++ back →
      (∀ b ∈ back, ∃ ticket waker, l.tickets.get? b = some ticket ∧ ticket.waker = some waker) →
      ∃ s', wakeAllFrom fuel s back.head? = .ok (s', l.wakers back) ∧
        Refines s' { l with tickets := l.tickets.modifyAll Ticket.wake back } := by
  induction back generalizing fuel with
  | nil =>
    intro s l front refines _ _
    exact ⟨s, by cases fuel <;> rfl, refines⟩
  | cons a rest ih =>
    intro s l front refines split registered
    obtain ⟨fuel, rfl⟩ : ∃ smaller, fuel = smaller + 1 := ⟨fuel - 1, by simp at enough; omega⟩
    obtain ⟨ticket, waker, held, known⟩ := registered a (by simp)
    obtain ⟨waiter, live, rfl⟩ := refines.live held
    have linked : waiter.next = rest.head? := by
      have followed := refines.chain.next_eq front a rest split
      simpa [Semaphore.next, live] using followed
    have distinct := refines.chain.nodup
    rw [split] at distinct
    have fresh : a ∉ rest := (List.nodup_cons.mp (List.nodup_append.mp distinct).2.1).1
    have written := refines.write live { waiter with state := .woken } rfl rfl (fun inert => by cases inert)
    have other : ∀ b ∈ rest, (l.tickets.put a waiter.ticket.wake).get? b = l.tickets.get? b := by
      intro b member
      refine Arena.get?_put_ne _ ?_ _
      intro same
      subst same
      exact fresh member
    obtain ⟨s', woken, final⟩ := ih fuel (by simpa using enough) _ _ (front ++ [a]) written (by simp [split])
      (fun b member => by
        obtain ⟨ticket, waker, found, known⟩ := registered b (List.mem_cons_of_mem a member)
        exact ⟨ticket, waker, (other b member).trans found, known⟩)
    have wakers : ({ l with tickets := l.tickets.put a waiter.ticket.wake } : Ledger).wakers rest = l.wakers rest :=
      List.filterMap_congr fun b member => by rw [other b member]
    have got : getWaker waiter.waker = .ok waker := by rw [show waiter.waker = some waker from known]; rfl
    refine ⟨s', ?_, ?_⟩
    · have later : wakeAllFrom fuel (s.write a { waiter with state := .woken }) waiter.next = .ok (s', l.wakers rest) := by
        rw [← linked] at woken
        exact woken.trans (congrArg (fun wakers => Except.ok (s', wakers)) wakers)
      simp only [List.head?_cons, wakeAllFrom, deref_eq live, ok_bind, got, later]
      simp [Ledger.wakers, held, known]
    · rw [Arena.modifyAll_cons, Arena.modify_eq held]
      exact final

theorem close_spec (refines : Refines s l) (queued : Queued l) :
    ∃ s', s.close = .ok ⟨s', (l.wakers l.queue).length, l.wakers l.queue⟩ ∧ Refines s' l.close.1 := by
  obtain ⟨s', woken, final⟩ := wakeAllFrom_spec s.memory.size (refines.fuel queued) s l [] refines rfl
    (fun b member => by
      obtain ⟨ticket, waker, held, _, known, _⟩ := queued b member
      exact ⟨ticket, waker, held, known⟩)
  refine ⟨{ s' with shared.closed := true, shared.waiters := .new }, ?_, ?_⟩
  · have head : s.shared.waiters.head = l.queue.head? := refines.chain.head_eq
    simp only [close, head, woken, ok_bind]
  · exact ⟨final.tickets, final.permits, rfl, Chain.nil, final.unlinked⟩

private theorem lenFrom_spec (refines : Refines s l) {back : List Addr} (fuel : Nat) (enough : back.length ≤ fuel) :
    ∀ front, l.queue = front ++ back → (∀ b ∈ back, (s.memory.get? b).isSome) →
      lenFrom fuel s back.head? = .ok back.length := by
  induction back generalizing fuel with
  | nil =>
    intro _ _ _
    cases fuel <;> rfl
  | cons a rest ih =>
    intro front split alive
    obtain ⟨fuel, rfl⟩ : ∃ smaller, fuel = smaller + 1 := ⟨fuel - 1, by simp at enough; omega⟩
    obtain ⟨waiter, live⟩ := Option.isSome_iff_exists.mp (alive a (by simp))
    have linked : waiter.next = rest.head? := by
      have followed := refines.chain.next_eq front a rest split
      simpa [Semaphore.next, live] using followed
    have counted := ih fuel (by simpa using enough) (front ++ [a]) (by simp [split])
      (fun b member => alive b (List.mem_cons_of_mem a member))
    simp only [List.head?_cons, lenFrom, deref_eq live, ok_bind, linked, counted, List.length_cons]

theorem waiters_spec (refines : Refines s l) (queued : Queued l) : s.waiters = .ok l.queue.length := by
  have head : s.shared.waiters.head = l.queue.head? := refines.chain.head_eq
  rw [waiters, head]
  exact lenFrom_spec refines s.memory.size (refines.fuel queued) [] rfl (refines.queued queued)

theorem enqueue_spec (refines : Refines s l) (queued : Queued l) {ticket : Ticket} (held : l.tickets.get? a = some ticket)
    (inert : ticket.state = .inert) (waker : Waker) :
    ∃ s', s.enqueue a waker = .ok s' ∧ Refines s' (l.enqueue a ticket waker) := by
  obtain ⟨waiter, live, rfl⟩ := refines.live held
  have fresh : a ∉ l.queue := by
    intro member
    obtain ⟨_, _, found, state, _⟩ := queued a member
    rw [held] at found
    cases found
    simp [inert] at state
  have apart : ∀ b ∈ l.queue, b ≠ a := fun b member same => fresh (same ▸ member)
  have written := refines.write live { waiter with state := .waiting, waker := some waker } rfl rfl
    (fun absurd => by cases absurd)
  have alive : ∀ b ∈ l.queue,
      ((s.write a { waiter with state := .waiting, waker := some waker }).memory.get? b).isSome := by
    intro b member
    simpa [Semaphore.write, apart b member] using refines.queued queued b member
  obtain ⟨s', pushed, relinked⟩ := pushBack_spec written.chain alive (Arena.get?_put_self live _) fresh
    (refines.unlinked a waiter live inert)
  refine ⟨s', ?_, Refines.relinked written relinked ?_⟩
  · simp only [Semaphore.enqueue, deref_eq live, ok_bind, pushed]
  · intro b current inside found polled
    by_cases same : b = a
    · subst b
      rw [Arena.get?_put_self held] at found
      cases found
      cases polled
    · have member : b ∈ l.queue := by simpa [same] using inside
      obtain ⟨_, _, heldThen, state, _⟩ := queued b member
      rw [Arena.get?_put_ne _ same, heldThen] at found
      cases found
      simp [state] at polled

theorem dequeue_spec (refines : Refines s l) (valid : l.Valid) {waiter : Waiter} (live : s.memory.get? a = some waiter) :
    ∃ s', s.dequeue a = .ok s' ∧ Refines s' { l with queue := l.queue.erase a } := by
  have queued := Queued.of_valid valid
  by_cases waiting : waiter.state = .waiting
  · have member : a ∈ l.queue := (valid.waiting a).mpr ⟨waiter.ticket, refines.held live, waiting⟩
    obtain ⟨s', removed, relinked⟩ := tryRemove_spec refines.chain (refines.queued queued) member
    refine ⟨s', by simp only [dequeue, deref_eq live, ok_bind, waiting, removed], refines.relinked relinked ?_⟩
    intro b current inside found inert
    have before : b ∈ l.queue := inside.elim id List.mem_of_mem_erase
    obtain ⟨_, _, held, state, _⟩ := queued b before
    rw [held] at found
    cases found
    simp [state] at inert
  · have outside : a ∉ l.queue := by
      intro member
      obtain ⟨_, found, state⟩ := (valid.waiting a).mp member
      rw [refines.held live] at found
      cases found
      exact waiting state
    refine ⟨s, ?_, ?_⟩
    · simp only [dequeue, deref_eq live, ok_bind]
    · rw [List.erase_of_not_mem outside]
      exact refines

end Queue

section Futures

theorem tryAcquire_spec (refines : Refines s l) (strict : Bool) (n : Nat) :
    match l.tryAcquire strict n with
    | .ok (count, l') => ∃ shared, s.shared.tryAcquire strict n = .ok (count, shared) ∧ Refines { s with shared } l'
    | .error error => s.shared.tryAcquire strict n = .error error := by
  obtain ⟨⟨waiters, permits, closed⟩, memory⟩ := s
  obtain ⟨tickets, queue, permits', closed'⟩ := l
  obtain rfl : permits = permits' := refines.permits
  obtain rfl : closed = closed' := refines.closed
  cases closed with
  | true => rfl
  | false =>
    by_cases few : n > permits
    · by_cases refused : (strict || permits == 0) = true
      · simp [Ledger.tryAcquire, Shared.tryAcquire, Shared.isClosed, few, refused]
      · simp only [Ledger.tryAcquire, Shared.tryAcquire, Shared.isClosed, Bool.false_eq_true, if_false, few, if_true, refused]
        exact ⟨_, rfl, refines.setPermits 0⟩
    · simp only [Ledger.tryAcquire, Shared.tryAcquire, Shared.isClosed, Bool.false_eq_true, if_false, few]
      exact ⟨_, rfl, refines.setPermits _⟩

theorem acquireMany_spec (refines : Refines s l) (valid : l.Valid) (n : Nat) :
    Refines (s.acquireMany n) (l.acquireMany n) := by
  have apart : ∀ b ∈ l.queue, b ≠ s.memory.size := by
    rintro b member rfl
    obtain ⟨_, live⟩ := Option.isSome_iff_exists.mp (refines.queued (Queued.of_valid valid) _ member)
    exact Nat.lt_irrefl _ (Arena.lt_size live)
  refine ⟨?_, refines.permits, refines.closed, ?_, ?_⟩
  · simp only [WaiterLinks.tickets, Semaphore.acquireMany, Arena.map_alloc, Ledger.acquireMany]
    rw [← refines.tickets]
    rfl
  · refine refines.chain.congr (fun b member => ?_) (fun b member => ?_)
    · simp [Semaphore.next, Semaphore.acquireMany, Arena.get?_alloc, apart b member]
    · simp [Semaphore.prev, Semaphore.acquireMany, Arena.get?_alloc, apart b member]
  · intro b current found inert
    rcases Arena.of_alloc found with ⟨_, rfl⟩ | before
    · exact ⟨rfl, rfl⟩
    · exact refines.unlinked b current before inert

private theorem initial_spec (refines : Refines s l) (valid : l.Valid) (opened : ¬ l.closed = true) {waiter : Waiter}
    (live : s.memory.get? a = some waiter) (inert : waiter.state = .inert) (waker : Waker) :
    ∃ s', s.pollFuture a waker = .ok (s', (l.poll a waiter.ticket waker).2) ∧
      Refines s' (l.poll a waiter.ticket waker).1 := by
  have held := refines.held live
  have nothing : waiter.permits = 0 := ((valid.ticket a _ held).inert inert).1
  have opened' : ¬ s.shared.closed = true := refines.closed ▸ opened
  have initial : s.pollAcquire a waker = s.pollAcquireInitial a waker := by
    simp only [pollAcquire, if_neg opened', deref_eq live, ok_bind, inert]
  have tried := tryAcquire_spec refines false waiter.wants
  rw [Ledger.poll_inert opened inert, pollFuture, initial]
  by_cases enough : waiter.wants ≤ l.permits
  · rw [if_pos (show waiter.ticket.wants ≤ l.permits from enough)]
    simp only [Ledger.tryAcquire, if_neg opened, if_neg (Nat.not_lt_of_le enough)] at tried
    obtain ⟨shared, taken, next⟩ := tried
    have stored : (({ s with shared } : Semaphore).write a { waiter with permits := waiter.wants }).memory.get? a =
        some { waiter with permits := waiter.wants } := Arena.get?_put_self live _
    have written := next.write live { waiter with permits := waiter.wants } rfl rfl id
    have finished := written.write stored { waiter with permits := 0, state := .woken } rfl rfl
      (fun absurd => by cases absurd)
    simp only [Arena.put_put] at finished
    refine ⟨_, ?_, finished⟩
    simp only [pollAcquireInitial, deref_eq live, ok_bind, taken, if_true, resolve, deref_eq stored]
    rfl
  · rw [if_neg (show ¬ waiter.ticket.wants ≤ l.permits from enough)]
    have few : waiter.wants > l.permits := Nat.lt_of_not_le enough
    simp only [Ledger.tryAcquire, if_neg opened, if_pos few, Bool.false_or] at tried
    by_cases empty : l.permits = 0
    · simp only [empty, BEq.rfl, if_true] at tried
      obtain ⟨s', queuedUp, final⟩ := enqueue_spec refines (Queued.of_valid valid) held inert waker
      refine ⟨s', ?_, ?_⟩
      · simp only [pollAcquireInitial, deref_eq live, ok_bind, tried, queuedUp, resolve]
      · have same : ({ l with permits := 0 } : Ledger).enqueue a { waiter.ticket with permits := l.permits } waker =
            l.enqueue a waiter.ticket waker := by
          simp [Ledger.enqueue, empty, Waiter.ticket, nothing]
        rw [same]
        exact final
    · simp only [show (l.permits == 0) = false by simpa using empty, Bool.false_eq_true, if_false] at tried
      obtain ⟨shared, taken, next⟩ := tried
      have written := next.write live { waiter with permits := l.permits } rfl rfl id
      have queued : Queued { l with
          tickets := l.tickets.put a { waiter.ticket with permits := l.permits }, permits := 0 } := by
        intro b member
        exact absurd (valid.idle (List.ne_nil_of_mem member)) empty
      obtain ⟨s', queuedUp, final⟩ := enqueue_spec written queued (Arena.get?_put_self held _) inert waker
      refine ⟨s', ?_, ?_⟩
      · simp only [pollAcquireInitial, deref_eq live, ok_bind, taken, if_neg (Nat.ne_of_lt few), queuedUp, resolve]
      · simp only [Ledger.enqueue, Arena.put_put] at final
        exact final

theorem poll_spec (refines : Refines s l) (valid : l.Valid) {ticket : Ticket} (held : l.tickets.get? a = some ticket)
    (waker : Waker) :
    ∃ s', s.pollFuture a waker = .ok (s', (l.poll a ticket waker).2) ∧ Refines s' (l.poll a ticket waker).1 := by
  obtain ⟨waiter, live, rfl⟩ := refines.live held
  by_cases closed : l.closed = true
  · have closed' : s.shared.closed = true := refines.closed.trans closed
    rw [Ledger.poll_closed closed]
    refine ⟨s.write a { waiter with state := .woken }, ?_, ?_⟩
    · simp only [pollFuture, pollAcquire, if_pos closed', ok_bind, deref_eq live, resolve]
    · exact refines.write live { waiter with state := .woken } rfl rfl (fun inert => by cases inert)
  have opened : ¬ s.shared.closed = true := refines.closed ▸ closed
  cases state : waiter.state with
  | inert => exact initial_spec refines valid closed live state waker
  | waiting =>
    rw [Ledger.poll_waiting closed state]
    exact ⟨s, by simp only [pollFuture, pollAcquire, if_neg opened, deref_eq live, ok_bind, state, resolve], refines⟩
  | woken =>
    rw [Ledger.poll_woken closed state]
    refine ⟨s.write a { waiter with permits := 0, state := .woken }, ?_, ?_⟩
    · simp only [pollFuture, pollAcquire, if_neg opened, deref_eq live, ok_bind, state, resolve]
      rfl
    · have written := refines.write live { waiter with permits := 0, state := .woken } rfl rfl
        (fun inert => by cases inert)
      have kept : ({ waiter with permits := 0, state := .woken } : Waiter).ticket = { waiter.ticket with permits := 0 } := by
        simp [Waiter.ticket, state]
      rwa [kept] at written

private theorem addPermits_free (nodup : l.queue.Nodup) (outside : a ∉ l.queue) (n : Nat) :
    ({ l with tickets := l.tickets.free a } : Ledger).addPermits n =
      ({ (l.addPermits n).1 with tickets := (l.addPermits n).1.tickets.free a }, (l.addPermits n).2) := by
  have kept : ∀ b ∈ l.queue, (l.tickets.free a).get? b = l.tickets.get? b := by
    intro b member
    refine Arena.get?_free_ne _ ?_
    intro same
    subst same
    exact outside member
  have same : ({ l with tickets := l.tickets.free a } : Ledger).handout n = l.handout n := by
    refine serve_congr (fun b member => ?_) n
    simp only [Ledger.need, kept b member]
  have front := l.handout_split n
  have apart : a ∉ (l.handout n).served := fun member => outside (mem_of_served member)
  have distinct : (l.handout n).served.Nodup := (List.nodup_append.mp (front.symm ▸ nodup)).1
  simp only [Ledger.addPermits, same, Arena.free_modifyAll Ticket.grant distinct apart]
  apply Prod.ext
  · simp only [Ledger.settle]
    split
    · rfl
    · cases waiting : (l.handout n).waiting with
      | nil => rfl
      | cons b rest =>
        have different : a ∉ [b] := by
          intro member
          rw [List.mem_singleton] at member
          exact outside (front ▸ by simp [waiting, member])
        have commuted := Arena.free_modifyAll (fun t : Ticket => { t with permits := t.wants - t.permits - (l.handout n).left })
          (List.nodup_singleton b) different (l.tickets.modifyAll Ticket.grant (l.handout n).served)
        simp only [Arena.modifyAll_cons, Arena.modifyAll_nil] at commuted
        simp only [commuted]
  · exact List.filterMap_congr fun b member => by rw [kept b (mem_of_served member)]

theorem drop_spec (refines : Refines s l) (valid : l.Valid) {ticket : Ticket} (held : l.tickets.get? a = some ticket) :
    ∃ s', s.dropFuture a = .ok (s', (l.drop a ticket).2) ∧ Refines s' (l.drop a ticket).1 := by
  obtain ⟨waiter, live, rfl⟩ := refines.live held
  obtain ⟨s₁, removed, next⟩ := dequeue_spec refines valid live
  obtain ⟨waiter₁, live₁, same⟩ := next.live held
  have count : waiter₁.permits = waiter.ticket.permits := congrArg Ticket.permits same
  have outside : a ∉ l.queue.erase a := fun member => (valid.nodup.mem_erase_iff.mp member).1 rfl
  have queued : Queued { l with queue := l.queue.erase a } := fun b member => valid.queued (List.mem_of_mem_erase member)
  obtain ⟨s₂, added, final⟩ := addPermits_spec next queued waiter₁.permits
  have behind : a ∉ (({ l with queue := l.queue.erase a } : Ledger).addPermits waiter₁.permits).1.queue := by
    intro member
    apply outside
    have split := Ledger.handout_split { l with queue := l.queue.erase a } waiter₁.permits
    simp only at split
    rw [← split]
    apply List.mem_append_right _
    revert member
    simp only [Ledger.addPermits, Ledger.settle]
    split
    · exact id
    · split
      next none => simp
      next => exact id
  rw [Ledger.drop, Ledger.forget]
  have commuted := addPermits_free (l := { l with queue := l.queue.erase a }) (valid.nodup.erase a) outside waiter₁.permits
  rw [← count, commuted]
  refine ⟨{ s₂ with memory := s₂.memory.free a }, ?_, final.free behind⟩
  simp only [dropFuture, removed, ok_bind, deref_eq live₁, added]

end Futures
end AsyncUnsync.Proofs.LedgerRefinement
