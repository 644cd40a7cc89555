import AsyncUnsync.Library.Lockstep
import AsyncUnsync.Proofs.CancelledRequests
import AsyncUnsync.Proofs.CapacityConservation
import AsyncUnsync.Proofs.UnpolledFutures

/-! A send or a reserve that was blocked and is cancelled leaves no trace: not in what
the channel offers and holds, and not in who waits, or has waited long enough. -/

namespace AsyncUnsync.Proofs.CancelledSends
open Memory Transition BoundedSystem QueueCalls FuturePolls BoundedValid
open LedgerSimulation SlotAccounting CancelledRequests BoundedTotal CapacityConservation
variable {T : Type}

section Calls
variable {B : Type} {s s' : Semaphore} {q q' : BoundedQueue T} {a b : Addr} {ticket : Ticket} {counted : Bool}
  {waker : Waker}

/-- Two semaphores of which the first was polled at `a`. -/
structure Trails (a : Addr) (s s' : Semaphore) : Prop where
  sound : Sound s
  sound' : Sound s'
  shadows : Shadows a s.ledger s'.ledger

/-- Two channels that differ in their semaphores only. -/
def Follows (a : Addr) (q q' : BoundedQueue T) : Prop :=
  ∃ semaphore, q' = { q with extra.semaphore := semaphore } ∧ Trails a q.extra.semaphore semaphore

/-- They wake whom they like, but do and answer the same. -/
def Alike {β : Type} (a : Addr) (e e' : Effect (BoundedQueue T) β) : Prop := Follows a e.state e'.state ∧ e'.value = e.value

theorem Trails.addPermits (trails : Trails a s s') (n : Nat) :
    Both (fun result result' => Trails a result.1 result'.1) (s.addPermits n) (s'.addPermits n) := by
  obtain ⟨t, added, same, sound⟩ := trails.sound.addPermits n
  obtain ⟨t', added', same', sound'⟩ := trails.sound'.addPermits n
  rw [added, added']
  exact .ok ⟨sound, sound', by rw [same, same']; exact trails.shadows.addPermits n⟩

theorem Trails.dropFuture (trails : Trails a s s') (other : b ≠ a) (held : s.ledger.tickets.get? b = some ticket) :
    Both (fun result result' => Trails a result.1 result'.1) (s.dropFuture b) (s'.dropFuture b) := by
  have held' : s'.ledger.tickets.get? b = some ticket := (trails.shadows.others b other).trans held
  obtain ⟨t, dropped, same, sound⟩ := trails.sound.dropFuture held
  obtain ⟨t', dropped', same', sound'⟩ := trails.sound'.dropFuture held'
  rw [dropped, dropped']
  exact .ok ⟨sound, sound', by rw [same, same']; exact trails.shadows.drop other ticket⟩

theorem popFront_extra (q : Queue T B) (extra : B) :
    ({ q with extra } : Queue T B).popFront = ({ q.popFront.1 with extra }, q.popFront.2) ∧ q.popFront.1.extra = q.extra := by
  have shrunk : ∀ (q : Queue T B) extra, ({ q with extra } : Queue T B).tryShrinkQueue = { q.tryShrinkQueue with extra } ∧
      q.tryShrinkQueue.extra = q.extra := by
    intro q extra
    unfold Queue.tryShrinkQueue
    dsimp only
    split <;> exact ⟨rfl, rfl⟩
  obtain ⟨mask, ⟨items, capacity⟩, popCount, waker, old⟩ := q
  cases items with
  | nil =>
    simp only [Queue.popFront, Deque.popFront]
    split
    · exact ⟨Prod.ext (shrunk ⟨mask, ⟨[], capacity⟩, popCount, waker, old⟩ extra).1 rfl, (shrunk _ old).2⟩
    · exact ⟨rfl, rfl⟩
  | cons elem rest =>
    simp only [Queue.popFront, Deque.popFront]
    split
    · exact ⟨Prod.ext (shrunk ⟨mask, ⟨rest, capacity⟩, popCount + 1, waker, old⟩ extra).1 rfl, (shrunk _ old).2⟩
    · exact ⟨rfl, rfl⟩

theorem tryRecv_both (follows : Follows a q q') (counted : Bool) :
    Both (Alike a) (q.tryRecv counted) (q'.tryRecv counted) := by
  obtain ⟨semaphore, rfl, trails⟩ := follows
  obtain ⟨popped, kept⟩ := popFront_extra q { q.extra with semaphore }
  simp only [Queue.tryRecv, MaybeBoundedQueue.tryRecv, popped]
  rcases found : q.popFront with ⟨rest, _ | elem⟩
  · rw [found] at kept
    rw [← kept] at trails ⊢
    exact .ok ⟨⟨semaphore, rfl, trails⟩, rfl⟩
  · rw [found] at kept
    rw [← kept] at trails ⊢
    apply (trails.addPermits 1).bind
    intro result result' trails
    exact .ok ⟨⟨result'.1, rfl, trails⟩, rfl⟩

theorem pollRecv_both (follows : Follows a q q') (counted : Bool) (waker : Waker) :
    Both (Alike a) (q.pollRecv counted waker) (q'.pollRecv counted waker) := by
  apply (tryRecv_both follows counted).bind
  rintro ⟨q, value, woken⟩ ⟨q', value', woken'⟩ ⟨⟨semaphore, same, trails⟩, told⟩
  dsimp only at same told trails
  subst same told
  rcases value' with (_ | _) | _
  · exact .ok ⟨⟨semaphore, rfl, trails⟩, rfl⟩
  · exact .ok ⟨⟨semaphore, rfl, trails⟩, rfl⟩
  · exact .ok ⟨⟨semaphore, rfl, trails⟩, rfl⟩

theorem decreaseSenderCount_both (follows : Follows a q q') :
    Both (Alike a) q.decreaseSenderCount q'.decreaseSenderCount := by
  obtain ⟨semaphore, rfl, trails⟩ := follows
  simp only [Queue.decreaseSenderCount]
  cases q.mask.decreaseSenderCount with
  | error fault => exact .error fault
  | ok decreased =>
    obtain ⟨mask, last⟩ := decreased
    cases last with
    | true => exact .ok ⟨⟨semaphore, rfl, trails⟩, rfl⟩
    | false => exact .ok ⟨⟨semaphore, rfl, trails⟩, rfl⟩

theorem dropPermit_both (follows : Follows a q q') :
    Both (Alike a) (BoundedQueue.dropPermit q) (BoundedQueue.dropPermit q') := by
  obtain ⟨semaphore, rfl, trails⟩ := follows
  simp only [BoundedQueue.dropPermit, BoundedQueue.unreserve]
  cases checkedSub q.extra.reserved 1 with
  | error fault => exact .error fault
  | ok reserved =>
    apply (trails.addPermits 1).bind
    intro result result' trails
    exact .ok ⟨⟨result'.1, rfl, trails⟩, rfl⟩

theorem dropAcquire_both (follows : Follows a q q') (other : b ≠ a)
    (held : q.extra.semaphore.ledger.tickets.get? b = some ticket) :
    Both (Alike a) (BoundedQueue.dropAcquire q b) (BoundedQueue.dropAcquire q' b) := by
  obtain ⟨semaphore, rfl, trails⟩ := follows
  apply (trails.dropFuture other held).bind
  intro result result' trails
  exact .ok ⟨⟨result'.1, rfl, trails⟩, rfl⟩

private theorem decreased_both {first second : Except Fault (Effect (BoundedQueue T) Unit)} (both : Both (Alike a) first second) :
    Both (Alike a)
      (do
        let before ← first
        let ⟨q, _, woken⟩ ← before.state.decreaseSenderCount
        .ok ⟨q, (), before.woken ++ woken⟩)
      (do
        let before ← second
        let ⟨q, _, woken⟩ ← before.state.decreaseSenderCount
        .ok ⟨q, (), before.woken ++ woken⟩) := by
  apply both.bind
  intro before before' alike
  apply (decreaseSenderCount_both alike.1).bind
  intro after after' alike
  exact .ok ⟨alike.1, rfl⟩

theorem drop_both (follows : Follows a q q') (future : Suspended T) (other : b ≠ a)
    (held : q.extra.semaphore.ledger.tickets.get? b = some ticket) :
    Both (Alike a) (future.drop q b) (future.drop q' b) := by
  unfold Suspended.drop
  split
  · exact decreased_both (dropAcquire_both follows other held)
  · exact dropAcquire_both follows other held

end Calls

/-- The calls that may come between: receives, and drops of permits and of other futures. -/
def quiet (a : Addr) : Action T → Bool
  | .tryRecv _ | .pollRecv _ _ | .dropPermit _ | .dropOwnedPermit _ => true
  | .dropFuture b => b != a
  | _ => false

section Step
variable {build : Build} {s s' : State T} {a : Addr} {action : Action T}

/-- Two channels with the same clients, of which the first has polled the future `a`. -/
structure Shadowed (a : Addr) (s s' : State T) : Prop where
  valid : Valid s
  suspended : (s.clients.futures.get? a).isSome = true
  clients : s'.clients = s.clients
  follows : Follows a s.queue s'.queue

theorem ticket_of_future (valid : Valid s) {future : Suspended T} (found : s.clients.futures.get? a = some future) :
    ∃ ticket, s.queue.extra.semaphore.ledger.tickets.get? a = some ticket := by
  obtain ⟨ticket, held, _⟩ := held_of_demand (valid.housed.held a future found)
  exact ⟨ticket, held⟩

private theorem map_both {β γ : Type} {first second : Except Fault (Effect (BoundedQueue T) β)}
    (both : Both (Alike a) first second) (f : β → γ) :
    Both (Alike a) (do let effect ← first; .ok (effect.map f)) (do let effect ← second; .ok (effect.map f)) := by
  apply both.bind
  intro effect effect' alike
  exact .ok ⟨alike.1, congrArg f alike.2⟩

theorem operate_both (shadowed : Shadowed a s s') (calm : quiet a action = true) :
    Both (Alike a) (operate build s action) (operate build s' action) := by
  obtain ⟨valid, _, clients, follows⟩ := shadowed
  cases action with
  | tryRecv counted => exact map_both (tryRecv_both follows counted) _
  | pollRecv counted waker => exact map_both (pollRecv_both follows counted waker) _
  | dropPermit p => exact map_both (dropPermit_both follows) _
  | dropOwnedPermit p => exact map_both (decreased_both (dropPermit_both follows)) _
  | dropFuture b =>
    have other : b ≠ a := by simpa [quiet] using calm
    simp only [operate, clients]
    cases found : s.clients.futures.get? b with
    | none => exact .error _
    | some future =>
      obtain ⟨ticket, held⟩ := ticket_of_future valid found
      exact map_both (drop_both follows future other held) _
  | _ => cases calm

private theorem record_suspended (c : Clients T) (reply : Reply T) (calm : quiet a action = true) :
    (record c reply action).futures.get? a = c.futures.get? a := by
  cases action with
  | tryRecv | pollRecv | dropPermit | dropOwnedPermit => rfl
  | dropFuture b =>
    have other : b ≠ a := by simpa [quiet] using calm
    exact Arena.get?_free_ne _ other.symm
  | _ => cases calm

/-- The step lemma: a quiet call keeps the two channels together. -/
theorem step_both (shadowed : Shadowed a s s') (calm : quiet a action = true) :
    ((system T build).Enabled s action ↔ (system T build).Enabled s' action) ∧
      ((system T build).Enabled s action →
        Both (fun result result' => Shadowed a result.1 result'.1)
          ((system T build).step s action) ((system T build).step s' action)) := by
  have clients := shadowed.clients
  constructor
  · simp only [system, clients]
  · intro able
    have both : Both (Alike a) (operate build s action) (operate build s' action) := operate_both shadowed calm
    generalize first : operate build s action = result, second : operate build s' action = result' at both
    simp only [system, step, first, second]
    cases both with
    | error fault => exact .error fault
    | @ok effect effect' alike =>
      obtain ⟨follows, same⟩ := alike
      refine .ok ⟨valid_step shadowed.valid able first, ?_, by rw [same, clients], follows⟩
      rw [record_suspended _ _ calm]
      exact shadowed.suspended

end Step

section Cancel
variable {build : Build} {s s' : State T} {a : Addr} {waker : Waker}

/-- The same in every respect but the links between the waiters. -/
structure Untraced (s s' : State T) : Prop where
  clients : s'.clients = s.clients
  queue : s'.queue = { s.queue with extra.semaphore := s'.queue.extra.semaphore }
  ledger : s'.queue.extra.semaphore.ledger = s.queue.extra.semaphore.ledger

/-- What a client can tell of a channel: its slots, and who waits for one or holds one. -/
structure Seen (T : Type) where
  capacity : Nat
  items : List T
  reserved : Nat
  blocked : List Addr
  granted : List Addr
  deriving DecidableEq, Repr

def observe (s : State T) : Seen T where
  capacity := s.queue.capacity
  items := s.queue.items
  reserved := s.queue.extra.reserved
  blocked := s.queue.extra.semaphore.queue
  granted := (List.range s.clients.futures.size).filter fun a =>
    (s.clients.futures.get? a).isSome && (s.queue.extra.semaphore.memory.get? a).any holdsSlot

def fresh (s : State T) (a : Addr) : Bool :=
  (s.queue.extra.semaphore.memory.get? a).any fun waiter => waiter.state == .inert

theorem shadowed_of_pending (valid : Valid s) {effect : Effect (BoundedQueue T) (Reply T)}
    (able : enabled s.clients (.pollFuture a waker) = true) (unpolled : fresh s a = true)
    (operated : operate build s (.pollFuture a waker) = .ok effect) (pending : effect.value = .pending) :
    Shadowed a ⟨effect.state, record s.clients effect.value (.pollFuture a waker)⟩ s := by
  refine ⟨valid_step valid able operated, by rw [pending]; exact able, by rw [pending]; rfl, ?_⟩
  cases pollFuture_ok operated with
  | @pending future semaphore woken found awaited =>
    refine ⟨s.queue.extra.semaphore, rfl, ?_⟩
    obtain ⟨ticket, held⟩ := ticket_of_future valid found
    obtain ⟨sound, ⟨_, _, polled⟩ | ⟨ready, _⟩ | ⟨⟨_, ready⟩, _⟩⟩ := awaitAcquire_ok valid.housed.sound held awaited
    · have inert : ticket.state = .inert := by
        obtain ⟨waiter, live, state⟩ := (Option.any_eq_true ..).mp unpolled
        have same : s.queue.extra.semaphore.ledger.tickets.get? a = some waiter.ticket := by simp [Semaphore.ledger, live]
        cases held.symm.trans same
        exact beq_iff_eq.mp state
      have opened : s.queue.extra.semaphore.ledger.closed = false := by
        apply Bool.eq_false_iff.mpr
        intro closed
        rw [Ledger.poll_closed closed] at polled
        cases congrArg Prod.snd polled
      have shadows := Shadows.start valid.housed.sound.valid valid.housed.single opened held inert (congrArg Prod.snd polled)
      rw [polled] at shadows
      exact ⟨sound, valid.housed.sound, shadows⟩
    · cases ready
    · cases ready
  | sent | unsent | reserved | unreserved | reservedOwned | unreservedOwned => cases pending

private theorem Trails.cancel {s s' : Semaphore} (trails : Trails a s s') :
    ∃ t woken t' woken', s.dropFuture a = .ok (t, woken) ∧ s'.dropFuture a = .ok (t', woken') ∧
      t.ledger = s'.ledger.forget a ∧ t'.ledger = s'.ledger.forget a := by
  obtain ⟨ticket, held⟩ : ∃ ticket, s.ledger.tickets.get? a = some ticket := by
    cases trails.shadows.stands with
    | last ticket held | granted ticket held => exact ⟨ticket, held⟩
  obtain ⟨idle, held', inert⟩ := trails.shadows.idle
  have nothing := ((trails.shadows.valid'.ticket a idle held').inert inert).1
  obtain ⟨t, dropped, same, _⟩ := trails.sound.dropFuture held
  obtain ⟨t', dropped', same', _⟩ := trails.sound'.dropFuture held'
  refine ⟨t, _, t', _, dropped, dropped', same.trans (trails.shadows.cancel held), ?_⟩
  rw [same', drop_empty trails.shadows.valid' nothing]

theorem drop_cancel {q q' : BoundedQueue T} (follows : Follows a q q') (future : Suspended T)
    (counted : future.owned = true → 2 ≤ q.mask.bits) :
    ∃ (rest : BoundedQueue T) (t : Semaphore) (woken : List Waker) (t' : Semaphore) (woken' : List Waker),
      future.drop q a = .ok ⟨{ rest with extra.semaphore := t }, (), woken⟩ ∧
      future.drop q' a = .ok ⟨{ rest with extra.semaphore := t' }, (), woken'⟩ ∧
      rest.items = q'.items ∧ rest.extra.reserved = q'.extra.reserved ∧
      t.ledger = q'.extra.semaphore.ledger.forget a ∧ t'.ledger = q'.extra.semaphore.ledger.forget a := by
  obtain ⟨semaphore, rfl, trails⟩ := follows
  obtain ⟨t, woken, t', woken', dropped, dropped', same, same'⟩ := trails.cancel
  unfold Suspended.drop
  split
  next owned =>
    obtain ⟨_, decreased⟩ := decreaseSenderCount_total (counted owned)
    obtain ⟨⟨mask, last⟩, lowered, _⟩ := bind_ok decreased
    simp only [BoundedQueue.dropReserveOwned, BoundedQueue.dropAcquire, dropped, dropped', ok_bind, Queue.decreaseSenderCount,
      lowered]
    cases last with
    | true => exact ⟨{ q with mask, waker := none }, t, _, t', _, rfl, rfl, rfl, rfl, same, same'⟩
    | false => exact ⟨{ q with mask }, t, _, t', _, rfl, rfl, rfl, rfl, same, same'⟩
  next borrows =>
    simp only [BoundedQueue.dropAcquire, dropped, dropped', ok_bind]
    exact ⟨q, t, _, t', _, rfl, rfl, rfl, rfl, same, same'⟩

private theorem holdsSlot_ledger (s : Semaphore) (b : Addr) : (s.memory.get? b).any holdsSlot =
    (s.ledger.tickets.get? b).any fun ticket => ticket.state == .woken && ticket.permits == 1 := by
  simp only [Semaphore.ledger, Arena.get?_map, Option.any_map]
  rfl

private theorem observe_forget {rest q' : BoundedQueue T} {t : Semaphore} {c : Clients T} (items : rest.items = q'.items)
    (reserved : rest.extra.reserved = q'.extra.reserved) (absent : a ∉ q'.extra.semaphore.queue)
    (idle : ∃ ticket, q'.extra.semaphore.ledger.tickets.get? a = some ticket ∧ ticket.state = .inert)
    (same : t.ledger = q'.extra.semaphore.ledger.forget a) :
    observe ⟨{ rest with extra.semaphore := t }, { c with futures := c.futures.free a }⟩ = observe ⟨q', c⟩ := by
  have queue : t.queue = q'.extra.semaphore.queue := by
    have erased : t.queue = q'.extra.semaphore.queue.erase a := congrArg Ledger.queue same
    rw [erased, List.erase_of_not_mem absent]
  have capacity : t.shared.permits = q'.extra.semaphore.shared.permits := congrArg Ledger.permits same
  have holders : ∀ b, (((c.futures.free a).get? b).isSome && (t.memory.get? b).any holdsSlot) =
      ((c.futures.get? b).isSome && (q'.extra.semaphore.memory.get? b).any holdsSlot) := by
    intro b
    rw [holdsSlot_ledger, holdsSlot_ledger, same]
    by_cases own : b = a
    · subst own
      obtain ⟨ticket, held, inert⟩ := idle
      simp [held, inert]
    · simp [own, Ledger.forget]
  simp only [observe, BoundedQueue.capacity, Semaphore.availablePermits, Arena.size_free, holders, queue, capacity, reserved]
  exact congrArg (fun items => (⟨_, items, _, _, _⟩ : Seen T)) items

/-- Dropping the future makes the first channel look like the second one, and be like it
once the future is dropped there as well. -/
theorem step_cancelled (shadowed : Shadowed a s s') :
    ∃ after outcome after' outcome', (system T build).step s (.dropFuture a) = .ok (after, outcome) ∧
      (system T build).step s' (.dropFuture a) = .ok (after', outcome') ∧ observe after = observe s' ∧ Untraced after after' := by
  obtain ⟨future, found⟩ := Option.isSome_iff_exists.mp shadowed.suspended
  have counted : future.owned = true → 2 ≤ s.queue.mask.bits := by
    intro owned
    have some := Arena.count_pos found owned
    have covers := shadowed.valid.counted
    simp only [Clients.senderCount] at covers
    omega
  obtain ⟨rest, t, woken, t', woken', dropped, dropped', items, reserved, same, same'⟩ :=
    drop_cancel shadowed.follows future counted
  have clients := shadowed.clients
  have found' : s'.clients.futures.get? a = some future := by rw [clients, found]
  simp only [system, step, operate, found, found', dropped, dropped', ok_bind]
  refine ⟨_, _, _, _, rfl, rfl, ?_, ⟨?_, rfl, same'.trans same.symm⟩⟩
  · obtain ⟨semaphore, shape, trails⟩ := shadowed.follows
    have own : s'.queue.extra.semaphore = semaphore := by rw [shape]
    rw [← own] at trails
    have seen := observe_forget (c := s'.clients) items reserved trails.shadows.absent trails.shadows.idle same
    rw [← seen, clients]
    rfl
  · rw [clients]
    rfl

end Cancel

section Run
variable {build : Build} {start s polled : State T} {past : History (State T) (Action T) (Outcome T)} {a : Addr}
  {waker : Waker} {outcome : Outcome T} {actions : List (Action T)}

theorem fresh_of_unpolled (run : (system T build).Run start past s) (suspended : (s.clients.futures.get? a).isSome = true)
    (untouched : ∀ event ∈ past, ∀ waker, event.action ≠ .pollFuture a waker) : fresh s a = true := by
  obtain ⟨future, found⟩ := Option.isSome_iff_exists.mp suspended
  obtain ⟨ticket, held⟩ := ticket_of_future (run_valid run) found
  have inert := UnpolledFutures.run_unpolled run untouched ticket held
  simp only [Semaphore.ledger, Arena.get?_map, Option.map_eq_some_iff] at held
  obtain ⟨waiter, live, rfl⟩ := held
  exact (Option.any_eq_true ..).mpr ⟨waiter, live, beq_iff_eq.mpr inert⟩

/-- A send or reserve that is polled once, stays pending, and is dropped after any number of receives,
drops of permits and drops of other futures, leaves the channel as if it had never been polled: to all
who look at it, and, once it is dropped unpolled there too, in everything but the links of the waiters. -/
theorem run_cancelled (run : (system T build).Run start past s) (unpolled : fresh s a = true)
    (stepped : (system T build).step s (.pollFuture a waker) = .ok (polled, outcome)) (pending : outcome.reply = .pending)
    (calm : ∀ action ∈ actions, quiet a action = true) :
    ((system T build).play past s (.pollFuture a waker :: (actions ++ [.dropFuture a]))).map (fun result => observe result.2) =
        ((system T build).play past s actions).map (fun result => observe result.2) ∧
      Option.Rel (fun result result' => Untraced result.2 result'.2)
        ((system T build).play past s (.pollFuture a waker :: (actions ++ [.dropFuture a])))
        ((system T build).play past s (actions ++ [.dropFuture a])) := by
  obtain ⟨effect, operated, shape, told⟩ := step_ok stepped
  have able : enabled s.clients (.pollFuture a waker) = true := by
    cases found : s.clients.futures.get? a with
    | none => simp [operate, found] at operated
    | some future => simp [enabled, found]
  have shadowed := shadowed_of_pending (run_valid run) able unpolled operated (by rw [← pending, told])
  rw [← shape] at shadowed
  have ends : ∀ r r' : History (State T) (Action T) (Outcome T) × State T, Shadowed a r.2 r'.2 →
      ∃ after after', (system T build).play r.1 r.2 [.dropFuture a] = some after ∧
        (system T build).play r'.1 r'.2 [.dropFuture a] = some after' ∧ observe after.2 = observe r'.2 ∧
        Untraced after.2 after'.2 := by
    intro r r' shadowed
    obtain ⟨after, outcome, after', outcome', dropped, dropped', seen, untraced⟩ := step_cancelled shadowed
    have able : (system T build).Enabled r.2 (.dropFuture a) := shadowed.suspended
    have able' : (system T build).Enabled r'.2 (.dropFuture a) := by
      simp only [system, shadowed.clients]
      exact able
    exact ⟨_, _, System.play_cons _ _ able dropped [], System.play_cons _ _ able' dropped' [], seen, untraced⟩
  have both : ∀ past past', Option.Rel (fun result result' => Shadowed a result.2 result'.2)
      ((system T build).play past polled actions) ((system T build).play past' s actions) := fun past past' =>
    System.play_both (fun action member _ _ shadowed => step_both shadowed (calm action member)) shadowed
  have plays := both (⟨s, .pollFuture a waker, outcome, polled⟩ :: past) past
  rw [System.play_cons _ _ able stepped, System.play_append, System.play_append]
  generalize (system T build).play _ polled actions = first, (system T build).play past s actions = second at plays ⊢
  cases plays with
  | none => exact ⟨rfl, .none⟩
  | some shadowed =>
    obtain ⟨after, after', dropped, dropped', seen, untraced⟩ := ends _ _ shadowed
    simp only [Option.bind_some, dropped, dropped', Option.map_some, seen]
    exact ⟨trivial, .some untraced⟩

end Run

/-- The blocked send was granted the slot of the element that was received meanwhile. -/
theorem run_cancelled_granted :
    ∃ past s, (system Nat .checked).play [] (.new (.fromIter 1 [])) [.split, .trySend (.sender 0) 7, .send (.sender 0) 8] =
        some (past, s) ∧
      ((system Nat .checked).play past s (.pollFuture 0 5 :: ([.tryRecv true] ++ [.dropFuture 0]))).map
          (fun result => observe result.2) =
        ((system Nat .checked).play past s [.tryRecv true]).map (fun result => observe result.2) ∧
      ((system Nat .checked).play past s [.tryRecv true]).map (fun result => observe result.2) = some ⟨1, [], 0, [], []⟩ := by
  obtain ⟨past, s, played, run, unpolled, seen, waits⟩ := (system Nat .checked).exists_run (.new (.fromIter 1 []))
    ⟨_, .inr (.inr ⟨1, by decide, [], by decide, rfl⟩), rfl⟩ [.split, .trySend (.sender 0) 7, .send (.sender 0) 8]
    (fun past s => fresh s 0 = true ∧
      ((system Nat .checked).play past s [.tryRecv true]).map (fun result => observe result.2) = some ⟨1, [], 0, [], []⟩ ∧
      ((system Nat .checked).step s (.pollFuture 0 5)).toOption.map (fun result => result.2.reply) = some .pending) (by decide)
  refine ⟨past, s, played, ?_, seen⟩
  cases stepped : (system Nat .checked).step s (.pollFuture 0 5) with
  | error fault => simp [stepped, Except.toOption] at waits
  | ok result =>
    have pending : result.2.reply = .pending := by simpa [stepped, Except.toOption] using waits
    exact (run_cancelled run unpolled stepped pending (by decide)).1

end AsyncUnsync.Proofs.CancelledSends
