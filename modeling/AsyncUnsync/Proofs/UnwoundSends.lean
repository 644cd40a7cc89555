import AsyncUnsync.Proofs.CapacityConservation
import AsyncUnsync.Proofs.Disconnection
import AsyncUnsync.Proofs.GrantedSlots
import AsyncUnsync.Unwinding

/-! What a panic of the receiver's waker leaves behind in each of the calls that send.
Those that gave up their permit before the waker runs are complete by then. -/

namespace AsyncUnsync.Proofs.UnwoundSends
open Memory Transition QueueCalls FuturePolls BoundedClients BoundedCensus BoundedValid SlotAccounting SlotBalance
open CapacityConservation GrantedSlots LedgerSimulation
open BoundedSystem (State Clients Reply)
variable {T : Type}

abbrev pushed (q : BoundedQueue T) (elem : T) : BoundedQueue T := { q with queue := q.queue.pushBack elem }

/-- Everything that a call can have done when its panic is caught, and the element that it sent. -/
inductive Unwound (s : State T) :
    BoundedSystem.Action T → T → Effect (BoundedQueue T) (Completion (Reply T)) → Prop where
  | trySend {via : Via} {elem : T} {semaphore : Semaphore}
      (acquired : s.queue.extra.semaphore.tryAcquireMany 1 = .ok semaphore) :
      Unwound s (.trySend via elem) elem ⟨pushed (settled s semaphore) elem, .panicked, s.queue.waker.toList⟩
  | send {a : Addr} {waker : Waker} {via : Via} {elem : T} {semaphore : Semaphore} {woken : List Waker}
      (found : s.clients.futures.get? a = some (.send via elem))
      (awaited : s.queue.extra.semaphore.awaitAcquire a waker = .ok ⟨semaphore, .ready (.ok ()), woken⟩) :
      Unwound s (.pollFuture a waker) elem ⟨pushed (settled s semaphore) elem, .panicked, woken ++ s.queue.waker.toList⟩
  | permit {p : Addr} {elem : T} {dropped : Effect (BoundedQueue T) Unit}
      (returned : BoundedQueue.dropPermit (pushed s.queue elem) = .ok dropped) :
      Unwound s (.permitSend p elem) elem ⟨dropped.state, .panicked, s.queue.waker.toList ++ dropped.woken⟩
  | owned {p : Addr} {elem : T} {dropped : Effect (BoundedQueue T) Unit}
      (decreased : (pushed s.queue elem).decreaseSenderCount = .ok dropped) :
      Unwound s (.ownedPermitSend p elem) elem ⟨dropped.state, .panicked, s.queue.waker.toList ++ dropped.woken⟩

section Calls
variable {build : Build} {s : State T} {action : Unwinding.Action T} {q : BoundedQueue T} {panics : Bool} {elem : T}

theorem pushAndWake_eq {B : Type} (panics : Bool) (q : Queue T B) (elem : T) :
    Unwinding.pushAndWake panics q elem =
      ⟨(q.pushAndWake elem).state, if panics && q.waker.isSome then .panicked else .returned (), q.waker.toList⟩ := by
  cases waker : q.waker <;> simp [Unwinding.pushAndWake, Queue.pushAndWake, waker]

theorem reservedSend_ok {unwind : BoundedQueue T → Except Fault (Effect (BoundedQueue T) Unit)}
    {effect : Effect (BoundedQueue T) (Completion Unit)} (done : Unwinding.reservedSend unwind panics q elem = .ok effect) :
    (∃ sent, BoundedQueue.permitSend q elem = .ok sent ∧ effect = sent.map .returned) ∨
      ∃ dropped, unwind (pushed q elem) = .ok dropped ∧
        effect = ⟨dropped.state, .panicked, q.waker.toList ++ dropped.woken⟩ := by
  simp only [Unwinding.reservedSend, Unwinding.unboundedSend, pushAndWake_eq] at done
  by_cases stops : (panics && q.waker.isSome) = true
  · rw [if_pos stops] at done
    obtain ⟨dropped, unwound, stored⟩ := bind_ok done
    cases stored
    exact .inr ⟨dropped, unwound, rfl⟩
  · rw [if_neg stops] at done
    obtain ⟨unreserved, consumed, stored⟩ := bind_ok done
    cases stored
    refine .inl ⟨⟨unreserved.state, (), q.waker.toList ++ unreserved.woken⟩, ?_, rfl⟩
    simp only [BoundedQueue.permitSend, BoundedQueue.unboundedSend, consumed, ok_bind]
    rfl

theorem trySend_ok (panics : Bool) (q : BoundedQueue T) (elem : T) :
    Unwinding.trySend panics q elem = (BoundedQueue.trySend q elem).map .returned ∨
      ∃ semaphore, q.extra.semaphore.tryAcquireMany 1 = .ok semaphore ∧ Unwinding.trySend panics q elem =
        ⟨pushed { q with extra.semaphore := semaphore } elem, .panicked, q.waker.toList⟩ := by
  cases tried : q.extra.semaphore.tryAcquireMany 1 with
  | error error => exact .inl (by simp only [Unwinding.trySend, BoundedQueue.trySend, tried]; rfl)
  | ok semaphore =>
    simp only [Unwinding.trySend, BoundedQueue.trySend, tried, pushAndWake_eq]
    by_cases stops : (panics && q.waker.isSome) = true
    · rw [if_pos stops]
      exact .inr ⟨semaphore, rfl, rfl⟩
    · rw [if_neg stops]
      exact .inl rfl

theorem send_ok {a : Addr} {waker : Waker} {effect : Effect (BoundedQueue T) (Completion (Poll (Except (SendError T) Unit)))}
    (done : Unwinding.send panics q a waker elem = .ok effect) :
    (∃ sent, BoundedQueue.send q a waker elem = .ok sent ∧ effect = sent.map .returned) ∨
      ∃ semaphore woken, q.extra.semaphore.awaitAcquire a waker = .ok ⟨semaphore, .ready (.ok ()), woken⟩ ∧
        effect = ⟨pushed { q with extra.semaphore := semaphore } elem, .panicked, woken ++ q.waker.toList⟩ := by
  obtain ⟨⟨semaphore, acquired, woken⟩, awaited, rest⟩ := bind_ok done
  simp only [BoundedQueue.send, awaited, ok_bind]
  dsimp only at rest
  split at rest
  · cases rest
    exact .inl ⟨_, rfl, rfl⟩
  · cases rest
    exact .inl ⟨_, rfl, rfl⟩
  · simp only [pushAndWake_eq] at rest
    by_cases stops : (panics && q.waker.isSome) = true
    · rw [if_pos stops] at rest
      cases rest
      exact .inr ⟨_, _, rfl, rfl⟩
    · rw [if_neg stops] at rest
      cases rest
      exact .inl ⟨_, rfl, rfl⟩

theorem operate_ok {effect : Effect (BoundedQueue T) (Completion (Reply T))}
    (operated : Unwinding.operate build s action = .ok effect) :
    (∃ calm, BoundedSystem.operate build s action.call = .ok calm ∧ effect = calm.map .returned) ∨
      ∃ elem, Unwound s action.call elem effect := by
  obtain ⟨call, panics⟩ := action
  have calm : ∀ {effect}, Unwinding.operateCalmly build s call = .ok effect →
      ∃ calm, BoundedSystem.operate build s call = .ok calm ∧ effect = calm.map .returned := by
    intro effect done
    obtain ⟨calm, operated, stored⟩ := bind_ok done
    cases stored
    exact ⟨calm, operated, rfl⟩
  cases call with
  | trySend via elem =>
    cases operated
    rcases trySend_ok panics s.queue elem with same | ⟨semaphore, acquired, same⟩
    · exact .inl ⟨_, rfl, by rw [same]; rfl⟩
    · rw [same]
      exact .inr ⟨elem, .trySend acquired⟩
  | pollFuture a waker =>
    simp only [Unwinding.operate] at operated
    split at operated
    next via elem found =>
      obtain ⟨sent, done, stored⟩ := bind_ok operated
      cases stored
      rcases send_ok done with ⟨calm, sending, rfl⟩ | ⟨semaphore, woken, awaited, rfl⟩
      · left
        simp only [BoundedSystem.operate, found, sending, ok_bind]
        exact ⟨_, rfl, rfl⟩
      · exact .inr ⟨elem, .send found awaited⟩
    next => exact .inl (calm operated)
  | permitSend p elem =>
    obtain ⟨sent, done, stored⟩ := bind_ok operated
    cases stored
    rcases reservedSend_ok done with ⟨calm, sending, rfl⟩ | ⟨dropped, returned, rfl⟩
    · left
      simp only [BoundedSystem.operate, sending, ok_bind]
      exact ⟨_, rfl, rfl⟩
    · exact .inr ⟨elem, .permit returned⟩
  | ownedPermitSend p elem =>
    obtain ⟨sent, done, stored⟩ := bind_ok operated
    cases stored
    rcases reservedSend_ok done with ⟨calm, sending, rfl⟩ | ⟨dropped, decreased, rfl⟩
    · left
      simp only [BoundedSystem.operate, sending, ok_bind]
      exact ⟨_, rfl, rfl⟩
    · exact .inr ⟨elem, .owned decreased⟩
  | _ => exact .inl (calm operated)

end Calls

/-- A permit is what such a call still has when the waker runs. -/
def byPermit : BoundedSystem.Action T → Bool
  | .permitSend _ _ | .ownedPermitSend _ _ => true
  | _ => false

def answer : BoundedSystem.Action T → Reply T
  | .trySend _ _ => .trySent (.ok ())
  | .pollFuture _ _ => .sent (.ok ())
  | _ => .done

section Step
variable {build : Build} {s : State T} {call : BoundedSystem.Action T} {elem : T}
  {effect : Effect (BoundedQueue T) (Completion (Reply T))}

/-- Without a permit, all is done that would have been done. -/
theorem Unwound.calm (build : Build) (unwound : Unwound s call elem effect) (spared : byPermit call = false) :
    BoundedSystem.operate build s call = .ok ⟨effect.state, answer call, effect.woken⟩ ∧
      Unwinding.record s.clients effect.value call = BoundedSystem.record s.clients (answer call) call := by
  cases unwound with
  | trySend acquired =>
    simp only [BoundedSystem.operate, BoundedQueue.trySend, acquired]
    exact ⟨rfl, rfl⟩
  | send found awaited =>
    simp only [BoundedSystem.operate, found, BoundedQueue.send, awaited, ok_bind]
    exact ⟨rfl, rfl⟩
  | permit | owned => cases spared

/-- What holds in every state of every run, panics and leaks included. -/
structure Sturdy (s : State T) : Prop extends Valid s where
  granted : Granted s.queue

theorem Sturdy.calm (sturdy : Sturdy s) (able : BoundedSystem.enabled s.clients call = true)
    {effect : Effect (BoundedQueue T) (Reply T)} (operated : BoundedSystem.operate build s call = .ok effect) :
    Sturdy ⟨effect.state, BoundedSystem.record s.clients effect.value call⟩ :=
  ⟨valid_step sturdy.toValid able operated,
    sturdy.granted.keeps (persists_granting.step sturdy.housed (fun _ _ _ => trivial) operated)⟩

private theorem Sturdy.owned (sturdy : Sturdy s) {p : Addr} (live : (s.clients.ownedPermits.get? p).isSome = true)
    {dropped : Effect (BoundedQueue T) Unit} (decreased : (pushed s.queue elem).decreaseSenderCount = .ok dropped) :
    Sturdy ⟨dropped.state, { s.clients with ownedPermits := s.clients.ownedPermits.free p }⟩ := by
  have freed := Arena.count_free_live live
  obtain ⟨_, extra⟩ := decreaseSenderCount_rest decreased
  refine ⟨⟨⟨sturdy.coherent.borrowed, fun channel => ?_⟩, by rw [extra]; exact sturdy.housed, ?_⟩, ?_⟩
  · obtain ⟨permits, futures⟩ := sturdy.coherent.owned channel
    exact ⟨by simp only; omega, futures⟩
  · have counted := sturdy.counted
    simp only [BoundedSystem.Clients.senderCount] at counted freed ⊢
    obtain ⟨some, ⟨few, rfl⟩ | ⟨many, rfl⟩⟩ := decreaseSenderCount_ok decreased
    · simp only at few some ⊢
      omega
    · simp only at many ⊢
      omega
  · exact sturdy.granted.keeps (.same extra)

theorem Sturdy.unwound (sturdy : Sturdy s) (able : BoundedSystem.enabled s.clients call = true)
    (unwound : Unwound s call elem effect) : Sturdy ⟨effect.state, Unwinding.record s.clients effect.value call⟩ := by
  cases spared : byPermit call with
  | false =>
    obtain ⟨operated, recorded⟩ := unwound.calm .checked spared
    rw [recorded]
    exact sturdy.calm able operated
  | true =>
    cases unwound with
    | trySend | send => cases spared
    | @permit p elem dropped returned =>
      have before : Sturdy ⟨pushed s.queue elem, s.clients⟩ :=
        ⟨⟨sturdy.coherent, sturdy.housed, sturdy.counted⟩, sturdy.granted.keeps (.same rfl)⟩
      have operated : BoundedSystem.operate .checked ⟨pushed s.queue elem, s.clients⟩ (.dropPermit p) =
          .ok (dropped.map fun _ => .done) := by simp only [BoundedSystem.operate, returned, ok_bind]
      have live : BoundedSystem.enabled s.clients (.dropPermit p : BoundedSystem.Action T) = true := able
      exact before.calm live operated
    | owned decreased => exact sturdy.owned able decreased

end Step

def sentBy (s : State T) : BoundedSystem.Action T → Option T
  | .trySend _ elem | .permitSend _ elem | .ownedPermitSend _ elem => some elem
  | .pollFuture a _ => (s.clients.futures.get? a).bind BoundedSystem.Suspended.elem
  | _ => none

/-- Where every slot is. A future that was leaked keeps the slot that it was granted. -/
structure Intact (s : State T) : Prop where
  slots : s.queue.capacity + s.queue.len + s.queue.extra.reserved + s.queue.extra.semaphore.memory.count holdsSlot =
    s.queue.maxCapacity
  reserved : s.queue.extra.reserved =
    s.clients.permits.count (fun _ => true) + s.clients.ownedPermits.count fun _ => true

instance (s : State T) : Decidable (Intact s) :=
  decidable_of_iff (_ ∧ _) ⟨fun ⟨slots, reserved⟩ => ⟨slots, reserved⟩, fun intact => ⟨intact.slots, intact.reserved⟩⟩

section Slots
variable {s : State T} {call : BoundedSystem.Action T} {elem : T} {effect : Effect (BoundedQueue T) (Completion (Reply T))}

theorem Unwound.panicked (unwound : Unwound s call elem effect) : effect.value = .panicked := by
  cases unwound <;> rfl

theorem Unwound.sent (unwound : Unwound s call elem effect) :
    sentBy s call = some elem ∧ effect.state.items = s.queue.items ++ [elem] := by
  cases unwound with
  | trySend => exact ⟨rfl, rfl⟩
  | send found => exact ⟨by simp [sentBy, found, BoundedSystem.Suspended.elem], rfl⟩
  | permit returned =>
    obtain ⟨_, _, _, same⟩ := dropPermit_ok returned
    exact ⟨rfl, by simp [same]⟩
  | owned decreased => exact ⟨rfl, (decreaseSenderCount_rest decreased).1⟩

private theorem slots_iff (sturdy : Sturdy s) :
    s.queue.capacity + s.queue.len + s.queue.extra.reserved + s.queue.extra.semaphore.memory.count holdsSlot =
        s.queue.maxCapacity ↔
      PermitTotals.owned s.queue.extra.semaphore.ledger + s.queue.items.length + s.queue.extra.reserved =
        s.queue.extra.maxCapacity := by
  have slots := slots_eq sturdy.housed.sound.valid sturdy.housed.single
  simp only [BoundedQueue.capacity, BoundedQueue.maxCapacity, Queue.len, Deque.len, Queue.items_eq]
  omega

private theorem awaited_owned (sturdy : Sturdy s) {a : Addr} {waker : Waker} {future : BoundedSystem.Suspended T}
    {semaphore : Semaphore} {woken : List Waker} (found : s.clients.futures.get? a = some future)
    (awaited : s.queue.extra.semaphore.awaitAcquire a waker = .ok ⟨semaphore, .ready (.ok ()), woken⟩) :
    PermitTotals.owned semaphore.ledger + 1 = PermitTotals.owned s.queue.extra.semaphore.ledger := by
  obtain ⟨ticket, held, one⟩ := held_of_demand (sturdy.housed.held a future found)
  have freed := PermitTotals.forget_owned held
  have sound := sturdy.housed.sound
  obtain ⟨_, ⟨pending, _⟩ | ⟨_, _, opened, ⟨state, same⟩ | ⟨state, enough, same⟩⟩ | ⟨⟨_, failed⟩, _⟩⟩ :=
    awaitAcquire_ok sound held awaited
  · cases pending
  · have full := sturdy.granted.granting opened a ticket held state
    simp only [same]
    omega
  · have nothing := ((sound.valid.ticket a ticket held).inert state).1
    simp only [same, PermitTotals.owned, Ledger.forget] at freed ⊢
    omega
  · cases failed

/-- A call that has no permit leaves every slot where it belongs. -/
theorem Unwound.intact (sturdy : Sturdy s) (able : BoundedSystem.enabled s.clients call = true)
    (unwound : Unwound s call elem effect) (spared : byPermit call = false) (intact : Intact s) :
    Intact ⟨effect.state, Unwinding.record s.clients effect.value call⟩ := by
  have after := sturdy.unwound able unwound
  have slots := (slots_iff sturdy).mp intact.slots
  cases unwound with
  | trySend acquired =>
    obtain ⟨_, _, taken⟩ := tryAcquireMany_ok sturdy.housed.sound acquired
    have fewer := PermitTotals.tryAcquire_owned taken
    refine ⟨(slots_iff after).mpr ?_, intact.reserved⟩
    simp only [Queue.items_mk, Deque.items_pushBack, Queue.items_eq, List.length_append, List.length_singleton]
    omega
  | send found awaited =>
    have fewer := awaited_owned sturdy found awaited
    refine ⟨(slots_iff after).mpr ?_, intact.reserved⟩
    simp only [Queue.items_mk, Deque.items_pushBack, Queue.items_eq, List.length_append, List.length_singleton]
    omega
  | permit | owned => cases spared

/-- The slot of a permit is given back, though the element has taken it; or an owned permit is
gone, but not its reservation. -/
theorem Unwound.damaged (sturdy : Sturdy s) (able : BoundedSystem.enabled s.clients call = true)
    (unwound : Unwound s call elem effect) (reserves : byPermit call = true) (intact : Intact s) :
    ¬ Intact ⟨effect.state, Unwinding.record s.clients effect.value call⟩ := by
  intro still
  have after := sturdy.unwound able unwound
  have slots := (slots_iff sturdy).mp intact.slots
  have slots' := (slots_iff after).mp still.slots
  have bound := sturdy.granted.bound
  cases unwound with
  | trySend | send => cases reserves
  | permit returned =>
    obtain ⟨some, semaphore, added, same⟩ := dropPermit_ok returned
    obtain ⟨_, ledger, _⟩ := addPermits_ok sturdy.housed.sound added
    have more := addPermits_slots sturdy.housed.single sturdy.housed.sound.valid (n := 1) (by simp only at some; omega)
    rw [← ledger] at more
    simp only [same, Queue.items_mk, Deque.items_pushBack, Queue.items_eq, List.length_append, List.length_singleton]
      at slots' some
    omega
  | @owned p elem dropped decreased =>
    have freed := Arena.count_free_live able
    have left := still.reserved
    have reserved := intact.reserved
    simp only [Unwinding.record, (decreaseSenderCount_rest decreased).2] at left freed
    omega

end Slots

/-- The element is in the queue once, and every slot is still where it belongs. -/
structure Survived (event : Event (State T) (Unwinding.Action T) (Unwinding.Outcome T)) : Prop where
  sent : ∃ elem, sentBy event.before event.action.call = some elem ∧
    event.after.queue.items = event.before.queue.items ++ [elem]
  intact : Intact event.after

def Spared (event : Event (State T) (Unwinding.Action T) (Unwinding.Outcome T)) : Prop :=
  event.outcome.reply = .panicked → byPermit event.action.call = false

instance [DecidableEq T] (event : Event (State T) (Unwinding.Action T) (Unwinding.Outcome T)) : Decidable (Spared event) :=
  inferInstanceAs (Decidable (_ → _))

def calm : Event (State T) (Unwinding.Action T) (Unwinding.Outcome T) →
    Event (State T) (BoundedSystem.Action T) (BoundedSystem.Outcome T) :=
  Event.image id (fun event => event.action.call) fun event =>
    match event.outcome.reply with
    | .returned reply => ⟨reply, event.outcome.woken⟩
    | .panicked => ⟨answer event.action.call, event.outcome.woken⟩

/-- An owned permit that was in scope takes its reservation along. -/
def takesReservation (reply : Completion (Reply T)) (call : BoundedSystem.Action T) : Bool :=
  match reply, call with
  | .panicked, .ownedPermitSend _ _ => true
  | _, _ => false

def losesReservation (event : Event (State T) (Unwinding.Action T) (Unwinding.Outcome T)) : Bool :=
  takesReservation event.outcome.reply event.action.call

section Run
variable {build : Build} {start final : State T} {past history : History (State T) (Unwinding.Action T) (Unwinding.Outcome T)}
  {event : Event (State T) (Unwinding.Action T) (Unwinding.Outcome T)}

theorem run_sturdy (run : (Unwinding.system T build).Run start history final) : Sturdy final := by
  apply run.invariant (fun _ state => Sturdy state)
  · intro initial
    have initial : (BoundedSystem.system T build).Initial start := initial
    exact ⟨valid_initial initial, granted_initial initial⟩
  · intro past before action outcome after _ sturdy able stepped
    obtain ⟨effect, operated, rfl, _⟩ := Unwinding.step_ok stepped
    rcases operate_ok operated with ⟨calm, calling, rfl⟩ | ⟨elem, unwound⟩
    · exact sturdy.calm able calling
    · exact sturdy.unwound able unwound

private theorem run_step (run : (Unwinding.system T build).Run start (event :: past) final) :
    Sturdy event.before ∧ BoundedSystem.enabled event.before.clients event.action.call = true ∧
      ∃ effect, event.after = ⟨effect.state, Unwinding.record event.before.clients effect.value event.action.call⟩ ∧
        event.outcome = ⟨effect.value, effect.woken⟩ ∧
        ((∃ calm, BoundedSystem.operate build event.before event.action.call = .ok calm ∧ effect = calm.map .returned) ∨
          ∃ elem, Unwound event.before event.action.call elem effect) := by
  obtain ⟨before, able, stepped, _⟩ := run.last
  obtain ⟨effect, operated, after, outcome⟩ := Unwinding.step_ok stepped
  exact ⟨run_sturdy before, able, effect, after, outcome, operate_ok operated⟩

/-- The step lemma: a panic is harmless exactly when no permit is in scope. -/
theorem survived_iff (run : (Unwinding.system T build).Run start (event :: past) final)
    (panicked : event.outcome.reply = .panicked) (intact : Intact event.before) :
    Survived event ↔ byPermit event.action.call = false := by
  obtain ⟨sturdy, able, effect, after, outcome, ⟨calm, _, rfl⟩ | ⟨elem, unwound⟩⟩ := run_step run
  · rw [outcome] at panicked
    cases panicked
  · constructor
    · intro survived
      cases reserves : byPermit event.action.call with
      | false => rfl
      | true =>
        have still := survived.intact
        rw [after] at still
        exact absurd still (unwound.damaged sturdy able reserves intact)
    · intro spared
      obtain ⟨sends, items⟩ := unwound.sent
      refine ⟨⟨elem, sends, ?_⟩, ?_⟩
      · rw [after, ← items]
      · rw [after]
        exact unwound.intact sturdy able spared intact

private theorem step_eq {s : State T} {call : BoundedSystem.Action T} {effect : Effect (BoundedQueue T) (Reply T)}
    (operated : BoundedSystem.operate build s call = .ok effect) : (BoundedSystem.system T build).step s call =
      .ok (⟨effect.state, BoundedSystem.record s.clients effect.value call⟩, ⟨effect.value, effect.woken⟩) := by
  simp only [BoundedSystem.system, BoundedSystem.step, operated, ok_bind]

/-- A run whose panics are harmless is one without panics, but for what the callers are told. -/
theorem run_calm (run : (Unwinding.system T build).Run start history final) (spared : ∀ event ∈ history, Spared event) :
    (BoundedSystem.system T build).Run start (history.map calm) final := by
  revert spared
  refine run.invariant (fun history state => (∀ event ∈ history, Spared event) →
    (BoundedSystem.system T build).Run start (history.map calm) state) ?_ ?_
  · exact fun initial _ => .start initial
  · intro past before action outcome after reached earlier able stepped spared
    have calmly := earlier fun event member => spared event (List.mem_cons_of_mem _ member)
    have harmless := spared _ (List.mem_cons_self ..)
    obtain ⟨effect, operated, rfl, rfl⟩ := Unwinding.step_ok stepped
    refine .step calmly able ?_
    rcases operate_ok operated with ⟨calm, calling, rfl⟩ | ⟨elem, unwound⟩
    · exact step_eq calling
    · obtain ⟨calling, recorded⟩ := unwound.calm build (harmless unwound.panicked)
      have stepped := step_eq calling
      rw [← recorded] at stepped
      simpa only [unwound.panicked, id] using stepped

private theorem reserved_step {s : State T} {call : BoundedSystem.Action T} {elem : T}
    {effect : Effect (BoundedQueue T) (Completion (Reply T))} (able : BoundedSystem.enabled s.clients call = true)
    (unwound : Unwound s call elem effect) : effect.state.extra.reserved + holds s.clients = s.queue.extra.reserved +
      holds (Unwinding.record s.clients effect.value call) + if takesReservation effect.value call then 1 else 0 := by
  cases unwound with
  | trySend | send => rfl
  | permit returned =>
    have freed := Arena.count_free_live able
    obtain ⟨some, _, _, same⟩ := dropPermit_ok returned
    simp only [Unwinding.record, holds, takesReservation, same] at freed some ⊢
    simp only [Bool.false_eq_true, if_false]
    omega
  | owned decreased =>
    have freed := Arena.count_free_live able
    simp only [Unwinding.record, holds, takesReservation, (decreaseSenderCount_rest decreased).2, if_true] at freed ⊢
    omega

theorem run_reserved (run : (Unwinding.system T build).Run start history final)
    (kept : ∀ event ∈ history, losesPermit event.action.call = false) :
    final.queue.extra.reserved = holds final.clients + history.countP losesReservation := by
  revert kept
  refine run.invariant (fun history state => (∀ event ∈ history, losesPermit event.action.call = false) →
    state.queue.extra.reserved = holds state.clients + history.countP losesReservation) ?_ ?_
  · intro initial _
    exact ClosedFlags.run_reserved (show (BoundedSystem.system T build).Run start [] start from .start initial) (by simp)
  · intro past before action outcome after reached earlier able stepped kept
    have reserved := earlier fun event member => kept event (List.mem_cons_of_mem _ member)
    have sturdy := run_sturdy reached
    obtain ⟨effect, operated, rfl, rfl⟩ := Unwinding.step_ok stepped
    rw [List.countP_cons]
    rcases operate_ok operated with ⟨calm, calling, rfl⟩ | ⟨elem, unwound⟩
    · have moved := (CallFootprints.footprint sturdy.housed able calling).reserved (kept _ (List.mem_cons_self ..))
      simp only [Effect.map, Unwinding.record, losesReservation, takesReservation, Bool.false_eq_true, if_false] at moved ⊢
      omega
    · have moved := reserved_step able unwound
      cases taken : takesReservation effect.value action.call with
      | false =>
        simp only [losesReservation, taken, Bool.false_eq_true, if_false] at moved ⊢
        omega
      | true =>
        simp only [losesReservation, taken, if_true] at moved ⊢
        omega

theorem run_untold (run : (Unwinding.system T build).Run start history final)
    (kept : ∀ event ∈ history, losesPermit event.action.call = false) (lost : ∃ event ∈ history, losesReservation event = true)
    (counted : Bool) : ¬ ∃ effect, final.queue.tryRecv counted = .ok effect ∧ effect.value = .error .disconnected := by
  intro told
  have reserved := run_reserved run kept
  have unreserved := (Disconnection.Bounded.tryRecv_disconnected.mp told).2.1
  have some : 0 < history.countP losesReservation := List.countP_pos_iff.mpr lost
  omega

/-- Along every run, a panic of the receiver's waker leaves the element in the queue once and every slot
accounted for exactly when the call has no permit. If no panic met a permit, the run is one without
panics: the channel keeps its capacity, and its receiver is told of the end. -/
theorem run_unwound (run : (Unwinding.system T build).Run start history final) :
    (∀ event ∈ history, event.outcome.reply = .panicked → Intact event.before →
      (Survived event ↔ byPermit event.action.call = false)) ∧
    ((∀ event ∈ history, Spared event) → (BoundedSystem.system T build).Run start (history.map calm) final) ∧
    ((∀ event ∈ history, Spared event ∧ Careful (calm event) ∧ event.action.call ≠ .intoDeque) →
      Accounted final ∧ final.queue.maxCapacity = start.queue.maxCapacity) ∧
    ((∀ event ∈ history, Spared event ∧ Disconnection.Bounded.Tidy (calm event)) →
      Disconnection.Bounded.Told (history.map calm) final) := by
  refine ⟨fun event member panicked intact => ?_, run_calm run, fun regular => ?_, fun regular => ?_⟩
  · obtain ⟨past, reached⟩ := run.reaches member
    exact survived_iff reached panicked intact
  · have calmly := run_calm run fun event member => (regular event member).1
    apply run_accounted calmly
    intro event member
    obtain ⟨event, inside, rfl⟩ := List.mem_map.mp member
    exact (regular event inside).2
  · have calmly := run_calm run fun event member => (regular event member).1
    apply Disconnection.Bounded.run_told calmly
    intro event member
    obtain ⟨event, inside, rfl⟩ := List.mem_map.mp member
    exact (regular event inside).2

end Run

/-- A `try_send` and a blocked send both meet a panicking waker, and both elements arrive. -/
theorem run_unwound_delivers :
    ∃ history final, (Unwinding.system Nat .checked).play [] (.new (.fromIter 1 []))
        [⟨.split, false⟩, ⟨.pollRecv true 9, false⟩, ⟨.trySend (.sender 0) 5, true⟩, ⟨.send (.sender 0) 6, false⟩,
          ⟨.pollFuture 0 4, false⟩, ⟨.tryRecv true, false⟩, ⟨.pollFuture 0 4, true⟩] = some (history, final) ∧
      (∀ event ∈ history, event.outcome.reply = .panicked → Survived event) ∧ Accounted final ∧
      Disconnection.Bounded.Told (history.map calm) final ∧ final.queue.items = [6] := by
  obtain ⟨history, final, played, run, careful, tidy, intact, items⟩ := (Unwinding.system Nat .checked).exists_run
    (.new (.fromIter 1 [])) ⟨_, .inr (.inr ⟨1, by decide, [], by decide, rfl⟩), rfl⟩
    [⟨.split, false⟩, ⟨.pollRecv true 9, false⟩, ⟨.trySend (.sender 0) 5, true⟩, ⟨.send (.sender 0) 6, false⟩,
      ⟨.pollFuture 0 4, false⟩, ⟨.tryRecv true, false⟩, ⟨.pollFuture 0 4, true⟩]
    (fun history final => (∀ event ∈ history, Spared event ∧ Careful (calm event) ∧ event.action.call ≠ .intoDeque) ∧
      (∀ event ∈ history, Spared event ∧ Disconnection.Bounded.Tidy (calm event)) ∧
      (∀ event ∈ history, event.outcome.reply = .panicked → Intact event.before) ∧ final.queue.items = [6])
    (by decide +kernel)
  obtain ⟨survives, _, accounts, tells⟩ := run_unwound run
  refine ⟨history, final, played, fun event member panicked => ?_, (accounts careful).1, tells tidy, items⟩
  exact (survives event member panicked (intact event member panicked)).mpr ((careful event member).1 panicked)

/-- After the panic of `Permit::send` the channel takes more than its capacity. After that of
`OwnedPermit::send` a receiver is not told of the end, though no sender and no permit is left. -/
theorem permit_sends_not_survived :
    (∃ history final, (Unwinding.system Nat .checked).Run (.new (.fromIter 1 [])) history final ∧
      (∃ event ∈ history, event.outcome.reply = .panicked ∧ Intact event.before ∧ ¬ Survived event) ∧
      final.queue.maxCapacity = 1 ∧ final.queue.items = [5, 6]) ∧
    ∃ history final, (Unwinding.system Nat .checked).Run (.new (.fromIter 1 [])) history final ∧
      (∃ event ∈ history, event.outcome.reply = .panicked ∧ Intact event.before ∧ ¬ Survived event) ∧
      history.head?.map (fun event => event.outcome.reply) = some (.returned (.received (.error .empty))) ∧
      final.clients.senderCount = 0 ∧ holds final.clients = 0 ∧ final.queue.items = [] := by
  have damaged : ∀ history : History (State Nat) (Unwinding.Action Nat) (Unwinding.Outcome Nat),
      (∃ event ∈ history, event.outcome.reply = .panicked ∧ Intact event.before ∧ ¬ Intact event.after) →
      ∃ event ∈ history, event.outcome.reply = .panicked ∧ Intact event.before ∧ ¬ Survived event := by
    intro history ⟨event, member, panicked, before, after⟩
    exact ⟨event, member, panicked, before, fun survived => after survived.intact⟩
  constructor
  · obtain ⟨history, final, _, run, broken, overfull⟩ := (Unwinding.system Nat .checked).exists_run (.new (.fromIter 1 []))
      ⟨_, .inr (.inr ⟨1, by decide, [], by decide, rfl⟩), rfl⟩
      [⟨.split, false⟩, ⟨.pollRecv true 9, false⟩, ⟨.tryReserve (.sender 0), false⟩, ⟨.permitSend 0 5, true⟩,
        ⟨.trySend (.sender 0) 6, false⟩]
      (fun history final =>
        (∃ event ∈ history, event.outcome.reply = .panicked ∧ Intact event.before ∧ ¬ Intact event.after) ∧
          final.queue.maxCapacity = 1 ∧ final.queue.items = [5, 6]) (by decide)
    exact ⟨history, final, run, damaged history broken, overfull⟩
  · obtain ⟨history, final, _, run, broken, untold⟩ := (Unwinding.system Nat .checked).exists_run (.new (.fromIter 1 []))
      ⟨_, .inr (.inr ⟨1, by decide, [], by decide, rfl⟩), rfl⟩
      [⟨.intoSplit, false⟩, ⟨.pollRecv true 9, false⟩, ⟨.tryReserveOwned 0, false⟩, ⟨.ownedPermitSend 0 5, true⟩,
        ⟨.tryRecv true, false⟩, ⟨.tryRecv true, false⟩]
      (fun history final =>
        (∃ event ∈ history, event.outcome.reply = .panicked ∧ Intact event.before ∧ ¬ Intact event.after) ∧
          history.head?.map (fun event => event.outcome.reply) = some (.returned (.received (.error .empty))) ∧
          final.clients.senderCount = 0 ∧ holds final.clients = 0 ∧ final.queue.items = [])
      (by decide +kernel)
    exact ⟨history, final, run, damaged history broken, untold⟩

end AsyncUnsync.Proofs.UnwoundSends
