import AsyncUnsync.Proofs.FuturePolls
import AsyncUnsync.UnboundedSystem

/-! First in, first out: nothing is lost, nothing is received twice, and what was not
accepted is handed back. -/

namespace AsyncUnsync.Proofs.Delivery
open Memory Transition QueueCalls

namespace Unbounded
open UnboundedSystem
variable {T : Type}

def accepted (event : Event (State T) (Action T) (Outcome T)) : List T :=
  match event.action, event.outcome.reply with
  | .send _ elem, .sent (.ok ()) => [elem]
  | _, _ => []

def received (event : Event (State T) (Action T) (Outcome T)) : List T :=
  match event.outcome.reply with
  | .received (.ok elem) => [elem]
  | .polled (.ready (some elem)) => [elem]
  | .deque items => items
  | _ => []

/-- A refused element comes back with the error. -/
def Settled (event : Event (State T) (Action T) (Outcome T)) : Prop :=
  ∀ via elem, event.action = .send via elem →
    accepted event = [elem] ∧ event.outcome.reply = .sent (.ok ()) ∨
    accepted event = [] ∧ event.outcome.reply = .sent (.error ⟨elem⟩)

theorem step_delivers {build : Build} {event : Event (State T) (Action T) (Outcome T)}
    (stepped : (system T build).step event.before event.action = .ok (event.after, event.outcome)) :
    event.before.queue.items ++ accepted event = received event ++ event.after.queue.items ∧ Settled event := by
  obtain ⟨before, action, outcome, after⟩ := event
  dsimp only at stepped ⊢
  obtain ⟨effect, operated, rfl, rfl⟩ := step_ok stepped
  cases action with
  | split | intoSplit =>
    obtain ⟨counted, done, stored⟩ := bind_ok operated
    obtain ⟨cleared, mask, reset, _, rfl⟩ := setCounted_ok done
    cases unbounded_reset_ok reset
    cases stored
    simp [accepted, received, Settled, Effect.map]
  | intoDeque | forgetReceiver | forgetSender id =>
    cases operated
    simp [accepted, received, Settled]
  | close counted | dropReceiver =>
    obtain ⟨closed, done, stored⟩ := bind_ok operated
    cases unbounded_close_ok done
    cases stored
    simp [accepted, received, Settled, Effect.map]
  | tryRecv counted =>
    obtain ⟨result, done, stored⟩ := bind_ok operated
    rcases unbounded_tryRecv_ok done with ⟨elem, rest, _, _, items, rfl⟩ | ⟨items, _, _, rfl⟩
    · cases stored
      simp [accepted, received, Settled, Effect.map, items]
    · cases stored
      simp [accepted, received, Settled, Effect.map, items]
  | pollRecv counted waker =>
    obtain ⟨polled, done, stored⟩ := bind_ok operated
    obtain ⟨result, tried, rfl⟩ := pollRecv_ok done
    rcases unbounded_tryRecv_ok tried with ⟨elem, rest, _, _, items, rfl⟩ | ⟨items, _, _, rfl⟩
    · cases stored
      simp [accepted, received, Settled, Effect.map, items]
    · cases closed : before.queue.isClosed counted <;> simp only [closed, if_true, Bool.false_eq_true, if_false] at stored
      · cases stored
        simp [accepted, received, Settled, Effect.map, items]
      · cases stored
        simp [accepted, received, Settled, Effect.map, items]
  | send via elem =>
    cases operated
    rcases unbounded_send_eq before.queue via.counted elem with ⟨_, sent⟩ | ⟨_, sent⟩
    · simp [sent, accepted, received, Settled, Effect.map]
    · simp [sent, accepted, received, Settled, Effect.map]
  | cloneSender id =>
    obtain ⟨queue, done, stored⟩ := bind_ok operated
    obtain ⟨mask, _, rfl⟩ := increaseSenderCount_ok done
    cases stored
    simp [accepted, received, Settled]
  | dropSender id =>
    obtain ⟨dropped, done, stored⟩ := bind_ok operated
    obtain ⟨_, ⟨_, rfl⟩ | ⟨_, rfl⟩⟩ := decreaseSenderCount_ok done
    · cases stored
      simp [accepted, received, Settled, Effect.map]
    · cases stored
      simp [accepted, received, Settled, Effect.map]

end Unbounded

namespace Bounded
open BoundedSystem FuturePolls
variable {T : Type}

/-- The element that a call is to send, or that the future it is about holds. -/
def offered (event : Event (State T) (Action T) (Outcome T)) : Option T :=
  match event.action with
  | .trySend _ elem | .send _ elem | .permitSend _ elem | .ownedPermitSend _ elem => some elem
  | .pollFuture a _ | .dropFuture a | .forgetFuture a => (event.before.clients.futures.get? a).bind Suspended.elem
  | _ => none

def accepted (event : Event (State T) (Action T) (Outcome T)) : List T :=
  match event.action, event.outcome.reply with
  | .trySend _ elem, .trySent (.ok ()) => [elem]
  | .permitSend _ elem, _ => [elem]
  | .ownedPermitSend _ elem, _ => [elem]
  | .pollFuture _ _, .sent (.ok ()) => (offered event).toList
  | _, _ => []

def received (event : Event (State T) (Action T) (Outcome T)) : List T :=
  match event.outcome.reply with
  | .received (.ok elem) => [elem]
  | .polled (.ready (some elem)) => [elem]
  | .deque items => items
  | _ => []

def handedBack (event : Event (State T) (Action T) (Outcome T)) : Option T :=
  match event.outcome.reply with
  | .trySent (.error error) => some error.value
  | .sent (.error error) => some error.value
  | _ => none

def kept (event : Event (State T) (Action T) (Outcome T)) : Option T :=
  match event.action with
  | .send _ _ => (event.after.clients.futures.get? event.before.clients.futures.size).bind Suspended.elem
  | .pollFuture a _ | .dropFuture a | .forgetFuture a => (event.after.clients.futures.get? a).bind Suspended.elem
  | _ => none

def cancels : Action T → Bool
  | .dropFuture _ | .forgetFuture _ => true
  | _ => false

/-- An offered element is accepted, handed back, kept, or cancelled: one of these and no other. -/
def Settled (event : Event (State T) (Action T) (Outcome T)) : Prop :=
  match offered event with
  | none => (accepted event, handedBack event, kept event) = ([], none, none)
  | some elem =>
    (accepted event, handedBack event, kept event) = ([elem], none, none) ∨
    (accepted event, handedBack event, kept event) = ([], some elem, none) ∨
    (accepted event, handedBack event, kept event) = ([], none, some elem) ∨
    (accepted event, handedBack event, kept event) = ([], none, none) ∧ cancels event.action = true

/-- A future that a call is not about stays what it is, with the element it holds. -/
def Undisturbed (event : Event (State T) (Action T) (Outcome T)) : Prop :=
  ∀ a future, event.before.clients.futures.get? a = some future →
    event.after.clients.futures.get? a = some future ∨
      event.action = .dropFuture a ∨ event.action = .forgetFuture a ∨ ∃ waker, event.action = .pollFuture a waker

private theorem record_undisturbed (c : Clients T) (reply : Reply T) (action : Action T) {a : Addr} {future : Suspended T}
    (found : c.futures.get? a = some future) : (record c reply action).futures.get? a = some future ∨
      action = .dropFuture a ∨ action = .forgetFuture a ∨ ∃ waker, action = .pollFuture a waker := by
  cases action with
  | send | reserve | reserveOwned => exact .inl (Arena.get?_alloc_of_live found _)
  | pollFuture b waker =>
    by_cases same : a = b
    · subst b
      exact .inr (.inr (.inr ⟨waker, rfl⟩))
    · simp only [record]
      split <;> exact .inl (by simp [same, found])
  | dropFuture b | forgetFuture b =>
    by_cases same : a = b
    · simp [same]
    · exact .inl (by simp [record, same, found])
  | tryReserve | tryReserveOwned =>
    simp only [record]
    split <;> exact .inl found
  | _ => exact .inl found

private theorem dropOwnedPermit_items {q : BoundedQueue T} {effect : Effect (BoundedQueue T) Unit}
    (done : BoundedQueue.dropOwnedPermit q = .ok effect) : effect.state.items = q.items := by
  obtain ⟨_, _, returned, decreased, rfl⟩ := dropOwnedPermit_ok done
  obtain ⟨_, _, _, same⟩ := dropPermit_ok returned
  exact (decreaseSenderCount_rest decreased).1.trans (by simp [same])

theorem step_undisturbed {build : Build} {event : Event (State T) (Action T) (Outcome T)}
    (stepped : (system T build).step event.before event.action = .ok (event.after, event.outcome)) :
    Undisturbed event := by
  intro a future found
  obtain ⟨effect, _, same, _⟩ := step_ok stepped
  rw [same]
  exact record_undisturbed _ _ _ found

theorem step_delivers {build : Build} {event : Event (State T) (Action T) (Outcome T)}
    (stepped : (system T build).step event.before event.action = .ok (event.after, event.outcome)) :
    event.before.queue.items ++ accepted event = received event ++ event.after.queue.items ∧ Settled event := by
  obtain ⟨before, action, outcome, after⟩ := event
  dsimp only at stepped ⊢
  obtain ⟨effect, operated, rfl, rfl⟩ := step_ok stepped
  cases action with
  | split | intoSplit =>
    obtain ⟨counted, done, stored⟩ := bind_ok operated
    obtain ⟨cleared, mask, reset, _, rfl⟩ := setCounted_ok done
    obtain ⟨_, _, _, _, same⟩ := reset_ok reset
    cases stored
    simp [accepted, received, Settled, offered, handedBack, kept, Effect.map, same]
  | intoDeque | forgetReceiver | forgetPermit p | forgetOwnedPermit p | forgetSender id | reserve via | reserveOwned id =>
    cases operated
    simp [accepted, received, Settled, offered, handedBack, kept, BoundedQueue.acquire]
  | close counted | dropReceiver =>
    obtain ⟨closed, done, stored⟩ := bind_ok operated
    obtain ⟨_, _, rfl⟩ := close_ok done
    cases stored
    simp [accepted, received, Settled, offered, handedBack, kept, Effect.map]
  | tryRecv counted =>
    obtain ⟨result, done, stored⟩ := bind_ok operated
    cases stored
    rcases tryRecv_ok done with ⟨elem, rest, _, _, _, items, _, value, same⟩ | ⟨items, _, _, rfl⟩
    · simp [accepted, received, Settled, offered, handedBack, kept, Effect.map, items, value, same]
    · simp [accepted, received, Settled, offered, handedBack, kept, Effect.map, items]
  | pollRecv counted waker =>
    obtain ⟨polled, done, stored⟩ := bind_ok operated
    obtain ⟨result, tried, rfl⟩ := pollRecv_ok done
    cases stored
    rcases tryRecv_ok tried with ⟨elem, rest, _, _, _, items, _, value, same⟩ | ⟨items, _, _, rfl⟩
    · simp [accepted, received, Settled, offered, handedBack, kept, Effect.map, items, value, same]
    · cases before.queue.extra.reserved == 0 && before.queue.isClosed counted <;>
        simp [accepted, received, Settled, offered, handedBack, kept, Effect.map, items]
  | trySend via elem =>
    cases operated
    rcases trySend_eq before.queue elem with ⟨_, _, sent⟩ | ⟨_, _, sent⟩
    · simp [sent, accepted, received, Settled, offered, handedBack, kept, Effect.map]
    · simp [sent, accepted, received, Settled, offered, handedBack, kept, Effect.map]
  | tryReserve via =>
    obtain ⟨reserved, done, stored⟩ := bind_ok operated
    cases stored
    rcases tryReserve_ok done with ⟨_, _, rfl⟩ | ⟨_, _, rfl⟩ <;>
      simp [accepted, received, Settled, offered, handedBack, kept, Effect.map, Except.map]
  | tryReserveOwned id =>
    obtain ⟨reserved, done, stored⟩ := bind_ok operated
    cases stored
    rcases tryReserve_ok done with ⟨_, _, rfl⟩ | ⟨_, _, rfl⟩ <;>
      simp [accepted, received, Settled, offered, handedBack, kept, Effect.map]
  | send via elem =>
    cases operated
    simp [accepted, received, Settled, offered, handedBack, kept, record, BoundedQueue.acquire, Suspended.elem]
  | pollFuture a waker =>
    cases pollFuture_ok operated with
    | @pending future _ _ found =>
      cases future <;> simp [accepted, received, Settled, offered, handedBack, kept, found, record, Suspended.elem]
    | sent found | unsent found | reserved found | unreserved found | reservedOwned found | unreservedOwned found =>
      simp [accepted, received, Settled, offered, handedBack, kept, found, record, Suspended.elem]
  | dropFuture a =>
    cases dropFuture_cancelled operated with
    | @borrowing future _ _ found =>
      cases future <;>
        simp [accepted, received, Settled, offered, handedBack, kept, found, record, Suspended.elem, cancels]
    | @owning future _ _ _ found _ _ decreased =>
      obtain ⟨same, _⟩ := decreaseSenderCount_rest decreased
      cases future <;>
        simp [accepted, received, Settled, offered, handedBack, kept, found, record, Suspended.elem, cancels, same]
  | forgetFuture a =>
    cases operated
    cases found : before.clients.futures.get? a with
    | none => simp [accepted, received, Settled, offered, handedBack, kept, record, found]
    | some future =>
      cases future <;>
        simp [accepted, received, Settled, offered, handedBack, kept, record, found, Suspended.elem, cancels]
  | permitSend p elem | ownedPermitSend p elem =>
    obtain ⟨sent, done, stored⟩ := bind_ok operated
    obtain ⟨_, rfl⟩ := permitSend_ok done
    cases stored
    simp [accepted, received, Settled, offered, handedBack, kept, Effect.map]
  | dropPermit p =>
    obtain ⟨dropped, done, stored⟩ := bind_ok operated
    obtain ⟨_, _, _, same⟩ := dropPermit_ok done
    cases stored
    simp [accepted, received, Settled, offered, handedBack, kept, Effect.map, same]
  | dropOwnedPermit p =>
    obtain ⟨dropped, done, stored⟩ := bind_ok operated
    have same := dropOwnedPermit_items done
    cases stored
    simp [accepted, received, Settled, offered, handedBack, kept, Effect.map, same]
  | cloneSender id =>
    obtain ⟨queue, done, stored⟩ := bind_ok operated
    obtain ⟨mask, _, rfl⟩ := increaseSenderCount_ok done
    cases stored
    simp [accepted, received, Settled, offered, handedBack, kept]
  | dropSender id =>
    obtain ⟨dropped, done, stored⟩ := bind_ok operated
    cases stored
    obtain ⟨_, ⟨_, rfl⟩ | ⟨_, rfl⟩⟩ := decreaseSenderCount_ok done <;>
      simp [accepted, received, Settled, offered, handedBack, kept, Effect.map]

end Bounded

/-- In every run of either channel, what was queued and then accepted is what was received and is
still queued, in this order. Every other element that was to be sent is handed back, kept in its
future, or cancelled with it. -/
theorem run_fifo (T : Type) (build : Build) :
    (∀ start history final, (BoundedSystem.system T build).Run start history final →
      start.queue.items ++ gathered Bounded.accepted history =
        gathered Bounded.received history ++ final.queue.items ∧
      ∀ event ∈ history, Bounded.Settled event ∧ Bounded.Undisturbed event) ∧
    (∀ start history final, (UnboundedSystem.system T build).Run start history final →
      start.queue.items ++ gathered Unbounded.accepted history =
        gathered Unbounded.received history ++ final.queue.items ∧
      ∀ event ∈ history, Unbounded.Settled event) := by
  constructor
  · intro start history final run
    have stepped : ∀ event ∈ history,
        (BoundedSystem.system T build).step event.before event.action = .ok (event.after, event.outcome) := by
      intro event member
      obtain ⟨_, reached⟩ := run.reaches member
      exact reached.last.2.2.1
    refine ⟨run.conserved (fun s => s.queue.items) _ _ fun event member => ?_, fun event member => ⟨?_, ?_⟩⟩
    · exact (Bounded.step_delivers (stepped event member)).1
    · exact (Bounded.step_delivers (stepped event member)).2
    · exact Bounded.step_undisturbed (stepped event member)
  · intro start history final run
    have delivers : ∀ event ∈ history, event.before.queue.items ++ Unbounded.accepted event =
        Unbounded.received event ++ event.after.queue.items ∧ Unbounded.Settled event := by
      intro event member
      obtain ⟨_, reached⟩ := run.reaches member
      exact Unbounded.step_delivers reached.last.2.2.1
    exact ⟨run.conserved (fun s => s.queue.items) _ _ fun event member => (delivers event member).1,
      fun event member => (delivers event member).2⟩

/-- A blocked sender gets its slot, but the channel is closed before it is polled again. -/
theorem run_fifo_refused :
    (∃ history final, (BoundedSystem.system Nat .checked).play [] (.new (.fromIter 1 [5]))
        [.send .channel 6, .pollFuture 0 1, .tryRecv false, .trySend .channel 7, .close false, .pollFuture 0 1] =
          some (history, final) ∧
      [5] ++ gathered Bounded.accepted history = gathered Bounded.received history ++ final.queue.items) ∧
    ∃ history final, (UnboundedSystem.system Nat .checked).play [] (.new (.fromIter [5]))
        [.split, .send (.sender 0) 6, .tryRecv true, .close true, .send (.sender 0) 7] = some (history, final) ∧
      [5] ++ gathered Unbounded.accepted history = gathered Unbounded.received history ++ final.queue.items := by
  constructor
  · obtain ⟨history, final, played, run, _⟩ := (BoundedSystem.system Nat .checked).exists_run
      (.new (.fromIter 1 [5])) ⟨_, .inr (.inr ⟨1, by decide, [5], by decide, rfl⟩), rfl⟩
      [.send .channel 6, .pollFuture 0 1, .tryRecv false, .trySend .channel 7, .close false, .pollFuture 0 1]
      (fun history _ => gathered Bounded.accepted history = []) (by decide)
    exact ⟨history, final, played, ((run_fifo Nat .checked).1 _ _ _ run).1⟩
  · obtain ⟨history, final, played, run, _⟩ := (UnboundedSystem.system Nat .checked).exists_run
      (.new (.fromIter [5])) ⟨_, .inr (.inr ⟨[5], rfl⟩), rfl⟩
      [.split, .send (.sender 0) 6, .tryRecv true, .close true, .send (.sender 0) 7]
      (fun history _ => gathered Unbounded.accepted history = [6]) (by decide)
    exact ⟨history, final, played, ((run_fifo Nat .checked).2 _ _ _ run).1⟩

end AsyncUnsync.Proofs.Delivery
