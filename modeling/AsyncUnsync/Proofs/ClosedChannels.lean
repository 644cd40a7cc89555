import AsyncUnsync.Proofs.ClosedFlags
import AsyncUnsync.Proofs.Delivery
import AsyncUnsync.Proofs.SlotTurns

/-! A closed channel runs dry. Whoever waits is woken at the close, and refused; what is
sent later goes through the permits that were there at the close, one element each. -/

namespace AsyncUnsync.Proofs.ClosedChannels
open Memory Transition BoundedSystem MailboxSystem MailboxRefinement BoundedCensus BoundedValid SlotTurns
open Delivery.Bounded (accepted received)
variable {T : Type} {build : Build}

/-- The answer to everybody who asks for a slot of a closed channel: no slot, and what they offered. -/
def refusal (c : Clients T) : Action T → Option (Reply T)
  | .trySend _ elem => some (.trySent (.error (.closed elem)))
  | .tryReserve _ => some (.tryReserved (.error (.closed ())))
  | .tryReserveOwned id => some (.tryReservedOwned (.error (.closed id)))
  | .pollFuture a _ =>
    (c.futures.get? a).map fun
      | .send _ elem => .sent (.error ⟨elem⟩)
      | .reserve via => .reserved via (.error ⟨()⟩)
      | .reserveOwned => .reservedOwned (.error ⟨c.handles.senders.size⟩)
  | _ => none

/-- After the close: requests are refused and wake nobody, and an element needs a permit. -/
structure Dry (event : Event (State T) (Action T) (Outcome T)) : Prop where
  refuses : ∀ reply, refusal event.before.clients event.action = some reply → event.outcome = ⟨reply, []⟩
  spends : (accepted event).length + holds event.after.clients ≤ holds event.before.clients

section Step
variable {s : Scene T} {action : Action T} {reply : Reply T}

theorem operate_refused (build : Build) (orderly : Orderly s.mailbox.slots) (closed : s.mailbox.slots.closed = true)
    (refuses : refusal s.clients action = some reply) :
    ∃ mailbox, MailboxSystem.operate build s action = .ok ⟨mailbox, reply, []⟩ := by
  cases action <;> simp only [refusal, reduceCtorEq, Option.some.injEq] at refuses
  case trySend via elem =>
    subst refuses
    simp only [MailboxSystem.operate, Mailbox.trySend, Slots.take_closed closed]
    exact ⟨_, rfl⟩
  case tryReserve | tryReserveOwned =>
    subst refuses
    simp only [MailboxSystem.operate, Mailbox.tryReserve, Slots.take_closed closed]
    exact ⟨_, rfl⟩
  case pollFuture a waker =>
    obtain ⟨future, found, rfl⟩ := Option.map_eq_some_iff.mp refuses
    obtain ⟨free, withdrawn, _⟩ := withdraw_closed orderly closed a
    have polled := Slots.poll_closed closed (a := a) waker
    rw [withdrawn] at polled
    simp only [MailboxSystem.operate, found]
    cases future <;> simp only [Mailbox.send, Mailbox.reserve, polled] <;> exact ⟨_, rfl⟩

private theorem record_spends {before after : State T} {outcome : Outcome T} (able : enabled before.clients action = true)
    (recorded : after.clients = record before.clients outcome.reply action)
    (refuses : ∀ reply, refusal before.clients action = some reply → outcome = ⟨reply, []⟩) :
    (accepted ⟨before, action, outcome, after⟩).length + holds after.clients ≤ holds before.clients := by
  rw [recorded]
  cases action with
  | permitSend p elem | ownedPermitSend p elem =>
    have fewer := Arena.count_free_live able
    simp only [accepted, record, holds, List.length_singleton]
    omega
  | dropPermit p | forgetPermit p =>
    have fewer := Arena.count_free_le before.clients.permits p fun _ => true
    simp only [accepted, record, holds, List.length_nil]
    omega
  | dropOwnedPermit p | forgetOwnedPermit p =>
    have fewer := Arena.count_free_le before.clients.ownedPermits p fun _ => true
    simp only [accepted, record, holds, List.length_nil]
    omega
  | trySend via elem | tryReserve via | tryReserveOwned id =>
    rw [refuses _ rfl]
    simp [accepted, record, holds]
  | pollFuture a waker =>
    obtain ⟨future, found⟩ := Option.isSome_iff_exists.mp able
    rw [refuses _ (by simp only [refusal, found]; rfl)]
    cases future <;> simp [accepted, record, holds]
  | _ => simp [accepted, record, holds]

end Step

section Run
variable {start state final : State T} {past later history : History (State T) (Action T) (Outcome T)}
  {event closing : Event (State T) (Action T) (Outcome T)}

theorem run_dry (run : (BoundedSystem.system T build).Run start (event :: past) event.after)
    (closed : event.before.queue.extra.semaphore.shared.closed = true) : Dry event := by
  obtain ⟨reached, able, stepped, _⟩ := run.last
  have regular := ((refines T build).run reached).1
  have refuses : ∀ reply, refusal event.before.clients event.action = some reply → event.outcome = ⟨reply, []⟩ := by
    intro reply refuses
    have seen := ((refines T build).step_ok regular able stepped).1
    obtain ⟨mailbox, operated⟩ := operate_refused build (lined_view regular).toOrderly closed refuses
    simp only [MailboxSystem.system, MailboxSystem.step, operated, ok_bind] at seen
    exact (congrArg Prod.snd (Except.ok.inj seen)).symm
  obtain ⟨effect, _, after, outcome⟩ := step_ok stepped
  refine ⟨refuses, record_spends able ?_ refuses⟩
  rw [after, outcome]

theorem close_wakes (run : (BoundedSystem.system T build).Run start (closing :: past) closing.after)
    (closes : (∃ counted, closing.action = .close counted) ∨ closing.action = .dropReceiver) {a : Addr} {waker : Waker}
    (waits : (view closing.before).mailbox.slots.requests.get? a = some (.waiting waker)) : waker ∈ closing.outcome.woken := by
  obtain ⟨reached, able, stepped, _⟩ := run.last
  have regular := ((refines T build).run reached).1
  have queued := ((lined_view regular).waits a).mpr ⟨waker, waits⟩
  have seen := ((refines T build).step_ok regular able stepped).1
  have woken : closing.outcome.woken = (view closing.before).mailbox.slots.close.2 := by
    rcases closes with ⟨counted, called⟩ | called <;>
    · rw [called] at seen
      exact (congrArg (fun result => result.2.woken) (Except.ok.inj seen)).symm
  rw [woken]
  exact List.mem_filterMap.mpr ⟨a, queued, by rw [waits]; rfl⟩

theorem run_closed_later (run : (BoundedSystem.system T build).Run start (later ++ closing :: past) final)
    (closes : (∃ counted, closing.action = .close counted) ∨ closing.action = .dropReceiver) :
    final.queue.extra.semaphore.shared.closed = true := by
  refine (ClosedFlags.run_closed run).mpr ⟨closing, by simp, ?_⟩
  rcases closes with ⟨counted, called⟩ | called <;> rw [called] <;> rfl

/-- After a close every request is refused with what it offered, and the elements that are still
sent spend the permits that were there at the close. What is received from then on is what was
queued, and then these. -/
theorem close_drains (run : (BoundedSystem.system T build).Run start (later ++ closing :: past) final)
    (closes : (∃ counted, closing.action = .close counted) ∨ closing.action = .dropReceiver) :
    (∀ a waker, (view closing.before).mailbox.slots.requests.get? a = some (.waiting waker) →
      waker ∈ closing.outcome.woken) ∧
    (∀ event ∈ later, Dry event) ∧
    (gathered accepted later).length + holds final.clients ≤ holds closing.after.clients ∧
    closing.after.queue.items ++ gathered accepted later = gathered received later ++ final.queue.items := by
  refine ⟨fun a waker waits => close_wakes run.upTo closes waits, ?_⟩
  induction later generalizing final with
  | nil =>
    obtain ⟨_, _, _, rfl⟩ := run.last
    simp [gathered]
  | cons event later ih =>
    have whole := run
    obtain ⟨reached, able, stepped, rfl⟩ := run.last
    obtain ⟨dry, spent, order⟩ := ih reached
    have last := run_dry whole (run_closed_later reached closes)
    have delivered := (Delivery.Bounded.step_delivers stepped).1
    refine ⟨?_, ?_, ?_⟩
    · rintro other (_ | ⟨_, earlier⟩)
      · exact last
      · exact dry other earlier
    · have spends := last.spends
      simp only [gathered, List.length_append]
      omega
    · rw [gathered, gathered, ← List.append_assoc, order, List.append_assoc, delivered, List.append_assoc]

/-- One permit outlives the close, and one future is refused. -/
theorem close_drains_permit :
    ∃ history final, (BoundedSystem.system Nat .checked).play [] (.new (.fromIter 1 []))
        [.tryReserve .channel, .send .channel 6, .pollFuture 0 7, .close false, .pollFuture 0 7, .permitSend 0 5] =
          some (history, final) ∧
      gathered accepted (history.take 2) = [5] ∧
      ∃ closing ∈ history, (gathered accepted (history.take 2)).length + holds final.clients ≤ holds closing.after.clients := by
  have initial : (BoundedSystem.system Nat .checked).Initial (.new (.fromIter 1 [])) :=
    ⟨_, .inr (.inr ⟨1, by decide, [], by decide, rfl⟩), rfl⟩
  obtain ⟨history, final, played, run, sent, called⟩ := (BoundedSystem.system Nat .checked).exists_run _ initial
    [.tryReserve .channel, .send .channel 6, .pollFuture 0 7, .close false, .pollFuture 0 7, .permitSend 0 5]
    (fun history _ => gathered accepted (history.take 2) = [5] ∧
      (history.drop 2).head?.map Event.action = some (.close false)) (by decide)
  refine ⟨history, final, played, sent, ?_⟩
  cases closed : history.drop 2 with
  | nil => simp [closed] at called
  | cons closing past =>
    rw [closed] at called
    rw [← List.take_append_drop 2 history, closed] at run
    exact ⟨closing, List.mem_of_mem_drop (closed ▸ List.mem_cons_self ..),
      (close_drains run (.inl ⟨false, Option.some.inj called⟩)).2.2.1⟩

end Run
end AsyncUnsync.Proofs.ClosedChannels
