import AsyncUnsync.Proofs.FuturePolls

/-! What the clients of a bounded channel can hold together. The borrow checker
guarantees it: whoever borrows a reference can rely on it. -/

namespace AsyncUnsync.Proofs.BoundedClients
open Memory BoundedSystem QueueCalls FuturePolls
variable {T : Type} {c c' : Clients T} {via : Via} {a id : Addr}

/-- A permit or a suspended future borrows the reference. -/
def Borrows (c : Clients T) (via : Via) : Prop :=
  (∃ p, c.permits.get? p = some via) ∨ ∃ a future, c.futures.get? a = some future ∧ future.via = some via

structure Coherent (c : Clients T) : Prop where
  borrowed : ∀ via, Borrows c via → c.handles.usable via = true
  /-- Owned permits exist only after the channel was consumed. -/
  owned : c.handles.channel = true → c.ownedPermits.count (fun _ => true) = 0 ∧ c.futures.count Suspended.owned = 0

theorem Coherent.new : Coherent (⟨.new, .empty, .empty, .empty⟩ : Clients T) := by
  refine ⟨fun via borrows => ?_, fun _ => ⟨rfl, rfl⟩⟩
  rcases borrows with ⟨p, held⟩ | ⟨a, future, held, _⟩ <;> cases held

theorem exclusive_alone (exclusive : c.exclusive = true) : c.handles.unsplit = true ∧ ∀ via, ¬ Borrows c via := by
  simp only [Clients.exclusive, Bool.and_eq_true, beq_iff_eq] at exclusive
  obtain ⟨⟨unsplit, permits⟩, futures⟩ := exclusive
  refine ⟨unsplit, ?_⟩
  rintro via (⟨p, held⟩ | ⟨a, future, held, _⟩)
  · cases (Arena.dead_of_count permits p).symm.trans held
  · cases (Arena.dead_of_count futures a).symm.trans held

theorem borrowed_of_borrows (borrows : Borrows c (.sender id)) : c.borrowed id = true := by
  simp only [Clients.borrowed, Bool.or_eq_true, bne_iff_ne, ne_eq]
  rcases borrows with ⟨p, held⟩ | ⟨a, future, held, same⟩
  · have some := Arena.count_pos held (p := fun via => via == .sender id) (by simp)
    left
    omega
  · have some := Arena.count_pos held (p := fun future => future.via == some (.sender id)) (by simp [same])
    right
    omega

theorem Borrows.of_free_permit {p : Addr} (borrows : Borrows { c with permits := c.permits.free p } via) : Borrows c via := by
  rcases borrows with ⟨p', held⟩ | future
  · left
    exact ⟨p', (Arena.of_free held).2⟩
  · exact .inr future

theorem Borrows.of_free_future (borrows : Borrows { c with futures := c.futures.free a } via) : Borrows c via := by
  rcases borrows with permit | ⟨b, future, held, same⟩
  · exact .inl permit
  · right
    exact ⟨b, future, (Arena.of_free held).2, same⟩

theorem Borrows.of_alloc_permit {new : Via} (borrows : Borrows { c with permits := c.permits.alloc new } via) :
    Borrows c via ∨ via = new := by
  rcases borrows with ⟨p, held⟩ | future
  · rcases Arena.of_alloc held with ⟨_, rfl⟩ | before
    · exact .inr rfl
    · exact .inl (.inl ⟨p, before⟩)
  · exact .inl (.inr future)

theorem Borrows.of_alloc_future {new : Suspended T} (borrows : Borrows { c with futures := c.futures.alloc new } via) :
    Borrows c via ∨ new.via = some via := by
  rcases borrows with permit | ⟨a, future, held, same⟩
  · exact .inl (.inl permit)
  · rcases Arena.of_alloc held with ⟨_, rfl⟩ | before
    · exact .inr same
    · exact .inl (.inr ⟨a, future, before, same⟩)

section Rules

theorem Coherent.freePermit (coherent : Coherent c) (p : Addr) : Coherent { c with permits := c.permits.free p } :=
  ⟨fun via borrows => coherent.borrowed via borrows.of_free_permit, coherent.owned⟩

theorem Coherent.allocPermit (coherent : Coherent c) (usable : c.handles.usable via = true) :
    Coherent { c with permits := c.permits.alloc via } := by
  refine ⟨fun via borrows => ?_, coherent.owned⟩
  rcases borrows.of_alloc_permit with old | rfl
  · exact coherent.borrowed via old
  · exact usable

theorem Coherent.freeFuture (coherent : Coherent c) {future : Suspended T} (found : c.futures.get? a = some future) :
    Coherent { c with futures := c.futures.free a } := by
  refine ⟨fun via borrows => coherent.borrowed via borrows.of_free_future, fun channel => ?_⟩
  obtain ⟨permits, futures⟩ := coherent.owned channel
  have freed := Arena.count_free found Suspended.owned
  exact ⟨permits, by simp only; omega⟩

theorem Coherent.allocFuture (coherent : Coherent c) {future : Suspended T} (borrows : future.via = some via)
    (usable : c.handles.usable via = true) : Coherent { c with futures := c.futures.alloc future } := by
  refine ⟨fun via' borrows' => ?_, fun channel => ?_⟩
  · rcases borrows'.of_alloc_future with old | new
    · exact coherent.borrowed via' old
    · cases borrows.symm.trans new
      exact usable
  · obtain ⟨permits, futures⟩ := coherent.owned channel
    exact ⟨permits, by simp [futures, Suspended.owned, borrows]⟩

theorem Coherent.addSender (coherent : Coherent c) (shared : c.handles.unsplit = false) :
    Coherent { c with handles := c.handles.addSender } := by
  refine ⟨fun via borrows => ?_, coherent.owned⟩
  have usable := coherent.borrowed via borrows
  apply Handles.usable_addSender usable
  intro same
  subst same
  cases shared.symm.trans usable

theorem Coherent.removeSender (coherent : Coherent c) (live : c.handles.usable (.sender id) = true)
    (free : c.borrowed id = false) : Coherent { c with handles := c.handles.removeSender id } := by
  refine ⟨fun via borrows => ?_, coherent.owned⟩
  apply Handles.usable_removeSender (coherent.borrowed via borrows) live
  intro same
  subst same
  cases free.symm.trans (borrowed_of_borrows borrows)

theorem Coherent.consumed (borrowed : ∀ via, Borrows c via → c.handles.usable via = true)
    (consumed : c.handles.channel = false) : Coherent c :=
  ⟨borrowed, fun channel => by cases consumed.symm.trans channel⟩

theorem Coherent.consumed_of_permit (coherent : Coherent c) {p : Addr} (found : c.ownedPermits.get? p = some ()) :
    c.handles.channel = false := by
  cases channel : c.handles.channel with
  | false => rfl
  | true => cases (Arena.dead_of_count (coherent.owned channel).1 p).symm.trans found

theorem Coherent.consumed_of_future (coherent : Coherent c) (found : c.futures.get? a = some .reserveOwned) :
    c.handles.channel = false := by
  cases channel : c.handles.channel with
  | false => rfl
  | true =>
    have none := (coherent.owned channel).2
    have some := Arena.count_pos found (p := Suspended.owned) rfl
    omega

theorem unsplit_consumed (consumed : c.handles.channel = false) : c.handles.unsplit = false := by
  simp [Handles.unsplit, consumed]

theorem unsplit_sender (live : c.handles.usable (.sender id) = true) : c.handles.unsplit = false := by
  cases unsplit : c.handles.unsplit with
  | false => rfl
  | true =>
    have none := (Handles.unsplit_iff.mp unsplit).2.2
    have some := Handles.senderCount_pos live
    omega

theorem unsplit_senders (coherent : Coherent c) (unsplit : c.handles.unsplit = true) : c.senderCount = 0 := by
  obtain ⟨channel, _, handles⟩ := Handles.unsplit_iff.mp unsplit
  obtain ⟨permits, futures⟩ := coherent.owned channel
  simp [Clients.senderCount, handles, permits, futures]

end Rules

/-- Every call keeps the clients coherent. -/
theorem coherent_step {build : Build} {s : State T} {action : Action T} {effect : Effect (BoundedQueue T) (Reply T)}
    (coherent : Coherent s.clients) (able : enabled s.clients action = true)
    (operated : operate build s action = .ok effect) : Coherent (record s.clients effect.value action) := by
  cases action with
  | split =>
    obtain ⟨_, alone⟩ := exclusive_alone able
    exact ⟨fun via borrows => absurd borrows (alone via), coherent.owned⟩
  | intoSplit | intoDeque =>
    obtain ⟨_, alone⟩ := exclusive_alone able
    exact .consumed (fun via borrows => absurd borrows (alone via)) rfl
  | close | tryRecv | pollRecv | trySend => exact coherent
  | dropReceiver | forgetReceiver =>
    refine ⟨fun via borrows => ?_, coherent.owned⟩
    have usable := coherent.borrowed via borrows
    cases via with
    | channel =>
      have absent := (Handles.unsplit_iff.mp usable).2.1
      cases absent.symm.trans able
    | sender id => exact usable
  | tryReserve via =>
    simp only [record]
    split
    · exact coherent.allocPermit able
    · exact coherent
  | tryReserveOwned id =>
    simp only [enabled, Bool.and_eq_true, Bool.not_eq_true'] at able
    obtain ⟨⟨consumed, live⟩, free⟩ := able
    simp only [record]
    split
    · exact .consumed (coherent.removeSender live free).borrowed consumed
    · exact coherent
  | send via elem => exact coherent.allocFuture rfl able
  | reserve via => exact coherent.allocFuture rfl able
  | reserveOwned id =>
    simp only [enabled, Bool.and_eq_true, Bool.not_eq_true'] at able
    obtain ⟨⟨consumed, live⟩, free⟩ := able
    refine .consumed (fun via borrows => ?_) consumed
    rcases borrows.of_alloc_future with old | new
    · exact (coherent.removeSender live free).borrowed via old
    · cases new
  | pollFuture a waker =>
    cases pollFuture_ok operated with
    | pending => exact coherent
    | sent found => exact coherent.freeFuture found
    | unsent found => exact coherent.freeFuture found
    | reserved found =>
      exact (coherent.freeFuture found).allocPermit (coherent.borrowed _ (.inr ⟨a, _, found, rfl⟩))
    | unreserved found => exact coherent.freeFuture found
    | reservedOwned found => exact .consumed (coherent.freeFuture found).borrowed (coherent.consumed_of_future found)
    | unreservedOwned found =>
      exact (coherent.freeFuture found).addSender (unsplit_consumed (coherent.consumed_of_future found))
  | dropFuture a | forgetFuture a =>
    obtain ⟨future, found⟩ := Option.isSome_iff_exists.mp able
    exact coherent.freeFuture found
  | permitSend p elem | dropPermit p | forgetPermit p => exact coherent.freePermit p
  | ownedPermitSend p elem =>
    obtain ⟨_, found⟩ := Option.isSome_iff_exists.mp able
    have consumed := coherent.consumed_of_permit found
    exact .consumed (coherent.addSender (unsplit_consumed consumed)).borrowed consumed
  | dropOwnedPermit p | forgetOwnedPermit p =>
    obtain ⟨_, found⟩ := Option.isSome_iff_exists.mp able
    exact .consumed coherent.borrowed (coherent.consumed_of_permit found)
  | cloneSender id => exact coherent.addSender (unsplit_sender able)
  | dropSender id | forgetSender id =>
    simp only [enabled, Bool.and_eq_true, Bool.not_eq_true'] at able
    exact coherent.removeSender able.1 able.2

end AsyncUnsync.Proofs.BoundedClients
