import AsyncUnsync.Proofs.ClosedFlags
import AsyncUnsync.Proofs.MailboxRefinement

/-! The unsafe code of the bounded channel is safe, whatever its clients leak. The mailbox
has no pointers that could dangle, and the channel fails only where the mailbox does. -/

namespace AsyncUnsync.Proofs.BoundedSafety
open Memory Transition BoundedSystem MailboxSystem MailboxRefinement BoundedCensus BoundedValid CallFootprints
variable {T : Type} {build : Build}

section Mailbox
variable {m : Mailbox T}

private theorem decrease_total (some : 2 ≤ m.mask.bits) : ∃ effect, m.decreaseSenderCount = .ok effect := by
  simp only [Mailbox.decreaseSenderCount, Mask.decreaseSenderCount, checkedSub_of_le some, ok_bind]
  split <;> exact ⟨_, rfl⟩

private theorem increase_total (room : m.mask.bits + 2 ≤ usizeMax) : ∃ after, m.increaseSenderCount = .ok after := by
  simp only [Mailbox.increaseSenderCount, Mask.increaseSenderCount, checkedAdd_of_le room, ok_bind]
  exact ⟨_, rfl⟩

private theorem reserveSlot_total (room : m.reserved < usizeMax) : ∃ after, m.reserveSlot = .ok after := by
  simp only [Mailbox.reserveSlot, checkedAdd_of_le (show m.reserved + 1 ≤ usizeMax from room), ok_bind]
  exact ⟨_, rfl⟩

private theorem tryReserve_total (room : m.reserved < usizeMax) : ∃ effect, m.tryReserve = .ok effect := by
  unfold Mailbox.tryReserve
  split
  next slots _ =>
    obtain ⟨after, reserved⟩ := reserveSlot_total (m := { m with slots }) room
    rw [reserved]
    exact ⟨_, rfl⟩
  next => exact ⟨_, rfl⟩

private theorem reserve_total (room : m.reserved < usizeMax) (a : Addr) (waker : Waker) :
    ∃ effect, m.reserve a waker = .ok effect := by
  simp only [Mailbox.reserve]
  split
  next => exact ⟨_, rfl⟩
  next => exact ⟨_, rfl⟩
  next =>
    obtain ⟨after, reserved⟩ := reserveSlot_total (m := { m with slots := (m.slots.poll a waker).state }) room
    rw [reserved]
    exact ⟨_, rfl⟩

private theorem permitSend_total (some : 1 ≤ m.reserved) (elem : T) : ∃ effect, m.permitSend elem = .ok effect := by
  simp only [Mailbox.permitSend, checkedSub_of_le some, ok_bind]
  exact ⟨_, rfl⟩

private theorem dropPermit_total (some : 1 ≤ m.reserved) :
    ∃ effect, m.dropPermit = .ok effect ∧ effect.state.mask = m.mask := by
  simp only [Mailbox.dropPermit, checkedSub_of_le some, ok_bind]
  exact ⟨_, rfl, rfl⟩

private theorem split_error (build : Build) (room : m.mask.bits + 2 ≤ usizeMax) (fault : Fault) :
    m.split build = .error fault ↔ fault = .underflow ∧ build = .checked ∧ m.maxCapacity < m.slots.free := by
  have mask : m.mask.reset true = .ok ⟨m.mask.bits + 2⟩ := by
    simp only [Mask.reset, checkedAdd_of_le room, if_true, ok_bind]
  by_cases enough : m.slots.free ≤ m.maxCapacity
  · simp only [Mailbox.split, build.sub_of_le enough, ok_bind, Mailbox.give, mask, reduceCtorEq, false_iff]
    omega
  · cases build with
    | checked =>
      simp only [Mailbox.split, Build.sub, checkedSub, if_neg enough]
      constructor
      · rintro ⟨⟩
        exact ⟨rfl, trivial, Nat.lt_of_not_le enough⟩
      · rintro ⟨rfl, _⟩
        rfl
    | wrapping => simp [Mailbox.split, Build.sub, mask, Mailbox.give]

end Mailbox

private theorem map_total {β γ : Type} {result : Except Fault (Effect (Mailbox T) β)} (done : ∃ effect, result = .ok effect)
    (f : β → γ) : ∃ effect, (do let effect ← result; .ok (effect.map f) : Except Fault (Effect (Mailbox T) γ)) = .ok effect := by
  obtain ⟨effect, rfl⟩ := done
  exact ⟨_, rfl⟩

/-- What every state has, leaks included: each permit has its reservation, and each sender is counted. -/
structure Backed (s : Scene T) : Prop where
  permits : holds s.clients ≤ s.mailbox.reserved
  senders : 2 * s.clients.senderCount ≤ s.mailbox.mask.bits

theorem operate_total (build : Build) {s : Scene T} {action : Action T} (backed : Backed s) (able : enabled s.clients action = true)
    (senders : s.mailbox.mask.bits + 2 ≤ usizeMax) (reservations : s.mailbox.reserved < usizeMax)
    (whole : splits action = false) : ∃ effect, MailboxSystem.operate build s action = .ok effect := by
  have permits := backed.permits
  have counted := backed.senders
  simp only [Clients.senderCount] at counted
  simp only [holds] at permits
  cases action with
  | split | intoSplit => cases whole
  | intoDeque | close | dropReceiver | tryRecv | pollRecv | trySend | send | reserve | reserveOwned | forgetReceiver
  | forgetFuture | forgetPermit | forgetOwnedPermit | forgetSender => exact ⟨_, rfl⟩
  | tryReserve | tryReserveOwned => exact map_total (tryReserve_total reservations) _
  | pollFuture a waker =>
    obtain ⟨future, found⟩ := Option.isSome_iff_exists.mp able
    simp only [MailboxSystem.operate, found]
    cases future with
    | send => exact ⟨_, rfl⟩
    | reserve | reserveOwned => exact map_total (reserve_total reservations a waker) _
  | dropFuture a =>
    obtain ⟨future, found⟩ := Option.isSome_iff_exists.mp able
    simp only [MailboxSystem.operate, found]
    split
    next owned =>
      apply map_total
      have some := Arena.count_pos found owned
      obtain ⟨effect, decreased⟩ := decrease_total (m := (s.mailbox.withdraw a).state)
        (show 2 ≤ s.mailbox.mask.bits by omega)
      simp only [Mailbox.withdrawOwned, decreased]
      exact ⟨_, rfl⟩
    next => exact ⟨_, rfl⟩
  | permitSend p elem | ownedPermitSend p elem =>
    have some := Arena.count_pos_live able
    exact map_total (permitSend_total (by omega) elem) _
  | dropPermit p =>
    have some := Arena.count_pos_live able
    obtain ⟨effect, dropped, _⟩ := dropPermit_total (m := s.mailbox) (by omega)
    exact map_total ⟨effect, dropped⟩ _
  | dropOwnedPermit p =>
    have some := Arena.count_pos_live able
    obtain ⟨effect, dropped, mask⟩ := dropPermit_total (m := s.mailbox) (by omega)
    obtain ⟨left, decreased⟩ := decrease_total (m := effect.state) (by rw [mask]; omega)
    apply map_total
    simp only [Mailbox.dropOwnedPermit, dropped, ok_bind, decreased]
    exact ⟨_, rfl⟩
  | cloneSender id =>
    obtain ⟨after, increased⟩ := increase_total senders
    simp only [MailboxSystem.operate, increased, ok_bind]
    exact ⟨_, rfl⟩
  | dropSender id =>
    simp only [enabled, Bool.and_eq_true] at able
    have some := Handles.senderCount_pos able.1
    exact map_total (decrease_total (by omega)) _

section Run
variable {start state : State T} {history : History (State T) (Action T) (Outcome T)}

theorem run_backed (run : (BoundedSystem.system T build).Run start history state) : Backed (view state) := by
  refine ⟨?_, (run_valid run).counted⟩
  apply run.invariant fun _ state => holds state.clients ≤ state.queue.extra.reserved
  · rintro ⟨queue, constructed, rfl⟩
    exact Nat.zero_le _
  · intro past before action outcome after reached covered able stepped
    obtain ⟨effect, operated, rfl, rfl⟩ := step_ok stepped
    have print := footprint (run_valid reached).housed able operated
    by_cases lost : losesPermit action = true
    · cases action <;> simp only [losesPermit, Bool.false_eq_true] at lost
      case forgetPermit p =>
        cases operated
        have fewer := Arena.count_free_le before.clients.permits p fun _ => true
        simp only [record, holds] at covered ⊢
        omega
      case forgetOwnedPermit p =>
        cases operated
        have fewer := Arena.count_free_le before.clients.ownedPermits p fun _ => true
        simp only [record, holds] at covered ⊢
        omega
    · have balance := print.reserved (Bool.eq_false_iff.mpr lost)
      change holds (record _ _ _) ≤ effect.state.extra.reserved
      omega

/-- In every state that a channel reaches, leaks included, every call returns: no pointer dangles,
no branch that cannot happen is taken, and no loop runs forever. Only arithmetic can fail, and below
the limits of the machine word only that of a split that finds too many free slots. -/
theorem bounded_returns (run : (BoundedSystem.system T build).Run start history state) {action : Action T}
    (able : (BoundedSystem.system T build).Enabled state action) (senders : state.queue.mask.bits + 2 ≤ usizeMax)
    (reservations : state.queue.extra.reserved < usizeMax) (fault : Fault) :
    (BoundedSystem.system T build).step state action = .error fault ↔
      fault = .underflow ∧ (action = .split ∨ action = .intoSplit) ∧ build = .checked ∧
        state.queue.maxCapacity < state.queue.capacity := by
  rw [(refines T build).faults run able]
  simp only [MailboxSystem.system, MailboxSystem.step]
  by_cases whole : splits action = false
  · obtain ⟨effect, operated⟩ := operate_total build (run_backed run) able senders reservations whole
    rw [operated]
    refine iff_of_false (by simp) ?_
    rintro ⟨_, rfl | rfl, _⟩ <;> cases whole
  · have split := split_error build (m := (view state).mailbox) senders fault
    cases action <;> simp only [splits, not_true_eq_false] at whole
    all_goals
      simp only [MailboxSystem.operate, reduceCtorEq, or_true, true_or, true_and]
      refine Iff.trans ?_ split
      cases (view state).mailbox.split build with
      | ok effect => exact iff_of_false (by simp) (by simp)
      | error fault' => exact ⟨fun failed => by cases failed; rfl, fun same => by cases same; rfl⟩

/-- A channel that was split with an element in it has a slot too many when it is split again. -/
theorem bounded_returns_resplit :
    ∃ history final, (BoundedSystem.system Nat .checked).play [] (.new (.fromIter 1 [5]))
        [.split, .tryRecv true, .dropReceiver, .dropSender 0] = some (history, final) ∧
      (BoundedSystem.system Nat .checked).step final .split = .error .underflow := by
  have initial : (BoundedSystem.system Nat .checked).Initial (.new (.fromIter 1 [5])) :=
    ⟨_, .inr (.inr ⟨1, by decide, [5], by decide, rfl⟩), rfl⟩
  obtain ⟨history, final, played, run, able, senders, reservations, spare⟩ :=
    (BoundedSystem.system Nat .checked).exists_run _ initial [.split, .tryRecv true, .dropReceiver, .dropSender 0]
      (fun _ final => (BoundedSystem.system Nat .checked).Enabled final .split ∧ final.queue.mask.bits + 2 ≤ usizeMax ∧
        final.queue.extra.reserved < usizeMax ∧ final.queue.maxCapacity < final.queue.capacity) (by decide)
  exact ⟨history, final, played, (bounded_returns run able senders reservations .underflow).mpr ⟨rfl, .inl rfl, rfl, spare⟩⟩

end Run
end AsyncUnsync.Proofs.BoundedSafety
