import AsyncUnsync.Library.Patience
import AsyncUnsync.Proofs.SlotTurns

/-! No sender starves. Slots that are given back go to those first in line, and whoever leaves
the line, but for its own cancellation, is woken. -/

namespace AsyncUnsync.Proofs.PatientSenders
open Memory Transition BoundedSystem MailboxSystem MailboxRefinement SlotTurns
variable {T : Type} {build : Build}

/-- The slots that a call gives back: of an element that was received, of a permit that is dropped
unused, and of a future that is dropped after it was granted one. -/
def given (s : Scene T) : Action T → Reply T → Nat
  | .tryRecv _, .received (.ok _) | .pollRecv _ _, .polled (.ready (some _)) | .dropPermit _, _ | .dropOwnedPermit _, _ => 1
  | .dropFuture a, _ => if s.mailbox.slots.requests.get? a = some .granted then 1 else 0
  | _, _ => 0

/-- Somebody leaves the line: it cancels, or its task is woken. -/
def Leaves (a : Addr) (event : Event (State T) (Action T) (Outcome T)) : Prop :=
  a ∉ event.after.queue.extra.semaphore.queue ∧
    (event.action = .dropFuture a ∨ ∃ waker ∈ event.outcome.woken,
      (view event.before).mailbox.slots.requests.get? a = some (.waiting waker))

/-- What becomes of somebody in line: it stays, and `n` of those before it are served, or it is woken. -/
def Fate (s s' : Slots) (woken : List Waker) (n : Nat) (a : Addr) : Prop :=
  (a ∈ s'.line ∧ s'.line.idxOf a + n ≤ s.line.idxOf a) ∨
    (a ∉ s'.line ∧ ∃ waker ∈ woken, s.requests.get? a = some (.waiting waker))

section Slots
variable {s s' : Slots} {a b : Addr} {n : Nat} {woken : List Waker}

theorem Fate.same (member : a ∈ s.line) (line : s'.line = s.line) : Fate s s' woken 0 a :=
  .inl ⟨line ▸ member, by rw [line]; exact Nat.le_refl _⟩

theorem Fate.weaken {fewer : Nat} {more : List Waker} (fate : Fate s s' woken n a) (enough : fewer ≤ n)
    (inside : woken ⊆ more) : Fate s s' more fewer a := by
  rcases fate with ⟨member, nearer⟩ | ⟨gone, waker, wakes, waits⟩
  · exact .inl ⟨member, by omega⟩
  · exact .inr ⟨gone, waker, inside wakes, waits⟩

theorem give_fate (nodup : s.line.Nodup) (n : Nat) (member : a ∈ s.line) {waker : Waker}
    (waits : s.requests.get? a = some (.waiting waker)) : Fate s (s.give n).1 (s.give n).2 n a := by
  have split := List.take_append_drop n s.line
  have shorter : (s.line.take n ++ s.line.drop n).Sublist s.line := by rw [split]
  by_cases stays : a ∈ s.line.drop n
  · have nearer := idxOf_served shorter nodup stays
    have long : n ≤ s.line.length := by
      by_contra short
      rw [List.drop_of_length_le (by omega)] at stays
      cases stays
    rw [List.length_take, Nat.min_eq_left long] at nearer
    exact .inl ⟨stays, nearer⟩
  · have served : a ∈ s.line.take n := by
      rw [← split] at member
      exact (List.mem_append.mp member).resolve_right stays
    exact .inr ⟨stays, waker, List.mem_filterMap.mpr ⟨a, served, by rw [waits]; rfl⟩, waits⟩

theorem forget_fate (nodup : s.line.Nodup) (member : a ∈ s.line) (other : a ≠ b) : Fate s (s.forget b) woken 0 a := by
  have stays : a ∈ s.line.erase b := (List.mem_erase_of_ne other).mpr member
  exact .inl ⟨stays, idxOf_le_of_sublist List.erase_sublist nodup stays⟩

theorem withdraw_fate (orderly : Orderly s) (member : a ∈ s.line) (other : a ≠ b) :
    Fate s (s.withdraw b).1 (s.withdraw b).2 (if s.requests.get? b = some .granted then 1 else 0) a := by
  obtain ⟨waker, waits⟩ := (orderly.waits a).mp member
  unfold Slots.withdraw
  split
  · have stays : a ∈ (s.forget b).line := (List.mem_erase_of_ne other).mpr member
    have kept : (s.forget b).requests.get? a = some (.waiting waker) := by simpa [Slots.forget, other] using waits
    have nearer : (s.forget b).line.idxOf a ≤ s.line.idxOf a := idxOf_le_of_sublist List.erase_sublist orderly.nodup stays
    rcases give_fate (orderly.nodup.erase b) 1 stays kept with ⟨still, nearest⟩ | ⟨gone, served⟩
    · exact .inl ⟨still, by omega⟩
    · obtain ⟨waker', wakes, same⟩ := served
      rw [kept] at same
      cases same
      exact .inr ⟨gone, waker, wakes, waits⟩
  · exact forget_fate orderly.nodup member other

theorem withdraw_gone (nodup : s.line.Nodup) (a : Addr) : a ∉ (s.withdraw a).1.line := by
  have gone : a ∉ s.line.erase a := nodup.not_mem_erase
  unfold Slots.withdraw
  split
  · exact fun member => gone (List.mem_of_mem_drop member)
  · exact gone

theorem poll_fate (orderly : Orderly s) (member : a ∈ s.line) (b : Addr) (waker : Waker) :
    Fate s (s.poll b waker).state (s.poll b waker).woken 0 a := by
  obtain ⟨registered, waits⟩ := (orderly.waits a).mp member
  have other : s.requests.get? b ≠ some (.waiting registered) → a ≠ b := fun idle same => idle (same ▸ waits)
  by_cases closed : s.closed = true
  · rw [orderly.shut closed] at member
    cases member
  · have opened := Bool.eq_false_iff.mpr closed
    unfold Slots.poll
    rw [if_neg closed]
    split
    next fresh =>
      split
      · refine .inl ⟨List.mem_append_left _ member, ?_⟩
        simp only [List.idxOf_append_of_mem member]
        exact Nat.le_refl _
      · exact forget_fate orderly.nodup member (other (by rw [fresh]; simp))
    next granted => exact forget_fate orderly.nodup member (other (by rw [granted]; simp))
    next => exact .same member rfl

theorem close_fate (orderly : Orderly s) (member : a ∈ s.line) : Fate s s.close.1 s.close.2 0 a := by
  obtain ⟨waker, waits⟩ := (orderly.waits a).mp member
  exact .inr ⟨List.not_mem_nil, waker, List.mem_filterMap.mpr ⟨a, member, by rw [waits]; rfl⟩, waits⟩

theorem take_fate (member : a ∈ s.line) (taken : s.take = .ok s') : Fate s s' woken 0 a := by
  unfold Slots.take at taken
  split at taken
  · cases taken
  · split at taken
    · cases taken
    · cases taken
      exact .same member rfl

end Slots

section Step
variable {s : Scene T} {a : Addr} {action : Action T} {effect : Effect (Mailbox T) (Reply T)}

private theorem decrease_slots {m : Mailbox T} {left : Effect (Mailbox T) Unit} (decreased : m.decreaseSenderCount = .ok left) :
    left.state.slots = m.slots := by
  obtain ⟨⟨mask, last⟩, _, stored⟩ := bind_ok decreased
  cases stored
  cases last <;> rfl

private theorem tryReserve_fate {m : Mailbox T} {left : Effect (Mailbox T) (Except (TrySendError Unit) Unit)}
    (member : a ∈ m.slots.line) (reserved : m.tryReserve = .ok left) : Fate m.slots left.state.slots left.woken 0 a := by
  unfold Mailbox.tryReserve at reserved
  split at reserved
  next slots taken =>
    obtain ⟨after, counted, stored⟩ := bind_ok reserved
    obtain ⟨count, _, kept⟩ := bind_ok counted
    cases kept
    cases stored
    exact take_fate member taken
  next =>
    cases reserved
    exact .same member rfl

private theorem reserve_fate {m : Mailbox T} {left : Effect (Mailbox T) (Poll (Except (SendError Unit) Unit))} {b : Addr}
    {waker : Waker} (orderly : Orderly m.slots) (member : a ∈ m.slots.line) (reserved : m.reserve b waker = .ok left) :
    Fate m.slots left.state.slots left.woken 0 a := by
  have fate := poll_fate orderly member b waker
  unfold Mailbox.reserve at reserved
  dsimp only at reserved
  split at reserved
  · cases reserved
    exact fate
  · cases reserved
    exact fate
  · obtain ⟨after, counted, stored⟩ := bind_ok reserved
    obtain ⟨count, _, kept⟩ := bind_ok counted
    cases kept
    cases stored
    exact fate

private theorem dropFuture_slots {b : Addr} (operated : MailboxSystem.operate build s (.dropFuture b) = .ok effect) :
    effect.state.slots = (s.mailbox.slots.withdraw b).1 ∧ (s.mailbox.slots.withdraw b).2 ⊆ effect.woken := by
  simp only [MailboxSystem.operate] at operated
  split at operated
  · cases operated
  · split at operated
    · obtain ⟨inner, done, stored⟩ := bind_ok operated
      obtain ⟨left, decreased, done⟩ := bind_ok done
      have slots := decrease_slots decreased
      cases done
      cases stored
      exact ⟨slots, List.subset_append_left ..⟩
    · cases operated
      exact ⟨rfl, List.Subset.refl _⟩

theorem operate_fate (orderly : Orderly s.mailbox.slots) (member : a ∈ s.mailbox.slots.line)
    (operated : MailboxSystem.operate build s action = .ok effect) (other : action ≠ .dropFuture a) :
    Fate s.mailbox.slots effect.state.slots effect.woken (given s action effect.value) a := by
  obtain ⟨waker, waits⟩ := (orderly.waits a).mp member
  have gives := fun n => give_fate orderly.nodup n member waits
  cases action with
  | split | intoSplit =>
    obtain ⟨inner, done, stored⟩ := bind_ok operated
    obtain ⟨missing, _, done⟩ := bind_ok done
    obtain ⟨mask, _, done⟩ := bind_ok done
    cases done
    cases stored
    exact (gives missing).weaken (Nat.zero_le _) (List.Subset.refl _)
  | intoDeque | send | reserve | reserveOwned | forgetReceiver | forgetFuture | forgetPermit | forgetOwnedPermit
  | forgetSender =>
    cases operated
    exact .same member rfl
  | close | dropReceiver =>
    cases operated
    exact close_fate orderly member
  | tryRecv counted =>
    cases operated
    simp only [Mailbox.tryRecv]
    cases s.mailbox.items with
    | nil => exact .same member rfl
    | cons elem rest => exact gives 1
  | pollRecv counted waker =>
    cases operated
    simp only [Mailbox.pollRecv, Mailbox.tryRecv]
    cases s.mailbox.items with
    | nil =>
      cases s.mailbox.reserved == 0 && s.mailbox.isClosed counted <;> exact .same member rfl
    | cons elem rest => exact gives 1
  | trySend via elem =>
    cases operated
    simp only [Mailbox.trySend]
    cases taken : s.mailbox.slots.take with
    | ok slots => exact take_fate member taken
    | error => exact .same member rfl
  | tryReserve via | tryReserveOwned id =>
    obtain ⟨inner, done, stored⟩ := bind_ok operated
    cases stored
    exact tryReserve_fate member done
  | pollFuture b waker =>
    simp only [MailboxSystem.operate] at operated
    cases found : s.clients.futures.get? b with
    | none => rw [found] at operated; cases operated
    | some future =>
      rw [found] at operated
      cases future with
      | send via elem =>
        cases operated
        have fate := poll_fate orderly member b waker
        simp only [Mailbox.send]
        split
        · exact fate
        · exact fate
        · exact fate.weaken (Nat.le_refl _) (List.subset_append_left ..)
      | reserve | reserveOwned =>
        obtain ⟨inner, done, stored⟩ := bind_ok operated
        cases stored
        exact reserve_fate orderly member done
  | dropFuture b =>
    have apart : a ≠ b := fun same => other (same ▸ rfl)
    obtain ⟨slots, wakes⟩ := dropFuture_slots operated
    rw [slots]
    exact (withdraw_fate orderly member apart).weaken (Nat.le_refl _) wakes
  | permitSend p elem | ownedPermitSend p elem =>
    obtain ⟨inner, done, stored⟩ := bind_ok operated
    obtain ⟨reserved, _, done⟩ := bind_ok done
    cases done
    cases stored
    exact .same member rfl
  | dropPermit p =>
    obtain ⟨inner, done, stored⟩ := bind_ok operated
    obtain ⟨reserved, _, done⟩ := bind_ok done
    cases done
    cases stored
    exact gives 1
  | dropOwnedPermit p =>
    obtain ⟨inner, done, stored⟩ := bind_ok operated
    obtain ⟨dropped, done, decreased⟩ := bind_ok done
    obtain ⟨reserved, _, done⟩ := bind_ok done
    cases done
    obtain ⟨left, decreased, done⟩ := bind_ok decreased
    have slots := decrease_slots decreased
    cases done
    cases stored
    change Fate _ left.state.slots _ 1 a
    rw [slots]
    exact (gives 1).weaken (Nat.le_refl _) (List.subset_append_left ..)
  | cloneSender id =>
    obtain ⟨mailbox, done, stored⟩ := bind_ok operated
    obtain ⟨mask, _, done⟩ := bind_ok done
    cases done
    cases stored
    exact .same member rfl
  | dropSender id =>
    obtain ⟨inner, done, stored⟩ := bind_ok operated
    cases stored
    exact .same member (congrArg Slots.line (decrease_slots done))

end Step

section Run
variable {start final : State T} {past later : History (State T) (Action T) (Outcome T)}
  {event since : Event (State T) (Action T) (Outcome T)} {a : Addr}

/-- The step lemma: a step ends the wait, or brings it nearer to its end. -/
private theorem step_nears (run : (BoundedSystem.system T build).Run start (event :: past) event.after)
    (waits : a ∈ event.before.queue.extra.semaphore.queue) :
    (a ∈ event.after.queue.extra.semaphore.queue ∧
      event.after.queue.extra.semaphore.queue.idxOf a + given (view event.before) event.action event.outcome.reply ≤
        event.before.queue.extra.semaphore.queue.idxOf a) ∨ Leaves a event := by
  have orderly := (lined_view ((refines T build).run run.last.1).1).toOrderly
  obtain ⟨_, able, stepped, _⟩ := ((refines T build).run run).2.last
  obtain ⟨effect, operated, stored⟩ := bind_ok stepped
  obtain ⟨after, outcome⟩ := Prod.mk.inj (Except.ok.inj stored)
  have line : event.after.queue.extra.semaphore.queue = effect.state.slots.line :=
    congrArg (fun scene => scene.mailbox.slots.line) after.symm
  have told : event.outcome = ⟨effect.value, effect.woken⟩ := outcome.symm
  rw [Leaves, line, told]
  by_cases cancels : event.action = .dropFuture a
  · refine .inr ⟨?_, .inl cancels⟩
    simp only [Event.seen, Event.image, cancels] at operated
    rw [(dropFuture_slots operated).1]
    exact withdraw_gone orderly.nodup a
  · rcases operate_fate orderly waits operated cancels with stays | ⟨leaves, woken⟩
    · exact .inl stays
    · exact .inr ⟨leaves, .inr woken⟩

end Run
end AsyncUnsync.Proofs.PatientSenders
