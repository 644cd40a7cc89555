import AsyncUnsync.Proofs.BoundedTotal

/-! Where the capacity of a bounded channel is, along every run without leaks. A
split preserves the limit exactly when nothing is queued. -/

namespace AsyncUnsync.Proofs.CapacityConservation
open Memory Transition BoundedSystem BoundedClients BoundedValid QueueCalls SlotAccounting SlotBalance BoundedTotal
variable {T : Type}

def holdsSlot (waiter : Waiter) : Bool := waiter.state == .woken && waiter.permits == 1

/-- The futures that were granted a slot, but neither polled since nor dropped. -/
def granted (s : State T) : Nat :=
  ((List.range s.clients.futures.size).filter fun a =>
    (s.clients.futures.get? a).isSome && (s.queue.extra.semaphore.memory.get? a).any holdsSlot).length

/-- Where every slot of the channel is. -/
structure Accounted (s : State T) : Prop where
  slots : s.queue.capacity + s.queue.len + s.queue.extra.reserved + granted s = s.queue.maxCapacity
  reserved : s.queue.extra.reserved =
    s.clients.permits.count (fun _ => true) + s.clients.ownedPermits.count fun _ => true
  room : s.queue.len ≤ s.queue.maxCapacity
  /-- No call faults; in particular `reserved` never underflows. -/
  total : ∀ build action, enabled s.clients action = true →
    (addsSender action = true → s.queue.mask.bits + 2 ≤ usizeMax) → ∃ effect, operate build s action = .ok effect

def Within (s : State T) : Prop := s.queue.len ≤ s.queue.maxCapacity ∧ s.queue.capacity ≤ s.queue.maxCapacity

/-- The limit holds before and after the step, and a split offers what is not taken. -/
def Limited (_ : History (State T) (Action T) (Outcome T)) (event : Event (State T) (Action T) (Outcome T)) : Prop :=
  Within event.before ∧ Within event.after ∧
    (splits event.action = true → event.after.queue.capacity = event.after.queue.maxCapacity - event.after.queue.len)

def SplitsEmpty (_ : History (State T) (Action T) (Outcome T)) (event : Event (State T) (Action T) (Outcome T)) : Prop :=
  splits event.action = true → event.before.queue.items = []

instance (event : Event (State T) (Action T) (Outcome T)) : Decidable (Careful event) :=
  inferInstanceAs (Decidable (_ ∧ (_ → _)))

instance (past : History (State T) (Action T) (Outcome T)) (event : Event (State T) (Action T) (Outcome T)) :
    Decidable (SplitsEmpty past event) := inferInstanceAs (Decidable (_ → _))

variable {build : Build} {start final s : State T} {cap : Nat} {past history : History (State T) (Action T) (Outcome T)}
  {event : Event (State T) (Action T) (Outcome T)}

section Slots
variable {sem : Semaphore} {a : Addr}

private theorem holds_permits (valid : sem.ledger.Valid) (single : Single sem.ledger) {waiter : Waiter}
    (live : sem.memory.get? a = some waiter) : waiter.permits = if holdsSlot waiter then 1 else 0 := by
  have held : sem.ledger.tickets.get? a = some waiter.ticket := by simp [Semaphore.ledger, live]
  have one : waiter.wants = 1 := single a _ (demand_of_held held)
  obtain ⟨bounded, inert, waiting⟩ := valid.ticket a _ held
  simp only [Waiter.ticket] at bounded inert waiting
  cases state : waiter.state with
  | inert =>
    have nothing := (inert state).1
    simp [holdsSlot, state, nothing]
  | waiting =>
    have short := (waiting state).1
    simp only [holdsSlot, state]
    simp
    omega
  | woken =>
    by_cases full : waiter.permits = 1
    · simp [holdsSlot, state, full]
    · simp only [holdsSlot, state, full, beq_self_eq_true, Bool.true_and, beq_iff_eq, if_false]
      omega

theorem slots_eq (valid : sem.ledger.Valid) (single : Single sem.ledger) :
    sem.availablePermits + sem.memory.count holdsSlot = PermitTotals.owned sem.ledger := by
  have sums : sem.ledger.tickets.sum Ticket.permits = sem.memory.sum Waiter.permits := by
    simp [Semaphore.ledger, Waiter.ticket]
  have counts : sem.memory.sum Waiter.permits = sem.memory.count holdsSlot :=
    Arena.sum_congr fun a waiter live => holds_permits valid single live
  rw [PermitTotals.owned, sums, counts]
  rfl

end Slots

theorem granted_eq (hosted : Hosted (s.clients.futures.map fun _ => 1) s.queue.extra.semaphore) :
    granted s = s.queue.extra.semaphore.memory.count holdsSlot := by
  symm
  apply Arena.count_eq_length _ _ (List.nodup_range.filter _)
  intro a
  have lives : s.clients.futures.get? a = none → s.queue.extra.semaphore.memory.get? a = none := by
    intro dead
    have demand : (demands s.queue.extra.semaphore.ledger).get? a = none := by simp [hosted.demands, dead]
    simpa [demands, Semaphore.ledger] using demand
  simp only [List.mem_filter, List.mem_range, Bool.and_eq_true, Option.any_eq_true]
  constructor
  · intro counted
    exact counted.2.2
  · intro holder
    obtain ⟨waiter, live, holds⟩ := holder
    cases held : s.clients.futures.get? a with
    | none => cases (lives held).symm.trans live
    | some future => exact ⟨Arena.lt_size held, rfl, waiter, live, holds⟩

theorem accounted_of_tally (tally : Tally cap s) (valid : Valid s) : Accounted s := by
  obtain ⟨⟨slots, stock, total⟩, capacity, _⟩ := tally.balanced
  have offered := (slots_eq stock.sound.valid stock.singles).trans stock.owned
  have waiting := granted_eq stock.toHosted
  refine ⟨?_, tally.reserved, tally.balanced.within.1, ?_⟩
  · simp only [BoundedQueue.capacity, BoundedQueue.maxCapacity, Queue.len, Deque.len, Queue.items_eq]
    omega
  · intro build action able room
    exact operate_total build tally valid able room

theorem within_of_tally (tally : Tally cap s) : Within s := tally.balanced.within

/-- Along every run without leaks in which only empty channels are split, every slot is accounted for. -/
theorem run_accounted (run : (system T build).Run start history final)
    (careful : ∀ event ∈ history, Careful event ∧ event.action ≠ .intoDeque) :
    Accounted final ∧ final.queue.maxCapacity = start.queue.maxCapacity := by
  rcases run_tally run fun event member => (careful event member).1 with tally | ⟨⟨event, member, consumes⟩, _⟩
  · exact ⟨accounted_of_tally tally (run_valid run), tally.balanced.capacity⟩
  · exact absurd consumes (careful event member).2

/-- A blocked sender is granted the slot of the element that is received. -/
theorem run_accounted_granted :
    ∃ history final, (system Nat .checked).play [] (.new (.fromIter 1 [5]))
        [.send .channel 6, .pollFuture 0 9, .tryRecv false] = some (history, final) ∧
      granted final = 1 ∧ Accounted final := by
  obtain ⟨history, final, played, run, careful, one⟩ := (system Nat .checked).exists_run (.new (.fromIter 1 [5]))
    ⟨_, .inr (.inr ⟨1, by decide, [5], by decide, rfl⟩), rfl⟩ [.send .channel 6, .pollFuture 0 9, .tryRecv false]
    (fun history final => (∀ event ∈ history, Careful event ∧ event.action ≠ .intoDeque) ∧ granted final = 1) (by decide)
  exact ⟨history, final, played, one, (run_accounted run careful).1⟩

section Splits

private theorem split_step (tally : Tally cap event.before) (coherent : Coherent event.before.clients)
    (able : enabled event.before.clients event.action = true) (split : splits event.action = true)
    {effect : Effect (BoundedQueue T) (Reply T)} (operated : operate build event.before event.action = .ok effect) :
    effect.state.capacity = cap ∧ effect.state.items = event.before.queue.items ∧
      effect.state.extra.maxCapacity = cap := by
  obtain ⟨before, action, _, _⟩ := event
  cases action with
  | split | intoSplit =>
    obtain ⟨idle, unreserved⟩ := tally.alone coherent able
    obtain ⟨counted, done, stored⟩ := bind_ok operated
    obtain ⟨_, offers, items, capacity, _⟩ := setCounted_refills tally.balanced idle unreserved done
    cases stored
    exact ⟨offers, items, capacity⟩
  | _ => cases split

private theorem whole_step (tally : Tally cap event.before) (valid : Valid event.before)
    (able : enabled event.before.clients event.action = true) (kept : leaks event.action = false)
    (empty : splits event.action = true → event.before.queue.items = [])
    {effect : Effect (BoundedQueue T) (Reply T)} (operated : operate build event.before event.action = .ok effect)
    (after : event.after = ⟨effect.state, record event.before.clients effect.value event.action⟩) : Within event.after := by
  by_cases whole : event.action = .intoDeque
  · rw [after]
    rw [whole] at operated
    cases operated
    exact ⟨Nat.zero_le _, (within_of_tally tally).2⟩
  · rw [after]
    exact within_of_tally (tally_step tally valid able kept whole empty operated)

/-- The step lemma: a split preserves the limit exactly when nothing is queued. -/
theorem limited_iff (run : (system T build).Run start (event :: past) event.after)
    (kept : ∀ other ∈ event :: past, leaks other.action = false) (empty : Along SplitsEmpty past) :
    Limited past event ↔ SplitsEmpty past event := by
  obtain ⟨earlier, valid, able, effect, operated, after, _⟩ := run_step run
  have careful : ∀ other ∈ past, Careful other := by
    intro other member
    exact ⟨kept other (List.mem_cons_of_mem _ member), along_iff_forall.mp empty other member⟩
  have unleaked := kept event (List.mem_cons_self ..)
  rcases run_tally earlier careful with tally | ⟨_, consumed⟩
  · constructor
    · intro ⟨within, _, offers⟩ split
      obtain ⟨capacity, items, max⟩ := split_step tally valid.coherent able split operated
      have offered := offers split
      have room := within.1
      have cap := tally.balanced.capacity
      rw [after] at offered
      simp only [capacity, max, Queue.len, Deque.len, Queue.items_eq, items, BoundedQueue.maxCapacity, cap] at offered room
      apply List.eq_nil_of_length_eq_zero
      omega
    · intro empty
      refine ⟨within_of_tally tally, whole_step tally valid able unleaked empty operated after, fun split => ?_⟩
      obtain ⟨capacity, items, max⟩ := split_step tally valid.coherent able split operated
      rw [after]
      simp [capacity, max, BoundedQueue.maxCapacity, Queue.len, Deque.len, items, empty split]
  · cases (consumed.inert event.action).symm.trans able

end Splits

/-- Along every run without leaks, the limit is kept exactly when only empty channels are split. -/
theorem run_limited_iff (run : (system T build).Run start history final)
    (kept : ∀ event ∈ history, leaks event.action = false) : Along Limited history ↔ Along SplitsEmpty history :=
  run.along_iff_of kept fun _ _ reached kept empty => limited_iff reached kept empty

/-- A channel that was filled and emptied again is split. -/
theorem run_limited_emptied :
    ∃ history final, (system Nat .checked).play [] (.new (.fromIter 1 [5])) [.tryRecv false, .split] =
      some (history, final) ∧ Along Limited history := by
  obtain ⟨history, final, played, run, kept, empty⟩ := (system Nat .checked).exists_run (.new (.fromIter 1 [5]))
    ⟨_, .inr (.inr ⟨1, by decide, [5], by decide, rfl⟩), rfl⟩ [.tryRecv false, .split]
    (fun history _ => (∀ event ∈ history, leaks event.action = false) ∧ Along SplitsEmpty history) (by decide)
  exact ⟨history, final, played, (run_limited_iff run kept).mpr empty⟩

/-- A channel that was filled by its constructor is split, and offers a slot that is taken. -/
theorem filled_split_not_limited :
    ¬ ∀ start history final, (system Nat .checked).Run start history final →
      (∀ event ∈ history, leaks event.action = false) → Along Limited history := by
  intro limited
  obtain ⟨history, final, _, run, kept, filled⟩ := (system Nat .checked).exists_run (.new (.fromIter 1 [5]))
    ⟨_, .inr (.inr ⟨1, by decide, [5], by decide, rfl⟩), rfl⟩ [.split]
    (fun history _ => (∀ event ∈ history, leaks event.action = false) ∧ ¬ Along SplitsEmpty history) (by decide)
  exact filled ((run.along_iff_of kept fun _ _ reached kept empty => limited_iff reached kept empty).mp
    (limited _ _ _ run kept))

end AsyncUnsync.Proofs.CapacityConservation
