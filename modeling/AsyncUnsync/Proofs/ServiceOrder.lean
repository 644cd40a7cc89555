import AsyncUnsync.Proofs.FirstPolls

/-! The waiters of a semaphore are served in the order in which they joined the queue, but
for those that cancel. Every wait ends at most once, and whoever is served is woken once. -/

namespace AsyncUnsync.Proofs.ServiceOrder
open Memory Transition SemaphoreSystem LedgerSystem LedgerSimulation LedgerTurns FirstPolls

/-- Who starts to wait with a call. -/
def joins (event : Event State Action Outcome) : List Addr :=
  event.after.sem.queue.filter fun a => a ∉ event.before.sem.queue

/-- Who waits, and is dropped. -/
def cancels (event : Event State Action Outcome) : List Addr :=
  match event.action with
  | .dropAcquire a => if a ∈ event.before.sem.queue then [a] else []
  | _ => []

/-- Who need not wait any longer, because of a grant or the close. -/
def serves (event : Event State Action Outcome) : List Addr :=
  event.before.sem.queue.filter fun a => a ∉ event.after.sem.queue ∧ a ∉ cancels event

variable {start state final : State} {past history : History State Action Outcome} {event : Event State Action Outcome}
  {a : Addr} {v : View}

section Lists
variable {q q' front : List Addr}

private theorem filter_front (nodup : (front ++ q).Nodup) : (front ++ q).filter (fun a => a ∉ q) = front := by
  have apart := (List.nodup_append.mp nodup).2.2
  rw [List.filter_append, List.filter_eq_self.mpr, List.filter_eq_nil_iff.mpr, List.append_nil]
  · simp
  · intro a member
    have outside : a ∉ q := fun inside => apart a member a inside rfl
    simpa using outside

private theorem filter_none (inside : ∀ a ∈ q', a ∈ q) : q'.filter (fun a => a ∉ q) = [] := by
  rw [List.filter_eq_nil_iff]
  simpa using inside

private theorem filter_all (outside : ∀ a ∈ q', a ∉ q) : q'.filter (fun a => a ∉ q) = q' := by
  rw [List.filter_eq_self]
  simpa using outside

private theorem map_some_filterMap {f g : Addr → Option Waker} (defined : ∀ a ∈ q, ∃ waker, f a = some waker ∧ g a = some waker) :
    (q.filterMap f).map some = q.map g := by
  induction q with
  | nil => rfl
  | cons a rest ih =>
    obtain ⟨waker, here, there⟩ := defined a (by simp)
    rw [List.filterMap_cons_some here, List.map_cons, List.map_cons, there, ih fun b member => defined b (by simp [member])]

end Lists

private theorem serves_eq : serves event =
    (event.before.sem.queue.filter (fun a => a ∉ cancels event)).filter (fun a => a ∉ event.after.sem.queue) := by
  rw [serves, List.filter_filter]
  simp only [Bool.decide_and]

private theorem cancels_queued : ∀ a ∈ cancels event, a ∈ event.before.sem.queue := by
  intro a member
  unfold cancels at member
  split at member
  · split at member
    next queued =>
      rw [List.mem_singleton] at member
      exact member ▸ queued
    · cases member
  · cases member

theorem remaining (nodup : event.before.sem.queue.Nodup) :
    event.before.sem.queue.filter (fun a => a ∉ cancels event) =
      (returned (view event.before) event.action).1.queue := by
  have nobody : event.before.sem.queue.filter (fun a => a ∉ ([] : List Addr)) = event.before.sem.queue :=
    filter_all (by simp)
  unfold cancels
  cases event.action with
  | dropAcquire a =>
    have erased : (returned (view event.before) (.dropAcquire a)).1.queue = event.before.sem.queue.erase a := rfl
    rw [erased]
    dsimp only
    split
    · rw [nodup.erase_eq_filter]
      simp only [List.mem_singleton, bne, decide_not]
      rfl
    next absent => rw [nobody, List.erase_of_not_mem absent]
  | _ => exact nobody

/-- What a call does to the queue: the cancelled waiter leaves it, those who are due leave its front,
and a newcomer joins its back. -/
theorem queue_step (run : system.Run start (event :: past) state) :
    event.before.sem.queue.filter (fun a => a ∉ cancels event) ++ joins event = serves event ++ event.after.sem.queue ∧
      serves event = due (view event.before) event.action ∧ (joins event).Nodup ∧
      ∀ a ∈ joins event, a ∉ firstPolls past ∧ a ∈ firstPolls (event :: past) := by
  obtain ⟨run', sound, _, enabled, turned⟩ := run_turn run
  have valid : (view event.before).ledger.Valid := sound.valid
  have after : (turn (view event.before) event.action).1.ledger.queue = event.after.sem.queue := by rw [turned]; rfl
  have nodup : event.before.sem.queue.Nodup := valid.nodup
  have shorter := returned_sublist (view event.before) event.action
  rcases turn_queue valid event.action with left | ⟨a, waker, ticket, polls, enqueues, queue⟩
  · rw [after] at left
    have inside : ∀ a ∈ event.after.sem.queue, a ∈ event.before.sem.queue := fun a member =>
      shorter.subset (left ▸ List.mem_append_right _ member)
    have nobody : joins event = [] := filter_none inside
    have apart : (due (view event.before) event.action ++ event.after.sem.queue).Nodup := left ▸ shorter.nodup nodup
    have served : serves event = due (view event.before) event.action := by
      rw [serves_eq, remaining nodup, left, filter_front apart]
    rw [nobody, List.append_nil, remaining nodup, served, left]
    exact ⟨rfl, rfl, List.nodup_nil, by simp⟩
  · have grown : event.after.sem.queue = event.before.sem.queue ++ [a] := after.symm.trans queue
    have polled := run_polled run'
    have fresh : a ∉ firstPolls past := (polled.inert a ticket enqueues.held).mp enqueues.inert
    have outside : a ∉ event.before.sem.queue := fun member => fresh (polled.order.subset member)
    have joined : joins event = [a] := by
      rw [joins, grown, List.filter_append, filter_none (fun _ member => member), filter_all (by simpa using outside)]
      rfl
    have nobody : due (view event.before) event.action = [] := by
      rw [due, polls, if_neg (by simp)]
      exact congrArg Serving.Served.served (handout_zero valid)
    have kept := remaining nodup
    rw [polls] at kept
    have whole : event.before.sem.queue.filter (fun a => a ∉ cancels event) = event.before.sem.queue := kept
    have served : serves event = [] := by
      rw [serves_eq, whole, grown]
      exact filter_none fun _ member => List.mem_append_left _ member
    rw [joined, whole, served, nobody, grown]
    refine ⟨rfl, rfl, List.nodup_singleton _, fun b single => ?_⟩
    rw [List.mem_singleton] at single
    subst single
    exact ⟨fresh, firstPolls_self polls⟩

private structure Ordered (history : History State Action Outcome) (state : State) : Prop where
  joined : ∀ a ∈ gathered joins history, a ∈ firstPolls history
  cancelled : ∀ a ∈ gathered cancels history, a ∈ firstPolls history
  nodup : (gathered joins history).Nodup
  served : (gathered joins history).filter (fun a => a ∉ gathered cancels history) =
    gathered serves history ++ state.sem.queue

/-- The step lemma: who is served leaves the front of those who joined and did not cancel. -/
private theorem ordered_step (run : system.Run start (event :: past) state) (ordered : Ordered past event.before) :
    Ordered (event :: past) event.after := by
  obtain ⟨conserved, _, single, fresh⟩ := queue_step run
  have polled := run_polled run.last.1
  have known : ∀ a ∈ cancels event, a ∈ firstPolls past := fun a member => polled.order.subset (cancels_queued a member)
  refine ⟨?_, ?_, ?_, ?_⟩
  · intro a member
    simp only [gathered, List.mem_append] at member
    rcases member with earlier | now
    · exact firstPolls_grows.subset (ordered.joined a earlier)
    · exact (fresh a now).2
  · intro a member
    simp only [gathered, List.mem_append] at member
    rcases member with earlier | now
    · exact firstPolls_grows.subset (ordered.cancelled a earlier)
    · exact firstPolls_grows.subset (known a now)
  · refine List.nodup_append.mpr ⟨ordered.nodup, single, ?_⟩
    intro a earlier b now same
    exact (fresh b now).1 (same ▸ ordered.joined a earlier)
  · have whole : (gathered serves past ++ event.before.sem.queue).Nodup := ordered.served ▸ ordered.nodup.filter _
    have apart := (List.nodup_append.mp whole).2.2
    have past_kept : (gathered serves past).filter (fun a => a ∉ cancels event) = gathered serves past :=
      filter_all fun a member now => apart a member a (cancels_queued a now) rfl
    have new_kept : (joins event).filter (fun a => a ∉ gathered cancels past ++ cancels event) = joins event := by
      refine filter_all fun a member now => (fresh a member).1 ?_
      rcases List.mem_append.mp now with earlier | now
      · exact ordered.cancelled a earlier
      · exact known a now
    have split : (gathered joins past).filter (fun a => a ∉ gathered cancels past ++ cancels event) =
        ((gathered joins past).filter (fun a => a ∉ gathered cancels past)).filter (fun a => a ∉ cancels event) := by
      rw [List.filter_filter]
      apply List.filter_congr
      intro a _
      simp only [List.mem_append, not_or, Bool.decide_and, Bool.and_comm]
    calc (gathered joins past ++ joins event).filter (fun a => a ∉ gathered cancels past ++ cancels event)
      _ = (gathered serves past ++ event.before.sem.queue).filter (fun a => a ∉ cancels event) ++ joins event := by
        rw [List.filter_append, split, ordered.served, new_kept]
      _ = gathered serves past ++ (event.before.sem.queue.filter (fun a => a ∉ cancels event) ++ joins event) := by
        rw [List.filter_append, past_kept, List.append_assoc]
      _ = gathered serves (event :: past) ++ event.after.sem.queue := by
        rw [conserved, gathered, List.append_assoc]

private theorem run_ordered (run : system.Run start history state) : Ordered history state := by
  apply run.invariant Ordered
  · rintro ⟨permits, rfl⟩
    refine ⟨by simp [gathered], by simp [gathered], List.nodup_nil, ?_⟩
    have empty : (State.new permits).sem.queue = [] := congrArg Ledger.queue (Sound.new permits).1
    rw [empty]
    rfl
  · intro past before action outcome after run ordered enabled stepped
    exact ordered_step (.step run enabled stepped) ordered

private theorem serves_woken (run : system.Run start (event :: past) state) :
    event.outcome.woken.map some =
      (serves event).map fun a => (event.before.sem.memory.get? a).bind Waiter.waker := by
  obtain ⟨_, sound, _, enabled, turned⟩ := run_turn run
  have valid : (view event.before).ledger.Valid := sound.valid
  have told := turn_woken valid event.action
  rw [turned] at told
  rw [told, (queue_step run).2.1, Ledger.wakers]
  have queued : ∀ a ∈ due (view event.before) event.action, a ∈ event.before.sem.ledger.queue := fun a => due_queued
  apply map_some_filterMap
  intro a member
  obtain ⟨ticket, waker, held, _, registered, _⟩ := valid.queued (queued a member)
  obtain ⟨waiter, live, rfl⟩ := sound.refines.live held
  refine ⟨waker, ?_, ?_⟩
  · rw [held]
    exact registered
  · rw [live]
    exact registered

/-- In every run, whoever joins the queue and does not cancel is served in the order of joining, and
those not yet served are the queue. Nobody joins twice, and each call wakes those that it serves. -/
theorem service_order (run : system.Run start history final) :
    (gathered joins history).filter (fun a => a ∉ gathered cancels history) =
        gathered serves history ++ final.sem.queue ∧
      (gathered joins history).Nodup ∧
      ∀ event ∈ history, event.outcome.woken.map some =
        (serves event).map fun a => (event.before.sem.memory.get? a).bind Waiter.waker := by
  have ordered := run_ordered run
  refine ⟨ordered.served, ordered.nodup, ?_⟩
  intro event member
  obtain ⟨past, reached⟩ := run.reaches member
  exact serves_woken reached

/-- Of four requests that wait, the second cancels, the first gets a permit, and the close serves the other two. -/
theorem service_order_cancelled :
    ∃ history final, system.play [] (.new 0)
        [.acquireMany 1, .acquireMany 2, .acquireMany 1, .acquireMany 1, .poll 1 7, .poll 0 8, .poll 2 9, .poll 3 10,
          .dropAcquire 0, .addPermits 2, .close] = some (history, final) ∧
      gathered cancels history = [0] ∧ gathered serves history = [1, 2, 3] ∧
      (gathered joins history).filter (fun a => a ∉ gathered cancels history) =
        gathered serves history ++ final.sem.queue := by
  obtain ⟨history, final, played, run, cancelled, served⟩ := system.exists_run (.new 0) ⟨0, rfl⟩
    [.acquireMany 1, .acquireMany 2, .acquireMany 1, .acquireMany 1, .poll 1 7, .poll 0 8, .poll 2 9, .poll 3 10,
      .dropAcquire 0, .addPermits 2, .close]
    (fun history _ => gathered cancels history = [0] ∧ gathered serves history = [1, 2, 3]) (by decide)
  exact ⟨history, final, played, cancelled, served, (service_order run).1⟩

end AsyncUnsync.Proofs.ServiceOrder
