import AsyncUnsync.Proofs.ClosedFlags
import AsyncUnsync.Proofs.Delivery
import AsyncUnsync.Proofs.UnboundedCensus

/-! When a receiver is told that the channel is disconnected, and why nothing can come
after that: not even through the next pair of handles. -/

namespace AsyncUnsync.Proofs.Disconnection
open Memory Transition QueueCalls CensusCounts

private theorem receives_alone {h : Handles} {counted : Bool} (receives : h.receives counted = true) :
    counted = false → h.unsplit = true := by
  intro whole
  subst whole
  exact receives

namespace Bounded
open BoundedSystem FuturePolls BoundedClients BoundedCensus BoundedValid CallFootprints ClosedFlags SlotAccounting
variable {T : Type}

def closes : Action T → Bool
  | .close _ | .dropReceiver => true
  | _ => false

/-- No handle and no permit is leaked. -/
def Tidy (event : Event (State T) (Action T) (Outcome T)) : Prop := Kept event ∧ losesPermit event.action = false

instance (event : Event (State T) (Action T) (Outcome T)) : Decidable (Tidy event) := inferInstanceAs (Decidable (_ ∧ _))

/-- Nothing is queued, nothing can still come from a permit, and the channel ended. -/
def Over (history : History (State T) (Action T) (Outcome T)) (s : State T) : Prop :=
  s.queue.items = [] ∧ s.clients.permits.count (fun _ => true) = 0 ∧ s.clients.ownedPermits.count (fun _ => true) = 0 ∧
    Ended closes splits history s.clients.senderCount

/-- Whoever receives is told so exactly then. -/
structure Told (history : History (State T) (Action T) (Outcome T)) (s : State T) : Prop where
  tryRecv : ∀ counted, s.clients.handles.receives counted = true →
    ((∃ effect, s.queue.tryRecv counted = .ok effect ∧ effect.value = .error .disconnected) ↔ Over history s)
  pollRecv : ∀ counted waker, s.clients.handles.receives counted = true →
    ((∃ effect, s.queue.pollRecv counted waker = .ok effect ∧ effect.value = .ready none) ↔ Over history s)

def disconnected (event : Event (State T) (Action T) (Outcome T)) : Bool :=
  match event.action, event.outcome.reply with
  | .tryRecv _, .received (.error .disconnected) | .pollRecv _ _, .polled (.ready none) => true
  | _, _ => false

/-- Nothing enters the channel, and who receives is told of the end. -/
structure Finished (event : Event (State T) (Action T) (Outcome T)) : Prop where
  accepts : Delivery.Bounded.accepted event = []
  empty : event.after.queue.items = []
  tells : (∀ counted, event.action = .tryRecv counted → event.outcome.reply = .received (.error .disconnected)) ∧
    ∀ counted waker, event.action = .pollRecv counted waker → event.outcome.reply = .polled (.ready none)

/-- A channel that somebody sees closed is seen closed by everybody from then on. -/
def StaysClosed (event : Event (State T) (Action T) (Outcome T)) : Prop :=
  (∀ counted counted', (counted = false → event.before.clients.handles.unsplit = true) →
    (counted' = false → event.after.clients.handles.unsplit = true) →
    event.before.queue.isClosed counted = true → event.after.queue.isClosed counted' = true) ∧
  (event.before.queue.extra.semaphore.shared.closed = true → event.after.queue.extra.semaphore.shared.closed = true)

variable {build : Build} {start state : State T} {past later history : History (State T) (Action T) (Outcome T)}
  {event pivot : Event (State T) (Action T) (Outcome T)} {q : BoundedQueue T} {counted : Bool} {waker : Waker}

theorem move_closes (c : Clients T) (action : Action T) : (move c action).closes = closes action := by
  cases action with
  | dropFuture a | forgetFuture a =>
    simp only [move]
    split <;> rfl
  | _ => rfl

section Calls

theorem tryRecv_disconnected :
    (∃ effect, q.tryRecv counted = .ok effect ∧ effect.value = .error .disconnected) ↔
      q.items = [] ∧ q.extra.reserved = 0 ∧ q.isClosed counted = true := by
  constructor
  · rintro ⟨effect, done, ends⟩
    rcases tryRecv_ok done with ⟨_, _, _, _, _, _, _, value, _⟩ | ⟨items, _, _, rfl⟩
    · cases ends.symm.trans value
    · refine ⟨items, ?_⟩
      simpa using ends
  · rintro ⟨empty, unreserved, closed⟩
    obtain ⟨effect, done, value⟩ := tryRecv_empty counted empty
    exact ⟨effect, done, by simpa [unreserved, closed] using value⟩

end Calls

private theorem closed_iff (run : (system T build).Run start history state) (kept : ∀ event ∈ history, Kept event)
    (alone : counted = false → state.clients.handles.unsplit = true) :
    state.queue.isClosed counted = true ↔ state.queue.mask.bits % 2 = 1 :=
  (run_exact run kept).isClosed fun whole => unsplit_senders (run_valid run).coherent (alone whole)

theorem run_told (run : (system T build).Run start history state) (tidy : ∀ event ∈ history, Tidy event) :
    Told history state := by
  have kept : ∀ event ∈ history, Kept event := fun event member => (tidy event member).1
  have reserved := run_reserved run fun event member => (tidy event member).2
  have spent : ∀ counted, state.clients.handles.receives counted = true →
      (state.queue.items = [] ∧ state.queue.extra.reserved = 0 ∧ state.queue.isClosed counted = true ↔ Over history state) := by
    intro counted receives
    have closed := (closed_iff run kept (receives_alone receives)).trans (run_exact run kept).ended
    simp only [move_closes] at closed
    have none : holds state.clients = 0 ↔
        state.clients.permits.count (fun _ => true) = 0 ∧ state.clients.ownedPermits.count (fun _ => true) = 0 := by
      simp only [holds]
      omega
    rw [reserved, none, Over, and_assoc]
    exact and_congr_right fun _ => and_congr_right fun _ => and_congr_right fun _ => closed
  exact ⟨fun counted receives => tryRecv_disconnected.trans (spent counted receives),
    fun counted waker receives => pollRecv_none.trans (tryRecv_disconnected.trans (spent counted receives))⟩

section Final

/-- What stays true once the end was reported. -/
private structure Dead (s : State T) : Prop where
  empty : s.queue.items = []
  bit : s.queue.mask.bits % 2 = 1
  permits : holds s.clients = 0

private theorem dead_refuses (run : (system T build).Run start (event :: past) event.after)
    (tidy : ∀ other ∈ event :: past, Tidy other) (dead : Dead event.before) :
    Delivery.Bounded.accepted event = [] ∧ holds event.after.clients = 0 := by
  obtain ⟨earlier, valid, able, effect, operated, after, outcome⟩ := run_step run
  have kept : ∀ other ∈ past, Kept other := fun other member => (tidy other (List.mem_cons_of_mem _ member)).1
  have exact := run_exact earlier kept
  have seen : ∀ counted, sends counted event.before = true → event.before.queue.isClosed counted = true :=
    fun counted live => (exact.isClosed (alone_of_sends valid.coherent live)).mpr dead.bit
  have none := dead.permits
  simp only [holds] at none
  have permits : event.before.clients.permits.count (fun _ => true) = 0 := by omega
  have owned : event.before.clients.ownedPermits.count (fun _ => true) = 0 := by omega
  obtain ⟨before, action, _, _⟩ := event
  dsimp only at *
  subst after outcome
  cases action with
  | trySend via elem =>
    have refused := (trySend_closed earlier kept (sends_of_usable able) elem).mpr (seen _ (sends_of_usable able))
    cases operated
    simp only [Delivery.Bounded.accepted, Effect.map, refused]
    exact ⟨trivial, none⟩
  | tryReserve via =>
    obtain ⟨tried, done, stored⟩ := bind_ok operated
    obtain ⟨_, done', refused⟩ := (tryReserve_closed earlier kept (sends_of_usable able)).mpr (seen _ (sends_of_usable able))
    cases done.symm.trans done'
    cases stored
    refine ⟨rfl, ?_⟩
    simpa only [record, Effect.map, refused, Except.map, holds] using none
  | tryReserveOwned id =>
    simp only [enabled, Bool.and_eq_true] at able
    have live := sends_of_usable (s := before) able.1.2
    obtain ⟨tried, done, stored⟩ := bind_ok operated
    obtain ⟨_, done', refused⟩ := (tryReserve_closed earlier kept live).mpr (seen _ live)
    cases done.symm.trans done'
    cases stored
    refine ⟨rfl, ?_⟩
    simpa only [record, Effect.map, refused, holds] using none
  | pollFuture a waker =>
    obtain ⟨future, found⟩ := Option.isSome_iff_exists.mp able
    have live := sends_of_future valid.coherent found
    obtain ⟨_, operated', refused⟩ := (pollFuture_closed earlier kept found waker).mpr (seen _ live)
    cases operated.symm.trans operated'
    cases pollFuture_ok operated with
    | pending | sent | reserved | reservedOwned => cases refused
    | unsent | unreserved | unreservedOwned => exact ⟨rfl, none⟩
  | permitSend p elem =>
    have some := Arena.count_pos_live able
    omega
  | ownedPermitSend p elem =>
    have some := Arena.count_pos_live able
    omega
  | dropPermit p | forgetPermit p =>
    have fewer := Arena.count_free_le before.clients.permits p fun _ => true
    refine ⟨rfl, ?_⟩
    simp only [record, holds]
    omega
  | dropOwnedPermit p | forgetOwnedPermit p =>
    have fewer := Arena.count_free_le before.clients.ownedPermits p fun _ => true
    refine ⟨rfl, ?_⟩
    simp only [record, holds]
    omega
  | _ => exact ⟨rfl, none⟩

private theorem dead_step (run : (system T build).Run start (event :: past) event.after)
    (tidy : ∀ other ∈ event :: past, Tidy other) (dead : Dead event.before) : Dead event.after := by
  obtain ⟨refused, permits⟩ := dead_refuses run tidy dead
  obtain ⟨_, _, able, effect, operated, after, _⟩ := run_step run
  obtain ⟨conserved, _⟩ := Delivery.Bounded.step_delivers run.last.2.2.1
  rw [dead.empty, refused] at conserved
  refine ⟨(List.append_eq_nil_iff.mp conserved.symm).2, ?_, permits⟩
  have bit := step_bit (census_step able operated) dead.bit
  rw [after]
  exact bit

/-- The step lemma: a dead channel stays dead, and says so. -/
private theorem dead_finished (run : (system T build).Run start (event :: past) event.after)
    (tidy : ∀ other ∈ event :: past, Tidy other) (dead : Dead event.before) : Finished event := by
  refine ⟨(dead_refuses run tidy dead).1, (dead_step run tidy dead).empty, ?_⟩
  obtain ⟨earlier, _, able, effect, operated, _, outcome⟩ := run_step run
  have kept : ∀ other ∈ past, Kept other := fun other member => (tidy other (List.mem_cons_of_mem _ member)).1
  have reserved := run_reserved earlier fun other member => (tidy other (List.mem_cons_of_mem _ member)).2
  rw [dead.permits] at reserved
  have spent : ∀ counted, event.before.clients.handles.receives counted = true →
      event.before.queue.items = [] ∧ event.before.queue.extra.reserved = 0 ∧ event.before.queue.isClosed counted = true := by
    intro counted receives
    exact ⟨dead.empty, reserved, (closed_iff earlier kept (receives_alone receives)).mpr dead.bit⟩
  rw [outcome]
  constructor
  · intro counted receive
    rw [receive] at able operated
    obtain ⟨_, done, ends⟩ := tryRecv_disconnected.mpr (spent counted able)
    obtain ⟨_, done', stored⟩ := bind_ok operated
    cases done.symm.trans done'
    cases stored
    exact congrArg Reply.received ends
  · intro counted waker receive
    rw [receive] at able operated
    obtain ⟨_, done, ends⟩ := pollRecv_none.mpr (tryRecv_disconnected.mpr (spent counted able))
    obtain ⟨_, done', stored⟩ := bind_ok operated
    cases done.symm.trans done'
    cases stored
    exact congrArg Reply.polled ends

private theorem disconnected_dead (run : (system T build).Run start (pivot :: past) pivot.after)
    (tidy : ∀ event ∈ pivot :: past, Tidy event) (ends : disconnected pivot = true) : Dead pivot.before := by
  obtain ⟨earlier, _, able, effect, operated, _, outcome⟩ := run_step run
  have kept : ∀ other ∈ past, Kept other := fun other member => (tidy other (List.mem_cons_of_mem _ member)).1
  have reserved := run_reserved earlier fun other member => (tidy other (List.mem_cons_of_mem _ member)).2
  have dead : ∀ counted, pivot.before.clients.handles.receives counted = true →
      (∃ effect, pivot.before.queue.tryRecv counted = .ok effect ∧ effect.value = .error .disconnected) → Dead pivot.before := by
    intro counted receives told
    obtain ⟨empty, unreserved, closed⟩ := tryRecv_disconnected.mp told
    exact ⟨empty, (closed_iff earlier kept (receives_alone receives)).mp closed, reserved ▸ unreserved⟩
  simp only [disconnected, outcome] at ends
  cases action : pivot.action with
  | tryRecv counted =>
    rw [action] at able operated ends
    obtain ⟨⟨queue, result, woken⟩, done, stored⟩ := bind_ok operated
    cases stored
    apply dead counted able
    refine ⟨_, done, ?_⟩
    rcases result with (_ | _) | _
    · cases ends
    · rfl
    · cases ends
  | pollRecv counted waker =>
    rw [action] at able operated ends
    obtain ⟨⟨queue, result, woken⟩, done, stored⟩ := bind_ok operated
    cases stored
    apply dead counted able
    refine pollRecv_none.mp ⟨_, done, ?_⟩
    rcases result with (_ | _) | _
    · rfl
    · cases ends
    · cases ends
  | _ =>
    rw [action] at ends
    cases ends

/-- Once the end was reported, nothing is accepted any more, and every receive reports it again. -/
theorem run_finished (run : (system T build).Run start (later ++ past) state)
    (tidy : ∀ event ∈ later ++ past, Tidy event) (ends : ∃ event ∈ past, disconnected event = true) :
    ∀ event ∈ later, Finished event := by
  have since := run.since Tidy tidy _ ends Dead
    (fun _ _ reached tidy ends => dead_step reached tidy (disconnected_dead reached tidy ends))
    (fun _ _ reached tidy dead => dead_step reached tidy dead)
  intro event member
  obtain ⟨_, reached, tidy, dead⟩ := since event member
  exact dead_finished reached tidy dead

end Final

theorem stays_closed (run : (system T build).Run start (event :: past) event.after)
    (kept : ∀ other ∈ event :: past, Kept other) : StaysClosed event := by
  obtain ⟨earlier, valid, able, effect, operated, after, _⟩ := run_step run
  constructor
  · intro counted counted' alone alone' closed
    have bit := (closed_iff earlier (fun other member => kept other (List.mem_cons_of_mem _ member)) alone).mp closed
    refine (closed_iff run kept alone').mpr ?_
    have bit' := step_bit (census_step able operated) bit
    rw [after]
    exact bit'
  · intro closed
    rw [after, (footprint valid.housed able operated).closed, closed, Bool.true_or]

end Bounded

namespace Unbounded
open UnboundedSystem UnboundedCensus
variable {T : Type}

def closes : Action T → Bool
  | .close _ | .dropReceiver => true
  | _ => false

def splits : Action T → Bool
  | .split | .intoSplit => true
  | _ => false

def Kept (event : Event (State T) (Action T) (Outcome T)) : Prop := (move event.action).leaks = false

instance (event : Event (State T) (Action T) (Outcome T)) : Decidable (Kept event) := inferInstanceAs (Decidable (_ = _))

def Over (history : History (State T) (Action T) (Outcome T)) (s : State T) : Prop :=
  s.queue.items = [] ∧ Ended closes splits history s.handles.senderCount

structure Told (history : History (State T) (Action T) (Outcome T)) (s : State T) : Prop where
  tryRecv : ∀ counted, s.handles.receives counted = true →
    ((∃ effect, s.queue.tryRecv counted = .ok effect ∧ effect.value = .error .disconnected) ↔ Over history s)
  pollRecv : ∀ counted waker, s.handles.receives counted = true →
    ((∃ effect, s.queue.pollRecv counted waker = .ok effect ∧ effect.value = .ready none) ↔ Over history s)

def disconnected (event : Event (State T) (Action T) (Outcome T)) : Bool :=
  match event.action, event.outcome.reply with
  | .tryRecv _, .received (.error .disconnected) | .pollRecv _ _, .polled (.ready none) => true
  | _, _ => false

structure Finished (event : Event (State T) (Action T) (Outcome T)) : Prop where
  accepts : Delivery.Unbounded.accepted event = []
  empty : event.after.queue.items = []
  tells : (∀ counted, event.action = .tryRecv counted → event.outcome.reply = .received (.error .disconnected)) ∧
    ∀ counted waker, event.action = .pollRecv counted waker → event.outcome.reply = .polled (.ready none)

def StaysClosed (event : Event (State T) (Action T) (Outcome T)) : Prop :=
  ∀ counted counted', (counted = false → event.before.handles.unsplit = true) →
    (counted' = false → event.after.handles.unsplit = true) →
    event.before.queue.isClosed counted = true → event.after.queue.isClosed counted' = true

variable {build : Build} {start state : State T} {past later history : History (State T) (Action T) (Outcome T)}
  {event pivot : Event (State T) (Action T) (Outcome T)} {q : UnboundedQueue T} {counted : Bool} {waker : Waker}

theorem move_closes (action : Action T) : (move action).closes = closes action := by
  cases action <;> rfl

theorem move_splits (action : Action T) : (move action).splits = splits action := by
  cases action <;> rfl

theorem tryRecv_disconnected :
    (∃ effect, q.tryRecv counted = .ok effect ∧ effect.value = .error .disconnected) ↔
      q.items = [] ∧ q.isClosed counted = true := by
  constructor
  · rintro ⟨effect, done, ends⟩
    rcases unbounded_tryRecv_ok done with ⟨_, _, _, _, _, rfl⟩ | ⟨items, _, _, rfl⟩
    · cases ends
    · exact ⟨items, by simpa using ends⟩
  · rintro ⟨empty, closed⟩
    obtain ⟨effect, done, value⟩ := unbounded_tryRecv_empty counted empty
    exact ⟨effect, done, by simpa [closed] using value⟩

theorem run_exact (run : (system T build).Run start history state) (kept : ∀ event ∈ history, Kept event) :
    Exact (∃ event ∈ history, closes event.action = true) (∃ event ∈ history, splits event.action = true) (census state) := by
  have exact := CensusCounts.run_exact (run_census run) (by simpa [told, Event.image, Kept] using kept)
  simpa [told, Event.image, move_closes, move_splits] using exact

private theorem closed_iff (run : (system T build).Run start history state) (kept : ∀ event ∈ history, Kept event)
    (alone : counted = false → state.handles.unsplit = true) :
    state.queue.isClosed counted = true ↔ state.queue.mask.bits % 2 = 1 :=
  (run_exact run kept).isClosed fun whole => (Handles.unsplit_iff.mp (alone whole)).2.2

theorem run_told (run : (system T build).Run start history state) (kept : ∀ event ∈ history, Kept event) :
    Told history state := by
  have spent : ∀ counted, state.handles.receives counted = true →
      (state.queue.items = [] ∧ state.queue.isClosed counted = true ↔ Over history state) := by
    intro counted receives
    exact and_congr_right fun _ => (closed_iff run kept (receives_alone receives)).trans (run_exact run kept).ended
  exact ⟨fun counted receives => tryRecv_disconnected.trans (spent counted receives),
    fun counted waker receives => pollRecv_none.trans (tryRecv_disconnected.trans (spent counted receives))⟩

section Final

private structure Dead (s : State T) : Prop where
  empty : s.queue.items = []
  bit : s.queue.mask.bits % 2 = 1

private theorem dead_refuses (run : (system T build).Run start (event :: past) event.after)
    (kept : ∀ other ∈ event :: past, Kept other) (dead : Dead event.before) : Delivery.Unbounded.accepted event = [] := by
  obtain ⟨earlier, able, effect, operated, _, outcome⟩ := run_step run
  have seen : ∀ counted, (counted = false → event.before.handles.unsplit = true) →
      (event.before.queue.isClosed counted = true ↔ event.before.queue.mask.bits % 2 = 1) :=
    fun _ => closed_iff earlier fun other member => kept other (List.mem_cons_of_mem _ member)
  obtain ⟨before, action, _, _⟩ := event
  dsimp only at *
  subst outcome
  cases action with
  | send via elem =>
    have alone : via.counted = false → before.handles.unsplit = true := by
      intro whole
      cases via with
      | channel => exact able
      | sender id => cases whole
    have closed := (seen _ alone).mpr dead.bit
    cases operated
    rcases unbounded_send_eq before.queue via.counted elem with ⟨_, refused⟩ | ⟨opened, _⟩
    · simp [Delivery.Unbounded.accepted, Effect.map, refused]
    · cases opened.symm.trans closed
  | _ => rfl

private theorem dead_step (run : (system T build).Run start (event :: past) event.after)
    (kept : ∀ other ∈ event :: past, Kept other) (dead : Dead event.before) : Dead event.after := by
  obtain ⟨_, able, effect, operated, after, _⟩ := run_step run
  obtain ⟨conserved, _⟩ := Delivery.Unbounded.step_delivers run.last.2.2.1
  rw [dead.empty, dead_refuses run kept dead] at conserved
  refine ⟨(List.append_eq_nil_iff.mp conserved.symm).2, ?_⟩
  have bit := step_bit (census_step able operated) dead.bit
  rw [after]
  exact bit

private theorem dead_finished (run : (system T build).Run start (event :: past) event.after)
    (kept : ∀ other ∈ event :: past, Kept other) (dead : Dead event.before) : Finished event := by
  refine ⟨dead_refuses run kept dead, (dead_step run kept dead).empty, ?_⟩
  obtain ⟨earlier, able, effect, operated, _, outcome⟩ := run_step run
  have spent : ∀ counted, event.before.handles.receives counted = true →
      event.before.queue.items = [] ∧ event.before.queue.isClosed counted = true := by
    intro counted receives
    exact ⟨dead.empty, (closed_iff earlier (fun other member => kept other (List.mem_cons_of_mem _ member))
      (receives_alone receives)).mpr dead.bit⟩
  rw [outcome]
  constructor
  · intro counted receive
    rw [receive] at able operated
    obtain ⟨_, done, ends⟩ := tryRecv_disconnected.mpr (spent counted able)
    obtain ⟨_, done', stored⟩ := bind_ok operated
    cases done.symm.trans done'
    cases stored
    exact congrArg Reply.received ends
  · intro counted waker receive
    rw [receive] at able operated
    obtain ⟨_, done, ends⟩ := pollRecv_none.mpr (tryRecv_disconnected.mpr (spent counted able))
    obtain ⟨_, done', stored⟩ := bind_ok operated
    cases done.symm.trans done'
    cases stored
    exact congrArg Reply.polled ends

private theorem disconnected_dead (run : (system T build).Run start (pivot :: past) pivot.after)
    (kept : ∀ event ∈ pivot :: past, Kept event) (ends : disconnected pivot = true) : Dead pivot.before := by
  obtain ⟨earlier, able, effect, operated, _, outcome⟩ := run_step run
  have dead : ∀ counted, pivot.before.handles.receives counted = true →
      (∃ effect, pivot.before.queue.tryRecv counted = .ok effect ∧ effect.value = .error .disconnected) → Dead pivot.before := by
    intro counted receives told
    obtain ⟨empty, closed⟩ := tryRecv_disconnected.mp told
    exact ⟨empty, (closed_iff earlier (fun other member => kept other (List.mem_cons_of_mem _ member))
      (receives_alone receives)).mp closed⟩
  simp only [disconnected, outcome] at ends
  cases action : pivot.action with
  | tryRecv counted =>
    rw [action] at able operated ends
    obtain ⟨⟨queue, result, woken⟩, done, stored⟩ := bind_ok operated
    cases stored
    apply dead counted able
    refine ⟨_, done, ?_⟩
    rcases result with (_ | _) | _
    · cases ends
    · rfl
    · cases ends
  | pollRecv counted waker =>
    rw [action] at able operated ends
    obtain ⟨⟨queue, result, woken⟩, done, stored⟩ := bind_ok operated
    cases stored
    apply dead counted able
    refine pollRecv_none.mp ⟨_, done, ?_⟩
    rcases result with (_ | _) | _
    · rfl
    · cases ends
    · cases ends
  | _ =>
    rw [action] at ends
    cases ends

theorem run_finished (run : (system T build).Run start (later ++ past) state)
    (kept : ∀ event ∈ later ++ past, Kept event) (ends : ∃ event ∈ past, disconnected event = true) :
    ∀ event ∈ later, Finished event := by
  have since := run.since Kept kept _ ends Dead
    (fun _ _ reached kept ends => dead_step reached kept (disconnected_dead reached kept ends))
    (fun _ _ reached kept dead => dead_step reached kept dead)
  intro event member
  obtain ⟨_, reached, kept, dead⟩ := since event member
  exact dead_finished reached kept dead

end Final

theorem stays_closed (run : (system T build).Run start (event :: past) event.after)
    (kept : ∀ other ∈ event :: past, Kept other) : StaysClosed event := by
  obtain ⟨earlier, able, effect, operated, after, _⟩ := run_step run
  intro counted counted' alone alone' closed
  have bit := (closed_iff earlier (fun other member => kept other (List.mem_cons_of_mem _ member)) alone).mp closed
  refine (closed_iff run kept alone').mpr ?_
  have bit' := step_bit (census_step able operated) bit
  rw [after]
  exact bit'

end Unbounded

/-- In every reachable state of a channel whose handles and permits are not leaked, a receive reports the
end exactly when nothing is queued, nothing is reserved, and the channel ended. After that nothing enters the
channel, and every receive reports the end again. No step opens a closed channel. -/
theorem run_disconnects (T : Type) (build : Build) :
    (∀ start later past final, (BoundedSystem.system T build).Run start (later ++ past) final →
      (∀ event ∈ later ++ past, Bounded.Tidy event) →
        Bounded.Told (later ++ past) final ∧ (∀ event ∈ later ++ past, Bounded.StaysClosed event) ∧
          ((∃ event ∈ past, Bounded.disconnected event = true) → ∀ event ∈ later, Bounded.Finished event)) ∧
    ∀ start later past final, (UnboundedSystem.system T build).Run start (later ++ past) final →
      (∀ event ∈ later ++ past, Unbounded.Kept event) →
        Unbounded.Told (later ++ past) final ∧ (∀ event ∈ later ++ past, Unbounded.StaysClosed event) ∧
          ((∃ event ∈ past, Unbounded.disconnected event = true) → ∀ event ∈ later, Unbounded.Finished event) := by
  constructor
  · intro start later past final run tidy
    refine ⟨Bounded.run_told run tidy, ?_, Bounded.run_finished run tidy⟩
    exact run.each tidy fun _ _ reached tidy => Bounded.stays_closed reached fun other member => (tidy other member).1
  · intro start later past final run kept
    refine ⟨Unbounded.run_told run kept, ?_, Unbounded.run_finished run kept⟩
    exact run.each kept fun _ _ reached kept => Unbounded.stays_closed reached kept

/-- The last sender leaves, the end is reported, and the channel is split again. -/
theorem run_disconnects_again :
    (∃ history final, (BoundedSystem.system Nat .checked).play [] (.new (.fromIter 1 []))
        [.split, .dropSender 0, .tryRecv true, .dropReceiver, .split, .trySend (.sender 1) 5, .tryRecv true] =
          some (history, final) ∧
      Bounded.Told history final ∧ ∀ event ∈ history.take 4, Bounded.Finished event) ∧
    ∃ history final, (UnboundedSystem.system Nat .checked).play [] (.new (.fromIter []))
        [.split, .dropSender 0, .tryRecv true, .dropReceiver, .split, .send (.sender 1) 5, .tryRecv true] =
          some (history, final) ∧
      Unbounded.Told history final ∧ ∀ event ∈ history.take 4, Unbounded.Finished event := by
  constructor
  · obtain ⟨history, final, played, run, tidy, ends⟩ := (BoundedSystem.system Nat .checked).exists_run
      (.new (.fromIter 1 [])) ⟨_, .inr (.inr ⟨1, by decide, [], by decide, rfl⟩), rfl⟩
      [.split, .dropSender 0, .tryRecv true, .dropReceiver, .split, .trySend (.sender 1) 5, .tryRecv true]
      (fun history _ => (∀ event ∈ history, Bounded.Tidy event) ∧ ∃ event ∈ history.drop 4, Bounded.disconnected event = true)
      (by decide)
    rw [← List.take_append_drop 4 history] at run tidy
    have law := (run_disconnects Nat .checked).1 _ _ _ _ run tidy
    exact ⟨history, final, played, by simpa using law.1, law.2.2 ends⟩
  · obtain ⟨history, final, played, run, kept, ends⟩ := (UnboundedSystem.system Nat .checked).exists_run
      (.new (.fromIter [])) ⟨_, .inr (.inr ⟨[], rfl⟩), rfl⟩
      [.split, .dropSender 0, .tryRecv true, .dropReceiver, .split, .send (.sender 1) 5, .tryRecv true]
      (fun history _ => (∀ event ∈ history, Unbounded.Kept event) ∧ ∃ event ∈ history.drop 4, Unbounded.disconnected event = true)
      (by decide)
    rw [← List.take_append_drop 4 history] at run kept
    have law := (run_disconnects Nat .checked).2 _ _ _ _ run kept
    exact ⟨history, final, played, by simpa using law.1, law.2.2 ends⟩

end AsyncUnsync.Proofs.Disconnection
