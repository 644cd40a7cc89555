import AsyncUnsync.Library.Lockstep
import AsyncUnsync.Proofs.BoundedTotal
import AsyncUnsync.Proofs.ClosedFlags
import AsyncUnsync.Proofs.UnboundedCensus

/-! As long as it is never full, a bounded channel is an unbounded one. The two decide
by different means: the one asks its semaphore, the other its mask. -/

namespace AsyncUnsync.Proofs.UnfilledChannels
open Memory Transition QueueCalls BoundedValid BoundedTotal SlotAccounting SlotBalance ClosedFlags LedgerSimulation

variable {T : Type}

section Calls
variable {α : Type} {q : UnboundedQueue T} {p : BoundedQueue T} {counted : Bool}

/-- The same elements, closed bit, sender count and receiver. -/
structure Alike (q : UnboundedQueue T) (p : BoundedQueue T) : Prop where
  mask : p.mask = q.mask
  items : p.items = q.items
  waker : p.waker = q.waker

/-- Two calls with the same result, which wake the same tasks. -/
structure Matches (e : Effect (UnboundedQueue T) α) (e' : Effect (BoundedQueue T) α) : Prop where
  state : Alike e.state e'.state
  value : e'.value = e.value
  woken : e'.woken = e.woken

/-- Both calls match, or both fault alike. -/
inductive Paired : Except Fault (Effect (UnboundedQueue T) α) → Except Fault (Effect (BoundedQueue T) α) → Prop where
  | ok {e : Effect (UnboundedQueue T) α} {e' : Effect (BoundedQueue T) α} (same : Matches e e') : Paired (.ok e) (.ok e')
  | error (fault : Fault) : Paired (.error fault) (.error fault)

/-- No sender waits for a slot, and none has been promised one. -/
structure Idle (p : BoundedQueue T) : Prop where
  sound : Sound p.extra.semaphore
  nobody : p.extra.semaphore.queue = []
  unreserved : p.extra.reserved = 0

theorem Alike.isClosed (alike : Alike q p) (counted : Bool) : p.isClosed counted = q.isClosed counted := by
  rw [Queue.isClosed, alike.mask]
  rfl

theorem Alike.len (alike : Alike q p) : p.len = q.len := congrArg List.length alike.items

private theorem addPermits_idle (idle : Idle p) (n : Nat) : ∃ semaphore, p.extra.semaphore.addPermits n = .ok (semaphore, []) := by
  obtain ⟨semaphore, added, _⟩ := idle.sound.addPermits n
  have unserved : (p.extra.semaphore.ledger.handout n).served = [] := by
    apply List.eq_nil_iff_forall_not_mem.mpr
    intro a member
    have queued : a ∈ p.extra.semaphore.queue := Serving.mem_of_served member
    rw [idle.nobody] at queued
    cases queued
  refine ⟨semaphore, ?_⟩
  rw [added, Ledger.addPermits, unserved]
  rfl

theorem close_paired (alike : Alike q p) (idle : Idle p) (counted : Bool) :
    Paired (q.close counted) (p.close counted) := by
  obtain ⟨semaphore, closed, _⟩ := idle.sound.close
  have unwoken : p.extra.semaphore.ledger.close.2 = [] := by
    simp only [Ledger.close, Ledger.wakers, Semaphore.ledger, idle.nobody, List.filterMap_nil]
  simp only [Queue.close, MaybeBoundedQueue.close, closed, ok_bind, unwoken]
  exact .ok ⟨⟨by rw [alike.mask], alike.items, alike.waker⟩, rfl, rfl⟩

theorem tryRecv_paired (alike : Alike q p) (idle : Idle p) (counted : Bool) :
    Paired (q.tryRecv counted) (p.tryRecv counted) := by
  obtain ⟨semaphore, added⟩ := addPermits_idle idle 1
  have seen := alike.isClosed counted
  obtain ⟨mask, items, waker⟩ := alike
  simp only [Queue.tryRecv, MaybeBoundedQueue.tryRecv]
  rcases popped : q.popFront with ⟨q', _ | first⟩ <;> rcases popped' : p.popFront with ⟨p', _ | first'⟩
  · obtain ⟨_, _, _, rfl⟩ := popFront_none popped
    obtain ⟨_, _, _, rfl⟩ := popFront_none popped'
    have ends : (p.extra.reserved == 0 && p.isClosed counted) = q.isClosed counted := by simp [idle.unreserved, seen]
    have told : ∀ ends ends' : Bool, ends = ends' → (Except.error (if ends then .disconnected else .empty) :
        Except TryRecvError T) = .error (if ends' then .disconnected else .empty) := by
      rintro _ _ rfl
      rfl
    exact .ok ⟨⟨mask, rfl, waker⟩, told _ _ ends, rfl⟩
  · obtain ⟨_, _, _, some, _⟩ := popFront_some popped'
    cases some.symm.trans (items.trans (popFront_none popped).1)
  · obtain ⟨_, _, _, some, _⟩ := popFront_some popped
    cases some.symm.trans (items.symm.trans (popFront_none popped').1)
  · obtain ⟨_, _, _, some, rfl⟩ := popFront_some popped
    obtain ⟨_, _, _, some', rfl⟩ := popFront_some popped'
    obtain ⟨rfl, rfl⟩ := List.cons.inj (some'.symm.trans (items.trans some))
    simp only [added, ok_bind]
    exact .ok ⟨⟨mask, rfl, waker⟩, rfl, rfl⟩

theorem pollRecv_paired (alike : Alike q p) (idle : Idle p) (counted : Bool) (waker : Waker) :
    Paired (q.pollRecv counted waker) (p.pollRecv counted waker) := by
  have received := tryRecv_paired alike idle counted
  simp only [Queue.pollRecv]
  generalize q.tryRecv counted = r, p.tryRecv counted = r' at received ⊢
  cases received with
  | error fault => exact .error fault
  | @ok e e' same =>
    obtain ⟨state, value, woken⟩ := e
    obtain ⟨state', value', woken'⟩ := e'
    obtain ⟨⟨mask, items, registered⟩, rfl, rfl⟩ := same
    simp only [ok_bind]
    split
    · exact .ok ⟨⟨mask, items, registered⟩, rfl, rfl⟩
    · exact .ok ⟨⟨mask, items, registered⟩, rfl, rfl⟩
    · exact .ok ⟨⟨mask, items, rfl⟩, rfl, rfl⟩

theorem setCounted_paired {build : Build} (alike : Alike q p) (idle : Idle p) (within : p.capacity ≤ p.maxCapacity) :
    Paired (q.setCounted build) (p.setCounted build) := by
  obtain ⟨semaphore, added⟩ := addPermits_idle idle (p.maxCapacity - p.capacity)
  simp only [BoundedQueue.maxCapacity, BoundedQueue.capacity] at within added
  simp only [Queue.setCounted, Queue.reset, MaybeBoundedQueue.reset, Build.sub_of_le build within, added, ok_bind, alike.mask]
  cases q.mask.reset true with
  | error fault => exact .error fault
  | ok mask => exact .ok ⟨⟨rfl, alike.items, rfl⟩, rfl, rfl⟩

theorem decreaseSenderCount_paired (alike : Alike q p) : Paired q.decreaseSenderCount p.decreaseSenderCount := by
  simp only [Queue.decreaseSenderCount, alike.mask]
  cases q.mask.decreaseSenderCount with
  | error fault => exact .error fault
  | ok decreased =>
    obtain ⟨mask, last⟩ := decreased
    simp only [ok_bind]
    cases last with
    | true => exact .ok ⟨⟨rfl, alike.items, rfl⟩, rfl, by rw [alike.waker]⟩
    | false => exact .ok ⟨⟨rfl, alike.items, alike.waker⟩, rfl, rfl⟩

end Calls

/-- The call of a bounded channel that takes the place of a call of an unbounded one. -/
def label : UnboundedSystem.Action T → BoundedSystem.Action T
  | .split => .split
  | .intoSplit => .intoSplit
  | .intoDeque => .intoDeque
  | .close counted => .close counted
  | .tryRecv counted => .tryRecv counted
  | .pollRecv counted waker => .pollRecv counted waker
  | .dropReceiver => .dropReceiver
  | .forgetReceiver => .forgetReceiver
  | .send via elem => .trySend via elem
  | .cloneSender id => .cloneSender id
  | .dropSender id => .dropSender id
  | .forgetSender id => .forgetSender id

def answer : UnboundedSystem.Reply T → BoundedSystem.Reply T
  | .done => .done
  | .deque items => .deque items
  | .received result => .received result
  | .polled result => .polled result
  | .sent (.ok ()) => .trySent (.ok ())
  | .sent (.error error) => .trySent (.error (.closed error.value))
  | .sender id => .sender id

def full : BoundedSystem.Reply T → Bool
  | .trySent (.error (.full _)) => true
  | _ => false

abbrev system (T : Type) (build : Build) :=
  (UnboundedSystem.system T build).lockstep (BoundedSystem.system T build) label

abbrev State (T : Type) := UnboundedSystem.State T × BoundedSystem.State T

abbrev Step (T : Type) :=
  Event (State T) (UnboundedSystem.Action T) (UnboundedSystem.Outcome T × BoundedSystem.Outcome T)

/-- Nothing is leaked, nothing is split twice, and the bounded channel has room. -/
def Unfilled (past : List (Step T)) (event : Step T) : Prop :=
  (UnboundedCensus.move event.action).leaks = false ∧
    ((UnboundedCensus.move event.action).splits = true →
      ∀ other ∈ past, (UnboundedCensus.move other.action).splits = false) ∧
    full event.outcome.2.reply = false

instance (past : List (Step T)) (event : Step T) : Decidable (Unfilled past event) :=
  inferInstanceAs (Decidable (_ ∧ (_ → _) ∧ _))

def Corresponds (event : Step T) : Prop :=
  event.outcome.2 = ⟨answer event.outcome.1.reply, event.outcome.1.woken⟩

/-- Nobody can tell the two channels apart. -/
structure Indistinct (build : Build) (past : List (Step T)) (s : State T) : Prop where
  len : s.2.queue.len = s.1.queue.len
  isClosed : ∀ counted, s.2.queue.isClosed counted = s.1.queue.isClosed counted
  /-- The same calls are possible, and those that fault do so on both sides. -/
  calls : ∀ action,
    BoundedSystem.enabled s.2.clients (label action) = UnboundedSystem.enabled s.1.handles action ∧
      (UnboundedSystem.enabled s.1.handles action = true →
        ((UnboundedCensus.move action).splits = true → ∀ other ∈ past, (UnboundedCensus.move other.action).splits = false) →
        ∀ fault, BoundedSystem.operate build s.2 (label action) = .error fault ↔
          UnboundedSystem.operate build s.1 action = .error fault)

/-- The same channel in the hands of the same clients. -/
structure Twins (s : State T) : Prop where
  queue : Alike s.1.queue s.2.queue
  clients : s.2.clients = ⟨s.1.handles, .empty, .empty, .empty⟩

/-- The results of a call on both channels, as long as the bounded one is not full. -/
inductive Answers : Except Fault (Effect (UnboundedQueue T) (UnboundedSystem.Reply T)) →
    Except Fault (Effect (BoundedQueue T) (BoundedSystem.Reply T)) → Prop where
  | ok {e : Effect (UnboundedQueue T) (UnboundedSystem.Reply T)} {e' : Effect (BoundedQueue T) (BoundedSystem.Reply T)}
      (queue : Alike e.state e'.state) (value : e'.value = answer e.value) (woken : e'.woken = e.woken) :
      Answers (.ok e) (.ok e')
  | error (fault : Fault) : Answers (.error fault) (.error fault)
  | full {e : Effect (UnboundedQueue T) (UnboundedSystem.Reply T)} {e' : Effect (BoundedQueue T) (BoundedSystem.Reply T)}
      (refused : full e'.value = true) : Answers (.ok e) (.ok e')

section Step
variable {build : Build} {s : State T} {action : UnboundedSystem.Action T}

private theorem Paired.answers {α : Type} {r : Except Fault (Effect (UnboundedQueue T) α)}
    {r' : Except Fault (Effect (BoundedQueue T) α)} (paired : Paired r r') {f : α → UnboundedSystem.Reply T}
    {f' : α → BoundedSystem.Reply T} (same : ∀ value, f' value = answer (f value)) :
    Answers (r >>= fun e => .ok (e.map f)) (r' >>= fun e => .ok (e.map f')) := by
  cases paired with
  | error fault => exact .error fault
  | ok matching =>
    obtain ⟨state, value, woken⟩ := matching
    refine .ok state ?_ woken
    simp only [Effect.map, value, same]

private theorem send_answers {q : UnboundedQueue T} {p : BoundedQueue T} (alike : Alike q p) {counted : Bool} {elem : T}
    (agrees : (BoundedQueue.trySend p elem).value = .error (.closed elem) ↔ p.isClosed counted = true) :
    Answers (.ok ((UnboundedQueue.send counted q elem).map .sent)) (.ok ((BoundedQueue.trySend p elem).map .trySent)) := by
  rw [alike.isClosed] at agrees
  rcases trySend_eq p elem with ⟨_, _, same⟩ | ⟨error, _, same⟩
  · rcases unbounded_send_eq q counted elem with ⟨closed, _⟩ | ⟨_, sent⟩
    · rw [same] at agrees
      cases agrees.mpr closed
    · rw [same, sent]
      refine .ok ⟨alike.mask, ?_, alike.waker⟩ rfl (congrArg Option.toList alike.waker)
      simp only [Effect.map, Queue.items_mk, Deque.items_pushBack, Queue.items_eq, alike.items]
  · cases error with
    | noPermits =>
      rw [same]
      exact .full rfl
    | closed =>
      rcases unbounded_send_eq q counted elem with ⟨_, refused⟩ | ⟨opened, _⟩
      · rw [same, refused]
        exact .ok alike rfl rfl
      · rw [same] at agrees
        cases opened.symm.trans (agrees.mp rfl)

/-- The step lemma: the bounded channel answers for the unbounded one. -/
theorem operate_answers (twins : Twins s) (idle : Idle s.2.queue) (able : UnboundedSystem.enabled s.1.handles action = true)
    (agrees : ∀ via elem, s.1.handles.usable via = true →
      ((BoundedQueue.trySend s.2.queue elem).value = .error (.closed elem) ↔ s.2.queue.isClosed via.counted = true))
    (within : (UnboundedCensus.move action).splits = true → s.2.queue.capacity ≤ s.2.queue.maxCapacity) :
    Answers (UnboundedSystem.operate build s.1 action) (BoundedSystem.operate build s.2 (label action)) := by
  obtain ⟨alike, clients⟩ := twins
  have handles : s.2.clients.handles = s.1.handles := by rw [clients]
  cases action with
  | split | intoSplit => exact (setCounted_paired alike idle (within rfl)).answers fun _ => by rw [handles]; rfl
  | intoDeque => exact .ok ⟨alike.mask, rfl, alike.waker⟩ (congrArg _ alike.items) rfl
  | close counted => exact (close_paired alike idle counted).answers fun _ => rfl
  | tryRecv counted => exact (tryRecv_paired alike idle counted).answers fun _ => rfl
  | pollRecv counted waker => exact (pollRecv_paired alike idle counted waker).answers fun _ => rfl
  | dropReceiver => exact (close_paired alike idle true).answers fun _ => rfl
  | forgetReceiver | forgetSender => exact .ok alike rfl rfl
  | send via elem => exact send_answers alike (agrees via elem able)
  | cloneSender id =>
    simp only [UnboundedSystem.operate, BoundedSystem.operate, label, Queue.increaseSenderCount, alike.mask]
    cases s.1.queue.mask.increaseSenderCount with
    | error fault => exact .error fault
    | ok mask => exact .ok ⟨rfl, alike.items, alike.waker⟩ (by rw [handles]; rfl) rfl
  | dropSender id => exact (decreaseSenderCount_paired alike).answers fun _ => rfl

private theorem record_twins (clients : s.2.clients = ⟨s.1.handles, .empty, .empty, .empty⟩)
    (action : UnboundedSystem.Action T) (reply : BoundedSystem.Reply T) :
    BoundedSystem.record s.2.clients reply (label action) =
      ⟨UnboundedSystem.record s.1.handles action, .empty, .empty, .empty⟩ := by
  rw [clients]
  cases action <;> rfl

private theorem enabled_twins (clients : s.2.clients = ⟨s.1.handles, .empty, .empty, .empty⟩)
    (action : UnboundedSystem.Action T) :
    BoundedSystem.enabled s.2.clients (label action) = UnboundedSystem.enabled s.1.handles action := by
  rw [clients]
  cases action <;> simp [BoundedSystem.enabled, UnboundedSystem.enabled, label, BoundedSystem.Clients.exclusive,
    BoundedSystem.Clients.borrowed, Arena.count, Arena.sum, Arena.empty]

end Step

section Run
variable {build : Build} {start state : State T} {past history : List (Step T)} {event : Step T}
  {action : UnboundedSystem.Action T}

private theorem move_label (c : BoundedSystem.Clients T) (action : UnboundedSystem.Action T) :
    BoundedCensus.move c (label action) = UnboundedCensus.move action := by
  cases action <;> rfl

private theorem splits_label (action : UnboundedSystem.Action T) :
    splits (label action) = (UnboundedCensus.move action).splits := by
  cases action <;> rfl

private theorem leaks_label (action : UnboundedSystem.Action T) : leaks (label action) = false := by
  cases action <;> rfl

private theorem seconds {holds : Event (BoundedSystem.State T) (BoundedSystem.Action T) (BoundedSystem.Outcome T) → Prop}
    (each : ∀ event ∈ history, holds (event.second label)) : ∀ event ∈ history.map (Event.second label), holds event := by
  intro event member
  obtain ⟨pair, inside, rfl⟩ := List.mem_map.mp member
  exact each pair inside

theorem run_idle (run : (system T build).Run start history state) (twins : Twins state) : Idle state.2.queue := by
  have housed := (run_valid run.second).housed
  refine ⟨housed.sound, ?_, ?_⟩
  · apply List.eq_nil_iff_forall_not_mem.mpr
    intro a queued
    obtain ⟨ticket, _, held, _⟩ := housed.sound.valid.queued queued
    have inside := Arena.lt_size (demand_of_held held)
    rw [housed.size, twins.clients] at inside
    exact Nat.not_lt_zero _ inside
  · rw [run_reserved run.second (seconds fun event _ => (loses_nothing (leaks_label event.action)).2), twins.clients]
    rfl

theorem run_agreed (run : (system T build).Run start history state) (twins : Twins state)
    (kept : ∀ event ∈ history, (UnboundedCensus.move event.action).leaks = false) (via : Via) (elem : T)
    (usable : state.1.handles.usable via = true) :
    (BoundedQueue.trySend state.2.queue elem).value = .error (.closed elem) ↔ state.2.queue.isClosed via.counted = true := by
  have live : sends via.counted state.2 = true := sends_of_usable (by rw [twins.clients]; exact usable)
  refine trySend_closed run.second (seconds fun event member => ?_) live elem
  simpa only [Kept, Event.second, Event.image, move_label] using kept event member

theorem run_within (run : (system T build).Run start history state)
    (whole : ∀ event ∈ history, (UnboundedCensus.move event.action).splits = false)
    (able : UnboundedSystem.enabled state.1.handles action = true) (twins : Twins state) :
    state.2.queue.capacity ≤ state.2.queue.maxCapacity := by
  have careful : ∀ event ∈ history.map (Event.second label), Careful event := by
    refine seconds fun event member => ⟨leaks_label event.action, fun split => ?_⟩
    rw [Event.second, Event.image, splits_label, whole event member] at split
    cases split
  rcases run_tally run.second careful with tally | ⟨_, consumed⟩
  · exact tally.balanced.within.2
  · rw [← enabled_twins twins.clients, consumed.inert] at able
    cases able

theorem run_answers (run : (system T build).Run start history state) (twins : Twins state)
    (able : UnboundedSystem.enabled state.1.handles action = true)
    (kept : ∀ event ∈ history, (UnboundedCensus.move event.action).leaks = false)
    (once : (UnboundedCensus.move action).splits = true → ∀ other ∈ history, (UnboundedCensus.move other.action).splits = false) :
    Answers (UnboundedSystem.operate build state.1 action) (BoundedSystem.operate build state.2 (label action)) :=
  operate_answers twins (run_idle run twins) able (run_agreed run twins kept) fun split =>
    run_within run (once split) able twins

private theorem twins_initial (initial : (system T build).Initial start)
    (same : start.2.queue.items = start.1.queue.items) : Twins start := by
  obtain ⟨start₁, start₂⟩ := start
  obtain ⟨⟨_, built, rfl⟩, _, constructed, rfl⟩ := initial
  obtain ⟨_, _, _, rfl, _⟩ := constructed_eq constructed
  rcases built with rfl | ⟨_, rfl⟩ | ⟨_, rfl⟩ <;> exact ⟨⟨rfl, same, rfl⟩, rfl⟩

/-- The run lemma. -/
theorem run_twins (run : (system T build).Run start history state) (same : start.2.queue.items = start.1.queue.items)
    (unfilled : Along Unfilled history) : Twins state ∧ ∀ event ∈ history, Corresponds event := by
  revert unfilled
  refine run.invariant (fun history state => Along Unfilled history →
    Twins state ∧ ∀ event ∈ history, Corresponds event) ?_ ?_
  · exact fun initial _ => ⟨twins_initial initial same, fun _ member => by cases member⟩
  · intro past before action outcome after reached earlier enabled stepped unfilled
    obtain ⟨⟨_, once, room⟩, unfilled⟩ := unfilled
    obtain ⟨twins, corresponded⟩ := earlier unfilled
    obtain ⟨stepped₁, stepped₂⟩ := System.lockstep_ok stepped
    obtain ⟨e, operated, after₁, outcome₁⟩ := UnboundedSystem.step_ok stepped₁
    obtain ⟨e', operated', after₂, outcome₂⟩ := BoundedSystem.step_ok stepped₂
    have answers : Answers (UnboundedSystem.operate build before.1 action) (BoundedSystem.operate build before.2 (label action)) :=
      run_answers reached twins enabled.1 (unfilled.each fun _ _ regular => regular.1) once
    rw [operated, operated'] at answers
    obtain ⟨_, _⟩ := outcome
    dsimp only at outcome₁ outcome₂ room
    cases answers with
    | full refused =>
      rw [outcome₂, refused] at room
      cases room
    | ok queue value woken =>
      refine ⟨⟨?_, ?_⟩, ?_⟩
      · rw [after₁, after₂]
        exact queue
      · rw [after₁, after₂]
        exact record_twins twins.clients action e'.value
      · intro event member
        rcases List.mem_cons.mp member with rfl | member
        · simp only [Corresponds, outcome₁, outcome₂, value, woken]
        · exact corresponded event member

/-- Two channels that start with the same elements cannot be told apart while the bounded one has room. -/
theorem run_corresponds (run : (system T build).Run start history state) (same : start.2.queue.items = start.1.queue.items)
    (unfilled : Along Unfilled history) : (∀ event ∈ history, Corresponds event) ∧ Indistinct build history state := by
  obtain ⟨twins, corresponds⟩ := run_twins run same unfilled
  refine ⟨corresponds, twins.queue.len, twins.queue.isClosed, fun action => ⟨enabled_twins twins.clients action, ?_⟩⟩
  intro able once fault
  have answers : Answers (UnboundedSystem.operate build state.1 action) (BoundedSystem.operate build state.2 (label action)) :=
    run_answers run twins able (unfilled.each fun _ _ regular => regular.1) once
  generalize UnboundedSystem.operate build state.1 action = r, BoundedSystem.operate build state.2 (label action) = r' at answers
  cases answers <;> simp

/-- Both channels are split, emptied, polled once more, filled again, and closed before the last element is refused. -/
theorem run_corresponds_closed :
    ∃ history final, (system Nat .checked).play [] (.new (.fromIter [5]), .new (.fromIter 2 [5]))
        [.split, .tryRecv true, .pollRecv true 9, .send (.sender 0) 6, .close true, .send (.sender 0) 7] = some (history, final) ∧
      (∀ event ∈ history, Corresponds event) ∧ Indistinct .checked history final := by
  obtain ⟨history, final, played, run, unfilled⟩ := (system Nat .checked).exists_run
    (.new (.fromIter [5]), .new (.fromIter 2 [5]))
    ⟨⟨_, .inr (.inr ⟨[5], rfl⟩), rfl⟩, _, .inr (.inr ⟨2, by decide, [5], by decide, rfl⟩), rfl⟩
    [.split, .tryRecv true, .pollRecv true 9, .send (.sender 0) 6, .close true, .send (.sender 0) 7]
    (fun history _ => Along Unfilled history) (by decide)
  exact ⟨history, final, played, run_corresponds run rfl unfilled⟩

end Run

end AsyncUnsync.Proofs.UnfilledChannels
