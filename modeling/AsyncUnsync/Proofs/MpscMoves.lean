import AsyncUnsync.Mpsc
import AsyncUnsync.Proofs.SlotTurns

/-! What the tasks of an mpsc program do, one turn at a time. -/

namespace AsyncUnsync.Proofs.MpscTasks
open Memory Transition BoundedSystem MailboxSystem Mpsc SlotTurns
variable {T : Type} {build : Build} {w : Workload T} {s s' : Scene T} {task : Nat} {role role' : Role T}

/-- Each turn of a task: where the task was and is, what it leaves behind, and what it was answered. -/
inductive Move (w : Workload T) (s : Scene T) (task : Nat) : Role T → Role T → Scene T → Outcome T → Prop where
  | begins {sender sent elem} (supplied : w.source task sent = some elem) :
    Move w s task (.producing sender sent) (.sending sender sent s.clients.futures.size)
      ⟨{ s.mailbox with slots := s.mailbox.slots.request },
        { s.clients with futures := s.clients.futures.alloc (.send (.sender sender) elem) }⟩
      ⟨.future s.clients.futures.size, []⟩
  | waits {sender sent a} (opened : s.mailbox.slots.closed = false)
      (fresh : s.mailbox.slots.requests.get? a = some .fresh) (none : s.mailbox.slots.free = 0) :
    Move w s task (.sending sender sent a) (.sending sender sent a)
      ⟨{ s.mailbox with
          slots := { s.mailbox.slots with
            requests := s.mailbox.slots.requests.put a (.waiting (w.waker task))
            line := s.mailbox.slots.line ++ [a] } }, s.clients⟩
      ⟨.pending, []⟩
  | idles {sender sent a waker} (opened : s.mailbox.slots.closed = false)
      (waits : s.mailbox.slots.requests.get? a = some (.waiting waker)) :
    Move w s task (.sending sender sent a) (.sending sender sent a) s ⟨.pending, []⟩
  | sends {sender sent a elem free} (opened : s.mailbox.slots.closed = false) (supplied : w.source task sent = some elem)
      (slot : s.mailbox.slots.requests.get? a = some .fresh ∧ s.mailbox.slots.free = free + 1 ∨
        s.mailbox.slots.requests.get? a = some .granted ∧ s.mailbox.slots.free = free) :
    Move w s task (.sending sender sent a) (.producing sender (sent + 1))
      ⟨{ s.mailbox with items := s.mailbox.items ++ [elem], slots := { s.mailbox.slots.forget a with free } },
        { s.clients with futures := s.clients.futures.free a }⟩
      ⟨.sent (.ok ()), s.mailbox.waker.toList⟩
  | refused {sender sent a elem} (closed : s.mailbox.slots.closed = true) (supplied : w.source task sent = some elem) :
    Move w s task (.sending sender sent a) (.leaving sender sent)
      ⟨{ s.mailbox with slots := (s.mailbox.slots.withdraw a).1 }, { s.clients with futures := s.clients.futures.free a }⟩
      ⟨.sent (.error ⟨elem⟩), (s.mailbox.slots.withdraw a).2⟩
  | leaves {sender sent role} (gone : role = .producing sender sent ∧ w.source task sent = none ∨ role = .leaving sender sent)
      (others : 4 ≤ s.mailbox.mask.bits) :
    Move w s task role (.left sent)
      ⟨{ s.mailbox with mask := ⟨s.mailbox.mask.bits - 2⟩ },
        { s.clients with handles := s.clients.handles.removeSender sender }⟩
      ⟨.done, []⟩
  | leavesLast {sender sent role}
      (gone : role = .producing sender sent ∧ w.source task sent = none ∨ role = .leaving sender sent)
      (last : s.mailbox.mask.bits < 4) :
    Move w s task role (.left sent)
      ⟨{ s.mailbox with mask := ⟨1⟩, waker := none }, { s.clients with handles := s.clients.handles.removeSender sender }⟩
      ⟨.done, s.mailbox.waker.toList⟩
  | takes {taken elem rest} (items : s.mailbox.items = elem :: rest) :
    Move w s task (.receiving taken) (w.take (taken ++ [elem]))
      ⟨{ s.mailbox with items := rest, slots := (s.mailbox.slots.give 1).1 }, s.clients⟩
      ⟨.polled (.ready (some elem)), (s.mailbox.slots.give 1).2⟩
  | listens {taken} (items : s.mailbox.items = []) (opened : s.mailbox.mask.isClosed true = false) :
    Move w s task (.receiving taken) (.receiving taken)
      ⟨{ s.mailbox with waker := some (w.waker task) }, s.clients⟩ ⟨.polled .pending, []⟩
  | ends {taken} (items : s.mailbox.items = []) (closed : s.mailbox.mask.isClosed true = true) :
    Move w s task (.receiving taken) (.departing taken) s ⟨.polled (.ready none), []⟩
  | closes {taken} :
    Move w s task (.closing taken) (.receiving taken)
      ⟨(s.mailbox.close true).state, s.clients⟩ ⟨.done, (s.mailbox.close true).woken⟩
  | departs {taken} :
    Move w s task (.departing taken) (.departed taken)
      ⟨(s.mailbox.close true).state, { s.clients with handles := { s.clients.handles with receiver := false } }⟩
      ⟨.done, (s.mailbox.close true).woken⟩

def advance (w : Workload T) (crew : Crew (Scene T) (Role T)) (task : Nat) (role : Role T) (shared : Scene T)
    (outcome : Outcome T) : Crew (Scene T) (Role T) where
  shared
  place := Function.update crew.place task role
  awake other :=
    outcome.woken.contains (w.waker other) || if other = task then !Workload.suspends outcome else crew.awake other

/-- Each task has its future, and each future its task. -/
structure Asking (w : Workload T) (crew : Crew (Scene T) (Role T)) : Prop where
  asked : ∀ task sender sent a, crew.place task = .sending sender sent a →
    ∃ elem request, w.source task sent = some elem ∧
      crew.shared.clients.futures.get? a = some (.send (.sender sender) elem) ∧
      crew.shared.mailbox.slots.requests.get? a = some request ∧ ∀ waker, request = .waiting waker → waker = w.waker task
  answered : ∀ a, (crew.shared.clients.futures.get? a).isSome = true ∨
    (crew.shared.mailbox.slots.requests.get? a).isSome = true → ∃ task, (crew.place task).future = some a

/-- Whoever owns a sender counts. -/
structure Staffed (w : Workload T) (crew : Crew (Scene T) (Role T)) : Prop where
  consumer : (crew.place 0).produces = false
  produces : ∀ task, 0 < task → (crew.place task).produces = true
  absent : ∀ task, w.producers < task → (crew.place task).finished = true
  receiver : (crew.place 0).finished = false → crew.shared.clients.handles.receiver = true
  departed : (crew.place 0).finished = true → crew.shared.mailbox.slots.closed = true
  owned : ∀ id, crew.shared.clients.handles.usable (.sender id) = true ↔ ∃ task, (crew.place task).sender = some id
  apart : ∀ task task' id, (crew.place task).sender = some id → (crew.place task').sender = some id → task = task'
  permits : ∀ p, crew.shared.clients.permits.get? p = none
  unreserved : crew.shared.mailbox.reserved = 0
  counted : crew.shared.mailbox.mask.bits =
    if crew.shared.clients.handles.senderCount = 0 then 1
    else 2 * crew.shared.clients.handles.senderCount + if crew.shared.mailbox.slots.closed = true then 1 else 0

/-- Whoever sleeps will be woken: a producer in the line, or the consumer of an empty channel. -/
structure Resting (w : Workload T) (crew : Crew (Scene T) (Role T)) : Prop where
  room : 0 < unused crew.shared.mailbox.slots + crew.shared.mailbox.items.length
  waits : ∀ task, 0 < task → task ≤ w.producers → crew.awake task = false →
    ∃ a, (crew.place task).future = some a ∧ a ∈ crew.shared.mailbox.slots.line
  listens : crew.awake 0 = false →
    (∃ taken, crew.place 0 = .receiving taken) ∧ crew.shared.mailbox.items = [] ∧
      crew.shared.mailbox.mask.isClosed true = false ∧ crew.shared.mailbox.waker = some (w.waker 0)

variable {crew : Crew (Scene T) (Role T)}

section Turns

theorem Staffed.within (staffed : Staffed w crew) (unfinished : (crew.place task).finished = false) : task ≤ w.producers := by
  by_contra beyond
  rw [staffed.absent task (by omega)] at unfinished
  cases unfinished

theorem Staffed.producer (staffed : Staffed w crew) (produces : (crew.place task).produces = true) : 0 < task := by
  rcases Nat.eq_zero_or_pos task with rfl | positive
  · rw [staffed.consumer] at produces
    cases produces
  · exact positive

theorem Staffed.zero (staffed : Staffed w crew) (consumes : (crew.place task).produces = false) : task = 0 := by
  rcases Nat.eq_zero_or_pos task with zero | positive
  · exact zero
  · rw [staffed.produces task positive] at consumes
    cases consumes

theorem Staffed.covered (staffed : Staffed w crew) {id : Addr} (live : crew.shared.clients.handles.usable (.sender id) = true) :
    2 ≤ crew.shared.mailbox.mask.bits := by
  have some := Handles.senderCount_pos live
  have counted := staffed.counted
  rw [if_neg (by omega)] at counted
  omega

private theorem drops (build : Build) (staffed : Staffed w crew) {sender : Addr} {sent : Nat}
    (live : crew.shared.clients.handles.usable (.sender sender) = true)
    (gone : crew.place task = .producing sender sent ∧ w.source task sent = none ∨ crew.place task = .leaving sender sent) :
    ∃ shared outcome, MailboxSystem.step build crew.shared (.dropSender sender) = .ok (shared, outcome) ∧
      outcome.reply = .done ∧ Move w crew.shared task (crew.place task) (.left sent) shared outcome := by
  have covered := staffed.covered live
  by_cases last : crew.shared.mailbox.mask.bits < 4
  · refine ⟨_, _, ?_, rfl, .leavesLast gone last⟩
    have few : crew.shared.mailbox.mask.bits - 2 < 2 := by omega
    have counted : crew.shared.mailbox.mask.decreaseSenderCount = .ok (⟨1⟩, true) := by
      simp only [Mask.decreaseSenderCount, checkedSub_of_le covered, ok_bind, if_pos few]
      rfl
    simp only [MailboxSystem.step, MailboxSystem.operate, Mailbox.decreaseSenderCount, counted, ok_bind, if_true]
    rfl
  · refine ⟨_, _, ?_, rfl, .leaves gone (by omega)⟩
    have many : ¬ crew.shared.mailbox.mask.bits - 2 < 2 := by omega
    have counted : crew.shared.mailbox.mask.decreaseSenderCount = .ok (⟨crew.shared.mailbox.mask.bits - 2⟩, false) := by
      simp only [Mask.decreaseSenderCount, checkedSub_of_le covered, ok_bind, if_neg many]
    simp only [MailboxSystem.step, MailboxSystem.operate, Mailbox.decreaseSenderCount, counted, ok_bind,
      Bool.false_eq_true, if_false]
    rfl

private theorem polls (lined : Lined s) {sender a : Addr} {sent : Nat} {elem : T} {request : Request}
    (supplied : w.source task sent = some elem) (future : s.clients.futures.get? a = some (.send (.sender sender) elem))
    (held : s.mailbox.slots.requests.get? a = some request) :
    ∃ shared outcome, MailboxSystem.step build s (.pollFuture a (w.waker task)) = .ok (shared, outcome) ∧
      Move w s task (.sending sender sent a) (w.resume (.sending sender sent a) outcome.reply) shared outcome := by
  simp only [MailboxSystem.step, MailboxSystem.operate, future, Mailbox.send]
  by_cases closed : s.mailbox.slots.closed = true
  · rw [Slots.poll_closed closed]
    exact ⟨_, _, rfl, .refused closed supplied⟩
  · have opened := Bool.eq_false_iff.mpr closed
    cases request with
    | fresh =>
      rw [Slots.poll_fresh opened held]
      by_cases none : s.mailbox.slots.free = 0
      · rw [if_pos none]
        exact ⟨_, _, rfl, .waits opened held none⟩
      · rw [if_neg none]
        exact ⟨_, _, rfl, .sends opened supplied (.inl ⟨held, by omega⟩)⟩
    | waiting waker =>
      rw [Slots.poll_waiting opened held]
      exact ⟨_, _, rfl, .idles opened held⟩
    | granted =>
      rw [Slots.poll_granted opened held]
      exact ⟨_, _, rfl, .sends opened supplied (.inr ⟨held, rfl⟩)⟩
    | refused => exact absurd (lined.refused a held) closed

private theorem receives (unreserved : s.mailbox.reserved = 0) (taken : List T) :
    ∃ shared outcome, MailboxSystem.step build s (.pollRecv true (w.waker task)) = .ok (shared, outcome) ∧
      Move w s task (.receiving taken) (w.resume (.receiving taken) outcome.reply) shared outcome := by
  simp only [MailboxSystem.step, MailboxSystem.operate, Mailbox.pollRecv, Mailbox.tryRecv]
  cases items : s.mailbox.items with
  | cons elem rest => exact ⟨_, _, rfl, .takes items⟩
  | nil =>
    have quiet : (s.mailbox.reserved == 0 && s.mailbox.isClosed true) = s.mailbox.mask.isClosed true := by
      rw [unreserved]
      rfl
    rw [quiet]
    cases closed : s.mailbox.mask.isClosed true with
    | true => exact ⟨_, _, rfl, .ends items closed⟩
    | false => exact ⟨_, _, rfl, .listens items closed⟩

private theorem unborrowed (task : Nat) (sender : Addr) (staffed : Staffed w crew) (asking : Asking w crew)
    (owns : (crew.place task).sender = some sender) (idle : (crew.place task).future = none) :
    crew.shared.clients.borrowed sender = false := by
  have permits : crew.shared.clients.permits.count (fun via => via == .sender sender) = 0 := by
    apply Arena.sum_eq_zero
    intro p via live
    rw [staffed.permits p] at live
    cases live
  have futures : crew.shared.clients.futures.count (fun future => future.via == some (.sender sender)) = 0 := by
    apply Arena.sum_eq_zero
    intro a future live
    rw [if_neg]
    intro borrows
    obtain ⟨other, holds⟩ := asking.answered a (.inl (by rw [live]; rfl))
    cases place : crew.place other <;> simp only [place, Role.future, reduceCtorEq, Option.some.injEq] at holds
    next sender' sent b =>
      subst holds
      obtain ⟨elem, _, _, found, _⟩ := asking.asked _ _ _ _ place
      rw [found] at live
      cases live
      simp only [Suspended.via, beq_iff_eq, Option.some.injEq, Via.sender.injEq] at borrows
      subst borrows
      have same := staffed.apart task other _ owns (by rw [place]; rfl)
      rw [same, place] at idle
      cases idle
  simp [Clients.borrowed, permits, futures]

theorem call_enabled (staffed : Staffed w crew) (asking : Asking w crew) {action : Action T}
    (call : w.call task (crew.place task) = some action) : enabled crew.shared.clients action = true := by
  have live : ∀ sender, (crew.place task).sender = some sender → crew.shared.clients.handles.usable (.sender sender) = true :=
    fun sender owns => (staffed.owned sender).mpr ⟨task, owns⟩
  have receives : (crew.place task).produces = false → (crew.place task).finished = false →
      crew.shared.clients.handles.receiver = true := by
    intro consumes unfinished
    have zero := staffed.zero consumes
    subst zero
    exact staffed.receiver unfinished
  cases place : crew.place task <;> rw [place] at call live receives <;> simp only [Workload.call] at call
  case producing sender sent =>
    have usable := live sender rfl
    split at call
    · cases call
      exact usable
    · cases call
      simp [enabled, usable, unborrowed task sender staffed asking (by rw [place]; rfl) (by rw [place]; rfl)]
  case sending sender sent a =>
    cases call
    obtain ⟨elem, _, _, found, _⟩ := asking.asked _ _ _ _ place
    simp [enabled, found]
  case leaving sender sent =>
    cases call
    simp [enabled, live sender rfl,
      unborrowed task sender staffed asking (by rw [place]; rfl) (by rw [place]; rfl)]
  case left | departed => cases call
  case receiving | closing | departing =>
    cases call
    simpa [enabled, Handles.receives] using receives rfl rfl

/-- The inversion lemma: every turn of a task is one of the moves, and no turn faults. -/
theorem turn_moves (build : Build) (staffed : Staffed w crew) (asking : Asking w crew) (lined : Lined crew.shared) {action : Action T}
    (call : w.call task (crew.place task) = some action) :
    ∃ shared outcome, MailboxSystem.step build crew.shared action = .ok (shared, outcome) ∧
      Move w crew.shared task (crew.place task) (w.resume (crew.place task) outcome.reply) shared outcome := by
  have live : ∀ sender, (crew.place task).sender = some sender → crew.shared.clients.handles.usable (.sender sender) = true :=
    fun sender owns => (staffed.owned sender).mpr ⟨task, owns⟩
  cases place : crew.place task <;> rw [place] at call live <;> simp only [Workload.call] at call
  case producing sender sent =>
    split at call
    next elem supplied =>
      cases call
      exact ⟨_, _, rfl, .begins supplied⟩
    next exhausted =>
      cases call
      obtain ⟨shared, outcome, stepped, reply, move⟩ :=
        drops build staffed (live sender rfl) (.inl ⟨place, exhausted⟩)
      rw [place] at move
      exact ⟨shared, outcome, stepped, by rw [reply]; exact move⟩
  case sending sender sent a =>
    cases call
    obtain ⟨elem, request, supplied, found, held, _⟩ := asking.asked _ _ _ _ place
    exact polls lined supplied found held
  case leaving sender sent =>
    cases call
    obtain ⟨shared, outcome, stepped, reply, move⟩ := drops build staffed (live sender rfl) (.inr place)
    rw [place] at move
    exact ⟨shared, outcome, stepped, by rw [reply]; exact move⟩
  case left | departed => cases call
  case receiving taken =>
    cases call
    exact receives staffed.unreserved taken
  case closing taken =>
    cases call
    exact ⟨_, _, rfl, .closes⟩
  case departing taken =>
    cases call
    exact ⟨_, _, rfl, .departs⟩

end Turns
end AsyncUnsync.Proofs.MpscTasks
