import AsyncUnsync.Proofs.QueueCalls
import AsyncUnsync.UnboundedMpsc

/-! What the tasks of an mpsc program do over an unbounded channel, one turn at a time, and
what all of them keep. -/

namespace AsyncUnsync.Proofs.UnboundedTasks
open Memory Transition UnboundedSystem Mpsc UnboundedMpsc QueueCalls
variable {T : Type} {build : Build} {w : Workload T} {s s' : State T} {task : Nat} {role role' : Role T} {outcome : Outcome T}

/-- Each turn of a task: where the task was and is, what it leaves behind, and what it was answered. -/
inductive Move (w : Workload T) (s : State T) (task : Nat) : Role T → Role T → State T → Outcome T → Prop where
  | sends {sender sent elem} (supplied : w.source task sent = some elem) (opened : s.queue.isClosed true = false) :
    Move w s task (.producing sender sent) (.producing sender (sent + 1))
      ⟨{ s.queue with queue := s.queue.queue.pushBack elem }, s.handles⟩ ⟨.sent (.ok ()), s.queue.waker.toList⟩
  | refused {sender sent elem} (supplied : w.source task sent = some elem) (closed : s.queue.isClosed true = true) :
    Move w s task (.producing sender sent) (.leaving sender sent) s ⟨.sent (.error ⟨elem⟩), []⟩
  | leaves {sender sent role} (gone : role = .producing sender sent ∧ w.source task sent = none ∨ role = .leaving sender sent)
      (others : 4 ≤ s.queue.mask.bits) :
    Move w s task role (.left sent)
      ⟨{ s.queue with mask := ⟨s.queue.mask.bits - 2⟩ }, s.handles.removeSender sender⟩ ⟨.done, []⟩
  | leavesLast {sender sent role}
      (gone : role = .producing sender sent ∧ w.source task sent = none ∨ role = .leaving sender sent)
      (last : s.queue.mask.bits < 4) :
    Move w s task role (.left sent)
      ⟨{ s.queue with mask := ⟨1⟩, waker := none }, s.handles.removeSender sender⟩ ⟨.done, s.queue.waker.toList⟩
  | takes {taken elem rest capacity popCount} (items : s.queue.items = elem :: rest) :
    Move w s task (.receiving taken) (w.take (taken ++ [elem]))
      ⟨{ s.queue with queue := ⟨rest, capacity⟩, popCount }, s.handles⟩ ⟨.polled (.ready (some elem)), []⟩
  | listens {taken capacity popCount} (items : s.queue.items = []) (opened : s.queue.isClosed true = false) :
    Move w s task (.receiving taken) (.receiving taken)
      ⟨{ s.queue with queue := ⟨[], capacity⟩, popCount, waker := some (w.waker task) }, s.handles⟩ ⟨.polled .pending, []⟩
  | ends {taken capacity popCount} (items : s.queue.items = []) (closed : s.queue.isClosed true = true) :
    Move w s task (.receiving taken) (.departing taken)
      ⟨{ s.queue with queue := ⟨[], capacity⟩, popCount }, s.handles⟩ ⟨.polled (.ready none), []⟩
  | closes {taken} :
    Move w s task (.closing taken) (.receiving taken)
      ⟨{ s.queue with mask := s.queue.mask.close true }, s.handles⟩ ⟨.done, []⟩
  | departs {taken} :
    Move w s task (.departing taken) (.departed taken)
      ⟨{ s.queue with mask := s.queue.mask.close true }, { s.handles with receiver := false }⟩ ⟨.done, []⟩

/-- Whoever owns a sender counts, and only the consumer ever sleeps: over an empty open channel that has its waker. -/
structure Working (w : Workload T) (crew : Crew (State T) (Role T)) : Prop where
  consumer : (crew.place 0).produces = false
  produces : ∀ task, 0 < task → (crew.place task).produces = true
  idle : ∀ task, (crew.place task).future = none
  absent : ∀ task, w.producers < task → (crew.place task).finished = true
  receiver : (crew.place 0).finished = false → crew.shared.handles.receiver = true
  owners : Program.Held Role.sender (fun id => crew.shared.handles.usable (.sender id) = true) crew.place
  counted : crew.shared.queue.mask.bits / 2 = crew.shared.handles.senderCount
  ended : crew.shared.handles.senderCount = 0 → crew.shared.queue.isClosed true = true
  awake : ∀ task, 0 < task → crew.awake task = true
  listens : crew.awake 0 = false →
    (∃ taken, crew.place 0 = .receiving taken) ∧ crew.shared.queue.items = [] ∧
      crew.shared.queue.isClosed true = false ∧ crew.shared.queue.waker = some (w.waker 0)

variable {crew : Crew (State T) (Role T)}

section Turns

theorem Working.zero (working : Working w crew) (consumes : (crew.place task).produces = false) : task = 0 := by
  rcases Nat.eq_zero_or_pos task with zero | positive
  · exact zero
  · rw [working.produces task positive] at consumes
    cases consumes

theorem Working.producer (working : Working w crew) (produces : (crew.place task).produces = true) : 0 < task := by
  rcases Nat.eq_zero_or_pos task with rfl | positive
  · rw [working.consumer] at produces
    cases produces
  · exact positive

theorem Working.live (working : Working w crew) {sender : Addr} (owns : (crew.place task).sender = some sender) :
    crew.shared.handles.usable (.sender sender) = true := (working.owners.held sender).mpr ⟨task, owns⟩

private theorem drops (build : Build) (working : Working w crew) {sender : Addr} {sent : Nat}
    (owns : role.sender = some sender) (place : crew.place task = role)
    (gone : role = .producing sender sent ∧ w.source task sent = none ∨ role = .leaving sender sent) :
    ∃ shared outcome, UnboundedSystem.step build crew.shared (.dropSender sender) = .ok (shared, outcome) ∧
      outcome.reply = .done ∧ Move w crew.shared task role (.left sent) shared outcome := by
  have some := Handles.senderCount_pos (working.live (by rw [place, owns]))
  have counted := working.counted
  have covered : 2 ≤ crew.shared.queue.mask.bits := by omega
  by_cases last : crew.shared.queue.mask.bits < 4
  · refine ⟨_, _, ?_, rfl, .leavesLast gone last⟩
    have few : crew.shared.queue.mask.bits - 2 < 2 := by omega
    have decreased : crew.shared.queue.mask.decreaseSenderCount = .ok (⟨1⟩, true) := by
      simp only [Mask.decreaseSenderCount, checkedSub_of_le covered, ok_bind, if_pos few]
      rfl
    simp only [UnboundedSystem.step, operate, Queue.decreaseSenderCount, decreased, ok_bind, if_true]
    rfl
  · refine ⟨_, _, ?_, rfl, .leaves gone (by omega)⟩
    have many : ¬ crew.shared.queue.mask.bits - 2 < 2 := by omega
    have decreased : crew.shared.queue.mask.decreaseSenderCount = .ok (⟨crew.shared.queue.mask.bits - 2⟩, false) := by
      simp only [Mask.decreaseSenderCount, checkedSub_of_le covered, ok_bind, if_neg many]
    simp only [UnboundedSystem.step, operate, Queue.decreaseSenderCount, decreased, ok_bind, Bool.false_eq_true, if_false]
    rfl

private theorem receives (build : Build) (s : State T) (task : Nat) (taken : List T) :
    ∃ shared outcome, UnboundedSystem.step build s (.pollRecv true (w.waker task)) = .ok (shared, outcome) ∧
      Move w s task (.receiving taken) (resume w (.receiving taken) outcome.reply) shared outcome := by
  have popped : ∃ effect, s.queue.tryRecv true = .ok effect := by
    simp only [Queue.tryRecv, MaybeBoundedQueue.tryRecv]
    split <;> exact ⟨_, rfl⟩
  obtain ⟨effect, done⟩ := popped
  simp only [UnboundedSystem.step, operate, Queue.pollRecv, done, ok_bind]
  rcases unbounded_tryRecv_ok done with ⟨elem, rest, capacity, popCount, items, rfl⟩ | ⟨items, capacity, popCount, rfl⟩
  · exact ⟨_, _, rfl, .takes items⟩
  · cases closed : s.queue.isClosed true with
    | true => exact ⟨_, _, rfl, .ends items closed⟩
    | false => exact ⟨_, _, rfl, .listens items closed⟩

theorem call_enabled (working : Working w crew) {action : Action T} (called : call w task (crew.place task) = some action) :
    enabled crew.shared.handles action = true := by
  have receives : (crew.place task).produces = false → (crew.place task).finished = false →
      crew.shared.handles.receiver = true := by
    intro consumes unfinished
    have zero := working.zero consumes
    subst zero
    exact working.receiver unfinished
  cases place : crew.place task <;> rw [place] at called receives <;> simp only [call] at called
  case producing sender sent =>
    have live := working.live (show (crew.place task).sender = some sender by rw [place]; rfl)
    split at called <;> cases called <;> exact live
  case leaving sender sent =>
    cases called
    exact working.live (show (crew.place task).sender = some sender by rw [place]; rfl)
  case receiving | closing | departing =>
    cases called
    simpa [enabled, Handles.receives] using receives rfl rfl
  all_goals cases called

/-- The inversion lemma: every turn of a task is one of the moves, and no turn faults. -/
theorem turn_moves (build : Build) (working : Working w crew) {action : Action T}
    (called : call w task (crew.place task) = some action) :
    ∃ shared outcome, UnboundedSystem.step build crew.shared action = .ok (shared, outcome) ∧
      Move w crew.shared task (crew.place task) (resume w (crew.place task) outcome.reply) shared outcome := by
  cases place : crew.place task <;> rw [place] at called <;> simp only [call] at called
  case producing sender sent =>
    split at called
    next elem supplied =>
      cases called
      rcases unbounded_send_eq crew.shared.queue true elem with ⟨closed, refused⟩ | ⟨opened, sent⟩
      · exact ⟨_, _, by simp only [UnboundedSystem.step, operate, Via.counted, refused]; rfl, .refused supplied closed⟩
      · exact ⟨_, _, by simp only [UnboundedSystem.step, operate, Via.counted, sent]; rfl, .sends supplied opened⟩
    next exhausted =>
      cases called
      obtain ⟨shared, outcome, stepped, reply, move⟩ := drops build working rfl place (.inl ⟨rfl, exhausted⟩)
      exact ⟨shared, outcome, stepped, by rw [reply]; exact move⟩
  case leaving sender sent =>
    cases called
    obtain ⟨shared, outcome, stepped, reply, move⟩ := drops build working rfl place (.inr rfl)
    exact ⟨shared, outcome, stepped, by rw [reply]; exact move⟩
  case receiving taken =>
    cases called
    exact receives build crew.shared task taken
  case closing | departing =>
    cases called
    exact ⟨_, _, rfl, by constructor⟩
  all_goals cases called

end Turns
end AsyncUnsync.Proofs.UnboundedTasks
