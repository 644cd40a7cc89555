import AsyncUnsync.Proofs.MpscWorking

/-! An mpsc program never gets stuck: while a task has not finished, some task can take
a turn. No wake-up is lost, and no turn faults. -/

namespace AsyncUnsync.Proofs.MpscTasks
open Memory Transition BoundedSystem MailboxSystem MailboxRefinement Mpsc SlotTurns
variable {T : Type} {build : Build} {w : Workload T}

structure Working (w : Workload T) (crew : Crew (Scene T) (Role T)) : Prop where
  staffed : Staffed w crew
  asking : Asking w crew
  resting : Resting w crew

section Simple
variable {start crew : Crew (Scene T) (Role T)} {history : History (Crew (Scene T) (Role T)) (Turn (Action T)) (Outcome T)}

theorem Assembled.place (assembled : w.Assembled crew) (task : Nat) :
    crew.place task = .receiving [] ∨ (∃ sender, crew.place task = .producing sender 0) ∨ crew.place task = .left 0 := by
  rcases Nat.eq_zero_or_pos task with rfl | positive
  · exact .inl assembled.consumer
  · by_cases within : task ≤ w.producers
    · exact .inr (.inl (assembled.producing task positive within))
    · exact .inr (.inr (assembled.absent task (by omega)))

theorem working_start (assembled : w.Assembled crew) : Working w crew := by
  have idle : ∀ task, (crew.place task).future = none := by
    intro task
    rcases Assembled.place assembled task with place | ⟨_, place⟩ | place <;> rw [place] <;> rfl
  refine ⟨?_, ?_, ?_⟩
  · constructor
    case consumer => rw [assembled.consumer]; rfl
    case produces =>
      intro task positive
      by_cases within : task ≤ w.producers
      · obtain ⟨sender, place⟩ := assembled.producing task positive within
        rw [place]
        rfl
      · rw [assembled.absent task (by omega)]
        rfl
    case absent => intro task beyond; rw [assembled.absent task beyond]; rfl
    case receiver => intro _; exact assembled.receiver
    case departed => rw [assembled.consumer]; intro finished; cases finished
    case owned => exact assembled.owned
    case apart => exact assembled.apart
    case permits => exact assembled.permits
    case unreserved => exact assembled.unreserved
    case counted =>
      obtain ⟨sender, place⟩ := assembled.producing 1 Nat.one_pos assembled.some
      have some := Handles.senderCount_pos ((assembled.owned sender).mpr ⟨1, by rw [place]; rfl⟩)
      rw [if_neg (by omega), assembled.opened, assembled.counted]
      simp
  · constructor
    · intro task sender sent a sends
      have none := idle task
      rw [sends] at none
      cases none
    · intro a some
      rw [assembled.futures a, assembled.requests a] at some
      simp at some
  · refine ⟨?_, ?_, ?_⟩
    · have room := assembled.room
      simp only [unused]
      omega
    · intro task _ _ sleeps
      rw [assembled.awake task] at sleeps
      cases sleeps
    · intro sleeps
      rw [assembled.awake 0] at sleeps
      cases sleeps

theorem crew_assembled {shared : Scene T} (some : 0 < w.producers) (receiver : shared.clients.handles.receiver = true)
    (senders : ∀ id, shared.clients.handles.usable (.sender id) = true ↔ id < w.producers)
    (permits : ∀ p, shared.clients.permits.get? p = none) (futures : ∀ a, shared.clients.futures.get? a = none)
    (requests : ∀ a, shared.mailbox.slots.requests.get? a = none) (opened : shared.mailbox.slots.closed = false)
    (counted : shared.mailbox.mask.bits = 2 * shared.clients.handles.senderCount) (unreserved : shared.mailbox.reserved = 0)
    (room : 0 < shared.mailbox.slots.free + shared.mailbox.items.length) : w.Assembled (w.crew shared) := by
  have held := Workload.crew_held shared senders
  exact ⟨rfl, fun _ => Workload.crew_producing shared, fun _ => Workload.crew_absent shared, fun _ => rfl, some, receiver,
    held.held, held.apart, permits, futures, requests, opened, counted, unreserved, room⟩

theorem run_lined_crew (run : (w.simple T build).Run start history crew) : Lined crew.shared := by
  obtain ⟨⟨origin, past, reached⟩, _⟩ := run.initial
  exact run_lined (Program.run_shared reached run)

theorem turn_move (working : Working w crew) (lined : Lined crew.shared) {turn : Turn (Action T)}
    {after : Crew (Scene T) (Role T)} {outcome : Outcome T} (able : (w.simple T build).Enabled crew turn)
    (stepped : (w.simple T build).step crew turn = .ok (after, outcome)) :
    ∃ role shared, Move w crew.shared turn.task (crew.place turn.task) role shared outcome ∧
      after = advance w crew turn.task role shared outcome := by
  obtain ⟨shared, done, rfl⟩ := Program.executor_ok stepped
  obtain ⟨shared', outcome', done', move⟩ := turn_moves build working.staffed working.asking lined able.2.2.1
  obtain ⟨rfl, rfl⟩ := Prod.mk.inj (Except.ok.inj (done.symm.trans done'))
  exact ⟨_, _, move, rfl⟩

theorem Working.moves {task : Nat} {role role' : Role T} {shared : Scene T} {outcome : Outcome T} (working : Working w crew)
    (lined : Lined crew.shared) (place : crew.place task = role) (move : Move w crew.shared task role role' shared outcome) :
    Working w (advance w crew task role' shared outcome) :=
  ⟨working.staffed.moves lined place move, working.asking.moves working.staffed lined place move,
    working.resting.moves working.asking working.staffed lined place move⟩

theorem run_working (run : (w.simple T build).Run start history crew) : Working w crew := by
  apply run.invariant fun _ crew => Working w crew
  · intro initial
    exact working_start initial.2
  · intro past before turn outcome after reached working able stepped
    have lined := run_lined_crew reached
    obtain ⟨role, shared, move, rfl⟩ := turn_move working lined able stepped
    exact working.moves lined rfl move

theorem call_unfinished (w : Workload T) (task : Nat) {role : Role T} (unfinished : role.finished = false) :
    ∃ action, w.call task role = some action := by
  cases role <;> simp only [Role.finished, Bool.true_eq_false] at unfinished <;> simp only [Workload.call]
  case producing => split <;> exact ⟨_, rfl⟩
  all_goals exact ⟨_, rfl⟩

theorem awake_turn (build : Build) (working : Working w crew) (lined : Lined crew.shared) {task : Nat} (within : task ≤ w.producers)
    (awake : crew.awake task = true) (unfinished : (crew.place task).finished = false) :
    ∃ action result, (w.simple T build).Enabled crew ⟨task, action⟩ ∧
      (w.simple T build).step crew ⟨task, action⟩ = .ok result := by
  obtain ⟨action, call⟩ := call_unfinished w task unfinished
  obtain ⟨shared, outcome, stepped, _⟩ := turn_moves build working.staffed working.asking lined call
  refine ⟨action, (w.program.proceed crew task shared outcome, outcome), ?_, ?_⟩
  · exact ⟨Nat.lt_succ_of_le within, awake, call, call_enabled working.staffed working.asking call⟩
  · simp only [Workload.simple, Program.executor, MailboxSystem.system, stepped]

/-- Behind every sleeping producer there is a free slot, or somebody awake. -/
private theorem line_answered (working : Working w crew) (lined : Lined crew.shared)
    (asleep : ∀ task ≤ w.producers, (crew.place task).finished = false → crew.awake task = false)
    (empty : crew.shared.mailbox.items = []) : crew.shared.mailbox.slots.line = [] := by
  by_contra some
  have room := working.resting.room
  have none := lined.idle some
  simp only [unused, empty, none, List.length_nil, Nat.zero_add, Nat.add_zero] at room
  obtain ⟨a, request, held, granted⟩ := Arena.exists_of_count_pos room
  simp only [beq_iff_eq] at granted
  subst granted
  obtain ⟨task, future⟩ := working.asking.answered a (.inr (by rw [held]; rfl))
  obtain ⟨sender, sent, place⟩ := future_sending future
  have unfinished : (crew.place task).finished = false := by rw [place]; rfl
  have within := working.staffed.within unfinished
  have positive := working.staffed.producer (by rw [place]; rfl)
  obtain ⟨b, future', queued⟩ := working.resting.waits task positive within (asleep task within unfinished)
  obtain ⟨waker, waits⟩ := (lined.waits b).mp queued
  rw [future] at future'
  cases future'
  rw [held] at waits
  cases waits

theorem asleep_finished (working : Working w crew) (lined : Lined crew.shared)
    (asleep : ∀ task ≤ w.producers, (crew.place task).finished = false → crew.awake task = false) :
    ∀ task ≤ w.producers, (crew.place task).finished = true := by
  have consumer : (crew.place 0).finished = true := by
    by_contra busy
    have sleeps := asleep 0 (Nat.zero_le _) (Bool.eq_false_iff.mpr busy)
    obtain ⟨_, empty, opened, _⟩ := working.resting.listens sleeps
    have some : 0 < crew.shared.clients.handles.senderCount := by
      by_contra none
      have counted := working.staffed.counted
      rw [if_pos (by omega)] at counted
      rw [Mask.isClosed_counted, counted] at opened
      cases opened
    obtain ⟨id, _, held, _⟩ := Arena.exists_of_count_pos some
    obtain ⟨task, owns⟩ := (working.staffed.owned id).mp (Option.isSome_iff_exists.mpr ⟨_, held⟩)
    obtain ⟨produces, unfinished⟩ := Role.owner owns
    have within := working.staffed.within unfinished
    have positive := working.staffed.producer produces
    obtain ⟨a, _, queued⟩ := working.resting.waits task positive within (asleep task within unfinished)
    rw [line_answered working lined asleep empty] at queued
    cases queued
  intro task within
  by_contra busy
  rcases Nat.eq_zero_or_pos task with rfl | positive
  · exact busy consumer
  · obtain ⟨a, _, queued⟩ := working.resting.waits task positive within (asleep task within (Bool.eq_false_iff.mpr busy))
    rw [lined.shut (working.staffed.departed consumer)] at queued
    cases queued

end Simple

theorem refined (T : Type) (build : Build) (w : Workload T) :
    (w.system T build).Refines (w.simple T build) (Crew.map view) fun crew => Regular crew.shared :=
  Program.refines (MailboxRefinement.refines T build) fun _ assembled => assembled

variable {start crew : Crew (State T) (Role T)} {history : History (Crew (State T) (Role T)) (Turn (Action T)) (Outcome T)}

section Setup

private def shared (items : List T) (free cap clones : Nat) : Scene T where
  mailbox := ⟨items, ⟨.empty, [], free, false⟩, cap, 0, ⟨2 * (clones + 1)⟩, none⟩
  clients := ⟨⟨true, true, ⟨List.replicate (clones + 1) (some ())⟩⟩, .empty, .empty, .empty⟩

private theorem split_run (build : Build) {queue : BoundedQueue T} (constructed : Constructed queue)
    (room : 0 < queue.extra.maxCapacity) :
    ∃ history items free, (MailboxSystem.system T build).Run (view (.new queue)) history
      (shared items free queue.extra.maxCapacity 0) ∧ history.map Event.action = [.split] ∧ 0 < free + items.length := by
  have initial : (MailboxSystem.system T build).Initial (view (.new queue)) := ⟨_, ⟨_, constructed, rfl⟩, rfl⟩
  obtain ⟨deque, permits, cap, rfl, total, bound⟩ := BoundedValid.constructed_eq constructed
  have missing : build.sub cap permits = .ok (cap - permits) := build.sub_of_le (by omega)
  have given := give_nil (s := ⟨.empty, [], permits, false⟩) rfl (cap - permits)
  have stepped : (MailboxSystem.system T build).step (view (.new (Queue.new deque ⟨.new permits, cap, 0⟩))) .split =
      .ok (shared deque.items (if 0 < cap - permits then saturatingAdd permits (cap - permits) else permits) cap 0,
        ⟨.sender 0, []⟩) := by
    have seen : view (.new (Queue.new deque ⟨.new permits, cap, 0⟩)) =
        ⟨⟨deque.items, ⟨.empty, [], permits, false⟩, cap, 0, ⟨0⟩, none⟩, ⟨.new, .empty, .empty, .empty⟩⟩ := rfl
    simp only [seen, MailboxSystem.system, MailboxSystem.step, MailboxSystem.operate, Mailbox.split, missing, ok_bind,
      Mailbox.give, given]
    rfl
  refine ⟨_, deque.items, _, .step (.start initial) (show enabled _ _ = true from rfl) stepped, rfl, ?_⟩
  split
  · simp only [saturatingAdd, usizeMax]
    omega
  · change 0 < cap at room
    omega

private theorem clones_run {start : Scene T} {history : History (Scene T) (Action T) (Outcome T)} {items : List T} {free cap : Nat}
    (run : (MailboxSystem.system T build).Run start history (shared items free cap 0)) (clones : Nat)
    (few : 2 * (clones + 1) ≤ usizeMax) :
    ∃ later, (MailboxSystem.system T build).Run start (later ++ history) (shared items free cap clones) ∧
      later.map Event.action = List.replicate clones (.cloneSender 0) := by
  induction clones with
  | zero => exact ⟨[], run, rfl⟩
  | succ clones ih =>
    obtain ⟨later, run, cloned⟩ := ih (by omega)
    have stepped : (MailboxSystem.system T build).step (shared items free cap clones) (.cloneSender 0) =
        .ok (shared items free cap (clones + 1), ⟨.sender (clones + 1), []⟩) := by
      have counted : checkedAdd (2 * (clones + 1)) 2 = .ok (2 * (clones + 1 + 1)) := checkedAdd_of_le (by omega)
      simp only [MailboxSystem.system, MailboxSystem.step, MailboxSystem.operate, Mailbox.increaseSenderCount,
        Mask.increaseSenderCount, shared, counted, ok_bind]
      simp [record, Handles.addSender, Arena.alloc, Arena.size, List.replicate_succ']
    refine ⟨_ :: later, .step run (show enabled _ _ = true from ?_) stepped, ?_⟩
    · simp [enabled, shared, Handles.usable, Arena.get?, List.replicate_succ]
    · rw [List.map_cons, cloned]
      rfl

/-- Every channel that can hold an element at all, split and with a sender for each producer, is one to start from. -/
theorem crew_starts {queue : BoundedQueue T} (constructed : Constructed queue) (room : 0 < queue.extra.maxCapacity)
    (w : Workload T) (some : 0 < w.producers) (few : 2 * w.producers ≤ usizeMax) :
    ∃ history shared, (BoundedSystem.system T build).Run (.new queue) history shared ∧
      history.map Event.action = List.replicate (w.producers - 1) (.cloneSender 0) ++ [.split] ∧
      (w.system T build).Initial (w.crew shared) := by
  obtain ⟨split, items, free, run, splits, room⟩ := split_run build constructed room
  obtain ⟨clones, run, cloned⟩ := clones_run run (w.producers - 1) (by omega)
  obtain ⟨history, final, run', seen, reached⟩ := (MailboxRefinement.refines T build).realizes ⟨queue, constructed, rfl⟩ run
  refine ⟨history, final, run', ?_, ⟨_, _, run'⟩, ?_⟩
  · have same := congrArg (List.map Event.action) seen
    rw [List.map_append, cloned, splits, List.map_map] at same
    exact same.symm
  · change w.Assembled (w.crew (view final))
    rw [← reached]
    refine crew_assembled some rfl ?_ (fun _ => rfl) (fun _ => rfl) (fun _ => rfl) rfl ?_ rfl room
    · intro id
      simp only [shared, Handles.usable, Arena.get?, List.getD_eq_getElem?_getD, List.getElem?_replicate]
      rw [Nat.sub_add_cancel some]
      split
      next within => exact iff_of_true rfl within
      next beyond => exact iff_of_false (by simp) beyond
    · simp [shared, Handles.senderCount, Arena.count, Arena.sum]

end Setup

theorem seen_run (run : (w.system T build).Run start history crew) :
    (w.simple T build).Run (start.map view) (history.map (Event.seen (Crew.map view))) (crew.map view) :=
  ((refined T build w).run run).2

theorem event_move {past : History (Crew (State T) (Role T)) (Turn (Action T)) (Outcome T)}
    {event : Event (Crew (State T) (Role T)) (Turn (Action T)) (Outcome T)}
    (run : (w.system T build).Run start (event :: past) event.after) :
    Working w (event.before.map view) ∧ Lined (view event.before.shared) ∧ event.action.task ≤ w.producers ∧
      ∃ role shared, Move w (view event.before.shared) event.action.task (event.before.place event.action.task) role shared
        event.outcome ∧ event.after.map view = advance w (event.before.map view) event.action.task role shared event.outcome := by
  obtain ⟨reached, able, stepped, _⟩ := (seen_run run).last
  have working := run_working reached
  have lined := run_lined_crew reached
  obtain ⟨role, shared, move, moved⟩ := turn_move working lined able stepped
  exact ⟨working, lined, Nat.le_of_lt_succ able.1, role, shared, move, moved⟩

theorem turn_returns (run : (w.system T build).Run start history crew) {task : Nat} (within : task ≤ w.producers)
    (awake : crew.awake task = true) (unfinished : (crew.place task).finished = false) :
    ∃ action result, (w.system T build).Enabled crew ⟨task, action⟩ ∧
      (w.system T build).step crew ⟨task, action⟩ = .ok result := by
  have simple := seen_run run
  have regular := ((refined T build w).run run).1
  obtain ⟨action, result, able, stepped⟩ :=
    awake_turn build (run_working simple) (run_lined_crew simple) within awake unfinished
  obtain ⟨able', _, stepped', _⟩ := (refined T build w).step_returns regular able stepped
  exact ⟨action, _, able', stepped'⟩

theorem enabled_returns (run : (w.system T build).Run start history crew) {turn : Turn (Action T)}
    (able : (w.system T build).Enabled crew turn) : ∃ result, (w.system T build).step crew turn = .ok result := by
  obtain ⟨within, awake, call, _⟩ := able
  have unfinished : (crew.place turn.task).finished = false := by
    cases place : crew.place turn.task <;> first | rfl | (rw [place] at call; cases call)
  obtain ⟨action, result, able, stepped⟩ := turn_returns run (Nat.le_of_lt_succ within) awake unfinished
  have same : action = turn.action := Option.some.inj (able.2.2.1.symm.trans call)
  subst same
  exact ⟨result, stepped⟩

theorem stuck_finished (run : (w.system T build).Run start history crew)
    (stuck : ∀ turn, ¬ (w.system T build).Enabled crew turn) : ∀ task ≤ w.producers, (crew.place task).finished = true := by
  have simple := seen_run run
  apply asleep_finished (run_working simple) (run_lined_crew simple)
  intro task within unfinished
  by_contra awake
  obtain ⟨action, _, able, _⟩ := turn_returns run within (Bool.not_eq_false _ ▸ awake) unfinished
  exact stuck _ able

/-- In every state that assembled tasks reach, whoever is awake and has not finished can take its turn,
and the call returns. When no turn is left, everybody has finished: no wake-up is lost. A leaked
sender that the mask still counts would keep the consumer asleep, so it may count only the producers'. -/
theorem mpsc_progress (run : (w.system T build).Run start history crew) :
    (∀ task ≤ w.producers, crew.awake task = true → (crew.place task).finished = false →
      ∃ action result, (w.system T build).Enabled crew ⟨task, action⟩ ∧
        (w.system T build).step crew ⟨task, action⟩ = .ok result) ∧
    ((∀ turn, ¬ (w.system T build).Enabled crew turn) → ∀ task ≤ w.producers, (crew.place task).finished = true) :=
  ⟨fun _ => turn_returns run, stuck_finished run⟩

/-- `tests/mpsc.rs`: two producers that never stop, one slot, and one waker for all. -/
def zipped : Workload Nat := ⟨2, fun task _ => some task, some 10, fun _ => 0⟩

def joined : State Nat where
  queue := { (.fromIter 1 [] : BoundedQueue Nat) with mask := ⟨4⟩ }
  clients := ⟨⟨true, true, ⟨[some (), some ()]⟩⟩, .empty, .empty, .empty⟩

theorem zipped_starts (build : Build) : (zipped.system Nat build).Initial (zipped.crew joined) := by
  constructor
  · have initial : (BoundedSystem.system Nat build).Initial (.new (.fromIter 1 [])) :=
      ⟨_, .inr (.inr ⟨1, by decide, [], by decide, rfl⟩), rfl⟩
    cases build <;>
    · obtain ⟨history, final, _, run, rfl⟩ := (BoundedSystem.system Nat _).exists_run _ initial [.split, .cloneSender 0]
        (fun _ final => final = joined) (by decide)
      exact ⟨_, _, run⟩
  · change zipped.Assembled (zipped.crew (view joined))
    refine crew_assembled (by decide) rfl ?_ (fun _ => rfl) (fun _ => rfl) (fun _ => rfl) rfl rfl rfl (by decide)
    intro id
    match id with
    | 0 | 1 => decide
    | id + 2 => exact iff_of_false (by simp [view, joined, Handles.usable, Arena.get?]) (by simp [zipped])

/-- Both producers wait for their turn, and the consumer takes the only element. -/
theorem mpsc_progress_zipped :
    ∃ history final, (zipped.system Nat .checked).play [] (zipped.crew joined)
        [⟨1, .send (.sender 0) 1⟩, ⟨1, .pollFuture 0 0⟩, ⟨2, .send (.sender 1) 2⟩, ⟨2, .pollFuture 1 0⟩,
         ⟨0, .pollRecv true 0⟩] =
          some (history, final) ∧
      ∃ action result, (zipped.system Nat .checked).Enabled final ⟨2, action⟩ ∧
        (zipped.system Nat .checked).step final ⟨2, action⟩ = .ok result := by
  obtain ⟨history, final, played, run, awake, unfinished⟩ := (zipped.system Nat .checked).exists_run _ (zipped_starts .checked)
    [⟨1, .send (.sender 0) 1⟩, ⟨1, .pollFuture 0 0⟩, ⟨2, .send (.sender 1) 2⟩, ⟨2, .pollFuture 1 0⟩,
     ⟨0, .pollRecv true 0⟩]
    (fun _ final => final.awake 2 = true ∧ (final.place 2).finished = false) (by decide +kernel)
  exact ⟨history, final, played, (mpsc_progress run).1 2 (by decide) awake unfinished⟩

end AsyncUnsync.Proofs.MpscTasks
