import AsyncUnsync.Proofs.UnboundedMoves

/-! An mpsc program over an unbounded channel never gets stuck. Only the consumer can sleep, and
whoever ends its wait wakes it. -/

namespace AsyncUnsync.Proofs.UnboundedTasks
open Memory Transition UnboundedSystem Mpsc UnboundedMpsc
variable {T : Type} {build : Build} {w : Workload T} {task : Nat} {role role' : Role T} {outcome : Outcome T}
  {crew start : Crew (State T) (Role T)} {shared : State T}
  {history : History (Crew (State T) (Role T)) (Turn (Action T)) (Outcome T)}

section Moves

theorem take_role (taken : List T) : (w.take taken).produces = false ∧ (w.take taken).future = none ∧
    (w.take taken).sender = none ∧ (w.take taken).finished = false ∧ (w.take taken).taken = taken := by
  unfold Workload.take
  split <;> exact ⟨rfl, rfl, rfl, rfl, rfl⟩

theorem Move.kind (move : Move w crew.shared task role role' shared outcome) (idle : role.future = none) :
    role'.produces = role.produces ∧ role'.future = none ∧ role.finished = false := by
  cases move with
  | takes => exact ⟨(take_role _).1, (take_role _).2.1, rfl⟩
  | leaves gone | leavesLast gone => rcases gone with ⟨rfl, _⟩ | rfl <;> exact ⟨rfl, rfl, rfl⟩
  | _ => exact ⟨rfl, rfl, rfl⟩

private theorem Working.owners_moves (working : Working w crew)
    (move : Move w crew.shared task (crew.place task) role' shared outcome) :
    Program.Held Role.sender (fun id => shared.handles.usable (.sender id) = true) (Function.update crew.place task role') := by
  generalize place : crew.place task = role at move
  have keeps : role'.sender = role.sender → Program.Held Role.sender (fun id => crew.shared.handles.usable (.sender id) = true)
      (Function.update crew.place task role') := fun same => working.owners.keeps (by rw [place, same])
  cases move with
  | takes => exact keeps (take_role _).2.2.1
  | @leaves sender _ _ gone | @leavesLast sender _ _ gone =>
    have owns : (crew.place task).sender = some sender := by
      rcases gone with ⟨rfl, _⟩ | rfl <;> rw [place] <;> rfl
    exact working.owners.loses owns rfl fun other => Handles.usable_sender_removeSender ..
  | _ => exact keeps rfl

private theorem Working.counted_moves (working : Working w crew)
    (move : Move w crew.shared task (crew.place task) role' shared outcome) :
    shared.queue.mask.bits / 2 = shared.handles.senderCount ∧
      (shared.handles.senderCount = 0 → shared.queue.isClosed true = true) := by
  have counted := working.counted
  have ended := working.ended
  have owns : ∀ sender sent, crew.place task = .producing sender sent ∨ crew.place task = .leaving sender sent →
      (crew.shared.handles.removeSender sender).senderCount + 1 = crew.shared.handles.senderCount := by
    intro sender sent place
    apply Handles.senderCount_removeSender
    refine working.live (show (crew.place task).sender = some sender from ?_)
    rcases place with place | place <;> rw [place] <;> rfl
  generalize crew.place task = role at move owns
  cases move with
  | @leaves sender sent _ gone others =>
    have fewer := owns sender sent (gone.imp_left And.left)
    refine ⟨?_, fun none => ?_⟩
    · simp only
      omega
    · simp only at none
      omega
  | @leavesLast sender sent _ gone last =>
    have fewer := owns sender sent (gone.imp_left And.left)
    refine ⟨?_, fun _ => by simp [Queue.isClosed, Mask.isClosed]⟩
    simp only
    omega
  | closes | departs =>
    have closed : (crew.shared.queue.mask.close true).bits / 2 = crew.shared.queue.mask.bits / 2 := by
      simp [Mask.close, Nat.or_div_two]
    exact ⟨closed.trans counted, fun _ => Mask.isClosed_close true _⟩
  | _ => exact ⟨counted, ended⟩

/-- Whoever wakes up or falls asleep with a move, nobody sleeps without cause. -/
private theorem Working.listens_moves (working : Working w crew)
    (move : Move w crew.shared task (crew.place task) role' shared outcome)
    (sleeps : ((program w).proceed crew task shared outcome).awake 0 = false) :
    (∃ taken, Function.update crew.place task role' 0 = .receiving taken) ∧ shared.queue.items = [] ∧
      shared.queue.isClosed true = false ∧ shared.queue.waker = some (w.waker 0) := by
  obtain ⟨unheard, asleep⟩ := Program.proceed_asleep sleeps
  have before : task ≠ 0 → (∃ taken, crew.place 0 = .receiving taken) ∧ crew.shared.queue.items = [] ∧
      crew.shared.queue.isClosed true = false ∧ crew.shared.queue.waker = some (w.waker 0) := by
    intro other
    rcases asleep with ⟨rfl, _⟩ | ⟨_, sleeping⟩
    · exact absurd rfl other
    · exact working.listens sleeping
  have consumer : ∀ other, other ≠ 0 → Function.update crew.place other role' 0 = crew.place 0 :=
    fun other different => Function.update_of_ne (Ne.symm different) ..
  have produces := working.produces task
  by_cases self : task = 0
  · subst self
    have falls : suspends outcome = true := by
      rcases asleep with ⟨_, suspended⟩ | ⟨other, _⟩
      · exact suspended
      · exact absurd rfl other
    rw [Function.update_self]
    generalize crew.place 0 = role at move
    cases move with
    | listens items opened => exact ⟨⟨_, rfl⟩, rfl, opened, rfl⟩
    | _ => cases falls
  · obtain ⟨⟨taken, receiving⟩, items, opened, waker⟩ := before self
    rw [consumer task self]
    have loud : ∀ woken : List Waker, woken = crew.shared.queue.waker.toList → w.waker 0 ∈ woken := by
      rintro _ rfl
      simp [waker]
    have made := produces (Nat.pos_of_ne_zero self)
    generalize crew.place task = role at move made
    cases move with
    | sends | leavesLast => exact absurd (loud _ rfl) unheard
    | refused => exact ⟨⟨taken, receiving⟩, items, opened, waker⟩
    | leaves gone others =>
      refine ⟨⟨taken, receiving⟩, items, ?_, waker⟩
      exact (Mask.isClosed_sub others).trans opened
    | takes | listens | ends | closes | departs => cases made

/-- The step lemma. -/
theorem Working.moves (working : Working w crew) (move : Move w crew.shared task (crew.place task) role' shared outcome)
    (resumed : resume w (crew.place task) outcome.reply = role') :
    Working w ((program w).proceed crew task shared outcome) := by
  obtain ⟨produces, none, unfinished⟩ := move.kind (working.idle task)
  have place : ((program w).proceed crew task shared outcome).place = Function.update crew.place task role' :=
    Program.proceed_place resumed
  obtain ⟨counted, ended⟩ := working.counted_moves move
  constructor
  case consumer => rw [place, Program.update_same Role.produces produces]; exact working.consumer
  case produces =>
    intro other positive
    rw [place, Program.update_same Role.produces produces]
    exact working.produces other positive
  case idle =>
    intro other
    rw [place, Program.update_same Role.future (none.trans (working.idle task).symm)]
    exact working.idle other
  case absent =>
    intro other beyond
    rw [place]
    by_cases self : other = task
    · rw [working.absent task (self ▸ beyond)] at unfinished
      cases unfinished
    · rw [Function.update_of_ne self]
      exact working.absent other beyond
  case receiver =>
    rw [place]
    by_cases self : (0 : Nat) = task
    · subst self
      rw [Function.update_self]
      have before := working.receiver unfinished
      intro goes
      generalize crew.place 0 = role at move
      cases move with
      | departs => cases goes
      | _ => exact before
    · rw [Function.update_of_ne self]
      intro stays
      have before := working.receiver stays
      have made := working.produces task (Nat.pos_of_ne_zero (Ne.symm self))
      generalize crew.place task = role at move made
      cases move with
      | departs => cases made
      | _ => exact before
  case owners => rw [place]; exact working.owners_moves move
  case counted => exact counted
  case ended => exact ended
  case awake =>
    intro other positive
    by_contra sleeps
    obtain ⟨_, ⟨rfl, falls⟩ | ⟨_, sleeping⟩⟩ := Program.proceed_asleep (Bool.eq_false_iff.mpr sleeps)
    · have made := working.produces other positive
      generalize crew.place other = role at move made
      cases move with
      | listens => cases made
      | _ => cases falls
    · rw [working.awake other positive] at sleeping
      cases sleeping
  case listens => rw [place]; exact working.listens_moves move

end Moves

section Runs

theorem Assembled.place (assembled : Assembled w crew) (task : Nat) :
    crew.place task = .receiving [] ∨ (∃ sender, crew.place task = .producing sender 0) ∨ crew.place task = .left 0 := by
  rcases Nat.eq_zero_or_pos task with rfl | positive
  · exact .inl assembled.consumer
  · by_cases within : task ≤ w.producers
    · exact .inr (.inl (assembled.producing task positive within))
    · exact .inr (.inr (assembled.absent task (by omega)))

theorem working_start (assembled : Assembled w crew) : Working w crew := by
  have some : 0 < crew.shared.handles.senderCount := by
    obtain ⟨sender, place⟩ := assembled.producing 1 Nat.one_pos assembled.some
    exact Handles.senderCount_pos ((assembled.owned sender).mpr ⟨1, by rw [place]; rfl⟩)
  have counted := assembled.counted
  constructor
  case consumer => rw [assembled.consumer]; rfl
  case produces =>
    intro task positive
    by_cases within : task ≤ w.producers
    · obtain ⟨sender, place⟩ := assembled.producing task positive within
      rw [place]
      rfl
    · rw [assembled.absent task (by omega)]
      rfl
  case idle =>
    intro task
    rcases Assembled.place assembled task with place | ⟨_, place⟩ | place <;> rw [place] <;> rfl
  case absent => intro task beyond; rw [assembled.absent task beyond]; rfl
  case receiver => intro _; exact assembled.receiver
  case owners => exact ⟨assembled.owned, assembled.apart⟩
  case counted => omega
  case ended => intro none; omega
  case awake => intro task _; exact assembled.awake task
  case listens => intro sleeps; rw [assembled.awake 0] at sleeps; cases sleeps

theorem crew_assembled {shared : State T} (some : 0 < w.producers) (receiver : shared.handles.receiver = true)
    (senders : ∀ id, shared.handles.usable (.sender id) = true ↔ id < w.producers)
    (counted : shared.queue.mask.bits = 2 * shared.handles.senderCount) : Assembled w (w.crew shared) := by
  have held := Workload.crew_held shared senders
  exact ⟨rfl, fun _ => Workload.crew_producing shared, fun _ => Workload.crew_absent shared, fun _ => rfl, some, receiver,
    held.held, held.apart, counted⟩

theorem turn_move (working : Working w crew) {turn : Turn (Action T)} {after : Crew (State T) (Role T)} {outcome : Outcome T}
    (able : (system w build).Enabled crew turn) (stepped : (system w build).step crew turn = .ok (after, outcome)) :
    ∃ role shared, Move w crew.shared turn.task (crew.place turn.task) role shared outcome ∧
      resume w (crew.place turn.task) outcome.reply = role ∧ after = (program w).proceed crew turn.task shared outcome := by
  obtain ⟨shared, done, rfl⟩ := Program.executor_ok stepped
  obtain ⟨shared', outcome', done', move⟩ := turn_moves build working able.2.2.1
  obtain ⟨rfl, rfl⟩ := Prod.mk.inj (Except.ok.inj (done.symm.trans done'))
  exact ⟨_, _, move, rfl, rfl⟩

theorem run_working (run : (system w build).Run start history crew) : Working w crew := by
  apply run.invariant fun _ crew => Working w crew
  · intro initial
    exact working_start initial.2
  · intro past before turn outcome after reached working able stepped
    obtain ⟨role, shared, move, resumed, rfl⟩ := turn_move working able stepped
    exact working.moves move resumed

theorem event_move {past : History (Crew (State T) (Role T)) (Turn (Action T)) (Outcome T)}
    {event : Event (Crew (State T) (Role T)) (Turn (Action T)) (Outcome T)}
    (run : (system w build).Run start (event :: past) event.after) :
    Working w event.before ∧ event.action.task ≤ w.producers ∧ ∃ role shared,
      Move w event.before.shared event.action.task (event.before.place event.action.task) role shared event.outcome ∧
        resume w (event.before.place event.action.task) event.outcome.reply = role ∧
        event.after = (program w).proceed event.before event.action.task shared event.outcome := by
  obtain ⟨reached, able, stepped, _⟩ := run.last
  have working := run_working reached
  exact ⟨working, Nat.le_of_lt_succ able.1, turn_move working able stepped⟩

theorem call_unfinished (working : Working w crew) (task : Nat) :
    (call w task (crew.place task)).isSome = !(crew.place task).finished := by
  have idle := working.idle task
  cases place : crew.place task <;> rw [place] at idle
  case producing sender sent =>
    simp only [call]
    split <;> rfl
  case sending => cases idle
  all_goals rfl

theorem turn_returns (run : (system w build).Run start history crew) (within : task ≤ w.producers)
    (awake : crew.awake task = true) (unfinished : (crew.place task).finished = false) :
    ∃ action result, (system w build).Enabled crew ⟨task, action⟩ ∧
      (system w build).step crew ⟨task, action⟩ = .ok result := by
  have working := run_working run
  have some := call_unfinished working task
  rw [unfinished] at some
  obtain ⟨action, called⟩ := Option.isSome_iff_exists.mp some
  obtain ⟨shared, outcome, stepped, _⟩ := turn_moves build working called
  refine ⟨action, ((program w).proceed crew task shared outcome, outcome), ?_, ?_⟩
  · exact ⟨Nat.lt_succ_of_le within, awake, called, call_enabled working called⟩
  · simp only [UnboundedMpsc.system, Program.executor, UnboundedSystem.system, stepped]

theorem enabled_returns (run : (system w build).Run start history crew) {turn : Turn (Action T)}
    (able : (system w build).Enabled crew turn) : ∃ result, (system w build).step crew turn = .ok result := by
  obtain ⟨within, awake, called, _⟩ := able
  have some := call_unfinished (run_working run) turn.task
  rw [show call w turn.task (crew.place turn.task) = _ from called] at some
  obtain ⟨action, result, able, stepped⟩ := turn_returns run (Nat.le_of_lt_succ within) awake (by simpa using some)
  have same : action = turn.action := Option.some.inj (able.2.2.1.symm.trans called)
  subst same
  exact ⟨result, stepped⟩

theorem stuck_finished (run : (system w build).Run start history crew)
    (stuck : ∀ turn, ¬ (system w build).Enabled crew turn) : ∀ task ≤ w.producers, (crew.place task).finished = true := by
  have working := run_working run
  have asleep : ∀ task ≤ w.producers, (crew.place task).finished = false → crew.awake task = false := by
    intro task within unfinished
    by_contra awake
    obtain ⟨action, _, able, _⟩ := turn_returns run within (Bool.not_eq_false _ ▸ awake) unfinished
    exact stuck _ able
  have producers : ∀ task, 0 < task → (crew.place task).finished = true := by
    intro task positive
    by_contra busy
    have unfinished := Bool.eq_false_iff.mpr busy
    have within : task ≤ w.producers := by
      by_contra beyond
      exact busy (working.absent task (by omega))
    have sleeps := asleep task within unfinished
    rw [working.awake task positive] at sleeps
    cases sleeps
  intro task within
  rcases Nat.eq_zero_or_pos task with rfl | positive
  · by_contra busy
    obtain ⟨_, _, opened, _⟩ := working.listens (asleep 0 within (Bool.eq_false_iff.mpr busy))
    -- A sleeping consumer means an open channel, and that means a sender.
    have some : crew.shared.handles.senderCount ≠ 0 := by
      intro none
      rw [working.ended none] at opened
      cases opened
    obtain ⟨id, _, held, _⟩ := Arena.exists_of_count_pos (Nat.pos_of_ne_zero some)
    obtain ⟨task, owns⟩ := (working.owners.held id).mp (by rw [Handles.usable, held]; rfl)
    obtain ⟨produces, unfinished⟩ := Role.owner owns
    rw [producers task (working.producer produces)] at unfinished
    cases unfinished
  · exact producers task positive

end Runs
end AsyncUnsync.Proofs.UnboundedTasks
