import AsyncUnsync.Proofs.UnboundedProgress

/-! An mpsc program over an unbounded channel comes to an end when the elements of its producers do,
and it delivers all of them. -/

namespace AsyncUnsync.Proofs.UnboundedTasks
open Memory Transition UnboundedSystem Mpsc UnboundedMpsc
variable {T : Type} {build : Build} {w : Workload T} {supply : Nat → Nat} {task : Nat} {role role' : Role T} {outcome : Outcome T}
  {crew start : Crew (State T) (Role T)} {shared : State T}
  {history : History (Crew (State T) (Role T)) (Turn (Action T)) (Outcome T)}

section Termination

/-- How far a task is from its end. A producer with `left` elements needs a turn for each, and the consumer another two. -/
def stage (supply : Nat → Nat) (task : Nat) : Role T → Nat
  | .producing _ sent => 3 * (supply task - sent) + 2
  | .closing _ => 3
  | .receiving _ => 2
  | .leaving _ _ | .departing _ => 1
  | .sending _ _ _ | .left _ | .departed _ => 0

def rank (w : Workload T) (supply : Nat → Nat) (crew : Crew (State T) (Role T)) : Nat :=
  2 * crew.shared.queue.items.length + ((List.range (w.producers + 1)).map fun task => stage supply task (crew.place task)).sum

theorem Move.stage (supplied : ∀ task sent elem, w.source task sent = some elem → sent < supply task)
    (move : Move w crew.shared task role role' shared outcome) :
    2 * shared.queue.items.length + stage supply task role' < 2 * crew.shared.queue.items.length + stage supply task role ∨
      2 * shared.queue.items.length + stage supply task role' = 2 * crew.shared.queue.items.length + stage supply task role ∧
        suspends outcome = true ∧ outcome.woken = [] := by
  cases move with
  | @sends sender sent elem found =>
    left
    have more := supplied _ _ _ found
    simp only [UnboundedTasks.stage, Queue.items, Deque.items_pushBack, List.length_append, List.length_singleton]
    omega
  | refused | closes | departs =>
    left
    simp only [UnboundedTasks.stage, Queue.items]
    omega
  | leaves gone | leavesLast gone =>
    left
    rcases gone with ⟨rfl, _⟩ | rfl <;> simp only [UnboundedTasks.stage, Queue.items] <;> omega
  | takes items =>
    left
    simp only [items, Workload.take]
    split <;> simp only [UnboundedTasks.stage, Queue.items, List.length_cons] <;> omega
  | listens items => exact .inr ⟨by rw [items]; rfl, rfl, rfl⟩
  | ends items =>
    left
    rw [items]
    simp only [UnboundedTasks.stage, Queue.items, List.length_nil]
    omega

private theorem rank_moves (supplied : ∀ task sent elem, w.source task sent = some elem → sent < supply task)
    (within : task ≤ w.producers) (move : Move w crew.shared task (crew.place task) role' shared outcome)
    (resumed : resume w (crew.place task) outcome.reply = role') :
    rank w supply ((program w).proceed crew task shared outcome) < rank w supply crew ∨
      rank w supply ((program w).proceed crew task shared outcome) = rank w supply crew ∧
        suspends outcome = true ∧ outcome.woken = [] := by
  have self : ((program w).proceed crew task shared outcome).place task = role' := Program.proceed_self.trans resumed
  have moved := Program.sum_moved (f := fun task => stage supply task (crew.place task))
    (g := fun task' => stage supply task' (((program w).proceed crew task shared outcome).place task'))
    (fun other different => by rw [Program.proceed_other different]) (Nat.lt_add_one_of_le within)
  simp only [self] at moved
  simp only [rank, Program.proceed_shared]
  rcases move.stage supplied with lower | ⟨same, asleep⟩
  · left
    omega
  · exact .inr ⟨by omega, asleep⟩

private theorem run_lowers (supplied : ∀ task sent elem, w.source task sent = some elem → sent < supply task)
    {past : History (Crew (State T) (Role T)) (Turn (Action T)) (Outcome T)}
    {event : Event (Crew (State T) (Role T)) (Turn (Action T)) (Outcome T)}
    (run : (UnboundedMpsc.system w build).Run start (event :: past) event.after) :
    (program w).Lowers (rank w supply) event := by
  obtain ⟨_, within, role, shared, move, resumed, moved⟩ := event_move run
  have lowered := rank_moves supplied within move resumed
  rw [← moved] at lowered
  exact lowered

private theorem rank_start (assembled : Assembled w start) :
    rank w supply start ≤ 3 * ((List.range (w.producers + 1)).map supply).sum + 2 * start.shared.queue.items.length +
      (2 * w.producers + 2) := by
  have staged : ∀ count, ((List.range (count + 1)).map fun task => stage supply task (start.place task)).sum ≤
      3 * ((List.range (count + 1)).map supply).sum + (2 * count + 2) := by
    intro count
    induction count with
    | zero =>
      simp only [List.range_succ, List.range_zero, List.nil_append, List.map_cons, List.map_nil, List.sum_cons, List.sum_nil,
        assembled.consumer, stage]
      omega
    | succ count ih =>
      have last : stage supply (count + 1) (start.place (count + 1)) ≤ 3 * supply (count + 1) + 2 := by
        rcases Assembled.place assembled (count + 1) with place | ⟨_, place⟩ | place <;> rw [place] <;> simp [stage]
      rw [List.range_succ, List.map_append, List.sum_append, List.map_append, List.sum_append]
      simp only [List.map_cons, List.map_nil, List.sum_cons, List.sum_nil]
      omega
  have all := staged w.producers
  simp only [rank]
  omega

end Termination

section Delivery

def passed (w : Workload T) (task : Nat) (role : Role T) (outcome : Outcome T) : List T :=
  match role, outcome.reply with
  | .producing _ sent, .sent (.ok ()) => (w.source task sent).toList
  | _, _ => []

/-- The element that a turn hands over, with its producer. -/
def accepted (w : Workload T) (event : Event (Crew (State T) (Role T)) (Turn (Action T)) (Outcome T)) : List (Nat × T) :=
  (passed w event.action.task (event.before.place event.action.task) event.outcome).map (event.action.task, ·)

def contents (crew : Crew (State T) (Role T)) : List T := (crew.place 0).taken ++ crew.shared.queue.items

theorem contents_moves (working : Working w crew) (move : Move w crew.shared task (crew.place task) role' shared outcome)
    (resumed : resume w (crew.place task) outcome.reply = role') :
    contents ((program w).proceed crew task shared outcome) = contents crew ++ passed w task (crew.place task) outcome := by
  have producer : (crew.place task).produces = true →
      (((program w).proceed crew task shared outcome).place 0).taken = (crew.place 0).taken := by
    intro produces
    rw [Program.proceed_other (Nat.ne_of_lt (working.producer produces))]
  have consumer : (crew.place task).produces = false →
      (((program w).proceed crew task shared outcome).place 0).taken = role'.taken ∧
        (crew.place 0).taken = (crew.place task).taken := by
    intro consumes
    have zero := working.zero consumes
    subst zero
    rw [Program.proceed_self]
    exact ⟨congrArg Role.taken resumed, rfl⟩
  simp only [contents, Program.proceed_shared]
  generalize crew.place task = role at move producer consumer
  cases move with
  | sends supplied =>
    rw [producer rfl]
    simp [passed, supplied]
  | refused => simp [producer rfl, passed]
  | leaves gone | leavesLast gone => rcases gone with ⟨rfl, _⟩ | rfl <;> simp [producer rfl, passed]
  | takes items =>
    obtain ⟨after, before⟩ := consumer rfl
    rw [after, before, (take_role _).2.2.2.2, items]
    simp [passed, Role.taken]
  | listens items | ends items =>
    obtain ⟨after, before⟩ := consumer rfl
    rw [after, before, items]
    simp [passed, Role.taken]
  | closes | departs =>
    obtain ⟨after, before⟩ := consumer rfl
    rw [after, before]
    simp [passed, Role.taken]

theorem supply_moves (move : Move w crew.shared task role role' shared outcome) :
    (List.range role'.sent).map (w.source task) =
      (List.range role.sent).map (w.source task) ++ (passed w task role outcome).map some := by
  cases move with
  | sends supplied => simp [passed, Role.sent, List.range_succ, supplied]
  | leaves gone | leavesLast gone => rcases gone with ⟨rfl, _⟩ | rfl <;> simp [passed, Role.sent]
  | takes =>
    unfold Workload.take
    split <;> simp [passed, Role.sent]
  | _ => simp [passed, Role.sent]

/-- Nothing is refused before everybody has left, if the consumer never closes the channel. -/
structure Lossless (w : Workload T) (crew : Crew (State T) (Role T)) : Prop where
  opened : crew.shared.queue.isClosed true = true → (crew.place 0).finished = true ∨ crew.shared.handles.senderCount = 0
  stays : ∀ task sender sent, crew.place task ≠ .leaving sender sent
  open_ended : ∀ taken, crew.place 0 ≠ .closing taken
  exhausted : ∀ task sent, task ≤ w.producers → crew.place task = .left sent → w.source task sent = none
  drained : (∀ taken, crew.place 0 ≠ .receiving taken) →
    crew.shared.queue.items = [] ∧ crew.shared.handles.senderCount = 0

private theorem Lossless.received (lossless : Lossless w crew) (working : Working w crew) {id : Addr}
    (owns : (crew.place task).sender = some id) :
    (∃ taken, crew.place 0 = .receiving taken) ∧ crew.shared.queue.isClosed true = false := by
  have some := Handles.senderCount_pos (working.live owns)
  have receives : ∃ taken, crew.place 0 = .receiving taken := by
    by_contra none
    have drained := lossless.drained fun taken receives => none ⟨taken, receives⟩
    omega
  refine ⟨receives, ?_⟩
  obtain ⟨taken, receives⟩ := receives
  by_contra closed
  rcases lossless.opened (by simpa using closed) with finished | none
  · rw [receives] at finished
    cases finished
  · omega

private theorem Lossless.produces (lossless : Lossless w crew) (working : Working w crew) {id : Addr}
    (owns : (crew.place task).sender = some id) (resumed : resume w (crew.place task) outcome.reply = role')
    (opened : shared.queue.isClosed true = true → shared.handles.senderCount = 0)
    (stays : ∀ sender sent, role' ≠ .leaving sender sent)
    (exhausted : ∀ sent, role' = .left sent → w.source task sent = none) :
    Lossless w ((program w).proceed crew task shared outcome) := by
  obtain ⟨⟨taken, receives⟩, _⟩ := lossless.received working owns
  have producer := working.producer (Role.owner owns).1
  have self : ((program w).proceed crew task shared outcome).place task = role' := Program.proceed_self.trans resumed
  have consumer : ((program w).proceed crew task shared outcome).place 0 = .receiving taken :=
    (Program.proceed_other (Nat.ne_of_lt producer)).trans receives
  constructor
  · intro closed
    exact .inr (opened closed)
  · intro other sender sent
    by_cases same : other = task
    · rw [same, self]
      exact stays sender sent
    · rw [Program.proceed_other same]
      exact lossless.stays other sender sent
  · rw [consumer]
    simp
  · intro other sent within left
    by_cases same : other = task
    · subst other
      rw [self] at left
      exact exhausted sent left
    · rw [Program.proceed_other same] at left
      exact lossless.exhausted other sent within left
  · intro idle
    exact absurd consumer (idle taken)

private theorem Lossless.consumes (lossless : Lossless w crew) (resumed : resume w (crew.place 0) outcome.reply = role')
    (consumes : role'.produces = false)
    (opened : shared.queue.isClosed true = true → role'.finished = true ∨ shared.handles.senderCount = 0)
    (open_ended : ∀ taken, role' ≠ .closing taken)
    (drained : (∀ taken, role' ≠ .receiving taken) → shared.queue.items = [] ∧ shared.handles.senderCount = 0) :
    Lossless w ((program w).proceed crew 0 shared outcome) := by
  have self : ((program w).proceed crew 0 shared outcome).place 0 = role' := Program.proceed_self.trans resumed
  constructor
  · rwa [self]
  · intro other sender sent
    by_cases same : other = 0
    · rw [same, self]
      rintro rfl
      cases consumes
    · rw [Program.proceed_other same]
      exact lossless.stays other sender sent
  · rwa [self]
  · intro other sent within left
    by_cases same : other = 0
    · rw [same, self] at left
      rw [left] at consumes
      cases consumes
    · rw [Program.proceed_other same] at left
      exact lossless.exhausted other sent within left
  · rwa [self]

theorem Lossless.moves (lossless : Lossless w crew) (unlimited : w.limit = none) (working : Working w crew)
    (move : Move w crew.shared task (crew.place task) role' shared outcome)
    (resumed : resume w (crew.place task) outcome.reply = role') : Lossless w ((program w).proceed crew task shared outcome) := by
  have received : ∀ id, (crew.place task).sender = some id → crew.shared.queue.isClosed true = false :=
    fun id owns => (lossless.received working owns).2
  have produces := @Lossless.produces _ _ task role' outcome crew shared lossless working
  have removed : ∀ sender, (crew.place task).sender = some sender →
      (crew.shared.handles.removeSender sender).senderCount + 1 = crew.shared.handles.senderCount :=
    fun sender owns => Handles.senderCount_removeSender (working.live owns)
  have receiving : ∀ taken, crew.place 0 = .receiving taken → crew.shared.queue.isClosed true = true →
      crew.shared.handles.senderCount = 0 := by
    intro taken place closed
    rcases lossless.opened closed with finished | none
    · rw [place] at finished
      cases finished
    · exact none
  have consumes : (crew.place task).produces = false → task = 0 := working.zero
  have counted := working.counted
  generalize place : crew.place task = role at move received produces removed consumes resumed
  cases move with
  | sends =>
    exact produces rfl resumed (fun closed => absurd closed (Bool.eq_false_iff.mp (received _ rfl))) (by simp) (by simp)
  | refused _ closed =>
    have opened := received _ rfl
    rw [opened] at closed
    cases closed
  | @leaves sender sent _ gone others =>
    rcases gone with ⟨rfl, exhausted⟩ | rfl
    · refine produces rfl resumed ?_ (by simp) (by rintro _ ⟨⟩; exact exhausted)
      intro closed
      rw [Queue.isClosed, Mask.isClosed_sub others] at closed
      exact absurd closed (Bool.eq_false_iff.mp (received _ rfl))
    · exact absurd place (lossless.stays task sender sent)
  | @leavesLast sender sent _ gone last =>
    rcases gone with ⟨rfl, exhausted⟩ | rfl
    · have fewer := removed _ rfl
      refine produces rfl resumed ?_ (by simp) (by rintro _ ⟨⟩; exact exhausted)
      intro _
      simp only
      omega
    · exact absurd place (lossless.stays task sender sent)
  | @takes taken elem =>
    have zero := consumes rfl
    subst zero
    have more : w.take (taken ++ [elem]) = .receiving (taken ++ [elem]) := if_neg (by rw [unlimited]; simp)
    rw [more] at resumed
    rw [← place] at resumed
    exact lossless.consumes resumed rfl (fun closed => .inr (receiving _ place closed)) (by simp) fun idle => absurd rfl (idle _)
  | listens =>
    have zero := consumes rfl
    subst zero
    rw [← place] at resumed
    exact lossless.consumes (resumed.trans place) rfl (fun closed => .inr (receiving _ place closed)) (by simp)
      fun idle => absurd rfl (idle _)
  | ends items closed =>
    have zero := consumes rfl
    subst zero
    have none := receiving _ place closed
    rw [← place] at resumed
    exact lossless.consumes resumed rfl (fun _ => .inr none) (by simp) fun _ => ⟨rfl, none⟩
  | closes => exact absurd ((consumes rfl) ▸ place) (lossless.open_ended _)
  | departs =>
    have zero := consumes rfl
    subst zero
    rw [← place] at resumed
    exact lossless.consumes resumed rfl (fun _ => .inl rfl) (by simp) fun _ => lossless.drained (by rw [place]; simp)

end Delivery

section Runs

theorem run_contents (run : (UnboundedMpsc.system w build).Run start history crew) :
    contents start ++ (gathered (accepted w) history).map Prod.snd = contents crew := by
  induction run with
  | start => simp [gathered]
  | step run able stepped ih =>
    obtain ⟨working, _, role, shared, move, resumed, moved⟩ := event_move (.step run able stepped)
    have grown := contents_moves working move resumed
    rw [← moved] at grown
    rw [grown, ← ih, gathered, List.map_append, List.append_assoc]
    simp [accepted, Function.comp_def]

theorem run_supply (run : (UnboundedMpsc.system w build).Run start history crew) (task : Nat) :
    ((gathered (accepted w) history).filter fun item => item.1 == task).map (fun item => some item.2) =
      (List.range (crew.place task).sent).map (w.source task) := by
  induction run with
  | start initial =>
    rcases Assembled.place initial.2 task with place | ⟨_, place⟩ | place <;> rw [place] <;> rfl
  | @step past before after turn outcome run able stepped ih =>
    obtain ⟨working, _, role, shared, move, resumed, moved⟩ := event_move (.step run able stepped)
    have grown := supply_moves move
    have placed : after.place = Function.update before.place turn.task role :=
      (congrArg Crew.place moved).trans (Program.proceed_place resumed)
    rw [gathered, List.filter_append, List.map_append, ih, placed]
    by_cases self : task = turn.task
    · subst self
      rw [Function.update_self, grown]
      simp [accepted, List.filter_map, Function.comp_def]
    · rw [Function.update_of_ne self]
      have other : ¬ turn.task = task := Ne.symm self
      simp [accepted, List.filter_map, Function.comp_def, other]

theorem run_lossless (unlimited : w.limit = none) (run : (UnboundedMpsc.system w build).Run start history crew) :
    Lossless w crew := by
  induction run with
  | start initial =>
    have assembled := initial.2
    have working := working_start assembled
    have counted := assembled.counted
    refine ⟨fun closed => ?_, ?_, ?_, ?_, fun idle => absurd assembled.consumer (idle [])⟩
    · rw [Queue.isClosed, Mask.isClosed_counted, counted] at closed
      simp at closed
    · intro task sender sent
      rcases Assembled.place assembled task with place | ⟨_, place⟩ | place <;> rw [place] <;> simp
    · intro taken
      rw [assembled.consumer]
      simp
    · intro task sent within left
      rcases Nat.eq_zero_or_pos task with rfl | positive
      · rw [assembled.consumer] at left
        cases left
      · obtain ⟨sender, place⟩ := assembled.producing task positive within
        rw [place] at left
        cases left
  | @step _ _ after _ _ run able stepped ih =>
    obtain ⟨working, _, role, shared, move, resumed, moved⟩ := event_move (.step run able stepped)
    change after = _ at moved
    rw [moved]
    exact ih.moves unlimited working move resumed

/-- Two producers with two elements each, and a consumer that takes them all. -/
def paired : Workload Nat := ⟨2, fun task sent => if sent < 2 then some (10 * task + sent) else none, none, id⟩

def cloned : State Nat :=
  ⟨{ (.fromIter [7] : UnboundedQueue Nat) with mask := ⟨4⟩ }, ⟨true, true, ⟨[some (), some ()]⟩⟩⟩

theorem paired_starts (build : Build) : (UnboundedMpsc.system paired build).Initial (paired.crew cloned) := by
  constructor
  · have initial : (UnboundedSystem.system Nat build).Initial (.new (.fromIter [7])) := ⟨_, .inr (.inr ⟨[7], rfl⟩), rfl⟩
    cases build <;>
    · obtain ⟨history, final, _, run, rfl⟩ := (UnboundedSystem.system Nat _).exists_run _ initial [.split, .cloneSender 0]
        (fun _ final => final = cloned) (by decide)
      exact ⟨_, _, run⟩
  · refine crew_assembled (by decide) rfl ?_ (by decide)
    intro id
    match id with
    | 0 | 1 => decide
    | id + 2 => exact iff_of_false (by simp [cloned, Handles.usable, Arena.get?]) (by simp [paired])

/-- In every state that assembled tasks reach, whoever is awake and has not finished can take its turn, and
the call returns; when no turn is left, everybody has finished. If the producers' elements are finitely many,
every run is bounded, and can be led to such an end. -/
theorem unbounded_finishes (run : (UnboundedMpsc.system w build).Run start history crew) :
    (∀ task ≤ w.producers, crew.awake task = true → (crew.place task).finished = false →
      ∃ action result, (UnboundedMpsc.system w build).Enabled crew ⟨task, action⟩ ∧
        (UnboundedMpsc.system w build).step crew ⟨task, action⟩ = .ok result) ∧
    ((∀ turn, ¬ (UnboundedMpsc.system w build).Enabled crew turn) → ∀ task ≤ w.producers, (crew.place task).finished = true) ∧
    ∀ supply : Nat → Nat, (∀ task sent elem, w.source task sent = some elem → sent < supply task) →
      history.length ≤ (w.producers + 2) * (3 * ((List.range (w.producers + 1)).map supply).sum +
        2 * start.shared.queue.items.length + (2 * w.producers + 2)) + (w.producers + 1) ∧
      ∃ later final, (UnboundedMpsc.system w build).Run start (later ++ history) final ∧
        ∀ task ≤ w.producers, (final.place task).finished = true := by
  refine ⟨fun _ => turn_returns run, stuck_finished run, fun supply supplied => ⟨?_, ?_⟩⟩
  · have turns := Program.run_bounded (rank w supply) run fun _ _ reached => run_lowers supplied reached
    exact turns.trans (Nat.add_le_add_right (Nat.mul_le_mul_left (w.producers + 2) (rank_start run.initial.2)) _)
  · obtain ⟨later, final, ends, quiet⟩ := Program.run_ends (rank w supply) run (fun _ _ reached => run_lowers supplied reached)
      fun _ _ reached _ able => enabled_returns reached able
    exact ⟨later, final, ends, stuck_finished ends quiet⟩

/-- The consumer finds the channel empty and sleeps, and the tasks still come to their end. -/
theorem unbounded_finishes_paired :
    ∃ history final, (UnboundedMpsc.system paired .checked).play [] (paired.crew cloned)
        [⟨0, .pollRecv true 0⟩, ⟨0, .pollRecv true 0⟩] = some (history, final) ∧
      final.awake 0 = false ∧
      ∃ later ended, (UnboundedMpsc.system paired .checked).Run (paired.crew cloned) (later ++ history) ended ∧
        ∀ task ≤ 2, (ended.place task).finished = true := by
  obtain ⟨history, final, played, run, asleep⟩ := (UnboundedMpsc.system paired .checked).exists_run _ (paired_starts .checked)
    [⟨0, .pollRecv true 0⟩, ⟨0, .pollRecv true 0⟩] (fun _ final => final.awake 0 = false) (by decide +kernel)
  refine ⟨history, final, played, asleep, ((unbounded_finishes run).2.2 (fun _ => 2) ?_).2⟩
  intro task sent elem found
  by_contra beyond
  rw [show paired.source task sent = none from if_neg beyond] at found
  cases found

/-- From where the tasks were assembled, what the consumer has taken and what is in the queue is what was
there and what was accepted, in this order, and of each producer the elements up to some point are accepted,
in order. If the consumer never closes the channel, it ends up with all elements of all producers. -/
theorem unbounded_delivers (run : (UnboundedMpsc.system w build).Run start history crew) :
    (crew.place 0).taken ++ crew.shared.queue.items =
        start.shared.queue.items ++ (gathered (accepted w) history).map Prod.snd ∧
      (∀ task, ((gathered (accepted w) history).filter fun item => item.1 == task).map (fun item => some item.2) =
        (List.range (crew.place task).sent).map (w.source task)) ∧
      (w.limit = none → (∀ task ≤ w.producers, (crew.place task).finished = true) →
        crew.shared.queue.items = [] ∧ ∀ task, 0 < task → task ≤ w.producers → w.source task (crew.place task).sent = none) := by
  have contents := run_contents run
  have consumer : start.place 0 = .receiving [] := run.initial.2.consumer
  refine ⟨?_, run_supply run, fun unlimited finished => ?_⟩
  · simp only [UnboundedTasks.contents, consumer, Role.taken, List.nil_append] at contents
    exact contents.symm
  · have lossless := run_lossless unlimited run
    have working := run_working run
    constructor
    · refine (lossless.drained fun taken receives => ?_).1
      have busy := finished 0 (Nat.zero_le _)
      rw [receives] at busy
      cases busy
    · intro task positive within
      have done := finished task within
      have produces := working.produces task positive
      cases place : crew.place task with
      | left sent => exact lossless.exhausted task sent within place
      | _ =>
        rw [place] at done produces
        first | exact absurd done Bool.false_ne_true | exact absurd produces Bool.false_ne_true

/-- The producers take turns while the consumer takes the first element. -/
theorem unbounded_delivers_paired :
    ∃ history final, (UnboundedMpsc.system paired .checked).play [] (paired.crew cloned)
        [⟨1, .send (.sender 0) 10⟩, ⟨2, .send (.sender 1) 20⟩, ⟨0, .pollRecv true 0⟩, ⟨1, .send (.sender 0) 11⟩] =
          some (history, final) ∧
      gathered (accepted paired) history = [(1, 10), (2, 20), (1, 11)] ∧
      (final.place 0).taken ++ final.shared.queue.items = [7] ++ (gathered (accepted paired) history).map Prod.snd := by
  obtain ⟨history, final, played, run, passed⟩ := (UnboundedMpsc.system paired .checked).exists_run _ (paired_starts .checked)
    [⟨1, .send (.sender 0) 10⟩, ⟨2, .send (.sender 1) 20⟩, ⟨0, .pollRecv true 0⟩, ⟨1, .send (.sender 0) 11⟩]
    (fun history _ => gathered (accepted paired) history = [(1, 10), (2, 20), (1, 11)]) (by decide +kernel)
  exact ⟨history, final, played, passed, (unbounded_delivers run).1⟩

end Runs
end AsyncUnsync.Proofs.UnboundedTasks
