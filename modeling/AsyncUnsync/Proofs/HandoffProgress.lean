import AsyncUnsync.Handoff
import AsyncUnsync.Proofs.OneshotDelivery

/-! Who is stranded by a oneshot channel. A receiver that sleeps is woken by a value, and by nothing
else; a sender that waits for the end is always woken. -/

namespace AsyncUnsync.Proofs.HandoffTasks
open Transition OneshotSystem Handoff
variable {T : Type} {waker : Nat → Waker}

/-- What a call of a task does to the channel, and how the task goes on. -/
inductive Move (s : State T) (waker : Waker) : Role T → Role T → State T → Outcome T → Prop where
  | sends {value : T} (opened : s.slot.closed = false) :
    Move s waker (.sending value) (.sent value (.ok ()))
      { s with slot.value := some value, slot.closed := true, halves.sender := false }
      ⟨.sent (.ok ()), s.slot.recvWaker.toList⟩
  | refused {value : T} (closed : s.slot.closed = true) :
    Move s waker (.sending value) (.sent value (.error ⟨value⟩)) { s with halves.sender := false }
      ⟨.sent (.error ⟨value⟩), []⟩
  | watches (opened : s.slot.closed = false) :
    Move s waker .watching .watching { s with slot.closeWaker := some waker } ⟨.closed .pending, []⟩
  | hears (closed : s.slot.closed = true) : Move s waker .watching .withdrawing s ⟨.closed (.ready ()), []⟩
  | withdraws :
    Move s waker .withdrawing .withdrawn { s with slot.closed := true, halves.sender := false } ⟨.done, []⟩
  | listens (empty : s.slot.value = none) (opened : s.slot.closed = false) :
    Move s waker .receiving .receiving { s with slot.recvWaker := some waker } ⟨.polled .pending, []⟩
  | takes {value : T} (stored : s.slot.value = some value) :
    Move s waker .receiving (.departing (some value)) { s with slot.value := none } ⟨.polled (.ready (.ok value)), []⟩
  | ends (empty : s.slot.value = none) (closed : s.slot.closed = true) :
    Move s waker .receiving (.departing none) s ⟨.polled (.ready (.error ⟨⟩)), []⟩
  | closes :
    Move s waker .closing .looking { s with slot.closed := true }
      ⟨.done, if s.slot.closed then [] else s.slot.closeWaker.toList⟩
  | finds {value : T} (stored : s.slot.value = some value) :
    Move s waker .looking (.departing (some value)) { s with slot.value := none } ⟨.received (.ok value), []⟩
  | misses {error : TryRecvError} (empty : s.slot.value = none) :
    Move s waker .looking (.departing none) s ⟨.received (.error error), []⟩
  | departs {result : Option T} :
    Move s waker (.departing result) (.departed result) { s with slot.closed := true, halves.receiver := false }
      ⟨.done, if s.slot.closed then [] else s.slot.closeWaker.toList⟩

variable {s s' : State T} {task : Nat} {role role' : Role T} {action : Action T} {outcome : Outcome T}
  {start crew : Crew (State T) (Role T)} {history past : History (Crew (State T) (Role T)) (Turn (Action T)) (Outcome T)}
  {event : Event (Crew (State T) (Role T)) (Turn (Action T)) (Outcome T)}

section Moves

theorem turn_moves (called : call waker task role = some action) :
    Move s (waker task) role (resume role (operate s.slot action).value)
      ⟨(operate s.slot action).state, record s.halves action⟩
      ⟨(operate s.slot action).value, (operate s.slot action).woken⟩ := by
  obtain ⟨⟨stored, recvWaker, closeWaker, closed⟩, halves⟩ := s
  cases role with
  | sending value =>
    cases called
    cases closed with
    | false => exact .sends rfl
    | true => exact .refused rfl
  | watching =>
    cases called
    cases closed with
    | false => exact .watches rfl
    | true => exact .hears rfl
  | receiving =>
    cases called
    cases stored with
    | some value => exact .takes rfl
    | none =>
      cases closed with
      | false => exact .listens rfl rfl
      | true => exact .ends rfl rfl
  | looking =>
    cases called
    cases stored with
    | some value => exact .finds rfl
    | none => exact .misses rfl
  | closing => cases called; cases closed <;> exact .closes
  | departing => cases called; cases closed <;> exact .departs
  | withdrawing => cases called; exact .withdraws
  | sent | withdrawn | departed => cases called

theorem turn_move (run : (system T waker).Run start (event :: past) event.after) :
    ∃ role s, (system T waker).Run start past event.before ∧ event.action.task < 2 ∧
      event.before.awake event.action.task = true ∧
      Move event.before.shared (waker event.action.task) (event.before.place event.action.task) role s event.outcome ∧
      resume (event.before.place event.action.task) event.outcome.reply = role ∧
      event.after = (program T waker).proceed event.before event.action.task s event.outcome := by
  obtain ⟨earlier, ⟨within, awake, called, _⟩, stepped, _⟩ := run.last
  obtain ⟨shared, done, after⟩ := Program.executor_ok stepped
  obtain ⟨rfl, outcome⟩ := Prod.mk.inj (Except.ok.inj done)
  refine ⟨_, _, earlier, within, awake, ?_, rfl, after⟩
  rw [← outcome]
  exact turn_moves called

end Moves

/-- Each task has its half until it has finished, and then the channel is closed. Nobody sleeps without
cause, but the receiver may have slept through the end of a sender that sent nothing. -/
structure Working (waker : Nat → Waker) (crew : Crew (State T) (Role T)) : Prop where
  receiving : (crew.place 0).sends = false
  sending : (crew.place 1).sends = true
  receiver : (crew.place 0).finished = false → crew.shared.halves.receiver = true
  sender : (crew.place 1).finished = false → crew.shared.halves.sender = true
  ended : ∀ task < 2, (crew.place task).finished = true → crew.shared.slot.closed = true
  sealed : crew.shared.slot.value ≠ none → crew.shared.slot.closed = true
  listens : crew.awake 0 = false → crew.place 0 = .receiving ∧ crew.shared.slot.value = none ∧
    crew.shared.slot.recvWaker = some (waker 0) ∧ (crew.shared.slot.closed = false ∨ crew.place 1 = .withdrawn)
  watches : crew.awake 1 = false → crew.place 1 = .watching ∧ crew.shared.slot.closed = false ∧
    crew.shared.slot.closeWaker = some (waker 1)

section Invariant

theorem Move.sends_same (move : Move s (waker task) role role' s' outcome) : role'.sends = role.sends := by cases move <;> rfl

theorem Move.unfinished (move : Move s (waker task) role role' s' outcome) : role.finished = false := by cases move <;> rfl

theorem Working.tasks (working : Working waker crew) (within : task < 2) :
    task = 0 ∧ (crew.place task).sends = false ∨ task = 1 ∧ (crew.place task).sends = true := by
  rcases Nat.le_one_iff_eq_zero_or_eq_one.mp (Nat.lt_succ_iff.mp within) with rfl | rfl
  · exact .inl ⟨rfl, working.receiving⟩
  · exact .inr ⟨rfl, working.sending⟩

private theorem Working.listens_moves (working : Working waker crew) (within : task < 2)
    (move : Move crew.shared (waker task) (crew.place task) role' s' outcome)
    (sleeps : ((program T waker).proceed crew task s' outcome).awake 0 = false) :
    Function.update crew.place task role' 0 = .receiving ∧ s'.slot.value = none ∧ s'.slot.recvWaker = some (waker 0) ∧
      (s'.slot.closed = false ∨ Function.update crew.place task role' 1 = .withdrawn) := by
  obtain ⟨unheard, asleep⟩ := Program.proceed_asleep sleeps
  rcases working.tasks within with ⟨rfl, receives⟩ | ⟨rfl, sends⟩
  · obtain ⟨_, suspended⟩ | ⟨other, _⟩ := asleep
    · rw [Function.update_self]
      generalize crew.place 0 = role at move receives
      cases move with
      | listens empty opened => exact ⟨rfl, empty, rfl, .inl opened⟩
      | watches => cases receives
      | _ => cases suspended
    · exact absurd rfl other
  · obtain ⟨other, _⟩ | ⟨_, sleeping⟩ := asleep
    · cases other
    · obtain ⟨place, empty, registered, reason⟩ := working.listens sleeping
      rw [Function.update_of_ne Nat.zero_ne_one, Function.update_self]
      refine ⟨place, ?_⟩
      generalize crew.place 1 = role at move reason sends
      cases move with
      | sends => exact absurd (by rw [registered]; exact List.mem_singleton_self _) unheard
      | watches opened => exact ⟨empty, registered, .inl opened⟩
      | withdraws => exact ⟨empty, registered, .inr rfl⟩
      | refused closed | hears closed =>
        rcases reason with opened | gone
        · cases closed.symm.trans opened
        · cases gone
      | _ => cases sends

private theorem Working.watches_moves (working : Working waker crew) (within : task < 2)
    (move : Move crew.shared (waker task) (crew.place task) role' s' outcome)
    (sleeps : ((program T waker).proceed crew task s' outcome).awake 1 = false) :
    Function.update crew.place task role' 1 = .watching ∧ s'.slot.closed = false ∧ s'.slot.closeWaker = some (waker 1) := by
  obtain ⟨unheard, asleep⟩ := Program.proceed_asleep sleeps
  rcases working.tasks within with ⟨rfl, receives⟩ | ⟨rfl, sends⟩
  · obtain ⟨other, _⟩ | ⟨_, sleeping⟩ := asleep
    · cases other
    · obtain ⟨place, opened, registered⟩ := working.watches sleeping
      have loud : waker 1 ∈ if crew.shared.slot.closed then [] else crew.shared.slot.closeWaker.toList := by
        rw [opened, registered]
        exact List.mem_singleton_self _
      rw [Function.update_of_ne Nat.one_ne_zero]
      refine ⟨place, ?_⟩
      generalize crew.place 0 = role at move receives
      cases move with
      | closes | departs => exact absurd loud unheard
      | listens | takes | ends | finds | misses => exact ⟨opened, registered⟩
      | _ => cases receives
  · obtain ⟨_, suspended⟩ | ⟨other, _⟩ := asleep
    · rw [Function.update_self]
      generalize crew.place 1 = role at move sends
      cases move with
      | watches opened => exact ⟨rfl, opened, rfl⟩
      | listens => cases sends
      | _ => cases suspended
    · exact absurd rfl other

theorem Move.closed (move : Move s (waker task) role role' s' outcome) (closed : s.slot.closed = true) :
    s'.slot.closed = true := by
  cases move <;> first | exact closed | rfl

theorem Move.ended (move : Move s (waker task) role role' s' outcome) (finished : role'.finished = true) :
    s'.slot.closed = true := by
  cases move with
  | refused closed => exact closed
  | sends | withdraws | departs => rfl
  | _ => cases finished

theorem Move.sealed (move : Move s (waker task) role role' s' outcome)
    (sealed : s.slot.value ≠ none → s.slot.closed = true) (stored : s'.slot.value ≠ none) : s'.slot.closed = true := by
  cases move with
  | sends | withdraws | closes | departs => rfl
  | takes | finds => exact absurd rfl stored
  | _ => exact sealed stored

theorem Move.halves (move : Move s (waker task) role role' s' outcome) :
    (role.sends = true ∨ role'.finished = false → s'.halves.receiver = s.halves.receiver) ∧
      (role.sends = false ∨ role'.finished = false → s'.halves.sender = s.halves.sender) := by
  cases move <;> simp [Role.sends, Role.finished]

/-- The step lemma. -/
theorem Working.moves (working : Working waker crew) (within : task < 2)
    (move : Move crew.shared (waker task) (crew.place task) role' s' outcome)
    (resumed : resume (crew.place task) outcome.reply = role') :
    Working waker ((program T waker).proceed crew task s' outcome) := by
  have place : ((program T waker).proceed crew task s' outcome).place = Function.update crew.place task role' :=
    Program.proceed_place resumed
  have same : ∀ other, (Function.update crew.place task role' other).sends = (crew.place other).sends :=
    Program.update_same Role.sends move.sends_same
  constructor
  case receiving => rw [place, same]; exact working.receiving
  case sending => rw [place, same]; exact working.sending
  case receiver =>
    rw [place]
    rcases working.tasks within with ⟨rfl, receives⟩ | ⟨rfl, sends⟩
    · rw [Function.update_self]
      exact fun unfinished => (move.halves.1 (.inr unfinished)).trans (working.receiver move.unfinished)
    · rw [Function.update_of_ne Nat.zero_ne_one]
      exact fun unfinished => (move.halves.1 (.inl sends)).trans (working.receiver unfinished)
  case sender =>
    rw [place]
    rcases working.tasks within with ⟨rfl, receives⟩ | ⟨rfl, sends⟩
    · rw [Function.update_of_ne Nat.one_ne_zero]
      exact fun unfinished => (move.halves.2 (.inl receives)).trans (working.sender unfinished)
    · rw [Function.update_self]
      exact fun unfinished => (move.halves.2 (.inr unfinished)).trans (working.sender move.unfinished)
  case ended =>
    intro other inside finished
    rw [place] at finished
    by_cases self : other = task
    · rw [self, Function.update_self] at finished
      exact move.ended finished
    · rw [Function.update_of_ne self] at finished
      exact move.closed (working.ended other inside finished)
  case sealed => exact move.sealed working.sealed
  case listens => rw [place]; exact working.listens_moves within move
  case watches => rw [place]; exact working.watches_moves within move

theorem start_roles (assembled : Assembled start) :
    ((start.place 0).sends = false ∧ (start.place 0).finished = false ∧ (start.place 0).received = none) ∧
      (start.place 1).sends = true ∧ (start.place 1).finished = false ∧ (start.place 1).accepted = none := by
  constructor
  · rcases assembled.receiving with place | place | place <;> rw [place] <;> exact ⟨rfl, rfl, rfl⟩
  · rcases assembled.sending with ⟨_, place⟩ | place | place <;> rw [place] <;> exact ⟨rfl, rfl, rfl⟩

/-- The run lemma. -/
theorem run_working (run : (system T waker).Run start history crew) : Working waker crew := by
  apply run.invariant fun _ crew => Working waker crew
  · rintro ⟨⟨origin, past, reached⟩, assembled⟩
    have sealed := OneshotDelivery.run_sealed reached
    obtain ⟨⟨receives, listening, _⟩, sends, calling, _⟩ := start_roles assembled
    constructor
    case receiving => exact receives
    case sending => exact sends
    case receiver => exact fun _ => assembled.receiver
    case sender => exact fun _ => assembled.sender
    case ended =>
      intro task within finished
      rcases Nat.le_one_iff_eq_zero_or_eq_one.mp (Nat.lt_succ_iff.mp within) with rfl | rfl
      · cases finished.symm.trans listening
      · cases finished.symm.trans calling
    case sealed => exact fun stored => sealed (Option.isSome_iff_ne_none.mpr stored)
    case listens => intro sleeps; cases (assembled.awake 0).symm.trans sleeps
    case watches => intro sleeps; cases (assembled.awake 1).symm.trans sleeps
  · intro past before action outcome after reached working able stepped
    obtain ⟨role, s, _, within, _, move, resumed, proceeded⟩ := turn_move (.step reached able stepped)
    rw [show after = _ from proceeded]
    exact working.moves within move resumed

end Invariant
section Progress

private theorem Working.call_enabled (working : Working waker crew) (within : task < 2)
    (unfinished : (crew.place task).finished = false) :
    ∃ action, call waker task (crew.place task) = some action ∧ enabled crew.shared.halves action = true := by
  rcases working.tasks within with ⟨rfl, receives⟩ | ⟨rfl, sends⟩
  · have half := working.receiver unfinished
    generalize crew.place 0 = role at receives unfinished
    cases role with
    | receiving | closing | looking | departing => exact ⟨_, rfl, half⟩
    | departed => cases unfinished
    | _ => cases receives
  · have half := working.sender unfinished
    generalize crew.place 1 = role at sends unfinished
    cases role with
    | sending | watching | withdrawing => exact ⟨_, rfl, half⟩
    | sent | withdrawn => cases unfinished
    | _ => cases sends

private theorem turn_returns (run : (system T waker).Run start history crew) (within : task < 2) (awake : crew.awake task = true)
    (unfinished : (crew.place task).finished = false) :
    ∃ action result, (system T waker).Enabled crew ⟨task, action⟩ ∧
      (system T waker).step crew ⟨task, action⟩ = .ok result := by
  obtain ⟨action, called, able⟩ := (run_working run).call_enabled within unfinished
  exact ⟨action, _, ⟨within, awake, called, able⟩, rfl⟩

theorem left_asleep (run : (system T waker).Run start history crew)
    (quiet : ∀ turn, ¬ (system T waker).Enabled crew turn) (within : task < 2) (unfinished : (crew.place task).finished = false) :
    crew.awake 0 = false ∧ (crew.place 1).value = none := by
  have working := run_working run
  have asleep : ∀ other < 2, (crew.place other).finished = false → crew.awake other = false := by
    intro other inside busy
    by_contra awake
    obtain ⟨_, _, able, _⟩ := turn_returns run inside (Bool.not_eq_false _ ▸ awake) busy
    exact quiet _ able
  have busy : ∀ other < 2, crew.shared.slot.closed = false → (crew.place other).finished = false := by
    intro other inside opened
    by_contra finished
    cases opened.symm.trans (working.ended other inside (Bool.not_eq_false _ ▸ finished))
  have sleeps : crew.awake 0 = false := by
    rcases working.tasks within with ⟨rfl, _⟩ | ⟨rfl, _⟩
    · exact asleep 0 within unfinished
    · exact asleep 0 Nat.zero_lt_two (busy 0 Nat.zero_lt_two (working.watches (asleep 1 within unfinished)).2.1)
  refine ⟨sleeps, ?_⟩
  rcases (working.listens sleeps).2.2.2 with opened | gone
  · rw [(working.watches (asleep 1 Nat.one_lt_two (busy 1 Nat.one_lt_two opened))).1]
    rfl
  · rw [gone]
    rfl

end Progress

section Sleep

theorem Move.value (move : Move s (waker task) role role' s' outcome) : role'.value = role.value := by cases move <;> rfl

theorem Move.polls (move : Move s (waker task) role role' s' outcome) (pends : outcome.reply = .polled .pending) :
    role = .receiving ∧ role' = .receiving ∧ suspends outcome = true ∧ outcome.woken = [] := by
  cases move with
  | listens => exact ⟨rfl, rfl, rfl, rfl⟩
  | _ => cases pends

theorem Move.silent (move : Move s (waker task) role role' s' outcome) (sends : role.sends = true) (unsent : role.value = none) :
    outcome.woken = [] := by
  cases move with
  | sends => cases unsent
  | closes | departs => cases sends
  | _ => rfl

theorem run_value (run : (system T waker).Run start history crew) : (crew.place 1).value = (start.place 1).value := by
  apply run.invariant fun _ crew => (crew.place 1).value = (start.place 1).value
  · exact fun _ => rfl
  · intro past before action outcome after reached same able stepped
    obtain ⟨role, s, _, _, _, move, resumed, proceeded⟩ := turn_move (.step reached able stepped)
    have place : after.place = Function.update before.place action.task role :=
      (congrArg Crew.place proceeded).trans (Program.proceed_place resumed)
    rw [place, Program.update_same Role.value move.value, same]

/-- The receiving task has fallen asleep at some time. -/
def Slept (history : History (Crew (State T) (Role T)) (Turn (Action T)) (Outcome T)) : Prop :=
  ∃ event ∈ history, event.outcome.reply = .polled .pending

private theorem run_slept (run : (system T waker).Run start history crew) (asleep : crew.awake 0 = false) : Slept history := by
  revert asleep
  apply run.invariant fun history crew => crew.awake 0 = false → Slept history
  · exact fun initial sleeps => by cases (initial.2.awake 0).symm.trans sleeps
  · intro past before action outcome after reached slept able stepped sleeps
    obtain ⟨role, s, _, within, _, move, _, proceeded⟩ := turn_move (.step reached able stepped)
    rw [show after = _ from proceeded] at sleeps
    obtain ⟨_, ⟨self, suspended⟩ | ⟨_, sleeping⟩⟩ := Program.proceed_asleep sleeps
    · have receives := (run_working reached).receiving
      rw [self] at receives
      dsimp only at move receives
      generalize before.place action.task = role at move receives
      cases move with
      | listens => exact ⟨_, List.mem_cons_self, rfl⟩
      | watches => cases receives
      | _ => cases suspended
    · obtain ⟨event, member, pends⟩ := slept sleeping
      exact ⟨event, List.mem_cons_of_mem _ member, pends⟩

private theorem run_stranded (run : (system T waker).Run start history crew) (unsent : (start.place 1).value = none)
    (slept : Slept history) : crew.awake 0 = false ∧ crew.place 0 = .receiving := by
  revert slept
  apply run.invariant fun history crew => Slept history → crew.awake 0 = false ∧ crew.place 0 = .receiving
  · rintro _ ⟨_, member, _⟩
    cases member
  · intro past before action outcome after reached stranded able stepped slept
    obtain ⟨role, s, _, within, awake, move, resumed, proceeded⟩ := turn_move (.step reached able stepped)
    have working := run_working reached
    obtain ⟨task, call⟩ := action
    dsimp only at within awake move resumed proceeded
    rw [proceeded]
    obtain ⟨event, member, pends⟩ := slept
    rcases working.tasks within with ⟨rfl, _⟩ | ⟨rfl, _⟩
    · rcases List.mem_cons.mp member with rfl | earlier
      · obtain ⟨_, stays, suspended, nobody⟩ := move.polls pends
        refine ⟨?_, (Program.proceed_self ..).trans (resumed.trans stays)⟩
        simp [Program.proceed, program, nobody, suspended]
      · cases awake.symm.trans (stranded ⟨event, earlier, pends⟩).1
    · have silent := move.silent working.sending ((run_value reached).trans unsent)
      rcases List.mem_cons.mp member with rfl | earlier
      · have receives := working.sending
        rw [(move.polls pends).1] at receives
        cases receives
      · obtain ⟨asleep, place⟩ := stranded ⟨event, earlier, pends⟩
        refine ⟨?_, (Program.proceed_other Nat.zero_ne_one).trans place⟩
        simp [Program.proceed, program, silent, asleep]

end Sleep
section Termination

def rank (crew : Crew (State T) (Role T)) : Nat := (crew.place 0).steps + (crew.place 1).steps

theorem Move.steps (move : Move s (waker task) role role' s' outcome) :
    role'.steps < role.steps ∨ role' = role ∧ suspends outcome = true ∧ outcome.woken = [] := by
  cases move with
  | watches | listens => exact .inr ⟨rfl, rfl, rfl⟩
  | _ => exact .inl (by simp [Role.steps])

private theorem run_lowers (run : (system T waker).Run start (event :: past) event.after) :
    (program T waker).Lowers rank event := by
  obtain ⟨role, s, earlier, within, _, move, resumed, proceeded⟩ := turn_move run
  have place : event.after.place = Function.update event.before.place event.action.task role :=
    (congrArg Crew.place proceeded).trans (Program.proceed_place resumed)
  rcases move.steps with fewer | ⟨same, suspended, nobody⟩
  · left
    have working := run_working earlier
    rw [rank, rank, place]
    rcases working.tasks within with ⟨self, _⟩ | ⟨self, _⟩
    · rw [self] at fewer ⊢
      rw [Function.update_self, Function.update_of_ne Nat.one_ne_zero]
      omega
    · rw [self] at fewer ⊢
      rw [Function.update_self, Function.update_of_ne Nat.zero_ne_one]
      omega
  · refine .inr ⟨?_, suspended, nobody⟩
    rw [rank, rank, place, same, Function.update_eq_self]

private theorem rank_start (assembled : Assembled start) : rank start ≤ 5 := by
  have receiving : (start.place 0).steps ≤ 3 := by
    rcases assembled.receiving with place | place | place <;> rw [place] <;> simp [Role.steps]
  have sending : (start.place 1).steps ≤ 2 := by
    rcases assembled.sending with ⟨_, place⟩ | place | place <;> rw [place] <;> simp [Role.steps]
  rw [rank]
  omega

theorem run_ended (run : (system T waker).Run start history crew) :
    ∃ later final, (system T waker).Run start (later ++ history) final ∧ ∀ turn, ¬ (system T waker).Enabled final turn :=
  Program.run_ends rank run (fun _ _ reached => run_lowers reached) fun _ _ _ _ _ => ⟨_, rfl⟩

end Termination

/-- Whoever has a turn can take it. When no turn is left, somebody is left over exactly when the receiver fell
asleep and the sending task had nothing to send; and after a few turns none is left. -/
theorem handoff_finishes (run : (system T waker).Run start history crew) :
    (∀ task < 2, crew.awake task = true → (crew.place task).finished = false →
      ∃ action result, (system T waker).Enabled crew ⟨task, action⟩ ∧
        (system T waker).step crew ⟨task, action⟩ = .ok result) ∧
    ((∀ turn, ¬ (system T waker).Enabled crew turn) →
      ((∃ task < 2, (crew.place task).finished = false) ↔ Slept history ∧ (start.place 1).value = none)) ∧
    history.length ≤ 17 ∧
    ∃ later final, (system T waker).Run start (later ++ history) final ∧ ∀ turn, ¬ (system T waker).Enabled final turn := by
  refine ⟨fun task within awake unfinished => turn_returns run within awake unfinished, fun quiet => ⟨?_, ?_⟩, ?_, ?_⟩
  · rintro ⟨task, within, unfinished⟩
    obtain ⟨asleep, unsent⟩ := left_asleep run quiet within unfinished
    exact ⟨run_slept run asleep, (run_value run).symm.trans unsent⟩
  · rintro ⟨slept, unsent⟩
    refine ⟨0, Nat.zero_lt_two, ?_⟩
    rw [(run_stranded run unsent slept).2]
    rfl
  · have bounded := Program.run_bounded rank run fun _ _ reached => run_lowers reached
    have few := rank_start run.initial.2
    change history.length ≤ 3 * rank start + 2 at bounded
    omega
  · exact run_ended run

def split : State Nat := ⟨.new, ⟨true, true, true⟩⟩

theorem split_starts {sending : Role Nat}
    (plan : (∃ value, sending = .sending value) ∨ sending = .watching ∨ sending = .withdrawing)
    (waker : Nat → Waker) : (system Nat waker).Initial (pair split .receiving sending) := by
  obtain ⟨history, final, _, run, rfl⟩ := (OneshotSystem.system Nat).exists_run .new rfl [.split]
    (fun _ final => final = split) (by decide)
  exact ⟨⟨_, _, run⟩, .inl rfl, plan, fun _ => rfl, rfl, rfl⟩

/-- The receiver polls before the sender is dropped. -/
theorem handoff_finishes_dropped :
    ∃ history final, (system Nat id).play [] (pair split .receiving .withdrawing) [⟨0, .pollRecv 0⟩] = some (history, final) ∧
      ∃ later ended, (system Nat id).Run (pair split .receiving .withdrawing) (later ++ history) ended ∧
        (∀ turn, ¬ (system Nat id).Enabled ended turn) ∧ ∃ task < 2, (ended.place task).finished = false := by
  obtain ⟨history, final, played, run, event, member, pends⟩ := (system Nat id).exists_run _
    (split_starts (.inr (.inr rfl)) id) [⟨0, .pollRecv 0⟩]
    (fun history _ => ∃ event ∈ history, event.outcome.reply = .polled .pending) (by decide)
  obtain ⟨later, ended, run', quiet⟩ := (handoff_finishes run).2.2.2
  refine ⟨history, final, played, later, ended, run', quiet, ((handoff_finishes run').2.1 quiet).mpr ⟨?_, rfl⟩⟩
  exact ⟨event, List.mem_append_right later member, pends⟩

end AsyncUnsync.Proofs.HandoffTasks
