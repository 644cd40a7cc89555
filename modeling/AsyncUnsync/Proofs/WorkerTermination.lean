import AsyncUnsync.Proofs.WorkerProgress

/-! The workers come to an end, whatever the order of their turns, and leave all permits behind. -/

namespace AsyncUnsync.Proofs.WorkerTasks
open Memory Transition SemaphoreSystem LedgerSystem Workers
variable {w : Workload} {v v' : View} {waker : Waker} {role role' : Role} {outcome : Outcome} {room task : Nat}

/-- The calls that a worker has still to make. A poll in vain may come in between. -/
def stage (v : View) : Role → Nat
  | .idle rounds => 5 * rounds
  | .acquiring rounds a => if v.ledger.tickets.get? a = some fresh then 5 * rounds + 4 else 5 * rounds + 3
  | .acquired rounds _ _ => 5 * rounds + 2
  | .working rounds _ => 5 * rounds + 1
  | .refused _ => 1
  | .left => 0

def rank (w : Workload) (crew : Crew View Role) : Nat :=
  ((List.range w.workers).map fun task => stage crew.shared (crew.place task)).sum

theorem Move.stage (move : Move v waker role role' v' outcome) :
    stage v' role' < stage v role ∨
      stage v' role' = stage v role ∧ Workload.suspends outcome = true ∧ outcome.woken = [] := by
  cases move with
  | asks =>
    left
    simp only [WorkerTasks.stage, Arena.get?_alloc_self, if_true]
    omega
  | takes opened held | fails closed held =>
    left
    simp only [WorkerTasks.stage, held, if_true]
    omega
  | waits opened held =>
    left
    simp only [WorkerTasks.stage, held, if_true, Arena.get?_put_self held]
    simp
  | idles => exact .inr ⟨rfl, rfl, rfl⟩
  | collects opened held =>
    left
    simp only [WorkerTasks.stage, held]
    simp
  | begins | returns | passes | leaves =>
    left
    simp only [WorkerTasks.stage]
    omega

section Simple
variable {crew : Crew View Role} {shared : View}

theorem rank_moves (engaged : Engaged w room crew) (within : task < w.workers)
    (move : Move crew.shared (w.waker task) (crew.place task) role' shared outcome)
    (resumed : Workload.resume (crew.place task) outcome.reply = role') :
    rank w (w.program.proceed crew task shared outcome) < rank w crew ∨
      rank w (w.program.proceed crew task shared outcome) = rank w crew ∧
        Workload.suspends outcome = true ∧ outcome.woken = [] := by
  have self : (w.program.proceed crew task shared outcome).place task = role' := Program.proceed_self.trans resumed
  have kept : ∀ other, other ≠ task →
      stage shared ((w.program.proceed crew task shared outcome).place other) = stage crew.shared (crew.place other) := by
    intro other different
    rw [Program.proceed_other different]
    cases place : crew.place other with
    | acquiring rounds a =>
      have live := (engaged.fits other).live (show (crew.place other).request = some a by rw [place]; rfl)
      have elsewhere : (crew.place task).request ≠ some a :=
        fun mine => different (engaged.apart other task a (by rw [place]; rfl) mine)
      simp only [stage]
      rcases move.tickets live elsewhere with same | ⟨next, _, waits, now⟩
      · rw [same]
      · rw [waits, now]
        simp
    | _ => rfl
  have moved := Program.sum_moved kept within
  rw [self] at moved
  simp only [rank, Program.proceed_shared]
  rcases move.stage with lower | ⟨same, asleep⟩
  · left
    omega
  · exact .inr ⟨by omega, asleep⟩

end Simple

section Run
variable {start crew : Crew State Role} {history : History (Crew State Role) (Turn Action) Outcome}

private theorem run_lowers {past : History (Crew State Role) (Turn Action) Outcome}
    {event : Event (Crew State Role) (Turn Action) Outcome} (run : w.system.Run start (event :: past) event.after) :
    w.program.Lowers (fun crew => rank w (crew.map view)) event := by
  have simple := ((refined w).run run).2
  obtain ⟨reached, able, stepped, _⟩ := simple.last
  obtain ⟨within, _, call, _⟩ := able
  obtain ⟨engaged, few⟩ := run_engaged reached
  obtain ⟨shared, done, proceeded⟩ := Program.executor_ok stepped
  obtain ⟨role, shared', outcome, move, turned, resumed⟩ := turn_move engaged (run_crew_valid reached) few within call
  obtain ⟨rfl, same⟩ := Prod.mk.inj ((Except.ok.inj done).symm.trans turned)
  rw [← same] at move resumed
  have lowered := rank_moves engaged within move resumed
  rw [← proceeded] at lowered
  exact lowered

private theorem enabled_returns (run : w.system.Run start history crew) {turn : Turn Action}
    (able : w.system.Enabled crew turn) : ∃ result, w.system.step crew turn = .ok result := by
  obtain ⟨within, awake, call, _⟩ := able
  have unfinished : (crew.place turn.task).finished = false := by
    have called : (w.call turn.task (crew.place turn.task)).isSome = true := Option.isSome_iff_exists.mpr ⟨_, call⟩
    rw [call_unfinished] at called
    simpa using called
  obtain ⟨action, result, able, stepped⟩ := turn_returns run within awake unfinished
  have same : action = turn.action := Option.some.inj (able.2.2.1.symm.trans call)
  subst same
  exact ⟨result, stepped⟩

private theorem finished_whole (run : w.system.Run start history crew)
    (finished : ∀ task < w.workers, (crew.place task).finished = true) :
    crew.shared.sem.availablePermits = start.shared.sem.availablePermits ∧
      (crew.shared.sem.shared.closed = false → ∀ task < w.workers, crew.place task = .idle 0) := by
  obtain ⟨engaged, _, _⟩ := seen_engaged run
  constructor
  · have nobody : w.inside crew = 0 := by
      apply inside_none
      intro task within p permit
      have done := finished task within
      rw [unfinished_of_permit permit] at done
      cases done
    have nothing : (crew.map view).shared.ledger.tickets.sum Ticket.permits = 0 := by
      apply Arena.sum_eq_zero
      intro a ticket held
      obtain ⟨task, request⟩ := engaged.answered a ticket held
      have done : ((crew.map view).place task).finished = true := finished task (engaged.within request)
      rw [unfinished_of_request request] at done
      cases done
    have total := engaged.total
    change crew.shared.sem.availablePermits + _ + w.inside crew = _ at total
    omega
  · intro opened task within
    have done := finished task within
    have fits : Fits (crew.map view).shared (w.waker task) (crew.place task) := engaged.fits task
    cases place : crew.place task <;> rw [place] at done fits
    case idle rounds =>
      cases rounds with
      | zero => rfl
      | succ => cases done
    case left =>
      have closed : crew.shared.sem.shared.closed = true := fits
      rw [opened] at closed
      cases closed
    all_goals cases done

/-- Whatever the order of their turns, the workers come to an end: every run is bounded, and can be led
to a state in which everybody has finished. Then all permits are back in the pool. -/
theorem workers_finish (run : w.system.Run start history crew) :
    history.length ≤ (w.workers + 1) * ((List.range w.workers).map fun task => 5 * w.rounds task).sum + w.workers ∧
      ∃ later final, w.system.Run start (later ++ history) final ∧
        (∀ task < w.workers, (final.place task).finished = true) ∧
        final.shared.sem.availablePermits = start.shared.sem.availablePermits ∧
        (final.shared.sem.shared.closed = false → ∀ task < w.workers, final.place task = .idle 0) := by
  have lowers : ∀ past event, w.system.Run start (event :: past) event.after →
      w.program.Lowers (fun crew => rank w (crew.map view)) event := fun _ _ reached => run_lowers reached
  constructor
  · have turns := Program.run_bounded _ run lowers
    have first : rank w (start.map view) = ((List.range w.workers).map fun task => 5 * w.rounds task).sum := by
      have idle := run.initial.2.idle
      simp only [rank, idle, stage]
    rw [first] at turns
    exact turns
  · obtain ⟨later, final, ends, quiet⟩ := Program.run_ends _ run lowers fun _ _ reached _ able => enabled_returns reached able
    have finished := stuck_finished ends quiet
    exact ⟨later, final, ends, finished, finished_whole ends finished⟩

/-- Two workers that share one permit. -/
theorem workers_finish_paired :
    ∃ later final, paired.system.Run (paired.crew (.new 1)) (later ++ []) final ∧
      (∀ task < 2, (final.place task).finished = true) ∧ final.shared.sem.availablePermits = 1 ∧
      (final.shared.sem.shared.closed = false → ∀ task < 2, final.place task = .idle 0) :=
  (workers_finish (.start (crew_starts paired Nat.one_pos (by decide)))).2

end Run

end AsyncUnsync.Proofs.WorkerTasks
