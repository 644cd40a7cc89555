import AsyncUnsync.Proofs.WorkerMoves

/-! The workers never get stuck, and no more of them work at a time than there are permits. -/

namespace AsyncUnsync.Proofs.WorkerTasks
open Memory Transition SemaphoreSystem LedgerSystem LedgerSimulation LedgerGrants Workers
variable {w : Workload} {v v' : View} {waker : Waker} {role role' : Role} {outcome : Outcome} {a b p : Addr} {task : Nat}

section Fits

theorem Fits.live (fits : Fits v waker role) (request : role.request = some a) : (v.ledger.tickets.get? a).isSome = true := by
  cases role <;> simp only [Role.request, reduceCtorEq, Option.some.injEq] at request <;> subst request
  case acquiring => rcases fits with held | ⟨_, held | held⟩ <;> rw [held] <;> rfl
  case acquired =>
    obtain ⟨⟨_, held⟩, _⟩ := fits
    rw [held]
    rfl
  case refused =>
    obtain ⟨_, _, held⟩ := fits
    rw [held]
    rfl

theorem Fits.held (fits : Fits v waker role) (permit : role.permit = some p) : v.permits.get? p = some 1 := by
  cases role <;> simp only [Role.permit, reduceCtorEq, Option.some.injEq] at permit <;> subst permit
  case acquired => exact fits.2
  case working => exact fits

theorem Fits.keeps (fits : Fits v waker role) (closed : v'.ledger.closed = v.ledger.closed)
    (tickets : ∀ a, role.request = some a → v'.ledger.tickets.get? a = v.ledger.tickets.get? a ∨
      ∃ next, v.ledger.tickets.get? a = some (waiting next) ∧ v'.ledger.tickets.get? a = some (collected next))
    (permits : ∀ p, role.permit = some p → v'.permits.get? p = v.permits.get? p) : Fits v' waker role := by
  cases role with
  | acquiring rounds a =>
    simp only [Fits, closed]
    rcases tickets a rfl with same | ⟨next, waits, now⟩
    · rw [same]
      exact fits
    · rcases fits with held | ⟨opened, held | held⟩ <;> rw [waits] at held <;> cases held
      exact .inr ⟨opened, .inr now⟩
  | acquired rounds a p =>
    obtain ⟨⟨registered, held⟩, holds⟩ := fits
    refine ⟨⟨registered, ?_⟩, (permits p rfl).trans holds⟩
    rcases tickets a rfl with same | ⟨next, waits, _⟩
    · exact same.trans held
    · rw [held] at waits
      cases waits
  | working rounds p => exact (permits p rfl).trans fits
  | refused a =>
    obtain ⟨shut, registered, held⟩ := fits
    refine ⟨closed.trans shut, registered, ?_⟩
    rcases tickets a rfl with same | ⟨next, waits, _⟩
    · exact same.trans held
    · rw [held] at waits
      cases waits
  | left => exact closed.trans fits
  | idle => trivial

end Fits

section Moves

theorem Move.closed (move : Move v waker role role' v' outcome) : v'.ledger.closed = v.ledger.closed := by
  cases move <;> rfl

theorem Move.fits (move : Move v waker role role' v' outcome) (fits : Fits v waker role) : Fits v' waker role' := by
  cases move with
  | asks => exact .inl (Arena.get?_alloc_self ..)
  | takes opened held => exact ⟨⟨_, Arena.get?_put_self held _⟩, Arena.get?_alloc_self ..⟩
  | waits opened held => exact .inr ⟨opened, .inl (Arena.get?_put_self held _)⟩
  | idles opened held => exact .inr ⟨opened, .inl held⟩
  | collects opened held => exact ⟨⟨_, Arena.get?_put_self held _⟩, Arena.get?_alloc_self ..⟩
  | fails closed held => exact ⟨closed, _, Arena.get?_put_self held _⟩
  | begins => exact fits.2
  | leaves => exact fits.1
  | returns | passes => trivial

theorem Move.tickets (move : Move v waker role role' v' outcome) (live : (v.ledger.tickets.get? b).isSome = true)
    (other : role.request ≠ some b) :
    v'.ledger.tickets.get? b = v.ledger.tickets.get? b ∨ ∃ next ∈ outcome.woken,
      v.ledger.tickets.get? b = some (waiting next) ∧ v'.ledger.tickets.get? b = some (collected next) := by
  have apart : ∀ a, role.request = some a → b ≠ a := fun a mine same => other (same ▸ mine)
  cases move with
  | asks =>
    obtain ⟨ticket, held⟩ := Option.isSome_iff_exists.mp live
    exact .inl ((Arena.get?_alloc_of_live held _).trans held.symm)
  | takes | waits | collects | fails => exact .inl (Arena.get?_put_ne _ (apart _ rfl) _)
  | begins | leaves => exact .inl (Arena.get?_free_ne _ (apart _ rfl))
  | idles | returns => exact .inl rfl
  | @passes rounds p first rest next held queue waits =>
    by_cases same : b = first
    · subst same
      exact .inr ⟨next, List.mem_singleton_self _, waits, Arena.get?_put_self waits _⟩
    · exact .inl (Arena.get?_put_ne _ same _)

theorem Move.permits (move : Move v waker role role' v' outcome) (live : (v.permits.get? p).isSome = true)
    (other : role.permit ≠ some p) : v'.permits.get? p = v.permits.get? p := by
  have apart : ∀ q, role.permit = some q → p ≠ q := fun q mine same => other (same ▸ mine)
  cases move with
  | takes | collects =>
    obtain ⟨count, held⟩ := Option.isSome_iff_exists.mp live
    exact (Arena.get?_alloc_of_live held _).trans held.symm
  | returns | passes => exact Arena.get?_free_ne _ (apart _ rfl)
  | asks | waits | idles | fails | begins | leaves => rfl

theorem Move.live (move : Move v waker role role' v' outcome) {ticket : Ticket}
    (held : v'.ledger.tickets.get? b = some ticket) :
    role'.request = some b ∨ role.request ≠ some b ∧ (v.ledger.tickets.get? b).isSome = true := by
  have other : ∀ a ticket, b ≠ a → (v.ledger.tickets.put a ticket).get? b = v'.ledger.tickets.get? b →
      (v.ledger.tickets.get? b).isSome = true := by
    intro a ticket different same
    rw [← Arena.get?_put_ne _ different ticket, same, held]
    rfl
  cases move with
  | asks =>
    rcases Arena.of_alloc held with ⟨new, _⟩ | before
    · exact .inl (congrArg some new.symm)
    · exact .inr ⟨by simp [Role.request], Option.isSome_iff_exists.mpr ⟨_, before⟩⟩
  | @takes rounds a | @waits rounds a | @collects rounds a | @fails rounds a =>
    by_cases mine : b = a
    · exact .inl (congrArg some mine.symm)
    · exact .inr ⟨fun same => mine (Option.some.inj same).symm, other _ _ mine rfl⟩
  | @idles rounds a =>
    by_cases mine : b = a
    · exact .inl (congrArg some mine.symm)
    · exact .inr ⟨fun same => mine (Option.some.inj same).symm, Option.isSome_iff_exists.mpr ⟨_, held⟩⟩
  | begins | leaves =>
    obtain ⟨different, before⟩ := Arena.of_free held
    exact .inr ⟨fun same => different (Option.some.inj same), Option.isSome_iff_exists.mpr ⟨_, before⟩⟩
  | returns => exact .inr ⟨by simp [Role.request], Option.isSome_iff_exists.mpr ⟨_, held⟩⟩
  | @passes rounds p first rest next _ queue waits =>
    refine .inr ⟨by simp [Role.request], ?_⟩
    by_cases same : b = first
    · rw [same, waits]
      rfl
    · exact other _ _ same rfl

theorem Move.request (move : Move v waker role role' v' outcome) (request : role'.request = some a) :
    role.request = some a ∨ a = v.ledger.tickets.size := by
  cases move with
  | asks => exact .inr (Option.some.inj request).symm
  | takes | waits | idles | collects | fails => exact .inl request
  | begins | returns | passes | leaves => cases request

theorem Move.permit (move : Move v waker role role' v' outcome) (permit : role'.permit = some p) :
    role.permit = some p ∨ p = v.permits.size := by
  cases move with
  | takes | collects => exact .inr (Option.some.inj permit).symm
  | begins => exact .inl permit
  | asks | waits | idles | fails | returns | passes | leaves => cases permit

/-- Permits are in the pool, collected by a request, or held by a worker. -/
theorem Move.total (move : Move v waker role role' v' outcome) :
    v'.ledger.permits + v'.ledger.tickets.sum Ticket.permits + role'.inside =
      v.ledger.permits + v.ledger.tickets.sum Ticket.permits + role.inside := by
  cases move with
  | asks => simp [Role.inside, Role.permit]
  | takes opened held some =>
    have same := Arena.sum_put held Ticket.permits (spent none)
    simp only [Role.inside, Role.permit, Option.isSome_some, Option.isSome_none, if_true, Bool.false_eq_true, if_false] at same ⊢
    omega
  | waits opened held =>
    have same := Arena.sum_put held Ticket.permits (waiting waker)
    exact congrArg (fun collected => v.ledger.permits + collected + 0) same
  | idles => rfl
  | collects opened held =>
    have same := Arena.sum_put held Ticket.permits (spent (some waker))
    simp only [Role.inside, Role.permit, Option.isSome_some, Option.isSome_none, if_true, Bool.false_eq_true, if_false] at same ⊢
    omega
  | fails closed held =>
    have same := Arena.sum_put held Ticket.permits (spent none)
    exact congrArg (fun collected => v.ledger.permits + collected + 0) same
  | begins held =>
    have same := Arena.sum_free held Ticket.permits
    exact congrArg (fun collected => v.ledger.permits + collected + 1) same
  | leaves held =>
    have same := Arena.sum_free held Ticket.permits
    exact congrArg (fun collected => v.ledger.permits + collected + 0) same
  | returns =>
    simp only [Role.inside, Role.permit, Option.isSome_some, Option.isSome_none, if_true, Bool.false_eq_true, if_false]
    omega
  | @passes rounds p first rest next held queue waits =>
    have same := Arena.sum_put waits Ticket.permits (collected next)
    simp only [Role.inside, Role.permit, Option.isSome_some, Option.isSome_none, if_true, Bool.false_eq_true, if_false] at same ⊢
    omega

theorem Move.sleeps (move : Move v waker role role' v' outcome) (suspends : Workload.suspends outcome = true) :
    ∃ rounds a, role' = .acquiring rounds a ∧ v'.ledger.tickets.get? a = some (waiting waker) := by
  cases move with
  | waits opened held => exact ⟨_, _, rfl, Arena.get?_put_self held _⟩
  | idles opened held => exact ⟨_, _, rfl, held⟩
  | asks | takes | collects | fails | begins | returns | passes | leaves => cases suspends

end Moves

/-- Each worker has what it needs, each request and permit has one worker, and whoever sleeps stands in
the queue. The permits in the pool, in requests and in the hands of workers add up. -/
structure Engaged (w : Workload) (room : Nat) (crew : Crew View Role) : Prop where
  fits : ∀ task, Fits crew.shared (w.waker task) (crew.place task)
  answered : ∀ a ticket, crew.shared.ledger.tickets.get? a = some ticket → ∃ task, (crew.place task).request = some a
  apart : ∀ task task' a, (crew.place task).request = some a → (crew.place task').request = some a → task = task'
  alone : ∀ task task' p, (crew.place task).permit = some p → (crew.place task').permit = some p → task = task'
  beyond : ∀ task, w.workers ≤ task → crew.place task = .idle (w.rounds task)
  opened : crew.shared.ledger.closed = false → 0 < room
  total : crew.shared.ledger.permits + crew.shared.ledger.tickets.sum Ticket.permits + w.inside crew = room
  waits : ∀ task < w.workers, crew.awake task = false →
    ∃ rounds a, crew.place task = .acquiring rounds a ∧
      crew.shared.ledger.tickets.get? a = some (waiting (w.waker task))

section Engaged
variable {crew : Crew View Role} {room : Nat} {shared : View}

theorem engaged_start (assembled : w.Assembled crew) : Engaged w crew.shared.ledger.permits crew := by
  have request : ∀ task, (crew.place task).request = none := fun task => by rw [assembled.idle task]; rfl
  have permit : ∀ task, (crew.place task).permit = none := fun task => by rw [assembled.idle task]; rfl
  have nothing : crew.shared.ledger.tickets.sum Ticket.permits = 0 := by
    apply Arena.sum_eq_zero
    intro a ticket held
    rw [assembled.requests a] at held
    cases held
  have nobody : w.inside crew = 0 := by
    simp [Workload.inside, Role.inside, permit]
  constructor
  case fits => intro task; rw [assembled.idle task]; trivial
  case answered => intro a ticket held; rw [assembled.requests a] at held; cases held
  case apart => intro task task' a holds; rw [request task] at holds; cases holds
  case alone => intro task task' p holds; rw [permit task] at holds; cases holds
  case beyond => intro task _; exact assembled.idle task
  case opened => exact assembled.room
  case total => rw [nothing, nobody]; rfl
  case waits => intro task _ sleeps; rw [assembled.awake task] at sleeps; cases sleeps

private theorem apart_moves {crew' : Crew View Role} (f : Role → Option Addr)
    (before : ∀ task task' a, f (crew.place task) = some a → f (crew.place task') = some a → task = task')
    (grows : ∀ a, f (crew'.place task) = some a → f (crew.place task) = some a ∨ ∀ other, f (crew.place other) ≠ some a)
    (others : ∀ other, other ≠ task → crew'.place other = crew.place other) :
    ∀ first second a, f (crew'.place first) = some a → f (crew'.place second) = some a → first = second := by
  have mine : ∀ other a, other ≠ task → f (crew'.place task) = some a → f (crew'.place other) = some a → other = task := by
    intro other a different holds holds'
    rw [others other different] at holds'
    rcases grows a holds with held | new
    · exact before other task a holds' held
    · exact absurd holds' (new other)
  intro first second a holds holds'
  by_cases self : first = task
  · by_cases self' : second = task
    · rw [self, self']
    · exact absurd (mine second a self' (self ▸ holds) holds') self'
  · by_cases self' : second = task
    · exact absurd (mine first a self (self' ▸ holds') holds) self
    · rw [others first self] at holds
      rw [others second self'] at holds'
      exact before first second a holds holds'

theorem Engaged.moves (engaged : Engaged w room crew) (within : task < w.workers)
    (move : Move crew.shared (w.waker task) (crew.place task) role' shared outcome)
    (resumed : Workload.resume (crew.place task) outcome.reply = role') :
    Engaged w room (w.program.proceed crew task shared outcome) := by
  have self : (w.program.proceed crew task shared outcome).place task = role' := Program.proceed_self.trans resumed
  have others : ∀ other, other ≠ task → (w.program.proceed crew task shared outcome).place other = crew.place other :=
    fun other different => Program.proceed_other different
  have elsewhere : ∀ other a, other ≠ task → (crew.place other).request = some a → (crew.place task).request ≠ some a :=
    fun other a different holds mine => different (engaged.apart other task a holds mine)
  constructor
  case fits =>
    intro other
    by_cases same : other = task
    · subst same
      rw [self]
      exact move.fits (engaged.fits other)
    · rw [others other same]
      have fits := engaged.fits other
      apply fits.keeps move.closed
      · intro a holds
        rcases move.tickets (fits.live holds) (elsewhere other a same holds) with kept | ⟨next, _, granted⟩
        · exact .inl kept
        · exact .inr ⟨next, granted⟩
      · intro p holds
        refine move.permits (by rw [fits.held holds]; rfl) fun mine => same (engaged.alone other task p holds mine)
  case answered =>
    intro a ticket held
    rcases move.live held with mine | ⟨different, live⟩
    · exact ⟨task, by rw [self, mine]⟩
    · obtain ⟨ticket, held⟩ := Option.isSome_iff_exists.mp live
      obtain ⟨other, holds⟩ := engaged.answered a ticket held
      refine ⟨other, ?_⟩
      rw [others other, holds]
      rintro rfl
      exact different holds
  case apart =>
    apply apart_moves Role.request engaged.apart _ others
    intro a holds
    rw [self] at holds
    refine (move.request holds).imp_right ?_
    rintro rfl other holds
    have live := (engaged.fits other).live holds
    rw [Arena.get?_of_size_le (Nat.le_refl _)] at live
    cases live
  case alone =>
    apply apart_moves Role.permit engaged.alone _ others
    intro p holds
    rw [self] at holds
    refine (move.permit holds).imp_right ?_
    rintro rfl other holds
    have live := (engaged.fits other).held holds
    rw [Arena.get?_of_size_le (Nat.le_refl _)] at live
    cases live
  case beyond =>
    intro other outside
    rw [others other (by omega)]
    exact engaged.beyond other outside
  case opened =>
    intro opened
    exact engaged.opened (move.closed.symm.trans opened)
  case total =>
    have moved := Program.sum_moved (fun other different => congrArg Role.inside (others other different)) within
    rw [self] at moved
    have kept := move.total
    have before := engaged.total
    simp only [Workload.inside, Program.proceed_shared] at before ⊢
    omega
  case waits =>
    intro other within sleeps
    obtain ⟨unwoken, ⟨rfl, suspends⟩ | ⟨different, sleeps⟩⟩ := Program.proceed_asleep sleeps
    · rw [self]
      exact move.sleeps suspends
    · obtain ⟨rounds, a, place, held⟩ := engaged.waits other within sleeps
      have live : (crew.shared.ledger.tickets.get? a).isSome = true := by rw [held]; rfl
      refine ⟨rounds, a, (others other different).trans place, ?_⟩
      rcases move.tickets live (elsewhere other a different (by rw [place]; rfl)) with kept | ⟨next, woken, waits, _⟩
      · exact kept.trans held
      · rw [held] at waits
        cases waits
        exact absurd woken unwoken

theorem inside_none {σ : Type} {crew : Crew σ Role} (none : ∀ task < w.workers, ∀ p, (crew.place task).permit ≠ some p) :
    w.inside crew = 0 := by
  apply List.sum_eq_zero_iff_forall_eq_nat.mpr
  intro count member
  obtain ⟨task, within, rfl⟩ := List.mem_map.mp member
  have free := Option.eq_none_iff_forall_ne_some.mpr (none task (List.mem_range.mp within))
  simp only [Role.inside, free, Option.isSome_none, Bool.false_eq_true, if_false]

theorem unfinished_of_request (request : role.request = some a) : role.finished = false := by
  cases role <;> first | rfl | cases request

theorem unfinished_of_permit (permit : role.permit = some p) : role.finished = false := by
  cases role <;> first | rfl | cases permit

theorem Engaged.within (engaged : Engaged w room crew) (request : (crew.place task).request = some a) : task < w.workers := by
  by_contra outside
  rw [engaged.beyond task (by omega)] at request
  cases request

theorem Engaged.single (engaged : Engaged w room crew) (valid : crew.shared.ledger.Valid) :
    ∀ b ∈ crew.shared.ledger.queue, ∃ next, crew.shared.ledger.tickets.get? b = some (waiting next) := by
  intro b queued
  obtain ⟨ticket, held, waits⟩ := (valid.waiting b).mp queued
  obtain ⟨task, request⟩ := engaged.answered b ticket held
  have fits := engaged.fits task
  cases place : crew.place task <;> rw [place] at request fits <;>
    simp only [Role.request, reduceCtorEq, Option.some.injEq] at request <;> subst request
  case acquiring =>
    rcases fits with found | ⟨_, found | found⟩
    · rw [held] at found
      cases found
      cases waits
    · exact ⟨_, found⟩
    · rw [held] at found
      cases found
      cases waits
  case acquired =>
    obtain ⟨⟨_, found⟩, _⟩ := fits
    rw [held] at found
    cases found
    cases waits
  case refused =>
    obtain ⟨_, _, found⟩ := fits
    rw [held] at found
    cases found
    cases waits

theorem inside_le {σ : Type} (crew : Crew σ Role) (within : task < w.workers) : (crew.place task).inside ≤ w.inside crew := by
  have moved := Program.sum_moved (f := fun task => (crew.place task).inside)
    (g := fun other => if other = task then 0 else (crew.place other).inside) (fun other different => if_neg different) within
  simp only [if_true] at moved
  simp only [Workload.inside]
  omega

end Engaged

section Simple
variable {start crew : Crew View Role} {history : History (Crew View Role) (Turn Action) Outcome} {room : Nat}

theorem view_valid {origin : View} {past : History View Action Outcome} (run : View.system.Run origin past v) :
    v.ledger.Valid := by
  obtain ⟨permits, rfl⟩ := run.initial
  obtain ⟨_, final, run', _, rfl⟩ := LedgerRuns.refines.realizes ⟨permits, rfl⟩ run
  exact (LedgerRuns.refines.run run').1.valid

theorem run_crew_valid (run : w.simple.Run start history crew) : crew.shared.ledger.Valid := by
  obtain ⟨⟨origin, past, reached⟩, _⟩ := run.initial
  exact view_valid (Program.run_shared reached run)

theorem turn_move (engaged : Engaged w room crew) (valid : crew.shared.ledger.Valid) (few : room ≤ usizeMax) {task : Nat}
    (within : task < w.workers) {action : Action} (call : w.call task (crew.place task) = some action) :
    ∃ role shared outcome, Move crew.shared (w.waker task) (crew.place task) role shared outcome ∧
      turn crew.shared action = (shared, outcome) ∧ Workload.resume (crew.place task) outcome.reply = role := by
  apply turn_moves valid (engaged.fits task) (engaged.single valid) _ call
  have some := inside_le crew within
  have total := engaged.total
  omega

theorem run_engaged (run : w.simple.Run start history crew) :
    Engaged w start.shared.ledger.permits crew ∧ start.shared.ledger.permits ≤ usizeMax := by
  have few := run.initial.2.few
  refine ⟨?_, few⟩
  apply run.invariant fun _ crew => Engaged w start.shared.ledger.permits crew
  · intro initial
    exact engaged_start initial.2
  · intro past before ⟨task, action⟩ outcome after reached engaged able stepped
    obtain ⟨shared, done, rfl⟩ := Program.executor_ok stepped
    obtain ⟨within, _, call, _⟩ := able
    obtain ⟨role, shared', outcome', move, turned, resumed⟩ := turn_move engaged (run_crew_valid reached) few within call
    obtain ⟨rfl, rfl⟩ := Prod.mk.inj ((Except.ok.inj done).symm.trans turned)
    exact engaged.moves within move resumed

theorem asleep_finished (engaged : Engaged w room crew) (valid : crew.shared.ledger.Valid)
    (asleep : ∀ task < w.workers, (crew.place task).finished = false → crew.awake task = false) :
    ∀ task < w.workers, (crew.place task).finished = true := by
  intro task within
  by_contra busy
  have waits : ∀ other < w.workers, (crew.place other).finished = false →
      ∃ rounds a, crew.place other = .acquiring rounds a ∧ crew.shared.ledger.tickets.get? a = some (waiting (w.waker other)) :=
    fun other inside unfinished => engaged.waits other inside (asleep other inside unfinished)
  obtain ⟨rounds, a, _, held⟩ := waits task within (Bool.eq_false_iff.mpr busy)
  have queued : a ∈ crew.shared.ledger.queue := (valid.waiting a).mpr ⟨_, held, rfl⟩
  have opened : crew.shared.ledger.closed = false := by
    by_contra closed
    rw [valid.closed (Bool.not_eq_false _ ▸ closed)] at queued
    cases queued
  have idle : crew.shared.ledger.permits = 0 := valid.idle (List.ne_nil_of_mem queued)
  -- whoever holds a permit, or has been granted one, is awake
  have nobody : w.inside crew = 0 := by
    apply inside_none
    intro other inside p permit
    obtain ⟨_, _, place, _⟩ := waits other inside (unfinished_of_permit permit)
    rw [place] at permit
    cases permit
  have nothing : crew.shared.ledger.tickets.sum Ticket.permits = 0 := by
    apply Arena.sum_eq_zero
    intro b ticket held
    obtain ⟨other, request⟩ := engaged.answered b ticket held
    obtain ⟨_, c, place, found⟩ := waits other (engaged.within request) (unfinished_of_request request)
    rw [place] at request
    cases request
    rw [held] at found
    cases found
    rfl
  have total := engaged.total
  have some := engaged.opened opened
  omega

theorem call_unfinished (w : Workload) (task : Nat) : (w.call task role).isSome = !role.finished := by
  cases role with
  | idle rounds => cases rounds <;> rfl
  | _ => rfl

theorem call_enabled (engaged : Engaged w room crew) {action : Action} (call : w.call task (crew.place task) = some action) :
    crew.shared.enabled action = true := by
  have fits := engaged.fits task
  cases place : crew.place task <;> rw [place] at call fits
  case idle rounds =>
    cases rounds with
    | zero => cases call
    | succ => cases call; rfl
  case acquiring rounds a =>
    cases call
    exact fits.live rfl
  case acquired rounds a p =>
    cases call
    exact fits.live rfl
  case working rounds p =>
    cases call
    simp [View.enabled, fits.held rfl]
  case refused a =>
    cases call
    exact fits.live rfl
  case left => cases call

theorem awake_turn (engaged : Engaged w room crew) (valid : crew.shared.ledger.Valid) (few : room ≤ usizeMax)
    (within : task < w.workers) (awake : crew.awake task = true) (unfinished : (crew.place task).finished = false) :
    ∃ action result, w.simple.Enabled crew ⟨task, action⟩ ∧ w.simple.step crew ⟨task, action⟩ = .ok result := by
  obtain ⟨action, call⟩ := Option.isSome_iff_exists.mp ((call_unfinished w task).trans (by rw [unfinished]; rfl))
  obtain ⟨role, shared, outcome, _, turned, _⟩ := turn_move engaged valid few within call
  refine ⟨action, (w.program.proceed crew task shared outcome, outcome), ⟨within, awake, call, call_enabled engaged call⟩, ?_⟩
  simp only [Workload.simple, Program.executor, View.system, turned]

end Simple

section Run
variable {start crew : Crew State Role} {history : History (Crew State Role) (Turn Action) Outcome}

theorem refined (w : Workload) : w.system.Refines w.simple (Crew.map view) fun crew => Sound crew.shared.sem :=
  Program.refines LedgerRuns.refines fun _ assembled => assembled

theorem seen_engaged (run : w.system.Run start history crew) :
    Engaged w start.shared.sem.availablePermits (crew.map view) ∧ (crew.map view).shared.ledger.Valid ∧
      start.shared.sem.availablePermits ≤ usizeMax := by
  have simple := ((refined w).run run).2
  obtain ⟨engaged, few⟩ := run_engaged simple
  exact ⟨engaged, run_crew_valid simple, few⟩

theorem turn_returns (run : w.system.Run start history crew) (within : task < w.workers)
    (awake : crew.awake task = true) (unfinished : (crew.place task).finished = false) :
    ∃ action result, w.system.Enabled crew ⟨task, action⟩ ∧ w.system.step crew ⟨task, action⟩ = .ok result := by
  obtain ⟨engaged, valid, few⟩ := seen_engaged run
  have sound := ((refined w).run run).1
  obtain ⟨action, result, able, stepped⟩ := awake_turn engaged valid few within awake unfinished
  obtain ⟨able', _, stepped', _⟩ := (refined w).step_returns sound able stepped
  exact ⟨action, _, able', stepped'⟩

theorem stuck_finished (run : w.system.Run start history crew) (stuck : ∀ turn, ¬ w.system.Enabled crew turn) :
    ∀ task < w.workers, (crew.place task).finished = true := by
  obtain ⟨engaged, valid, _⟩ := seen_engaged run
  apply asleep_finished engaged valid
  intro task within unfinished
  by_contra awake
  obtain ⟨action, _, able, _⟩ := turn_returns run within (Bool.not_eq_false _ ▸ awake) unfinished
  exact stuck _ able

/-- In every state that assembled workers reach, no more permits are held than there were at the start.
Whoever is awake and has not finished can take its turn, and the call returns. When no turn is
left, everybody has finished. -/
theorem workers_progress (run : w.system.Run start history crew) :
    w.inside crew ≤ start.shared.sem.availablePermits ∧
    (∀ task < w.workers, crew.awake task = true → (crew.place task).finished = false →
      ∃ action result, w.system.Enabled crew ⟨task, action⟩ ∧ w.system.step crew ⟨task, action⟩ = .ok result) ∧
    ((∀ turn, ¬ w.system.Enabled crew turn) → ∀ task < w.workers, (crew.place task).finished = true) := by
  refine ⟨?_, fun _ => turn_returns run, stuck_finished run⟩
  have total := (seen_engaged run).1.total
  change _ + _ + w.inside crew = _ at total
  omega

theorem crew_starts (w : Workload) {permits : Nat} (some : 0 < permits) (few : permits ≤ usizeMax) :
    w.system.Initial (w.crew (.new permits)) := by
  have ledger : ((w.crew (.new permits)).map view).shared.ledger = ⟨.empty, [], permits, false⟩ := (Sound.new permits).1
  refine ⟨⟨_, _, .start ⟨permits, rfl⟩⟩, fun _ => rfl, fun _ => rfl, ?_, ?_, ?_⟩
  · intro a
    rw [ledger]
    rfl
  · intro _
    rw [ledger]
    exact some
  · rw [ledger]
    exact few

/-- Two workers and one permit. -/
def paired : Workload := ⟨2, fun _ => 1, id⟩

/-- The second worker waits for the first, and is woken by it. -/
theorem workers_progress_paired :
    ∃ history final, paired.system.play [] (paired.crew (.new 1))
        [⟨0, .acquireMany 1⟩, ⟨0, .poll 0 0⟩, ⟨1, .acquireMany 1⟩, ⟨1, .poll 1 1⟩, ⟨0, .dropAcquire 0⟩,
         ⟨0, .dropPermit 0⟩] =
          some (history, final) ∧
      ∃ action result, paired.system.Enabled final ⟨1, action⟩ ∧ paired.system.step final ⟨1, action⟩ = .ok result := by
  obtain ⟨history, final, played, run, awake, unfinished⟩ :=
    paired.system.exists_run _ (crew_starts paired Nat.one_pos (by decide))
      [⟨0, .acquireMany 1⟩, ⟨0, .poll 0 0⟩, ⟨1, .acquireMany 1⟩, ⟨1, .poll 1 1⟩, ⟨0, .dropAcquire 0⟩,
       ⟨0, .dropPermit 0⟩]
      (fun _ final => final.awake 1 = true ∧ (final.place 1).finished = false) (by decide +kernel)
  exact ⟨history, final, played, (workers_progress run).2.1 1 (by decide) awake unfinished⟩

end Run

end AsyncUnsync.Proofs.WorkerTasks
