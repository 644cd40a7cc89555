import AsyncUnsync.Proofs.FirstPolls

/-! Which tasks are woken when waiting requests are completed. The waker is stored
by the first poll and never again, so a later poll from another task is forgotten. -/

namespace AsyncUnsync.Proofs.WakerDelivery
open Memory Transition SemaphoreSystem LedgerSystem LedgerSimulation LedgerTurns FirstPolls

/-- The task of the most recent poll of a future, if that poll returned `Pending`. -/
def lastPoll (a : Addr) : History State Action Outcome → Option Waker
  | [] => none
  | event :: past =>
    match event.action with
    | .poll b waker =>
      if b = a then if event.outcome.reply = .pending then some waker else none else lastPoll a past
    | _ => lastPoll a past

def firstWaker (a : Addr) : History State Action Outcome → Option Waker
  | [] => none
  | event :: past =>
    match firstWaker a past with
    | some waker => some waker
    | none =>
      match event.action with
      | .poll b waker => if b = a then some waker else none
      | _ => none

/-- A live future whose next poll returns `Pending`, whoever polls it. -/
def WouldPend (s : State) (a : Addr) : Prop :=
  (s.sem.memory.get? a).isSome ∧ ∀ waker, ∃ s', s.sem.pollFuture a waker = .ok (s', .pending)

def WouldReady (s : State) (a : Addr) : Prop :=
  (s.sem.memory.get? a).isSome ∧ ∀ waker, ∃ s' result, s.sem.pollFuture a waker = .ok (s', .ready result)

/-- A step that makes a pending future ready wakes the task that polled it last. -/
def Delivered (past : History State Action Outcome) (event : Event State Action Outcome) : Prop :=
  ∀ a waker, lastPoll a past = some waker → WouldPend event.before a → WouldReady event.after a →
    waker ∈ event.outcome.woken

/-- Every request a step completes was polled last by a task that was the first to poll
this request, or another one that the same step completes. -/
def SameTask (past : History State Action Outcome) (event : Event State Action Outcome) : Prop :=
  ∀ a ∈ due (view event.before) event.action, ∀ waker ∈ lastPoll a past,
    ∃ b ∈ due (view event.before) event.action, firstWaker b past = some waker

instance (past : History State Action Outcome) (event : Event State Action Outcome) : Decidable (SameTask past event) := by
  unfold SameTask
  infer_instance

variable {start state : State} {past history : History State Action Outcome} {event : Event State Action Outcome}
  {a b : Addr} {waker : Waker}

theorem lastPoll_polled (last : lastPoll a history = some waker) : a ∈ firstPolls history := by
  induction history with
  | nil => cases last
  | cons event past ih =>
    by_cases polls : ∃ waker, event.action = .poll a waker
    · obtain ⟨waker, polls⟩ := polls
      exact firstPolls_self polls
    · have other : ∀ waker, event.action ≠ .poll a waker := fun waker polling => polls ⟨waker, polling⟩
      refine (firstPolls_other other).mpr (ih ?_)
      simp only [lastPoll] at last
      split at last
      next b waker polling =>
        have different : b ≠ a := by
          intro same
          subst same
          exact other waker polling
        rwa [if_neg different] at last
      · exact last

theorem firstWaker_none (unpolled : a ∉ firstPolls history) : firstWaker a history = none := by
  induction history with
  | nil => rfl
  | cons event past ih =>
    have before := ih fun member => unpolled (firstPolls_grows.subset member)
    simp only [firstWaker, before]
    split
    next b waker polls =>
      apply if_neg
      intro same
      subst same
      exact unpolled (firstPolls_self polls)
    next => rfl

theorem firstWaker_kept (first : firstWaker a past = some waker) : firstWaker a (event :: past) = some waker := by
  simp only [firstWaker, first]

theorem run_registered (run : system.Run start history state) :
    ∀ a ∈ state.sem.ledger.queue, ∀ ticket, state.sem.ledger.tickets.get? a = some ticket →
      ticket.waker = firstWaker a history := by
  refine run.invariant (fun history state => ∀ a ∈ state.sem.ledger.queue, ∀ ticket,
    state.sem.ledger.tickets.get? a = some ticket → ticket.waker = firstWaker a history) ?_ ?_
  · rintro ⟨permits, rfl⟩ a member
    simp [State.new, (Sound.new permits).1] at member
  · intro past before action outcome after run registered enabled stepped a member ticket' held
    have run' : system.Run start (⟨before, action, outcome, after⟩ :: past) after := .step run enabled stepped
    obtain ⟨_, sound, sound', _, turned⟩ := run_turn run'
    have valid : (view before).ledger.Valid := sound.valid
    have polled := run_polled run
    obtain ⟨_, _, waiting, state, _⟩ := sound'.valid.queued member
    rw [held] at waiting
    cases waiting
    have same : after.sem.ledger = (turn (view before) action).1.ledger := by rw [turned]; rfl
    rw [same] at member held
    rcases turn_ticket valid action held with ⟨ticket, continues⟩ | ⟨n, rfl, rfl, rfl⟩ | ⟨waker, ticket, polls, enqueues, rfl⟩
    · have queued : a ∈ before.sem.ledger.queue := by
        rcases turn_queue valid action with left | ⟨c, waker, old, polls, enqueues, queue⟩
        · exact (returned_sublist (view before) action).subset (left ▸ List.mem_append_right _ member)
        · rw [queue, List.mem_append, List.mem_singleton] at member
          apply member.resolve_right
          intro same
          subst same
          rw [polls, enqueues.turn waker] at held
          simp only [Ledger.enqueue, Arena.get?_put_self enqueues.held] at held
          cases held
          have found := continues.held
          rw [enqueues.held] at found
          cases found
          have stamped := continues.aged.state
          simp [enqueues.inert] at stamped
      obtain ⟨found, waker, heldThen, _, known, _⟩ := valid.queued queued
      rw [continues.held] at heldThen
      cases heldThen
      have first := registered a queued ticket continues.held
      rw [continues.aged.waker, known]
      exact (firstWaker_kept (first.symm.trans known)).symm
    · cases state
    · have fresh := (polled.inert a ticket enqueues.held).mp enqueues.inert
      simp [firstWaker, firstWaker_none fresh, polls]

private theorem poll_pending_iff (l : Ledger) (a : Addr) (ticket : Ticket) (polled : ticket.state ≠ .inert) (waker : Waker) :
    (l.poll a ticket waker).2 = .pending ↔ ¬ l.closed = true ∧ ticket.state = .waiting := by
  by_cases closed : l.closed = true
  · simp [Ledger.poll_closed closed, closed]
  · cases state : ticket.state with
    | inert => exact absurd state polled
    | waiting => simp [Ledger.poll_waiting closed state, closed]
    | woken => simp [Ledger.poll_woken closed state]

private theorem wouldPend_iff {s : State} (sound : Sound s.sem)
    (polled : ∀ ticket, s.sem.ledger.tickets.get? a = some ticket → ticket.state ≠ .inert) :
    WouldPend s a ↔ a ∈ s.sem.ledger.queue := by
  constructor
  · intro ⟨live, pends⟩
    obtain ⟨ticket, held⟩ := ticket_of_live live
    obtain ⟨s', result⟩ := pends 0
    obtain ⟨_, told, _⟩ := sound.pollFuture held 0
    rw [told] at result
    have pending : (s.sem.ledger.poll a ticket 0).2 = .pending := (Prod.mk.inj (Except.ok.inj result)).2
    exact (sound.valid.waiting a).mpr ⟨ticket, held, ((poll_pending_iff _ a _ (polled ticket held) 0).mp pending).2⟩
  · intro member
    obtain ⟨ticket, _, held, waiting, _⟩ := sound.valid.queued member
    obtain ⟨waiter, live, _⟩ := sound.refines.live held
    refine ⟨by simp [live], fun waker => ?_⟩
    obtain ⟨s', told, _⟩ := sound.pollFuture held waker
    have opened : ¬ s.sem.ledger.closed = true := fun closed => by simp [sound.valid.closed closed] at member
    rw [(poll_pending_iff _ a _ (polled ticket held) waker).mpr ⟨opened, waiting⟩] at told
    exact ⟨s', told⟩

private theorem wouldReady_iff {s : State} (sound : Sound s.sem)
    (polled : ∀ ticket, s.sem.ledger.tickets.get? a = some ticket → ticket.state ≠ .inert) :
    WouldReady s a ↔ (∃ ticket, s.sem.ledger.tickets.get? a = some ticket) ∧ a ∉ s.sem.ledger.queue := by
  constructor
  · intro ⟨live, ready⟩
    refine ⟨ticket_of_live live, fun member => ?_⟩
    obtain ⟨_, pends⟩ := (wouldPend_iff sound polled).mpr member
    obtain ⟨_, pending⟩ := pends 0
    obtain ⟨_, _, finished⟩ := ready 0
    rw [pending] at finished
    cases finished
  · intro ⟨⟨ticket, held⟩, outside⟩
    obtain ⟨waiter, live, _⟩ := sound.refines.live held
    refine ⟨by simp [live], fun waker => ?_⟩
    obtain ⟨s', told, _⟩ := sound.pollFuture held waker
    cases result : (s.sem.ledger.poll a ticket waker).2 with
    | pending =>
      have waiting := ((poll_pending_iff _ a _ (polled ticket held) waker).mp result).2
      exact absurd ((sound.valid.waiting a).mpr ⟨ticket, held, waiting⟩) outside
    | ready value =>
      rw [result] at told
      exact ⟨s', value, told⟩

private theorem completed_iff (run : system.Run start (event :: past) state) (polled : a ∈ firstPolls past) :
    WouldPend event.before a ∧ WouldReady event.after a ↔ a ∈ due (view event.before) event.action := by
  obtain ⟨run', sound, sound', _, turned⟩ := run_turn run
  obtain ⟨_, _, _, rfl⟩ := run.last
  have valid : (view event.before).ledger.Valid := sound.valid
  have after : event.after.sem.ledger = (turn (view event.before) event.action).1.ledger := by rw [turned]; rfl
  have active := (run_polled run').inert a
  have activeThen := (run_polled run).inert a
  rw [wouldPend_iff sound fun ticket held inert => (active ticket held).mp inert polled,
    wouldReady_iff sound' fun ticket held inert => (activeThen ticket held).mp inert (firstPolls_grows.subset polled)]
  rw [after]
  constructor
  · intro ⟨queued, ⟨ticket, held⟩, outside⟩
    rcases turn_queue valid event.action with left | ⟨c, _, _, _, _, queue⟩
    · have present := returned_live valid queued held
      rw [left, List.mem_append] at present
      exact present.resolve_right outside
    · exact absurd (queue ▸ List.mem_append_left _ queued) outside
  · intro member
    have queued : a ∈ event.before.sem.ledger.queue := due_queued member
    obtain ⟨ticket, _, held, waiting, _⟩ := valid.queued queued
    have kept : event.action ≠ .dropAcquire a := by
      intro drops
      rw [drops] at member
      simp only [due, reduceCtorEq, if_false, returned] at member
      exact (valid.nodup.mem_erase_iff.mp (Serving.mem_of_served member)).1 rfl
    obtain ⟨ticket', heldThen⟩ := turn_live valid event.action kept held
    refine ⟨queued, ⟨ticket', heldThen⟩, fun still => ?_⟩
    rcases turn_ticket valid event.action heldThen with ⟨_, same⟩ | ⟨_, _, new, _⟩ | ⟨_, _, _, enqueues, _⟩
    · rw [← after] at still heldThen
      obtain ⟨_, _, found, waitingThen, _⟩ := sound'.valid.queued still
      rw [heldThen] at found
      cases found
      simp [same.woken member] at waitingThen
    · exact Nat.lt_irrefl _ (new ▸ Arena.lt_size held)
    · have inert := enqueues.inert
      rw [enqueues.held] at held
      cases held
      simp [inert] at waiting

private theorem woken_iff (run : system.Run start (event :: past) state) (waker : Waker) :
    waker ∈ event.outcome.woken ↔ ∃ b ∈ due (view event.before) event.action, firstWaker b past = some waker := by
  obtain ⟨run', sound, _, _, turned⟩ := run_turn run
  have valid : (view event.before).ledger.Valid := sound.valid
  have told : event.outcome.woken = (turn (view event.before) event.action).2.woken := by rw [turned]
  rw [told, turn_woken valid]
  simp only [Ledger.wakers, List.mem_filterMap]
  apply exists_congr
  intro b
  apply and_congr_right
  intro member
  obtain ⟨ticket, _, held, _⟩ := valid.queued (due_queued member)
  rw [held, Option.bind_some, run_registered run' b (due_queued member) ticket held]

/-- The step lemma: a step reaches the task that polled last exactly when it was the first. -/
theorem delivered_iff (run : system.Run start (event :: past) state) : Delivered past event ↔ SameTask past event := by
  constructor
  · intro delivered a member waker last
    have completed := (completed_iff run (lastPoll_polled last)).mpr member
    exact (woken_iff run waker).mp (delivered a waker last completed.1 completed.2)
  · intro same a waker last pends ready
    have member := (completed_iff run (lastPoll_polled last)).mp ⟨pends, ready⟩
    exact (woken_iff run waker).mpr (same a member waker last)

/-- Along every run, wake-ups reach the task that polled last exactly when each completed
request was polled last by the task it remembers. -/
theorem run_delivered_iff (run : system.Run start history state) : Along Delivered history ↔ Along SameTask history :=
  run.along_iff fun _ _ reached _ => delivered_iff reached

/-- A future that is polled twice by one task is woken there. -/
theorem run_delivered_once :
    ∃ history final, system.play [] (.new 0) [.acquireMany 1, .poll 0 7, .poll 0 7, .addPermits 1] = some (history, final) ∧
      Along SameTask history ∧ (Along Delivered history ↔ Along SameTask history) := by
  obtain ⟨history, final, played, run, same⟩ := system.exists_run (.new 0) ⟨0, rfl⟩
    [.acquireMany 1, .poll 0 7, .poll 0 7, .addPermits 1] (fun history _ => Along SameTask history) (by decide)
  exact ⟨history, final, played, same, run_delivered_iff run⟩

/-- A future that moves from one task to another is woken where it was polled first. -/
theorem moved_future_not_woken :
    ¬ ∀ start state history, system.Run start history state → Along Delivered history := by
  intro delivered
  obtain ⟨history, final, _, run, moved⟩ := system.exists_run (.new 0) ⟨0, rfl⟩
    [.acquireMany 1, .poll 0 7, .poll 0 8, .addPermits 1] (fun history _ => ¬ Along SameTask history) (by decide)
  exact moved ((run.along_iff fun _ _ reached _ => delivered_iff reached).mp (delivered _ _ _ run))

end AsyncUnsync.Proofs.WakerDelivery
