import Mathlib.Algebra.GroupWithZero.Nat
import AsyncUnsync.Proofs.LedgerSimulation
import AsyncUnsync.Proofs.LedgerTurns

/-! What a future delivers over its whole life: all the permits it asked for when it
first resolves, and nothing when it is polled again. -/

namespace AsyncUnsync.Proofs.AcquireDelivery
open Memory Transition SemaphoreSystem LedgerSystem LedgerSimulation LedgerTurns

def requested (a : Addr) : History State Action Outcome → Option Nat
  | [] => none
  | event :: past =>
    match event.action, event.outcome.reply with
    | .acquireMany n, .future b => if b = a then some n else requested a past
    | _, _ => requested a past

/-- The count of the `Permit` to which a poll of the future at `a` resolves. -/
def yielded (a : Addr) (event : Event State Action Outcome) : List Nat :=
  match event.action, event.outcome.reply with
  | .poll b _, .acquired p => if b = a then (event.after.permits.get? p).toList else []
  | _, _ => []

/-- The counts of all `Permit`s that polls of the future at `a` resolved to. -/
def delivered (a : Addr) (history : History State Action Outcome) : List Nat := gathered (yielded a) history

def failed (a : Addr) : History State Action Outcome → Bool
  | [] => false
  | event :: past =>
    match event.action, event.outcome.reply with
    | .poll b _, .failed => b == a || failed a past
    | _, _ => failed a past

/-- The first poll of a future that resolves to a permit yields all that was asked for, any later one
nothing, and there is none after an error. -/
def DeliversOnce (past : History State Action Outcome) (event : Event State Action Outcome) : Prop :=
  ∀ a waker, event.action = .poll a waker → ∃ n, requested a past = some n ∧
    ∀ count ∈ yielded a event, count = (if delivered a past = [] then n else 0) ∧ failed a past = false

/-- What a request holds, given whether it was delivered. -/
def Owed (done : Prop) [Decidable done] (ticket : Ticket) : Prop :=
  if done then ticket.state = .woken ∧ ticket.permits = 0
  else ticket.state = .woken → ticket.permits = ticket.wants

/-- What the history says about the requests of a state. -/
structure Followed (history : History State Action Outcome) (state : State) : Prop where
  requested : ∀ a ticket, state.sem.ledger.tickets.get? a = some ticket → requested a history = some ticket.wants
  owed : state.sem.ledger.closed = false → ∀ a ticket, state.sem.ledger.tickets.get? a = some ticket →
    Owed (delivered a history ≠ []) ticket
  unborn : ∀ a, state.sem.ledger.tickets.size ≤ a → delivered a history = []
  failed : ∀ a, failed a history = true → state.sem.ledger.closed = true

variable {past history : History State Action Outcome} {event : Event State Action Outcome} {start state : State}
  {v : View} {a b : Addr} {ticket ticket' : Ticket} {waker : Waker}

theorem turn_owed (valid : v.ledger.Valid) {action : Action} (opened : (turn v action).1.ledger.closed = false)
    (other : ∀ waker, action ≠ .poll b waker) (after : (turn v action).1.ledger.tickets.get? b = some ticket') :
    (∃ ticket, v.ledger.tickets.get? b = some ticket ∧ (ticket' = ticket ∨
      ticket.state = .waiting ∧ (ticket'.state = .woken → ticket'.permits = ticket'.wants))) ∨
    b = v.ledger.tickets.size ∧ ticket'.state = .inert := by
  have handout : ∀ (l : Ledger) n, l.Valid →
      (∀ current, l.tickets.get? b = some current → v.ledger.tickets.get? b = some current) →
      (l.addPermits n).1.tickets.get? b = some ticket' → ∃ ticket, v.ledger.tickets.get? b = some ticket ∧ (ticket' = ticket ∨
      ticket.state = .waiting ∧ (ticket'.state = .woken → ticket'.permits = ticket'.wants)) := by
    intro l n valid same after
    obtain ⟨ticket, held, rfl | ⟨_, waits, rfl⟩ | ⟨waits, still, _⟩⟩ := addPermits_held valid n after
    · exact ⟨_, same _ held, .inl rfl⟩
    · exact ⟨ticket, same _ held, .inr ⟨waits, fun _ => rfl⟩⟩
    · exact ⟨ticket, same _ held, .inr ⟨waits, fun woken => by cases still.symm.trans woken⟩⟩
  cases action with
  | tryAcquireMany n =>
    left
    simp only [turn] at after
    cases taken : v.ledger.tryAcquire true n with
    | error => exact ⟨ticket', by simpa only [taken] using after, .inl rfl⟩
    | ok result =>
      obtain ⟨count, l⟩ := result
      have kept := (tryAcquire_tickets taken).1
      exact ⟨ticket', by simpa only [taken, kept] using after, .inl rfl⟩
  | acquireMany n =>
    rcases Arena.of_alloc after with ⟨fresh, rfl⟩ | before
    · exact .inr ⟨fresh, rfl⟩
    · exact .inl ⟨ticket', before, .inl rfl⟩
  | forgetPermit | removePermits => exact .inl ⟨ticket', after, .inl rfl⟩
  | poll a waker =>
    have different : b ≠ a := by
      intro same
      subst same
      exact other waker rfl
    left
    cases held : v.ledger.tickets.get? a with
    | none =>
      simp only [turn, held] at after
      exact ⟨ticket', after, .inl rfl⟩
    | some ticket =>
      rcases turn_poll held waker with ⟨_, turned⟩ | ⟨_, _, _, tickets, _⟩
      · simp only [turned, Ledger.enqueue, Arena.get?_put_ne _ different] at after
        exact ⟨ticket', after, .inl rfl⟩
      · rw [tickets, Arena.get?_put_ne _ different] at after
        exact ⟨ticket', after, .inl rfl⟩
  | dropAcquire a =>
    left
    cases held : v.ledger.tickets.get? a with
    | none =>
      simp only [turn, held] at after
      exact ⟨ticket', after, .inl rfl⟩
    | some ticket =>
      simp only [turn, held] at after
      apply handout _ ticket.permits (valid.forget a) _ after
      intro current found
      exact (Arena.of_free found).2
  | dropPermit p =>
    left
    cases held : v.permits.get? p with
    | none =>
      simp only [turn, held] at after
      exact ⟨ticket', after, .inl rfl⟩
    | some count =>
      simp only [turn, held] at after
      exact handout _ count valid (fun _ held => held) after
  | addPermits n => exact .inl (handout _ n valid (fun _ held => held) after)
  | close =>
    rw [turn_closed] at opened
    simp at opened

theorem turn_resolves (held : v.ledger.tickets.get? b = some ticket) (waker : Waker) :
    (v.ledger.closed = true ∧ (turn v (.poll b waker)).2.reply = .failed) ∨
    (v.ledger.closed = false ∧ (turn v (.poll b waker)).2.reply = .pending ∧ ticket.state ≠ .woken ∧
      ∃ ticket', (turn v (.poll b waker)).1.ledger.tickets.get? b = some ticket' ∧ ticket'.state = .waiting) ∨
    (v.ledger.closed = false ∧ (turn v (.poll b waker)).2.reply = .acquired v.permits.size ∧ ticket.state ≠ .waiting ∧
      (turn v (.poll b waker)).1.permits =
        v.permits.alloc (if ticket.state = .woken then ticket.permits else ticket.wants) ∧
      ∃ ticket', (turn v (.poll b waker)).1.ledger.tickets.get? b = some ticket' ∧ ticket'.state = .woken ∧
        ticket'.permits = 0) := by
  cases closed : v.ledger.closed with
  | true => exact .inl ⟨rfl, by simp only [turn, held, Ledger.poll_closed closed]⟩
  | false =>
    have opened : ¬ v.ledger.closed = true := by simp [closed]
    right
    cases state : ticket.state with
    | waiting =>
      left
      simp only [turn, held, Ledger.poll_waiting opened state]
      exact ⟨trivial, trivial, by simp, ticket, rfl, state⟩
    | woken =>
      right
      simp only [turn, held, Ledger.poll_woken opened state, if_true]
      exact ⟨trivial, trivial, by simp, trivial, _, Arena.get?_put_self held _, state, rfl⟩
    | inert =>
      simp only [turn, held, Ledger.poll_inert opened state]
      by_cases enough : ticket.wants ≤ v.ledger.permits
      · right
        simp only [if_pos enough]
        exact ⟨trivial, trivial, by simp, by simp, _, Arena.get?_put_self held _, rfl, rfl⟩
      · left
        simp only [if_neg enough, Ledger.enqueue]
        exact ⟨trivial, trivial, by simp, _, Arena.get?_put_self held _, rfl⟩

section Records

theorem yielded_other (other : ∀ waker, event.action ≠ .poll a waker) : yielded a event = [] := by
  unfold yielded
  split
  next b waker p polls _ =>
    split
    next same => exact absurd (same ▸ polls) (other waker)
    next => rfl
  next => rfl

theorem polls_of_yielded (yields : yielded a event ≠ []) : ∃ waker, event.action = .poll a waker := by
  by_contra none
  exact yields (yielded_other fun waker polls => none ⟨waker, polls⟩)

theorem failed_other (other : ∀ waker, event.action ≠ .poll a waker) : failed a (event :: past) = failed a past := by
  rw [failed]
  split
  next b waker polls _ =>
    have different : b ≠ a := fun same => other waker (same ▸ polls)
    simp [different]
  next => rfl

theorem delivered_cons : delivered a (event :: past) = delivered a past ++ yielded a event := rfl

theorem requested_kept (other : ∀ n, event.action = .acquireMany n → event.outcome.reply ≠ .future a) :
    requested a (event :: past) = requested a past := by
  rw [requested]
  split
  next n b creates future =>
    have different : b ≠ a := fun same => other n creates (same ▸ future)
    rw [if_neg different]
  next => rfl

end Records

section Step

private theorem polled_step (followed : Followed past event.before) (polls : event.action = .poll a waker)
    (live : event.before.sem.ledger.tickets.get? a = some ticket)
    (turned : turn (view event.before) event.action = (view event.after, event.outcome)) :
    (∀ count ∈ yielded a event, count = (if delivered a past = [] then ticket.wants else 0) ∧ failed a past = false) ∧
    (event.after.sem.ledger.closed = false →
      (yielded a event = [] → event.outcome.reply ≠ .failed → delivered a past = [] ∧
        ∃ ticket', event.after.sem.ledger.tickets.get? a = some ticket' ∧ ticket'.state = .waiting) ∧
      (yielded a event ≠ [] → ∃ ticket', event.after.sem.ledger.tickets.get? a = some ticket' ∧ ticket'.state = .woken ∧
        ticket'.permits = 0)) ∧
    (event.outcome.reply = .failed → event.before.sem.ledger.closed = true) := by
  rw [polls] at turned
  have after : (turn (view event.before) (.poll a waker)).1 = view event.after := congrArg Prod.fst turned
  have outcome : (turn (view event.before) (.poll a waker)).2 = event.outcome := congrArg Prod.snd turned
  have resolves := turn_resolves (v := view event.before) live waker
  rw [after, outcome] at resolves
  rcases resolves with ⟨closed, reply⟩ | ⟨opened, reply, unwoken, waits⟩ | ⟨opened, reply, served, permits, emptied⟩
  · have nothing : yielded a event = [] := by simp [yielded, polls, reply]
    refine ⟨by simp [nothing], ?_, fun _ => closed⟩
    intro opened
    have kept := turn_closed (view event.before) (.poll a waker)
    rw [after] at kept
    simp only [view, reduceCtorEq, decide_false, Bool.or_false] at kept closed
    cases opened.symm.trans (kept.trans closed)
  · have nothing : yielded a event = [] := by simp [yielded, polls, reply]
    have undelivered : delivered a past = [] := by
      have owed := followed.owed opened a ticket live
      by_contra done
      simp only [Owed, done, ne_eq, not_false_eq_true, if_true] at owed
      exact unwoken owed.1
    exact ⟨by simp [nothing], fun _ => ⟨fun _ _ => ⟨undelivered, waits⟩, fun some => absurd nothing some⟩,
      fun failed => by rw [reply] at failed; cases failed⟩
  · have count : yielded a event = [if ticket.state = .woken then ticket.permits else ticket.wants] := by
      have stored : event.after.permits = event.before.permits.alloc
          (if ticket.state = .woken then ticket.permits else ticket.wants) := permits
      have named : event.outcome.reply = .acquired event.before.permits.size := reply
      simp [yielded, polls, named, stored]
    have unfailed : failed a past = false := by
      cases failed : failed a past with
      | false => rfl
      | true => cases opened.symm.trans (followed.failed a failed)
    refine ⟨?_, fun _ => ⟨fun nothing => by simp [count] at nothing, fun _ => emptied⟩,
      fun failed => by rw [reply] at failed; cases failed⟩
    intro amount member
    refine ⟨?_, unfailed⟩
    rw [count, List.mem_singleton] at member
    subst member
    have owed := followed.owed opened a ticket live
    simp only [Owed] at owed
    by_cases done : delivered a past = []
    · simp only [done, ne_eq, not_true_eq_false, if_false] at owed
      rw [if_pos done]
      split
      next woken => exact owed woken
      next => rfl
    · simp only [done, ne_eq, not_false_eq_true, if_true] at owed
      rw [if_neg done, if_pos owed.1, owed.2]

private theorem unpolled (enabled : system.Enabled event.before event.action) (polls : event.action = .poll a waker)
    (beyond : event.before.sem.ledger.tickets.size ≤ a) : False := by
  rw [polls] at enabled
  obtain ⟨ticket, live⟩ := ticket_of_live enabled
  exact absurd beyond (Nat.not_le_of_lt (Arena.lt_size live))

private theorem created_at {n : Nat} (creates : event.action = .acquireMany n)
    (turned : turn (view event.before) event.action = (view event.after, event.outcome)) :
    event.outcome.reply = .future event.before.sem.ledger.tickets.size := by
  rw [creates] at turned
  exact (congrArg (fun result => result.2.reply) turned).symm

private theorem requested_step (followed : Followed past event.before) (valid : (view event.before).ledger.Valid)
    (turned : turn (view event.before) event.action = (view event.after, event.outcome))
    (held : event.after.sem.ledger.tickets.get? a = some ticket') : requested a (event :: past) = some ticket'.wants := by
  have after : (turn (view event.before) event.action).1.ledger.tickets.get? a = some ticket' := by rw [turned]; exact held
  have known : ∀ ticket, event.before.sem.ledger.tickets.get? a = some ticket →
      requested a (event :: past) = some ticket.wants := by
    intro ticket live
    rw [requested_kept, followed.requested a ticket live]
    intro n creates future
    rw [created_at creates turned] at future
    cases future
    exact absurd (Arena.lt_size live) (Nat.lt_irrefl _)
  rcases turn_ticket valid event.action after with ⟨ticket, continues⟩ | ⟨n, creates, rfl, rfl⟩ | ⟨_, ticket, _, enqueues, rfl⟩
  · rw [known ticket continues.held, continues.aged.wants]
  · have reply := created_at creates turned
    simp [requested, creates, reply, view]
  · exact known ticket enqueues.held

private theorem owed_step (followed : Followed past event.before) (valid : (view event.before).ledger.Valid)
    (enabled : system.Enabled event.before event.action)
    (turned : turn (view event.before) event.action = (view event.after, event.outcome))
    (opened : event.after.sem.ledger.closed = false) (held : event.after.sem.ledger.tickets.get? a = some ticket') :
    Owed (delivered a (event :: past) ≠ []) ticket' := by
  have after : (turn (view event.before) event.action).1.ledger.tickets.get? a = some ticket' := by rw [turned]; exact held
  have closed := turn_closed (view event.before) event.action
  rw [turned] at closed
  have unclosed : event.before.sem.ledger.closed = false := by
    have both := closed.symm.trans opened
    simp only [Bool.or_eq_false_iff] at both
    exact both.1
  rw [delivered_cons]
  by_cases polls : ∃ waker, event.action = .poll a waker
  · obtain ⟨waker, polls⟩ := polls
    rw [polls] at enabled
    obtain ⟨ticket, live⟩ := ticket_of_live enabled
    obtain ⟨_, settles, fails⟩ := polled_step followed polls live turned
    obtain ⟨waits, resolves⟩ := settles opened
    by_cases nothing : yielded a event = []
    · have unfailed : event.outcome.reply ≠ .failed := fun failed => by cases unclosed.symm.trans (fails failed)
      obtain ⟨undelivered, current, found, state⟩ := waits nothing unfailed
      cases held.symm.trans found
      simp [Owed, nothing, undelivered, state]
    · obtain ⟨current, found, state, permits⟩ := resolves nothing
      cases held.symm.trans found
      simp [Owed, nothing, state, permits]
  · have other : ∀ waker, event.action ≠ .poll a waker := fun waker polling => polls ⟨waker, polling⟩
    rw [yielded_other other, List.append_nil]
    have still : (turn (view event.before) event.action).1.ledger.closed = false := by rw [turned]; exact opened
    rcases turn_owed valid still other after with ⟨ticket, live, rfl | ⟨waits, served⟩⟩ | ⟨rfl, inert⟩
    · exact followed.owed unclosed a _ live
    · have owed := followed.owed unclosed a ticket live
      by_cases done : delivered a past = []
      · simpa [Owed, done] using served
      · simp only [Owed, done, ne_eq, not_false_eq_true, if_true] at owed
        cases waits.symm.trans owed.1
    · have undelivered := followed.unborn _ (Nat.le_refl _)
      simp only [view] at undelivered ⊢
      simp [Owed, undelivered, inert]

theorem followed_step {final : State} (run : system.Run start (event :: past) final) (followed : Followed past event.before) :
    Followed (event :: past) event.after := by
  obtain ⟨_, sound, _, enabled, turned⟩ := run_turn run
  have valid : (view event.before).ledger.Valid := sound.valid
  refine ⟨fun a ticket held => requested_step followed valid turned held,
    fun opened a ticket held => owed_step followed valid enabled turned opened held, ?_, ?_⟩
  · intro a beyond
    have size := turn_size (v := view event.before) event.action
    rw [turned] at size
    rw [delivered_cons, followed.unborn a (Nat.le_trans size beyond), List.nil_append]
    exact yielded_other fun waker polls => unpolled enabled polls (Nat.le_trans size beyond)
  · intro a fails
    have closed := turn_closed (view event.before) event.action
    rw [turned] at closed
    have earlier : event.before.sem.ledger.closed = true → event.after.sem.ledger.closed = true := by
      intro before
      rw [show event.after.sem.ledger.closed = _ from closed]
      simp [view, before]
    apply earlier
    by_cases polls : ∃ waker, event.action = .poll a waker
    · obtain ⟨waker, polls⟩ := polls
      have able := enabled
      rw [polls] at able
      obtain ⟨ticket, live⟩ := ticket_of_live able
      obtain ⟨_, _, now⟩ := polled_step followed polls live turned
      by_cases reply : event.outcome.reply = .failed
      · exact now reply
      · apply followed.failed a
        rw [AcquireDelivery.failed, polls] at fails
        split at fails
        next _ _ failed => exact absurd failed reply
        next => exact fails
    · rw [failed_other fun waker polling => polls ⟨waker, polling⟩] at fails
      exact followed.failed a fails

theorem run_followed (run : system.Run start history state) : Followed history state := by
  apply run.invariant Followed
  · intro initial
    obtain ⟨permits, rfl⟩ := initial
    refine ⟨?_, ?_, fun _ _ => rfl, ?_⟩
    · intro a ticket held
      cases held
    · intro _ a ticket held
      cases held
    · intro a fails
      cases fails
  · intro past before action outcome after run followed enabled stepped
    exact followed_step (.step run enabled stepped) followed

end Step

theorem delivers_once (run : system.Run start (event :: past) state) : DeliversOnce past event := by
  intro a waker polls
  obtain ⟨earlier, _, _, enabled, turned⟩ := run_turn run
  rw [polls] at enabled
  obtain ⟨ticket, live⟩ := ticket_of_live enabled
  have followed := run_followed earlier
  exact ⟨ticket.wants, followed.requested a ticket live, (polled_step followed polls live turned).1⟩

theorem yielded_once (a : Addr) (event : Event State Action Outcome) :
    yielded a event = [] ∨ ∃ count, yielded a event = [count] := by
  unfold yielded
  split
  · split
    · cases event.after.permits.get? _ <;> simp
    · exact .inl rfl
  · exact .inl rfl

/-- All that a future ever yields is what it was created for. -/
theorem delivered_sum (run : system.Run start history state) :
    ∀ a n, requested a history = some n → delivered a history = [] ∨ (delivered a history).sum = n := by
  induction run with
  | start => exact fun _ _ _ => .inl rfl
  | @step past before after action outcome run enabled stepped ih =>
    intro a n created
    have reached := System.Run.step run enabled stepped
    obtain ⟨_, _, _, _, turned⟩ := run_turn reached
    have followed := run_followed run
    by_cases beyond : before.sem.ledger.tickets.size ≤ a
    · left
      rw [delivered_cons, followed.unborn a beyond, List.nil_append]
      exact (yielded_other fun waker polls => unpolled enabled polls beyond)
    · rw [requested_kept fun m creates future => by
        cases Reply.future.inj ((created_at creates turned).symm.trans future)
        exact beyond (Nat.le_refl _)] at created
      rw [delivered_cons]
      rcases yielded_once a ⟨before, action, outcome, after⟩ with nothing | ⟨count, yields⟩
      · rw [nothing, List.append_nil]
        exact ih a n created
      · right
        have some : yielded a ⟨before, action, outcome, after⟩ ≠ [] := by simp [yields]
        obtain ⟨waker, polls⟩ := polls_of_yielded some
        obtain ⟨m, known, once⟩ := delivers_once reached a waker polls
        cases known.symm.trans created
        have amount := (once count (by rw [yields]; simp)).1
        rw [yields, List.sum_append, List.sum_singleton, amount]
        rcases ih a n created with none | all
        · simp [none]
        · by_cases none : delivered a past = []
          · simp [none]
          · simp [none, all]

/-- Every future delivers what was asked for, once, along every run. -/
theorem run_delivers_once (run : system.Run start history state) :
    Along DeliversOnce history ∧
      ∀ a n, requested a history = some n → delivered a history = [] ∨ (delivered a history).sum = n :=
  ⟨run.along fun _ _ reached => delivers_once reached, delivered_sum run⟩

/-- A future that collects a part, is filled in two portions, and is polled once more than needed. -/
theorem run_delivers_portions :
    ∃ history state, system.play [] (.new 1)
        [.acquireMany 3, .poll 0 7, .addPermits 1, .addPermits 2, .poll 0 7, .poll 0 7] = some (history, state) ∧
      delivered 0 history = [3, 0] ∧ Along DeliversOnce history ∧
        ∀ a n, requested a history = some n → delivered a history = [] ∨ (delivered a history).sum = n := by
  obtain ⟨history, state, played, run, counts⟩ := system.exists_run (.new 1) ⟨1, rfl⟩
    [.acquireMany 3, .poll 0 7, .addPermits 1, .addPermits 2, .poll 0 7, .poll 0 7]
    (fun history _ => delivered 0 history = [3, 0]) (by decide)
  exact ⟨history, state, played, counts, run_delivers_once run⟩

end AsyncUnsync.Proofs.AcquireDelivery
