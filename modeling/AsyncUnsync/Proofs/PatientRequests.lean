import AsyncUnsync.Library.Patience
import AsyncUnsync.Proofs.ServiceOrder

/-! Nobody starves. While all requests are for one permit, whoever waits is served when as many
permits were given back as there are requests up to and including its own. -/

namespace AsyncUnsync.Proofs.PatientRequests
open Memory Serving Transition SemaphoreSystem LedgerSystem LedgerSimulation LedgerTurns ServiceOrder

/-- The permits that a call gives back: added ones, those of a dropped permit, and those of a dropped request. -/
def given (event : Event State Action Outcome) : Nat :=
  match event.action with
  | .addPermits n => n
  | .dropPermit p => (event.before.permits.get? p).getD 0
  | .dropAcquire a => ((event.before.sem.memory.get? a).map Waiter.permits).getD 0
  | _ => 0

def Modest (l : Ledger) : Prop := ∀ a ticket, l.tickets.get? a = some ticket → ticket.wants ≤ 1

variable {start state final : State} {past later history : History State Action Outcome}
  {event : Event State Action Outcome} {a : Addr} {l : Ledger} {v : View} {action : Action}

theorem given_returned : given event = (returned (view event.before) event.action).2 := by
  have seen : ∀ a, (event.before.sem.ledger.tickets.get? a).map Ticket.permits =
      (event.before.sem.memory.get? a).map Waiter.permits := by
    intro a
    simp only [Semaphore.ledger, Arena.get?_map, Option.map_map]
    rfl
  unfold given
  cases event.action with
  | dropAcquire a => exact congrArg (fun count => count.getD 0) (seen a).symm
  | _ => rfl

private theorem need_one (valid : l.Valid) (modest : Modest l) (member : a ∈ l.queue) : l.need a = 1 := by
  obtain ⟨ticket, _, held, _, _, short⟩ := valid.queued member
  have few := modest a ticket held
  rw [Ledger.need_eq held]
  omega

private theorem returned_fine (valid : v.ledger.Valid) (modest : Modest v.ledger) (action : Action) :
    (returned v action).1.Valid ∧ Modest (returned v action).1 := by
  cases action with
  | dropAcquire a => exact ⟨valid.forget a, fun b ticket held => modest b ticket (Arena.of_free held).2⟩
  | _ => exact ⟨valid, modest⟩

private theorem due_one (valid : v.ledger.Valid) (modest : Modest v.ledger) (ordinary : action ≠ .close) :
    due v action = (returned v action).1.queue.take (returned v action).2 := by
  obtain ⟨fine, few⟩ := returned_fine valid modest action
  rw [due, if_neg ordinary, Ledger.handout, serve_one fun b member => need_one fine few member]

theorem run_modest (run : system.Run start history state)
    (single : ∀ event ∈ history, ∀ n, event.action = .acquireMany n → n ≤ 1) : Modest state.sem.ledger := by
  induction run with
  | start initial =>
    obtain ⟨permits, rfl⟩ := initial
    intro a ticket held
    simp [State.new, (Sound.new permits).1] at held
  | step run enabled stepped ih =>
    have modest := ih fun event member => single event (List.mem_cons_of_mem _ member)
    obtain ⟨_, sound, _, _, turned⟩ := run_turn (.step run enabled stepped)
    intro a ticket held
    have after := congrArg (fun result => result.1.ledger.tickets.get? a) turned
    rcases turn_ticket sound.valid _ (after.trans held) with ⟨before, same⟩ | ⟨n, called, _, rfl⟩ | ⟨_, before, _, enqueues, rfl⟩
    · rw [same.aged.wants]
      exact modest a before same.held
    · exact single _ (List.mem_cons_self ..) n called
    · exact modest a before enqueues.held

/-- The step lemma: a call ends the wait, or brings it nearer to its end. -/
private theorem step_nears (run : system.Run start (event :: past) state) (modest : Modest event.before.sem.ledger)
    (waits : a ∈ event.before.sem.queue) :
    (a ∈ event.after.sem.queue ∧ event.after.sem.queue.idxOf a + given event ≤ event.before.sem.queue.idxOf a) ∨
      a ∈ serves event ∨ a ∈ cancels event := by
  obtain ⟨conserved, served, _⟩ := queue_step run
  obtain ⟨_, sound, _⟩ := run_turn run
  have valid : (view event.before).ledger.Valid := sound.valid
  by_cases ends : a ∈ serves event ∨ a ∈ cancels event
  · exact .inr ends
  rw [not_or] at ends
  have stays : a ∈ event.before.sem.queue.filter (fun a => a ∉ cancels event) := by simp [waits, ends.2]
  have still : a ∈ event.after.sem.queue := by
    have member : a ∈ serves event ++ event.after.sem.queue := conserved ▸ List.mem_append_left _ stays
    exact (List.mem_append.mp member).resolve_left ends.1
  refine .inl ⟨still, ?_⟩
  have nodup : event.before.sem.queue.Nodup := valid.nodup
  have nearer : (event.before.sem.queue.filter (fun a => a ∉ cancels event) ++ joins event).idxOf a ≤
      event.before.sem.queue.idxOf a := by
    rw [List.idxOf_append_of_mem stays]
    exact idxOf_le_of_sublist List.filter_sublist nodup stays
  rw [conserved, List.idxOf_append_of_notMem ends.1] at nearer
  have enough : given event ≤ (serves event).length := by
    by_cases closes : event.action = .close
    · simp [given, closes]
    · rw [served, due_one valid modest closes] at ends ⊢
      rw [remaining valid.nodup] at stays
      rw [given_returned, List.length_take]
      by_contra short
      rw [List.take_of_length_le (by omega)] at ends
      exact ends.1 stays
  omega

/-- Whoever waits behind `k` others is served, at the latest when `k + 1` permits were given back,
unless it cancels. -/
theorem requests_served {since : Event State Action Outcome} (run : system.Run start (later ++ since :: past) final)
    (single : ∀ event ∈ later ++ since :: past, ∀ n, event.action = .acquireMany n → n ≤ 1)
    (waits : a ∈ since.after.sem.queue) (enough : since.after.sem.queue.idxOf a < (later.map given).sum) :
    ∃ event ∈ later, a ∈ serves event ∨ a ∈ cancels event := by
  have nears : ∀ event ∈ later, a ∈ event.before.sem.queue →
      (a ∈ event.after.sem.queue ∧ event.after.sem.queue.idxOf a + given event ≤ event.before.sem.queue.idxOf a) ∨
        a ∈ serves event ∨ a ∈ cancels event := by
    intro event member waits
    obtain ⟨recent, before, rfl⟩ := List.append_of_mem member
    rw [List.append_assoc, List.cons_append] at run single
    have reached := run.upTo
    have modest := run_modest reached.last.1 fun other earlier =>
      single other (List.mem_append_right _ (List.mem_cons_of_mem _ earlier))
    exact step_nears reached modest waits
  rcases run.nears (fun state => a ∈ state.sem.queue) (fun state => state.sem.queue.idxOf a) nears waits with ⟨_, bounded⟩ | ends
  · omega
  · exact ends

/-- The second of two waiters is served with the second permit that comes back. -/
theorem requests_served_second :
    ∃ history final, system.play [] (.new 1)
        [.tryAcquireMany 1, .acquireMany 1, .acquireMany 1, .poll 0 7, .poll 1 8, .dropPermit 0, .addPermits 1] =
          some (history, final) ∧
      ∃ event ∈ history.take 2, 1 ∈ serves event ∨ 1 ∈ cancels event := by
  obtain ⟨history, final, played, run, single, waits, enough⟩ := system.exists_run (.new 1) ⟨1, rfl⟩
    [.tryAcquireMany 1, .acquireMany 1, .acquireMany 1, .poll 0 7, .poll 1 8, .dropPermit 0, .addPermits 1]
    (fun history _ =>
      (∀ event ∈ history, event.action ∈
        [.tryAcquireMany 1, .acquireMany 1, .poll 0 7, .poll 1 8, .dropPermit 0, .addPermits 1]) ∧
      ((history.drop 2).head?.map fun event => event.after.sem.queue) = some [0, 1] ∧ ((history.take 2).map given).sum = 2)
    (by decide)
  refine ⟨history, final, played, ?_⟩
  cases split : history.drop 2 with
  | nil => simp [split] at waits
  | cons since past =>
    rw [split] at waits
    have queue : since.after.sem.queue = [0, 1] := Option.some.inj waits
    rw [← List.take_append_drop 2 history, split] at run single
    refine requests_served run ?_ (queue ▸ by decide) (by rw [queue, enough]; decide)
    intro event member n called
    have one : n = 1 := by simpa [called] using single event member
    exact Nat.le_of_eq one

end AsyncUnsync.Proofs.PatientRequests
