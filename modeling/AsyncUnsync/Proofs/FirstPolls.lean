import AsyncUnsync.Proofs.LedgerSimulation
import AsyncUnsync.Proofs.LedgerTurns

/-! When each future was polled, read off the history of a run. The queue is
ordered by first polls, and a future is inert exactly until its first poll. -/

namespace AsyncUnsync.Proofs.FirstPolls
open Memory Transition SemaphoreSystem LedgerSystem LedgerSimulation LedgerTurns

/-- The futures in the order in which they were first polled. -/
def firstPolls : History State Action Outcome → List Addr
  | [] => []
  | event :: past =>
    match event.action with
    | .poll a _ => if a ∈ firstPolls past then firstPolls past else firstPolls past ++ [a]
    | _ => firstPolls past

/-- What the history says about the requests of a state. -/
structure Polled (history : History State Action Outcome) (state : State) : Prop where
  order : state.sem.ledger.queue.Sublist (firstPolls history)
  nodup : (firstPolls history).Nodup
  allocated : ∀ a ∈ firstPolls history, a < state.sem.ledger.tickets.size
  inert : ∀ a ticket, state.sem.ledger.tickets.get? a = some ticket → (ticket.state = .inert ↔ a ∉ firstPolls history)

variable {past : History State Action Outcome} {event : Event State Action Outcome} {a b : Addr}

theorem firstPolls_other (other : ∀ waker, event.action ≠ .poll b waker) :
    b ∈ firstPolls (event :: past) ↔ b ∈ firstPolls past := by
  simp only [firstPolls]
  split
  next a waker polled =>
    split
    · rfl
    · have different : b ≠ a := by
        intro same
        subst same
        exact other waker polled
      simp [different]
  · rfl

theorem firstPolls_self {waker : Waker} (polls : event.action = .poll a waker) : a ∈ firstPolls (event :: past) := by
  simp only [firstPolls, polls]
  split
  · assumption
  · simp

theorem firstPolls_fresh {waker : Waker} (polls : event.action = .poll a waker) (fresh : a ∉ firstPolls past) :
    firstPolls (event :: past) = firstPolls past ++ [a] := by
  simp only [firstPolls, polls, if_neg fresh]

theorem firstPolls_grows : (firstPolls past).Sublist (firstPolls (event :: past)) := by
  simp only [firstPolls]
  split
  · split
    · exact .refl _
    · exact List.sublist_append_left ..
  · exact .refl _

private theorem firstPolls_nodup (nodup : (firstPolls past).Nodup) : (firstPolls (event :: past)).Nodup := by
  simp only [firstPolls]
  split
  · split
    · exact nodup
    next fresh =>
      refine List.nodup_append.mpr ⟨nodup, List.nodup_singleton _, ?_⟩
      intro b member c single same
      rw [List.mem_singleton] at single
      exact fresh (single ▸ same ▸ member)
  · exact nodup

/-- The step lemma: one call keeps the queue in the order of first polls. -/
private theorem polled_step {start state : State} (run : system.Run start (event :: past) state)
    (polled : Polled past event.before) : Polled (event :: past) event.after := by
  obtain ⟨_, sound, _, enabled, turned⟩ := run_turn run
  have valid : (view event.before).ledger.Valid := sound.valid
  have after : event.after.sem.ledger = (turn (view event.before) event.action).1.ledger := by rw [turned]; rfl
  refine ⟨?_, firstPolls_nodup polled.nodup, ?_, ?_⟩
  · rw [after]
    rcases turn_queue valid event.action with left | ⟨a, waker, ticket, polls, enqueues, queue⟩
    · have shorter : (turn (view event.before) event.action).1.ledger.queue.Sublist
          (returned (view event.before) event.action).1.queue := by
        rw [left]
        exact List.sublist_append_right ..
      exact (shorter.trans (returned_sublist ..)).trans (polled.order.trans firstPolls_grows)
    · have fresh := (polled.inert a ticket enqueues.held).mp enqueues.inert
      rw [queue, firstPolls_fresh polls fresh]
      exact polled.order.append (.refl _)
  · intro b member
    have grows := turn_size (v := view event.before) event.action
    rw [after]
    by_cases polls : ∃ waker, event.action = .poll b waker
    · obtain ⟨waker, polls⟩ := polls
      rw [polls] at enabled
      obtain ⟨ticket, held⟩ := ticket_of_live enabled
      exact Nat.lt_of_lt_of_le (Arena.lt_size held) grows
    · have before := (firstPolls_other (fun waker polling => polls ⟨waker, polling⟩)).mp member
      exact Nat.lt_of_lt_of_le (polled.allocated b before) grows
  · intro b ticket' held
    rw [after] at held
    by_cases polls : ∃ waker, event.action = .poll b waker
    · obtain ⟨waker, polls⟩ := polls
      rw [polls] at enabled held
      obtain ⟨ticket, before⟩ := ticket_of_live enabled
      have active := turn_polled (v := view event.before) before held
      simp [firstPolls_self polls, active]
    · rw [firstPolls_other (fun waker polling => polls ⟨waker, polling⟩)]
      rcases turn_ticket valid event.action held with ⟨ticket, same⟩ | ⟨n, _, rfl, rfl⟩ | ⟨waker, _, polling, _⟩
      · rw [← polled.inert b ticket same.held]
        by_cases unchanged : ticket'.state = ticket.state
        · rw [unchanged]
        · have dueNow := (same.cause unchanged).resolve_right polls
          have waiting : ticket.state = .waiting := by
            obtain ⟨found, _, heldThen, state, _⟩ := valid.queued (due_queued dueNow)
            rw [same.held] at heldThen
            cases heldThen
            exact state
          simp [same.woken dueNow, waiting]
      · apply iff_of_true rfl
        intro member
        exact Nat.lt_irrefl _ (polled.allocated _ member)
      · exact absurd ⟨waker, polling⟩ polls

theorem run_polled {start state : State} {history : History State Action Outcome}
    (run : system.Run start history state) : Polled history state := by
  apply run.invariant Polled
  · rintro ⟨permits, rfl⟩
    exact ⟨List.Sublist.slnil, List.nodup_nil, by simp [firstPolls], fun a ticket held => by
      simp [State.new, (Sound.new permits).1] at held⟩
  · intro past state action outcome after run polled enabled stepped
    exact polled_step (.step run enabled stepped) polled

end AsyncUnsync.Proofs.FirstPolls
