import AsyncUnsync.BufferSystem

/-! A queue that was drained does not keep the buffer it needed when it was full.
The check for the empty queue is skipped while no element was popped since the last
check, so what that check left must still be small. -/

namespace AsyncUnsync.Proofs.DrainedBuffers
open Transition BufferSystem

variable {T B : Type} {start q : Queue T B} {history : History (Queue T B) (Action T) (Option T)}

def Popped (history : History (Queue T B) (Action T) (Option T)) : Prop :=
  ∃ event ∈ history, event.outcome.isSome

/-- The check has happened if nothing was popped since: then an empty queue is small. -/
structure Checked (history : History (Queue T B) (Action T) (Option T)) (q : Queue T B) : Prop where
  counted : q.popCount < 4096
  shrunk : Popped history → q.items = [] → q.popCount = 0 → q.queue.capacity / 4 ≤ 32

theorem tryShrinkQueue_small (q : Queue T B) :
    q.tryShrinkQueue.popCount = 0 ∧ q.tryShrinkQueue.items = q.items ∧
      q.tryShrinkQueue.queue.capacity / 4 ≤ q.len + 32 := by
  have shape : q.tryShrinkQueue.queue.capacity =
      if q.queue.capacity / 4 > q.len + 32 then min q.queue.capacity (max q.len (q.len + 32))
      else q.queue.capacity := by
    unfold Queue.tryShrinkQueue Queue.len
    dsimp only
    split <;> rfl
  refine ⟨rfl, ?_, ?_⟩
  · unfold Queue.tryShrinkQueue
    dsimp only
    split <;> rfl
  · rw [shape]
    split <;> omega

theorem shrinkTo_exact (queue : Deque T) (large : queue.capacity / 4 > queue.len + 32) :
    (queue.shrinkTo (queue.len + 32)).capacity = max queue.len (queue.len + 32) := by
  simp only [Deque.shrinkTo]
  omega

/-- What one pop does: it takes an element and counts it, or it finds nothing and checks. -/
theorem popFront_cases (q : Queue T B) :
    (∃ elem rest, q.items = elem :: rest ∧ q.popFront.2 = some elem ∧ q.popFront.1.items = rest ∧
      (q.popFront.1.popCount = q.popCount + 1 ∧ q.popCount + 1 ≠ 4096 ∨
        q.popFront.1.popCount = 0 ∧ q.popFront.1.queue.capacity / 4 ≤ rest.length + 32)) ∨
    (q.items = [] ∧ q.popFront.2 = none ∧ q.popFront.1.items = [] ∧ q.popFront.1.popCount = 0 ∧
      (q.popCount = 0 ∧ q.popFront.1 = q ∨ q.popFront.1.queue.capacity / 4 ≤ 32)) := by
  obtain ⟨mask, ⟨items, capacity⟩, popCount, waker, extra⟩ := q
  cases items with
  | nil =>
    refine .inr ⟨rfl, ?_⟩
    simp only [Queue.popFront, Deque.popFront]
    split
    next some =>
      obtain ⟨count, items, small⟩ := tryShrinkQueue_small ⟨mask, ⟨([] : List T), capacity⟩, popCount, waker, extra⟩
      exact ⟨trivial, items, count, .inr small⟩
    next none => exact ⟨trivial, rfl, by dsimp only; omega, .inl ⟨by omega, rfl⟩⟩
  | cons elem rest =>
    refine .inl ⟨elem, rest, rfl, ?_⟩
    simp only [Queue.popFront, Deque.popFront]
    split
    next full =>
      obtain ⟨count, items, small⟩ := tryShrinkQueue_small ⟨mask, ⟨rest, capacity⟩, popCount + 1, waker, extra⟩
      exact ⟨trivial, items, .inr ⟨count, small⟩⟩
    next few => exact ⟨trivial, rfl, .inl ⟨rfl, by simpa using few⟩⟩

theorem popFront_checked (checked : Checked history q) :
    Checked (⟨q, .popFront, q.popFront.2, q.popFront.1⟩ :: history) q.popFront.1 := by
  have counted := checked.counted
  rcases popFront_cases q with ⟨elem, rest, _, _, left, counts | ⟨reset, small⟩⟩ | ⟨empty, none, left, reset, small⟩
  · exact ⟨by omega, fun _ _ zero => by omega⟩
  · refine ⟨by omega, fun _ emptied _ => ?_⟩
    rw [left] at emptied
    simpa only [emptied, List.length_nil, Nat.zero_add] using small
  · refine ⟨by omega, fun popped _ _ => ?_⟩
    rcases small with ⟨zero, same⟩ | small
    · -- The check is skipped: the last one, or the one before it, has left this buffer.
      rw [same]
      apply checked.shrunk _ empty zero
      obtain ⟨event, member, some⟩ := popped
      rcases List.mem_cons.mp member with rfl | earlier
      · simp [none] at some
      · exact ⟨event, earlier, some⟩
    · exact small

theorem run_checked (run : (system T B).Run start history q) : Checked history q := by
  apply run.invariant Checked
  · rintro ⟨queue, extra, rfl⟩
    refine ⟨by simp [Queue.new], ?_⟩
    rintro ⟨event, member, _⟩
    cases member
  · intro past state action outcome after _ checked _ stepped
    obtain ⟨rfl, rfl⟩ := Prod.mk.inj (Except.ok.inj stepped)
    cases action with
    | pushAndWake elem capacity => exact ⟨checked.counted, fun _ empty => by simp [Queue.pushInto] at empty⟩
    | popFront => exact popFront_checked checked

/-- Whenever a pop finds the queue empty, and any element was ever popped before, the buffer
that is left is small. The number of pops since the last check never passes 4096. -/
theorem run_drained (run : (system T B).Run start history q) :
    q.popCount < 4096 ∧
      Along (fun past event => event.action = .popFront → event.outcome = none → Popped past →
        event.after.queue.capacity / 4 ≤ 32) history := by
  refine ⟨(run_checked run).counted, ?_⟩
  apply run.along
  intro past event reached action empty popped
  obtain ⟨_, _, stepped, _⟩ := reached.last
  have checked := run_checked reached
  obtain ⟨before, action', outcome, after⟩ := event
  dsimp only at action empty stepped checked ⊢
  subst action
  obtain ⟨rfl, rfl⟩ := Prod.mk.inj (Except.ok.inj stepped)
  obtain ⟨earlier, member, some⟩ := popped
  rcases popFront_cases before with ⟨elem, _, _, found, _⟩ | ⟨_, _, left, reset, _⟩
  · cases found.symm.trans empty
  · exact checked.shrunk ⟨earlier, List.mem_cons_of_mem _ member, some⟩ left reset

/-- A buffer of 1000 slots, of which one is used. -/
theorem run_drained_large :
    ∃ history final, (system Nat Unit).play [] (.new ⟨[], 1000⟩ ()) [.pushAndWake 5 1000, .popFront, .popFront] =
        some (history, final) ∧
      (system Nat Unit).Run (.new ⟨[], 1000⟩ ()) history final ∧
      final.queue = ⟨[], 32⟩ ∧ final.popCount < 4096 ∧
        Along (fun past event => event.action = .popFront → event.outcome = none → Popped past →
          event.after.queue.capacity / 4 ≤ 32) history := by
  obtain ⟨history, final, played, run, drained⟩ := (system Nat Unit).exists_run (.new ⟨[], 1000⟩ ()) ⟨_, _, rfl⟩
    [.pushAndWake 5 1000, .popFront, .popFront] (fun _ final => final.queue = ⟨[], 32⟩) (by decide)
  exact ⟨history, final, played, run, drained, run_drained run⟩

end AsyncUnsync.Proofs.DrainedBuffers
