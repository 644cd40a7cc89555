import AsyncUnsync.Proofs.Disconnection

/-! What leaked senders do to the next split. A reset of the mask adds a sender to
those it counts already, and nobody takes a leaked one away except the close of the
unsplit channel, which clears the whole word. -/

namespace AsyncUnsync.Proofs.LeakedSenders
open Transition Census CensusCounts

/-- The senders that were leaked and are still counted, after one more move. -/
def recount (lost : Nat) : Move → Nat
  | .lose => lost + 1
  | .close false => 0
  | _ => lost

def lost : History Census Move Unit → Nat
  | [] => 0
  | event :: past => recount (lost past) event.action

/-- What the mask says in every run. A receiver is told of the end when nobody is counted. -/
structure Tracked (lost : Nat) (c : Census) : Prop where
  total : c.mask.bits / 2 = c.senders + lost
  ended : c.receiver = true → c.senders + lost = 0 → c.mask.bits % 2 = 1

/-- What the mask promises to the next split, to the senders and to the receiver. -/
structure Restarts (lost : Nat) (c : Census) : Prop where
  split : c.enabled .split = true → ((∃ mask, c.mask.reset true = .ok mask ∧ mask.bits / 2 = 1) ↔ lost = 0)
  ended : c.receiver = true → c.senders = 0 → lost = 0 → c.mask.isClosed true = true
  drops : 0 < c.senders → ∃ result, c.mask.decreaseSenderCount = .ok result
  clones : usizeMax < c.mask.bits + 2 →
    c.mask.increaseSenderCount = .error .overflow ∧ Mask.increaseInPlace.run c.mask = .error .overflow c.mask

section Moves
variable {c c' : Census} {move : Move} {count : Nat}

theorem Tracked.new : Tracked 0 Census.new := ⟨rfl, fun alive => by cases alive⟩

theorem step_tracked (tracked : Tracked count c) (able : enabled c move = true) (done : step c move = .ok c') :
    Tracked (recount count move) c' := by
  obtain ⟨total, ended⟩ := tracked
  cases move with
  | stay =>
    cases done
    exact ⟨total, ended⟩
  | split =>
    obtain ⟨bits, senders, _⟩ := split_ok done
    exact ⟨by simp only [recount]; omega, fun _ none => by omega⟩
  | join =>
    obtain ⟨bits, senders, _⟩ := join_ok done
    exact ⟨by simp only [recount]; omega, fun _ none => by omega⟩
  | leave =>
    simp only [enabled, bne_iff_ne, ne_eq] at able
    obtain ⟨_, senders, _, ⟨few, bits⟩ | ⟨many, bits⟩⟩ := leave_ok done
    · exact ⟨by simp only [recount]; omega, fun _ _ => by omega⟩
    · exact ⟨by simp only [recount]; omega, fun _ none => by simp only [recount] at none; omega⟩
  | lose =>
    simp only [enabled, bne_iff_ne, ne_eq] at able
    cases done
    exact ⟨by simp only [recount]; omega, fun _ none => by simp only [recount] at none; omega⟩
  | close counted =>
    cases done
    cases counted with
    | false =>
      simp only [enabled, Bool.and_eq_true, beq_iff_eq] at able
      exact ⟨by simp [recount, Mask.close, able.2], fun _ _ => rfl⟩
    | true =>
      have none : true = false → c.mask.bits / 2 = 0 := by simp
      have bits := close_bits none
      exact ⟨bits.1.trans total, fun _ _ => bits.2⟩
  | retire =>
    cases done
    have none : true = false → c.mask.bits / 2 = 0 := by simp
    have bits := close_bits none
    exact ⟨bits.1.trans total, fun alive => by cases alive⟩
  | abandon =>
    cases done
    exact ⟨total, fun alive => by cases alive⟩

theorem reset_one {mask : Mask} :
    (∃ after, mask.reset true = .ok after ∧ after.bits / 2 = 1) ↔ mask.bits / 2 = 0 := by
  constructor
  · rintro ⟨after, reset, one⟩
    have bits := Mask.reset_ok reset
    omega
  · intro none
    have room : mask.bits + 2 ≤ usizeMax := by
      have large : 4 ≤ usizeMax := by decide
      omega
    refine ⟨⟨mask.bits + 2⟩, ?_, by simp only; omega⟩
    simp [Mask.reset, checkedAdd_of_le room]

theorem restarts_of_tracked (tracked : Tracked count c) : Restarts count c := by
  obtain ⟨total, ended⟩ := tracked
  refine ⟨?_, ?_, ?_, Mask.increaseInPlace_full⟩
  · intro able
    simp only [enabled, Bool.and_eq_true, beq_iff_eq] at able
    rw [reset_one, total, able.2, Nat.zero_add]
  · intro alive none kept
    rw [Mask.isClosed_counted, ended alive (by omega)]
    rfl
  · intro some
    have enough : 2 ≤ c.mask.bits := by omega
    simp only [Mask.decreaseSenderCount, checkedSub_of_le enough, ok_bind]
    split <;> exact ⟨_, rfl⟩

end Moves

section Run
variable {start state : Census} {past history : History Census Move Unit} {event : Event Census Move Unit}

theorem run_tracked (run : system.Run start history state) : Tracked (lost history) state := by
  apply run.invariant fun history c => Tracked (lost history) c
  · intro initial
    cases initial
    exact .new
  · intro past before move _ after _ tracked able stepped
    exact step_tracked tracked able (step_ok stepped)

theorem split_count (run : system.Run start (event :: past) event.after) (split : event.action = .split) :
    event.after.mask.bits / 2 = 1 ↔ lost past = 0 := by
  obtain ⟨earlier, able, stepped, _⟩ := run.last
  have tracked := run_tracked earlier
  rw [split] at able stepped
  simp only [system, enabled, Bool.and_eq_true, beq_iff_eq] at able
  obtain ⟨bits, _, _⟩ := split_ok (step_ok stepped)
  have total := tracked.total
  omega

end Run

section Channels
variable {T : Type} {build : Build}

section Bounded
open BoundedSystem BoundedCensus BoundedValid BoundedClients Disconnection.Bounded
variable {start final : State T} {history : History (State T) (Action T) (Outcome T)}

theorem holds_none (coherent : Coherent final.clients) (receiver : final.clients.handles.receiver = true)
    (none : final.clients.senderCount = 0) : holds final.clients = 0 := by
  have permits : final.clients.permits.count (fun _ => true) = 0 := by
    apply Memory.Arena.sum_eq_zero
    intro p via held
    have some := Handles.usable_sender (coherent.borrowed via (.inl ⟨p, held⟩)) receiver
    simp only [Clients.senderCount] at none
    omega
  simp only [Clients.senderCount] at none
  simp only [holds]
  omega

theorem bounded_restarts (run : (BoundedSystem.system T build).Run start history final) :
    Restarts (lost (history.map told)) (census final) ∧
      Along (fun past event => splits event.action = true →
        (event.after.queue.mask.bits / 2 = 1 ↔ lost (past.map told) = 0)) history ∧
      ((∀ event ∈ history, losesPermit event.action = false) → final.clients.handles.receiver = true →
        final.clients.senderCount = 0 → lost (history.map told) = 0 → final.queue.items = [] →
        ∃ effect, final.queue.tryRecv true = .ok effect ∧ effect.value = .error .disconnected) := by
  have restarts := restarts_of_tracked (run_tracked (run_census run))
  refine ⟨restarts, ?_, ?_⟩
  · apply run.along
    intro past event reached parts
    apply split_count (run_census reached)
    cases action : event.action with
    | split | intoSplit => simp [told, Event.image, action, move]
    | _ => simp [action, splits] at parts
  · intro kept receiver none clean empty
    have reserved := ClosedFlags.run_reserved run kept
    rw [holds_none (run_valid run).coherent receiver none] at reserved
    exact tryRecv_disconnected.mpr ⟨empty, reserved, restarts.ended receiver none clean⟩

end Bounded

section Unbounded
open UnboundedSystem UnboundedCensus Disconnection.Unbounded
variable {start final : State T} {history : History (State T) (Action T) (Outcome T)}

theorem unbounded_restarts (run : (UnboundedSystem.system T build).Run start history final) :
    Restarts (lost (history.map told)) (census final) ∧
      Along (fun past event => splits event.action = true →
        (event.after.queue.mask.bits / 2 = 1 ↔ lost (past.map told) = 0)) history ∧
      (final.handles.receiver = true → final.handles.senderCount = 0 → lost (history.map told) = 0 →
        final.queue.items = [] →
        ∃ effect, final.queue.tryRecv true = .ok effect ∧ effect.value = .error .disconnected) := by
  have restarts := restarts_of_tracked (run_tracked (run_census run))
  refine ⟨restarts, ?_, ?_⟩
  · apply run.along
    intro past event reached parts
    apply split_count (run_census reached)
    cases action : event.action with
    | split | intoSplit => simp [told, Event.image, action, move]
    | _ => simp [action, splits] at parts
  · intro receiver none clean empty
    exact tryRecv_disconnected.mpr ⟨empty, restarts.ended receiver none clean⟩

end Unbounded

/-- Along every run of either channel, whatever is leaked, a split counts exactly one sender
just when no sender was lost since the unsplit channel was last closed, if ever; then the
receiver of the split is told of the end when all senders were dropped. No count wraps. -/
theorem run_restarts (T : Type) (build : Build) :
    (∀ start history final, (BoundedSystem.system T build).Run start history final →
      Restarts (lost (history.map BoundedCensus.told)) (BoundedCensus.census final) ∧
        Along (fun past event => BoundedValid.splits event.action = true →
          (event.after.queue.mask.bits / 2 = 1 ↔ lost (past.map BoundedCensus.told) = 0)) history ∧
        ((∀ event ∈ history, BoundedCensus.losesPermit event.action = false) →
          final.clients.handles.receiver = true → final.clients.senderCount = 0 →
          lost (history.map BoundedCensus.told) = 0 → final.queue.items = [] →
          ∃ effect, final.queue.tryRecv true = .ok effect ∧ effect.value = .error .disconnected)) ∧
    ∀ start history final, (UnboundedSystem.system T build).Run start history final →
      Restarts (lost (history.map UnboundedCensus.told)) (UnboundedCensus.census final) ∧
        Along (fun past event => Disconnection.Unbounded.splits event.action = true →
          (event.after.queue.mask.bits / 2 = 1 ↔ lost (past.map UnboundedCensus.told) = 0)) history ∧
        (final.handles.receiver = true → final.handles.senderCount = 0 →
          lost (history.map UnboundedCensus.told) = 0 → final.queue.items = [] →
          ∃ effect, final.queue.tryRecv true = .ok effect ∧ effect.value = .error .disconnected) :=
  ⟨fun _ _ _ run => bounded_restarts run, fun _ _ _ run => unbounded_restarts run⟩

/-- A sender was leaked, but the channel was closed before it was split again. -/
theorem run_restarts_closed :
    (∃ history final, (BoundedSystem.system Nat .checked).play [] (.new (.fromIter 1 []))
        [.split, .forgetSender 0, .dropReceiver, .close false, .split, .dropSender 1] = some (history, final) ∧
      ∃ effect, final.queue.tryRecv true = .ok effect ∧ effect.value = .error .disconnected) ∧
    ∃ history final, (UnboundedSystem.system Nat .checked).play [] (.new (.fromIter []))
        [.split, .forgetSender 0, .dropReceiver, .close false, .split, .dropSender 1] = some (history, final) ∧
      ∃ effect, final.queue.tryRecv true = .ok effect ∧ effect.value = .error .disconnected := by
  constructor
  · obtain ⟨history, final, played, run, kept, receiver, none, clean, empty⟩ := (BoundedSystem.system Nat .checked).exists_run
      (.new (.fromIter 1 [])) ⟨_, .inr (.inr ⟨1, by decide, [], by decide, rfl⟩), rfl⟩
      [.split, .forgetSender 0, .dropReceiver, .close false, .split, .dropSender 1]
      (fun history final => (∀ event ∈ history, BoundedCensus.losesPermit event.action = false) ∧
        final.clients.handles.receiver = true ∧ final.clients.senderCount = 0 ∧
        lost (history.map BoundedCensus.told) = 0 ∧ final.queue.items = []) (by decide)
    exact ⟨history, final, played, ((run_restarts Nat .checked).1 _ _ _ run).2.2 kept receiver none clean empty⟩
  · obtain ⟨history, final, played, run, receiver, none, clean, empty⟩ := (UnboundedSystem.system Nat .checked).exists_run
      (.new (.fromIter [])) ⟨_, .inr (.inr ⟨[], rfl⟩), rfl⟩
      [.split, .forgetSender 0, .dropReceiver, .close false, .split, .dropSender 1]
      (fun history final => final.handles.receiver = true ∧ final.handles.senderCount = 0 ∧
        lost (history.map UnboundedCensus.told) = 0 ∧ final.queue.items = []) (by decide)
    exact ⟨history, final, played, ((run_restarts Nat .checked).2 _ _ _ run).2.2 receiver none clean empty⟩

/-- Two handles of a split are leaked. The next split counts two senders, so the receiver
waits for one that does not exist, after the only one was dropped. -/
theorem split_counts_leaked :
    (∃ history final, (UnboundedSystem.system Nat .checked).play [] (.new (.fromIter []))
        [.split, .forgetSender 0, .forgetReceiver, .split, .dropSender 1, .tryRecv true] = some (history, final) ∧
      (UnboundedSystem.system Nat .checked).Run (.new (.fromIter [])) history final ∧
      history.map (fun event => (event.after.queue.mask.bits / 2, event.after.handles.senderCount)) =
        [(1, 0), (1, 0), (2, 1), (1, 0), (1, 0), (1, 1)] ∧
      history.head?.map (fun event => event.outcome.reply) = some (.received (.error .empty))) ∧
    ∃ history final, (BoundedSystem.system Nat .checked).play [] (.new (.fromIter 1 []))
        [.split, .forgetSender 0, .forgetReceiver, .intoSplit, .dropSender 1, .tryRecv true] = some (history, final) ∧
      (BoundedSystem.system Nat .checked).Run (.new (.fromIter 1 [])) history final ∧
      history.map (fun event => (event.after.queue.mask.bits / 2, event.after.clients.senderCount)) =
        [(1, 0), (1, 0), (2, 1), (1, 0), (1, 0), (1, 1)] ∧
      history.head?.map (fun event => event.outcome.reply) = some (.received (.error .empty)) := by
  constructor
  · exact (UnboundedSystem.system Nat .checked).exists_run (.new (.fromIter []))
      ⟨_, .inr (.inr ⟨[], rfl⟩), rfl⟩ [.split, .forgetSender 0, .forgetReceiver, .split, .dropSender 1, .tryRecv true]
      (fun history _ =>
        history.map (fun event => (event.after.queue.mask.bits / 2, event.after.handles.senderCount)) =
          [(1, 0), (1, 0), (2, 1), (1, 0), (1, 0), (1, 1)] ∧
        history.head?.map (fun event => event.outcome.reply) = some (.received (.error .empty))) (by decide)
  · exact (BoundedSystem.system Nat .checked).exists_run (.new (.fromIter 1 []))
      ⟨_, .inr (.inr ⟨1, by decide, [], by decide, rfl⟩), rfl⟩
      [.split, .forgetSender 0, .forgetReceiver, .intoSplit, .dropSender 1, .tryRecv true]
      (fun history _ =>
        history.map (fun event => (event.after.queue.mask.bits / 2, event.after.clients.senderCount)) =
          [(1, 0), (1, 0), (2, 1), (1, 0), (1, 0), (1, 1)] ∧
        history.head?.map (fun event => event.outcome.reply) = some (.received (.error .empty))) (by decide)

end Channels
end AsyncUnsync.Proofs.LeakedSenders
