import AsyncUnsync.Proofs.BoundedValid
import AsyncUnsync.Proofs.UnboundedCensus

/-! Counting the senders of both channels, over any number of splits. Nothing but a
leaked handle can make the count wrong. -/

namespace AsyncUnsync.Proofs.SenderCounting
open Transition Census CensusCounts

/-- The mask is the number of senders and the closed bit; `parted` tells that the channel was split. -/
structure Counts (parted : Prop) (c : Census) : Prop where
  mask : c.mask.bits = 2 * c.senders + if c.mask.isClosed true then 1 else 0
  /-- Only the drop of the last sender is reported as such. -/
  last : 0 < c.senders → ∃ mask, c.mask.decreaseSenderCount = .ok (mask, c.senders == 1)
  closing : ∀ counted, c.enabled (.close counted) = true →
    (c.mask.close counted).bits / 2 = c.mask.bits / 2 ∧ (c.mask.close counted).isClosed true = true
  full : usizeMax < c.mask.bits + 2 →
    c.mask.increaseSenderCount = .error .overflow ∧ Mask.increaseInPlace.run c.mask = .error .overflow c.mask
  gone : parted → c.senders = 0 → c.mask.bits = 1 ∧ c.mask.isClosed false = true

/-- A sender that is dropped is counted as the last one exactly when it is. -/
def Drops (event : Event Census Move Unit) : Prop :=
  event.action = .leave → event.after.senders + 1 = event.before.senders ∧
    event.before.mask.decreaseSenderCount = .ok (event.after.mask, event.before.senders == 1)

variable {c c' : Census} {closed parted : Prop}

private theorem decrease_last (counted : c.mask.bits / 2 = c.senders) (some : 0 < c.senders) :
    ∃ mask, c.mask.decreaseSenderCount = .ok (mask, c.senders == 1) := by
  have enough : 2 ≤ c.mask.bits := by omega
  simp only [Mask.decreaseSenderCount, checkedSub_of_le enough, ok_bind]
  split
  next few =>
    have one : (c.senders == 1) = true := beq_iff_eq.mpr (by omega)
    exact ⟨_, by rw [one]; rfl⟩
  next many =>
    have more : (c.senders == 1) = false := beq_eq_false_iff_ne.mpr (by omega)
    exact ⟨_, by rw [more]⟩

theorem counts_of_exact (exact : Exact closed parted c) : Counts parted c := by
  obtain ⟨counted, ended, _, _⟩ := exact
  refine ⟨?_, decrease_last counted, ?_, Mask.increaseInPlace_full, ?_⟩
  · rw [Mask.isClosed_counted]
    by_cases bit : c.mask.bits % 2 = 1
    · simp only [bit, beq_self_eq_true, if_true]
      omega
    · simp only [beq_iff_eq, bit, if_false]
      omega
  · intro counted able
    have none : counted = false → c.mask.bits / 2 = 0 := by
      intro whole
      subst whole
      simp only [enabled, Bool.and_eq_true, beq_iff_eq] at able
      omega
    have bits := close_bits none
    exact ⟨bits.1, by rw [Mask.isClosed_counted, bits.2]; rfl⟩
  · intro parted none
    have bit := ended.mpr (.inr ⟨parted, none⟩)
    have one : c.mask.bits = 1 := by omega
    exact ⟨one, by rw [Mask.isClosed_uncounted, one]; rfl⟩

theorem drops_of_exact (exact : Exact closed parted c) {move : Move} (able : c.enabled move = true)
    (done : c.step move = .ok c') : Drops ⟨c, move, (), c'⟩ := by
  intro leaves
  dsimp only at leaves
  subst leaves
  simp only [enabled, bne_iff_ne, ne_eq] at able
  obtain ⟨⟨mask, last⟩, decreased, stored⟩ := bind_ok done
  obtain ⟨mask', decreased'⟩ := decrease_last exact.counted (Nat.pos_of_ne_zero able)
  obtain ⟨rfl, rfl⟩ := Prod.mk.inj (Except.ok.inj (decreased.symm.trans decreased'))
  cases stored
  exact ⟨by simp only; omega, decreased⟩

theorem census_counts {start final : Census} {history : History Census Move Unit} (run : system.Run start history final)
    (kept : ∀ event ∈ history, event.action.leaks = false) :
    Counts (∃ event ∈ history, event.action.splits = true) final ∧ ∀ event ∈ history, Drops event := by
  refine ⟨counts_of_exact (run_exact run kept), ?_⟩
  refine run.each kept ?_
  intro past event reached kept
  obtain ⟨earlier, able, stepped, _⟩ := reached.last
  have exact := run_exact earlier fun other member => kept other (List.mem_cons_of_mem _ member)
  exact drops_of_exact exact able (step_ok stepped)

section Channels
variable {T : Type} {build : Build}

private theorem clone_full {B : Type} {q : Queue T B} (full : q.mask.increaseSenderCount = .error .overflow) :
    q.increaseSenderCount = .error .overflow := by
  simp only [Queue.increaseSenderCount, full]
  rfl

theorem bounded_counts {start final : BoundedSystem.State T}
    {history : History (BoundedSystem.State T) (BoundedSystem.Action T) (BoundedSystem.Outcome T)}
    (run : (BoundedSystem.system T build).Run start history final)
    (kept : ∀ event ∈ history, (BoundedCensus.move event.before.clients event.action).leaks = false) :
    Counts (∃ event ∈ history, BoundedValid.splits event.action = true) (BoundedCensus.census final) ∧
      (∀ event ∈ history, Drops (BoundedCensus.told event)) ∧
      ∀ id, usizeMax < final.queue.mask.bits + 2 →
        (BoundedSystem.system T build).step final (.cloneSender id) = .error .overflow := by
  obtain ⟨counts, drops⟩ := census_counts (BoundedValid.run_census run) (by simpa [BoundedCensus.told, Event.image] using kept)
  refine ⟨?_, by simpa using drops, ?_⟩
  · simpa [BoundedCensus.told, Event.image, BoundedValid.move_splits] using counts
  · intro id full
    simp only [BoundedSystem.system, BoundedSystem.step, BoundedSystem.operate, clone_full (counts.full full).1]
    rfl

theorem unbounded_counts {start final : UnboundedSystem.State T}
    {history : History (UnboundedSystem.State T) (UnboundedSystem.Action T) (UnboundedSystem.Outcome T)}
    (run : (UnboundedSystem.system T build).Run start history final)
    (kept : ∀ event ∈ history, (UnboundedCensus.move event.action).leaks = false) :
    Counts (∃ event ∈ history, (UnboundedCensus.move event.action).splits = true) (UnboundedCensus.census final) ∧
      (∀ event ∈ history, Drops (UnboundedCensus.told event)) ∧
      ∀ id, usizeMax < final.queue.mask.bits + 2 →
        (UnboundedSystem.system T build).step final (.cloneSender id) = .error .overflow := by
  obtain ⟨counts, drops⟩ := census_counts (UnboundedCensus.run_census run) (by simpa [UnboundedCensus.told, Event.image] using kept)
  refine ⟨?_, by simpa using drops, ?_⟩
  · simpa [UnboundedCensus.told, Event.image] using counts
  · intro id full
    simp only [UnboundedSystem.system, UnboundedSystem.step, UnboundedSystem.operate, clone_full (counts.full full).1]
    rfl

end Channels

/-- Along every run of either channel in which no handle is leaked, the mask counts the senders. -/
theorem run_counts (T : Type) (build : Build) :
    (∀ start history final, (BoundedSystem.system T build).Run start history final →
      (∀ event ∈ history, (BoundedCensus.move event.before.clients event.action).leaks = false) →
      Counts (∃ event ∈ history, BoundedValid.splits event.action = true) (BoundedCensus.census final) ∧
        (∀ event ∈ history, Drops (BoundedCensus.told event)) ∧
        ∀ id, usizeMax < final.queue.mask.bits + 2 →
          (BoundedSystem.system T build).step final (.cloneSender id) = .error .overflow) ∧
    ∀ start history final, (UnboundedSystem.system T build).Run start history final →
      (∀ event ∈ history, (UnboundedCensus.move event.action).leaks = false) →
      Counts (∃ event ∈ history, (UnboundedCensus.move event.action).splits = true) (UnboundedCensus.census final) ∧
        (∀ event ∈ history, Drops (UnboundedCensus.told event)) ∧
        ∀ id, usizeMax < final.queue.mask.bits + 2 →
          (UnboundedSystem.system T build).step final (.cloneSender id) = .error .overflow :=
  ⟨fun _ _ _ run kept => bounded_counts run kept, fun _ _ _ run kept => unbounded_counts run kept⟩

/-- The last sender is inside an owned permit; and a closed channel is split again. -/
theorem run_counts_again :
    (∃ history final, (BoundedSystem.system Nat .checked).play [] (.new (.fromIter 1 []))
        [.intoSplit, .cloneSender 0, .tryReserveOwned 0, .dropSender 1, .close true, .dropOwnedPermit 0] = some (history, final) ∧
      Counts (∃ event ∈ history, BoundedValid.splits event.action = true) (BoundedCensus.census final)) ∧
    ∃ history final, (UnboundedSystem.system Nat .checked).play [] (.new (.fromIter []))
        [.split, .cloneSender 0, .dropSender 0, .dropSender 1, .dropReceiver, .split] = some (history, final) ∧
      Counts (∃ event ∈ history, (UnboundedCensus.move event.action).splits = true) (UnboundedCensus.census final) := by
  constructor
  · obtain ⟨history, final, played, run, kept⟩ := (BoundedSystem.system Nat .checked).exists_run
      (.new (.fromIter 1 [])) ⟨_, .inr (.inr ⟨1, by decide, [], by decide, rfl⟩), rfl⟩
      [.intoSplit, .cloneSender 0, .tryReserveOwned 0, .dropSender 1, .close true, .dropOwnedPermit 0]
      (fun history _ => ∀ event ∈ history, (BoundedCensus.move event.before.clients event.action).leaks = false) (by decide)
    exact ⟨history, final, played, ((run_counts Nat .checked).1 _ _ _ run kept).1⟩
  · obtain ⟨history, final, played, run, kept⟩ := (UnboundedSystem.system Nat .checked).exists_run
      (.new (.fromIter [])) ⟨_, .inr (.inr ⟨[], rfl⟩), rfl⟩
      [.split, .cloneSender 0, .dropSender 0, .dropSender 1, .dropReceiver, .split]
      (fun history _ => ∀ event ∈ history, (UnboundedCensus.move event.action).leaks = false) (by decide)
    exact ⟨history, final, played, ((run_counts Nat .checked).2 _ _ _ run kept).1⟩

end AsyncUnsync.Proofs.SenderCounting
