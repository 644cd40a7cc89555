import AsyncUnsync.Proofs.ReceiverWaking
import AsyncUnsync.Proofs.UnboundedWaking

/-! Lost wake-ups of the receivers of both channels, along whole runs. The receiver
misses the end of its last reservation, and a close through the unsplit channel. -/

namespace AsyncUnsync.Proofs.LostWakeups
open Memory Transition

namespace Bounded
open BoundedSystem ReceiverSignals ReceiverWaking
variable {T : Type}

/-- What is promised to the receiver of a split channel. -/
def SenderSignals (past : History (State T) (Action T) (Outcome T)) (event : Event (State T) (Action T) (Outcome T)) : Prop :=
  receiverSide event.action = false → Signals true past event

/-- What is promised to the receiver that shares the unsplit channel. -/
def SharedSignals (past : History (State T) (Action T) (Outcome T)) (event : Event (State T) (Action T) (Outcome T)) : Prop :=
  receiverSide event.action = false ∨ event.action = .close false → Signals false past event

/-- The receiver hears of the last reservation, and of a close. -/
def SharedHeard (past : History (State T) (Action T) (Outcome T)) (event : Event (State T) (Action T) (Outcome T)) : Prop :=
  ResolvesHeard false past event ∧ CloseHeard past event

instance [DecidableEq T] (past : History (State T) (Action T) (Outcome T))
    (event : Event (State T) (Action T) (Outcome T)) : Decidable (SharedHeard past event) :=
  inferInstanceAs (Decidable (_ ∧ _))

variable {build : Build} {start : State T} {counted : Bool} {past : History (State T) (Action T) (Outcome T)}
  {event : Event (State T) (Action T) (Outcome T)}

private theorem resolvesHeard_receiver (side : receiverSide event.action = true) : ResolvesHeard counted past event := by
  intro waker _ ⟨_, _, _, released⟩
  revert side released
  cases event.action <;> simp [receiverSide]

private theorem closeHeard_other (other : event.action ≠ .close false) : CloseHeard past event :=
  fun _ _ closes => absurd closes.1 other

theorem senderSignals_iff (run : (system T build).Run start (event :: past) event.after) :
    SenderSignals past event ↔ ResolvesHeard true past event := by
  cases side : receiverSide event.action with
  | false => simp only [SenderSignals, side, true_imp_iff, signals_iff run side]
  | true => simp [SenderSignals, side, resolvesHeard_receiver side]

theorem sharedSignals_iff (run : (system T build).Run start (event :: past) event.after) :
    SharedSignals past event ↔ SharedHeard past event := by
  cases side : receiverSide event.action with
  | false =>
    have other : event.action ≠ .close false := by
      intro closes
      simp [closes, receiverSide] at side
    simp [SharedSignals, SharedHeard, side, signals_iff run side, closeHeard_other other]
  | true =>
    by_cases closes : event.action = .close false
    · simp [SharedSignals, SharedHeard, closes, close_signals_iff run closes, resolvesHeard_receiver side]
    · simp [SharedSignals, SharedHeard, side, closes, resolvesHeard_receiver side, closeHeard_other closes]

end Bounded

namespace Unbounded
open UnboundedSystem UnboundedWaking
variable {T : Type}

def SenderSignals (past : History (State T) (Action T) (Outcome T)) (event : Event (State T) (Action T) (Outcome T)) : Prop :=
  receiverSide event.action = false → Signals true past event

def SharedSignals (past : History (State T) (Action T) (Outcome T)) (event : Event (State T) (Action T) (Outcome T)) : Prop :=
  receiverSide event.action = false ∨ event.action = .close false → Signals false past event

variable {build : Build} {start : State T} {past : History (State T) (Action T) (Outcome T)}
  {event : Event (State T) (Action T) (Outcome T)}

private theorem closeHeard_loud (other : event.action ≠ .close false) : CloseHeard past event :=
  fun _ closes => absurd closes.1 other

theorem sharedSignals_iff (run : (system T build).Run start (event :: past) event.after) :
    SharedSignals past event ↔ CloseHeard past event := by
  by_cases closes : event.action = .close false
  · simp [SharedSignals, closes, close_signals_iff run closes]
  · have heard : CloseHeard past event := closeHeard_loud closes
    simp only [SharedSignals, closes, or_false, heard, iff_true]
    exact fun side => signals run side

end Unbounded

/-- Along every run of a split bounded channel, the steps of the senders wake the receiver exactly
when it hears of the last reservation. Split unbounded channels always wake it. -/
theorem run_sender_signals (T : Type) (build : Build) :
    (∀ start history final, (BoundedSystem.system T build).Run start history final →
      (Along Bounded.SenderSignals history ↔ Along (ReceiverWaking.ResolvesHeard true) history)) ∧
    ∀ start history final, (UnboundedSystem.system T build).Run start history final →
      Along Unbounded.SenderSignals history := by
  constructor
  · intro start history final run
    exact run.along_iff fun _ _ reached _ => Bounded.senderSignals_iff reached
  · intro start history final run
    exact run.along fun _ _ reached side => UnboundedWaking.signals reached side

/-- A permit is used and a sender is dropped while the receiver waits. -/
theorem run_sender_signals_used :
    (∃ history final, (BoundedSystem.system Nat .checked).play [] (.new (.fromIter 1 []))
        [.split, .tryReserve (.sender 0), .close true, .pollRecv true 9, .permitSend 0 5] = some (history, final) ∧
      Along Bounded.SenderSignals history) ∧
    ∃ history final, (UnboundedSystem.system Nat .checked).play [] (.new (.fromIter []))
        [.split, .pollRecv true 9, .dropSender 0] = some (history, final) ∧ Along Unbounded.SenderSignals history := by
  constructor
  · obtain ⟨history, final, played, run, heard⟩ := (BoundedSystem.system Nat .checked).exists_run
      (.new (.fromIter 1 [])) ⟨_, .inr (.inr ⟨1, by decide, [], by decide, rfl⟩), rfl⟩
      [.split, .tryReserve (.sender 0), .close true, .pollRecv true 9, .permitSend 0 5]
      (fun history _ => Along (ReceiverWaking.ResolvesHeard true) history) (by decide)
    exact ⟨history, final, played, ((run_sender_signals Nat .checked).1 _ _ _ run).mpr heard⟩
  · obtain ⟨history, final, played, run, _⟩ := (UnboundedSystem.system Nat .checked).exists_run
      (.new (.fromIter [])) ⟨_, .inr (.inr ⟨[], rfl⟩), rfl⟩ [.split, .pollRecv true 9, .dropSender 0]
      (fun history _ => history.length = 3) (by decide)
    exact ⟨history, final, played, (run_sender_signals Nat .checked).2 _ _ _ run⟩

/-- The receiver closes the channel and waits for the last permit, which is dropped. -/
theorem dropped_permit_not_heard :
    ¬ ∀ start history final, (BoundedSystem.system Nat .checked).Run start history final →
      Along Bounded.SenderSignals history := by
  intro signals
  obtain ⟨history, final, _, run, unheard⟩ := (BoundedSystem.system Nat .checked).exists_run
    (.new (.fromIter 1 [])) ⟨_, .inr (.inr ⟨1, by decide, [], by decide, rfl⟩), rfl⟩
    [.split, .tryReserve (.sender 0), .close true, .pollRecv true 9, .dropPermit 0]
    (fun history _ => ¬ Along (ReceiverWaking.ResolvesHeard true) history) (by decide)
  exact unheard ((run.along_iff fun _ _ reached _ => Bounded.senderSignals_iff reached).mp (signals _ _ _ run))

/-- Along every run of an unsplit channel, the steps of the others wake the receiver exactly when
it hears of the last reservation and of a close. -/
theorem run_shared_signals (T : Type) (build : Build) :
    (∀ start history final, (BoundedSystem.system T build).Run start history final →
      (Along Bounded.SharedSignals history ↔ Along Bounded.SharedHeard history)) ∧
    ∀ start history final, (UnboundedSystem.system T build).Run start history final →
      (Along Unbounded.SharedSignals history ↔ Along UnboundedWaking.CloseHeard history) := by
  constructor
  · intro start history final run
    exact run.along_iff fun _ _ reached _ => Bounded.sharedSignals_iff reached
  · intro start history final run
    exact run.along_iff fun _ _ reached _ => Unbounded.sharedSignals_iff reached

/-- A channel is closed while its receiver does not wait. -/
theorem run_shared_signals_idle :
    (∃ history final, (BoundedSystem.system Nat .checked).play [] (.new (.fromIter 1 []))
        [.pollRecv false 9, .trySend .channel 5, .tryRecv false, .close false] = some (history, final) ∧
      Along Bounded.SharedSignals history) ∧
    ∃ history final, (UnboundedSystem.system Nat .checked).play [] (.new (.fromIter []))
        [.pollRecv false 9, .send .channel 5, .tryRecv false, .close false] = some (history, final) ∧
      Along Unbounded.SharedSignals history := by
  constructor
  · obtain ⟨history, final, played, run, heard⟩ := (BoundedSystem.system Nat .checked).exists_run
      (.new (.fromIter 1 [])) ⟨_, .inr (.inr ⟨1, by decide, [], by decide, rfl⟩), rfl⟩
      [.pollRecv false 9, .trySend .channel 5, .tryRecv false, .close false]
      (fun history _ => Along Bounded.SharedHeard history) (by decide)
    exact ⟨history, final, played, ((run_shared_signals Nat .checked).1 _ _ _ run).mpr heard⟩
  · obtain ⟨history, final, played, run, heard⟩ := (UnboundedSystem.system Nat .checked).exists_run
      (.new (.fromIter [])) ⟨_, .inr (.inr ⟨[], rfl⟩), rfl⟩
      [.pollRecv false 9, .send .channel 5, .tryRecv false, .close false]
      (fun history _ => Along UnboundedWaking.CloseHeard history) (by decide)
    exact ⟨history, final, played, ((run_shared_signals Nat .checked).2 _ _ _ run).mpr heard⟩

/-- A channel of either kind is closed while its receiver waits. -/
theorem shared_close_not_heard :
    (¬ ∀ start history final, (BoundedSystem.system Nat .checked).Run start history final →
      Along Bounded.SharedSignals history) ∧
    ¬ ∀ start history final, (UnboundedSystem.system Nat .checked).Run start history final →
      Along Unbounded.SharedSignals history := by
  constructor
  · intro signals
    obtain ⟨history, final, _, run, unheard⟩ := (BoundedSystem.system Nat .checked).exists_run
      (.new (.fromIter 1 [])) ⟨_, .inr (.inr ⟨1, by decide, [], by decide, rfl⟩), rfl⟩ [.pollRecv false 9, .close false]
      (fun history _ => ¬ Along Bounded.SharedHeard history) (by decide)
    exact unheard ((run.along_iff fun _ _ reached _ => Bounded.sharedSignals_iff reached).mp (signals _ _ _ run))
  · intro signals
    obtain ⟨history, final, _, run, unheard⟩ := (UnboundedSystem.system Nat .checked).exists_run
      (.new (.fromIter [])) ⟨_, .inr (.inr ⟨[], rfl⟩), rfl⟩ [.pollRecv false 9, .close false]
      (fun history _ => ¬ Along UnboundedWaking.CloseHeard history) (by decide)
    exact unheard ((run.along_iff fun _ _ reached _ => Unbounded.sharedSignals_iff reached).mp (signals _ _ _ run))

end AsyncUnsync.Proofs.LostWakeups
