import AsyncUnsync.OneshotSystem

/-! Wake-ups of both halves of a oneshot channel, along whole runs. The receiver
misses the end of a sender that sends nothing. -/

namespace AsyncUnsync.Proofs.OneshotWaking
open Transition OneshotSystem
variable {T : Type}

def senderSide : Action T → Bool
  | .pollClosed _ | .send _ | .dropSender | .forgetSender => true
  | _ => false

def receiverSide : Action T → Bool
  | .pollRecv _ | .tryRecv | .close | .dropReceiver | .forgetReceiver => true
  | _ => false

/-- How a step changes the waker of a receiver that waits. Its last poll decides. -/
def receiving (event : Event (State T) (Action T) (Outcome T)) : Option (Option Waker) :=
  match event.action with
  | .pollRecv waker =>
    match event.outcome.reply with
    | .polled .pending => some (some waker)
    | _ => some none
  | .split | .intoSplit | .dropReceiver | .forgetReceiver => some none
  | _ => none

/-- How a step changes the waker of a sender that waits for the close. -/
def closing (event : Event (State T) (Action T) (Outcome T)) : Option (Option Waker) :=
  match event.action with
  | .pollClosed waker =>
    match event.outcome.reply with
    | .closed .pending => some (some waker)
    | _ => some none
  | .split | .intoSplit | .send _ | .dropSender | .forgetSender => some none
  | _ => none

/-- A step of the sender that ends the wait of the receiver wakes it. -/
def ReceiverSignalled (past : History (State T) (Action T) (Outcome T)) (event : Event (State T) (Action T) (Outcome T)) : Prop :=
  senderSide event.action = true → ∀ waker ∈ latest receiving past,
    (event.before.slot.pollRecv waker).value = .pending → (event.after.slot.pollRecv waker).value ≠ .pending →
      waker ∈ event.outcome.woken

/-- A step of the receiver that ends the wait of the sender wakes it. -/
def SenderSignalled (past : History (State T) (Action T) (Outcome T)) (event : Event (State T) (Action T) (Outcome T)) : Prop :=
  receiverSide event.action = true → ∀ waker ∈ latest closing past,
    (event.before.slot.pollClosed waker).value = .pending → (event.after.slot.pollClosed waker).value ≠ .pending →
      waker ∈ event.outcome.woken

/-- No receiver waits when the sender of an open channel is dropped before it sent anything. -/
def DropHeard (past : History (State T) (Action T) (Outcome T)) (event : Event (State T) (Action T) (Outcome T)) : Prop :=
  event.action = .dropSender → event.before.slot.value = none → event.before.slot.closed = false →
    latest receiving past = none

instance [DecidableEq T] (past : History (State T) (Action T) (Outcome T))
    (event : Event (State T) (Action T) (Outcome T)) : Decidable (DropHeard past event) := by
  unfold DropHeard
  infer_instance

variable {start state : State T} {waker : Waker} {past history : History (State T) (Action T) (Outcome T)}
  {event : Event (State T) (Action T) (Outcome T)}

theorem run_step (run : (system T).Run start (event :: past) event.after) :
    (system T).Run start past event.before ∧
      event.after = ⟨(operate event.before.slot event.action).state, record event.before.halves event.action⟩ ∧
      event.outcome = ⟨(operate event.before.slot event.action).value, (operate event.before.slot event.action).woken⟩ := by
  obtain ⟨earlier, _, stepped, _⟩ := run.last
  obtain ⟨after, outcome⟩ := Prod.mk.inj (Except.ok.inj stepped)
  exact ⟨earlier, after.symm, outcome.symm⟩

section Registered

theorem receiving_registers (after : event.after.slot = (operate event.before.slot event.action).state)
    (outcome : event.outcome.reply = (operate event.before.slot event.action).value) :
    (∀ waker, receiving event = some (some waker) → event.after.slot.recvWaker = some waker) ∧
      (receiving event = none → event.after.slot.recvWaker = event.before.slot.recvWaker) := by
  obtain ⟨before, action, outcome', _⟩ := event
  dsimp only at after outcome
  rw [after]
  cases action with
  | pollRecv poller =>
    simp only [receiving, outcome, operate, Slot.pollRecv, Slot.tryRecv, Effect.map]
    cases before.slot.value <;> cases before.slot.closed <;> simp
  | tryRecv =>
    simp only [receiving, operate, Slot.tryRecv, Effect.map]
    cases before.slot.value <;> simp
  | pollClosed poller =>
    simp only [receiving, operate, Slot.pollClosed, Effect.map]
    cases before.slot.closed <;> simp
  | send value =>
    simp only [receiving, operate, Slot.send, Slot.dropSender]
    cases before.slot.closed <;> simp
  | close =>
    simp only [receiving, operate, Slot.closeAndWake, Effect.map]
    cases before.slot.closed <;> simp
  | _ => simp [receiving, operate, Slot.dropSender]

theorem closing_registers (after : event.after.slot = (operate event.before.slot event.action).state)
    (outcome : event.outcome.reply = (operate event.before.slot event.action).value) :
    (∀ waker, closing event = some (some waker) → event.after.slot.closeWaker = some waker) ∧
      (closing event = none → event.after.slot.closeWaker = event.before.slot.closeWaker) := by
  obtain ⟨before, action, outcome', _⟩ := event
  dsimp only at after outcome
  rw [after]
  cases action with
  | pollRecv poller =>
    simp only [closing, operate, Slot.pollRecv, Slot.tryRecv, Effect.map]
    cases before.slot.value <;> cases before.slot.closed <;> simp
  | tryRecv =>
    simp only [closing, operate, Slot.tryRecv, Effect.map]
    cases before.slot.value <;> simp
  | pollClosed poller =>
    simp only [closing, outcome, operate, Slot.pollClosed, Effect.map]
    cases before.slot.closed <;> simp
  | close | dropReceiver =>
    simp only [closing, operate, Slot.closeAndWake, Effect.map]
    cases before.slot.closed <;> simp
  | _ => simp [closing, operate]

theorem run_receiving (run : (system T).Run start history state) (waits : latest receiving history = some waker) :
    state.slot.recvWaker = some waker := by
  apply run.latest_stored _ waits
  intro past event reached
  obtain ⟨_, after, outcome⟩ := run_step reached
  exact receiving_registers (by rw [after]) (by rw [outcome])

theorem run_closing (run : (system T).Run start history state) (waits : latest closing history = some waker) :
    state.slot.closeWaker = some waker := by
  apply run.latest_stored _ waits
  intro past event reached
  obtain ⟨_, after, outcome⟩ := run_step reached
  exact closing_registers (by rw [after]) (by rw [outcome])

end Registered

theorem sender_signalled (run : (system T).Run start (event :: past) event.after) : SenderSignalled past event := by
  obtain ⟨earlier, after, outcome⟩ := run_step run
  intro side waker waits pends ready
  have registered := run_closing earlier waits
  rw [Slot.pollClosed_pending] at pends
  rw [ne_eq, Slot.pollClosed_pending, Bool.not_eq_false, after] at ready
  rw [outcome]
  obtain ⟨before, action, _, _⟩ := event
  dsimp only at pends registered ready ⊢
  cases action with
  | close | dropReceiver => simp [operate, Slot.closeAndWake, Effect.map, pends, registered]
  | pollRecv poller =>
    revert ready
    simp only [operate, Slot.pollRecv, Slot.tryRecv, Effect.map]
    cases before.slot.value <;> simp [pends]
  | tryRecv =>
    revert ready
    simp only [operate, Slot.tryRecv, Effect.map]
    cases before.slot.value <;> simp [pends]
  | forgetReceiver => cases pends.symm.trans ready
  | _ => cases side

/-- A value always wakes a receiver that waits; the end of the sender never does. -/
theorem receiver_signalled_iff (run : (system T).Run start (event :: past) event.after) :
    ReceiverSignalled past event ↔ DropHeard past event := by
  obtain ⟨earlier, after, outcome⟩ := run_step run
  by_cases drops : event.action = .dropSender
  · have ended : ∀ waker, (event.after.slot.pollRecv waker).value ≠ .pending := by
      intro waker pends
      rw [Slot.pollRecv_pending, after, drops] at pends
      cases pends.2
    have silent : event.outcome.woken = [] := by
      rw [outcome, drops]
      rfl
    constructor
    · intro signalled _ empty opened
      cases waits : latest receiving past with
      | none => rfl
      | some waker =>
        have woken := signalled (by rw [drops]; rfl) waker waits (Slot.pollRecv_pending.mpr ⟨empty, opened⟩) (ended waker)
        rw [silent] at woken
        cases woken
    · intro heard _ waker waits pends _
      obtain ⟨empty, opened⟩ := Slot.pollRecv_pending.mp pends
      cases (heard drops empty opened).symm.trans waits
  · refine iff_of_true ?_ fun dropped => absurd dropped drops
    intro side waker waits pends ready
    have registered := run_receiving earlier waits
    rw [Slot.pollRecv_pending] at pends
    rw [ne_eq, Slot.pollRecv_pending, after] at ready
    rw [outcome]
    obtain ⟨before, action, _, _⟩ := event
    dsimp only at pends registered ready drops ⊢
    cases action with
    | send value => simp [operate, Slot.send, pends.2, registered]
    | pollClosed poller => exact absurd (by simp [operate, Slot.pollClosed, Effect.map, pends]) ready
    | forgetSender => exact absurd pends ready
    | dropSender => exact absurd rfl drops
    | _ => cases side

theorem signalled_iff (run : (system T).Run start (event :: past) event.after) :
    ReceiverSignalled past event ∧ SenderSignalled past event ↔ DropHeard past event := by
  rw [receiver_signalled_iff run]
  exact and_iff_left (sender_signalled run)

/-- Along every run both halves are woken exactly when no receiver waits for a sender that is
dropped before it sent anything. -/
theorem run_signalled_iff (run : (system T).Run start history state) :
    Along (fun past event => ReceiverSignalled past event ∧ SenderSignalled past event) history ↔
      Along DropHeard history :=
  run.along_iff fun _ _ reached _ => signalled_iff reached

/-- A receiver gets the value it waits for. -/
theorem run_signalled_sent :
    ∃ history final, (system Nat).play [] .new [.split, .pollClosed 7, .pollRecv 9, .send 5, .pollRecv 9] =
        some (history, final) ∧
      Along (fun past event => ReceiverSignalled past event ∧ SenderSignalled past event) history := by
  obtain ⟨history, final, played, run, heard⟩ := (system Nat).exists_run .new rfl
    [.split, .pollClosed 7, .pollRecv 9, .send 5, .pollRecv 9] (fun history _ => Along DropHeard history) (by decide)
  exact ⟨history, final, played, (run_signalled_iff run).mpr heard⟩

/-- The sender is dropped while the receiver waits. -/
theorem dropped_sender_not_heard :
    ¬ ∀ start history final, (system Nat).Run start history final →
      Along (fun past event => ReceiverSignalled past event ∧ SenderSignalled past event) history := by
  intro signalled
  obtain ⟨history, final, _, run, unheard⟩ := (system Nat).exists_run .new rfl [.split, .pollRecv 9, .dropSender]
    (fun history _ => ¬ Along DropHeard history) (by decide)
  exact unheard ((run.along_iff fun _ _ reached _ => signalled_iff reached).mp (signalled _ _ _ run))

end AsyncUnsync.Proofs.OneshotWaking
