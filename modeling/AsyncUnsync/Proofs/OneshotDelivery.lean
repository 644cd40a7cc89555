import AsyncUnsync.Proofs.OneshotWaking

/-! What becomes of the values sent through a oneshot channel. The channel accepts one
value at most, because its sender closes it, and one receive at most takes it out. -/

namespace AsyncUnsync.Proofs.OneshotDelivery
open Transition OneshotSystem OneshotWaking
variable {T : Type}

/-- The value that a step put into the channel. -/
def accepted (event : Event (State T) (Action T) (Outcome T)) : List T :=
  match event.action, event.outcome.reply with
  | .send value, .sent (.ok _) => [value]
  | _, _ => []

def receives : Action T → Bool
  | .pollRecv _ | .tryRecv => true
  | _ => false

def delivered (event : Event (State T) (Action T) (Outcome T)) : List T :=
  match event.outcome.reply with
  | .received (.ok value) | .polled (.ready (.ok value)) => [value]
  | _ => []

def disconnected (event : Event (State T) (Action T) (Outcome T)) : Bool :=
  match event.outcome.reply with
  | .received (.error .disconnected) | .polled (.ready (.error _)) => true
  | _ => false

/-- What every step does. An open channel accepts a value, a closed one returns it; a receive takes
the accepted value, whoever closed the channel; and after the end nothing comes. -/
structure Delivers (past : History (State T) (Action T) (Outcome T)) (event : Event (State T) (Action T) (Outcome T)) : Prop where
  sends : ∀ value, event.action = .send value →
    (event.before.slot.closed = false ∧ event.outcome.reply = .sent (.ok ()) ∧ event.before.slot.value = none) ∨
      (event.before.slot.closed = true ∧ event.outcome.reply = .sent (.error ⟨value⟩) ∧ event.after.slot = event.before.slot)
  takes : receives event.action = true → ∀ value, gathered accepted past = [value] → gathered delivered past = [] →
    delivered event = [value]
  ends : receives event.action = true →
    (disconnected event = true ↔ event.before.slot.value = none ∧ event.before.slot.closed = true)
  final : (∃ earlier ∈ past, disconnected earlier = true) → delivered event = []

variable {start state : State T} {past history : History (State T) (Action T) (Outcome T)}
  {event : Event (State T) (Action T) (Outcome T)}

/-- A value in the slot was left there by a sender that is gone. -/
private def Sealed (slot : Slot T) : Prop := slot.value.isSome = true → slot.closed = true

private theorem operate_sealed {slot : Slot T} (sealed : Sealed slot) (action : Action T) :
    Sealed (operate slot action).state := by
  obtain ⟨value, _, _, closed⟩ := slot
  unfold Sealed at sealed ⊢
  cases action with
  | send sent => simp [operate, Slot.dropSender]
  | dropSender => simp [operate, Slot.dropSender]
  | pollRecv waker | tryRecv =>
    cases value <;> cases closed <;> simp [operate, Slot.pollRecv, Slot.tryRecv, Effect.map]
  | close | dropReceiver =>
    cases closed <;> simp [operate, Slot.closeAndWake, Effect.map]
  | pollClosed waker =>
    cases closed
    · exact sealed
    · exact sealed
  | split | intoSplit | forgetSender | forgetReceiver => exact sealed

theorem run_sealed (run : (system T).Run start history state) : Sealed state.slot := by
  refine run.invariant (fun _ state => Sealed state.slot) ?_ ?_
  · intro initial
    cases initial
    exact fun stored => by cases stored
  · intro past before action outcome after reached sealed enabled stepped
    obtain ⟨_, same, _⟩ := run_step (.step reached enabled stepped)
    rw [show after = _ from same]
    exact operate_sealed sealed action

private theorem operate_ended {slot : Slot T} (empty : slot.value = none) (closed : slot.closed = true) (action : Action T) :
    (operate slot action).state.value = none ∧ (operate slot action).state.closed = true := by
  cases action with
  | _ => simp [operate, Slot.dropSender, Slot.send, Slot.pollClosed, Slot.pollRecv, Slot.tryRecv, Slot.closeAndWake,
      Effect.map, empty, closed]

private theorem operate_received {slot : Slot T} {action : Action T} (receiving : receives action = true)
    (outcome : event.outcome.reply = (operate slot action).value) :
    delivered event = slot.value.toList ∧ (disconnected event = true ↔ slot.value = none ∧ slot.closed = true) := by
  obtain ⟨value, _, _, closed⟩ := slot
  unfold delivered disconnected
  rw [outcome]
  cases action with
  | pollRecv waker =>
    cases value <;> cases closed <;> simp [operate, Slot.pollRecv, Slot.tryRecv, Effect.map]
  | tryRecv => cases value <;> cases closed <;> simp [operate, Slot.tryRecv, Effect.map]
  | _ => cases receiving

private theorem operate_silent {slot : Slot T} {action : Action T} (silent : receives action = false)
    (outcome : event.outcome.reply = (operate slot action).value) : delivered event = [] ∧ disconnected event = false := by
  unfold delivered disconnected
  rw [outcome]
  cases action with
  | pollRecv | tryRecv => cases silent
  | _ => exact ⟨rfl, rfl⟩

private theorem operate_sent {slot : Slot T} (sealed : Sealed slot) (value : T) :
    (slot.closed = false ∧ (operate slot (.send value)).value = .sent (.ok ()) ∧ slot.value = none) ∨
      (slot.closed = true ∧ (operate slot (.send value)).value = .sent (.error ⟨value⟩) ∧
        (operate slot (.send value)).state = slot) := by
  cases closed : slot.closed with
  | false =>
    left
    refine ⟨rfl, by simp [operate, Slot.send, closed], ?_⟩
    cases stored : slot.value with
    | none => rfl
    | some value => cases closed.symm.trans (sealed (by simp [stored]))
  | true =>
    right
    refine ⟨rfl, by simp [operate, Slot.send, closed], ?_⟩
    cases slot
    cases closed
    rfl

private theorem operate_conserves {slot : Slot T} (sealed : Sealed slot) (after : event.after.slot = (operate slot event.action).state)
    (outcome : event.outcome.reply = (operate slot event.action).value) :
    slot.value.toList ++ accepted event = delivered event ++ event.after.slot.value.toList := by
  rw [after]
  cases receiving : receives event.action with
  | true =>
    rw [(operate_received receiving outcome).1]
    unfold accepted
    cases action : event.action with
    | pollRecv waker =>
      simp only [operate, Slot.pollRecv, Slot.tryRecv, Effect.map]
      cases stored : slot.value <;> cases slot.closed <;> simp [stored]
    | tryRecv =>
      simp only [operate, Slot.tryRecv, Effect.map]
      cases stored : slot.value <;> simp [stored]
    | _ =>
      rw [action] at receiving
      cases receiving
  | false =>
    rw [(operate_silent receiving outcome).1, List.nil_append]
    unfold accepted
    rw [outcome]
    cases action : event.action with
    | send value =>
      rcases operate_sent sealed value with ⟨opened, replied, empty⟩ | ⟨_, replied, kept⟩
      · rw [replied, empty]
        simp [operate, Slot.send, Slot.dropSender, opened]
      · rw [replied, kept]
        simp
    | close | dropReceiver =>
      simp only [operate, Slot.closeAndWake, Effect.map]
      cases slot.closed <;> simp
    | pollClosed waker =>
      simp only [operate, Slot.pollClosed, Effect.map]
      cases slot.closed <;> simp
    | pollRecv | tryRecv =>
      rw [action] at receiving
      cases receiving
    | split | intoSplit | dropSender | forgetSender | forgetReceiver => simp [operate, Slot.dropSender]

private theorem operate_closed {slot : Slot T} {action : Action T} (opened : (operate slot action).state.closed = false) :
    slot.closed = false ∧ ∀ value, action ≠ .send value := by
  obtain ⟨value, _, _, closed⟩ := slot
  revert opened
  cases action with
  | send | dropSender => exact fun opened => by cases opened
  | close | dropReceiver => cases closed <;> simp [operate, Slot.closeAndWake, Effect.map]
  | pollClosed => cases closed <;> simp [operate, Slot.pollClosed, Effect.map]
  | pollRecv | tryRecv => cases value <;> cases closed <;> simp [operate, Slot.pollRecv, Slot.tryRecv, Effect.map]
  | split | intoSplit | forgetSender | forgetReceiver => simp [operate]

theorem run_stored (run : (system T).Run start history state) :
    gathered accepted history = gathered delivered history ++ state.slot.value.toList := by
  have conserved := run.conserved (fun state => state.slot.value.toList) accepted delivered ?_
  · have initial : start = .new := run.initial
    rw [initial] at conserved
    exact conserved
  · intro event member
    obtain ⟨_, reached⟩ := run.reaches member
    obtain ⟨earlier, after, outcome⟩ := run_step reached
    exact operate_conserves (run_sealed earlier) (by rw [after]) (by rw [outcome])

private theorem accepted_nil (unsent : ∀ value, event.action ≠ .send value) : accepted event = [] := by
  unfold accepted
  split
  next sends _ => exact absurd sends (unsent _)
  next => rfl

theorem run_accepted (run : (system T).Run start history state) :
    (gathered accepted history).length ≤ 1 ∧ (state.slot.closed = false → gathered accepted history = []) := by
  refine run.invariant (fun history state => (gathered accepted history).length ≤ 1 ∧
    (state.slot.closed = false → gathered accepted history = [])) (fun _ => ⟨Nat.zero_le _, fun _ => rfl⟩) ?_
  intro past before action outcome after reached once enabled stepped
  obtain ⟨_, same, told⟩ := run_step (.step reached enabled stepped)
  dsimp only at same told
  constructor
  · by_cases sends : ∃ value, action = .send value
    · obtain ⟨value, rfl⟩ := sends
      rw [gathered, List.length_append]
      rcases operate_sent (run_sealed reached) value with ⟨opened, _, _⟩ | ⟨_, replied, _⟩
      · have bound : ∀ event : Event (State T) (Action T) (Outcome T), (accepted event).length ≤ 1 := by
          intro event
          unfold accepted
          split <;> simp
        rw [once.2 opened]
        simpa using bound _
      · simpa [accepted, told, replied] using once.1
    · rw [gathered, accepted_nil fun value sent => sends ⟨value, sent⟩, List.append_nil]
      exact once.1
  · intro opened
    rw [same] at opened
    obtain ⟨opened, unsent⟩ := operate_closed opened
    rw [gathered, accepted_nil unsent, once.2 opened, List.append_nil]

theorem run_ended (run : (system T).Run start history state) (ended : ∃ event ∈ history, disconnected event = true) :
    state.slot.value = none ∧ state.slot.closed = true := by
  revert ended
  refine run.invariant (fun history state => (∃ event ∈ history, disconnected event = true) →
    state.slot.value = none ∧ state.slot.closed = true) ?_ ?_
  · intro _ ended
    obtain ⟨_, member, _⟩ := ended
    cases member
  · intro past before action outcome after reached kept enabled stepped ended
    obtain ⟨_, same, told⟩ := run_step (.step reached enabled stepped)
    dsimp only at same told
    have dead : before.slot.value = none ∧ before.slot.closed = true := by
      obtain ⟨event, member, ends⟩ := ended
      rcases List.mem_cons.mp member with rfl | earlier
      · cases receiving : receives action with
        | true => exact (operate_received receiving (by rw [told])).2.mp ends
        | false => cases (operate_silent receiving (by rw [told])).2.symm.trans ends
      · exact kept ⟨event, earlier, ends⟩
    rw [same]
    exact operate_ended dead.1 dead.2 action

theorem delivers (run : (system T).Run start (event :: past) event.after) : Delivers past event := by
  obtain ⟨earlier, after, outcome⟩ := run_step run
  have replied : event.outcome.reply = (operate event.before.slot event.action).value := by rw [outcome]
  refine ⟨?_, ?_, ?_, ?_⟩
  · intro value sends
    rw [replied, after, sends]
    rcases operate_sent (run_sealed earlier) value with ⟨opened, accepted, empty⟩ | refused
    · exact .inl ⟨opened, accepted, empty⟩
    · exact .inr refused
  · intro receiving value sent untouched
    have stored := run_stored earlier
    rw [sent, untouched, List.nil_append] at stored
    rw [(operate_received receiving replied).1, stored]
  · exact fun receiving => (operate_received receiving replied).2
  · intro ended
    cases receiving : receives event.action with
    | true =>
      rw [(operate_received receiving replied).1, (run_ended earlier ended).1]
      rfl
    | false => exact (operate_silent receiving replied).1

/-- Along every run, over any number of splits, one value at most is accepted, and it is delivered once or still
stored; every step sends, receives and ends as it should. -/
theorem run_delivers (run : (system T).Run start history state) :
    Along Delivers history ∧ (gathered accepted history).length ≤ 1 ∧
      gathered accepted history = gathered delivered history ++ state.slot.value.toList :=
  ⟨run.along fun _ _ reached => delivers reached, (run_accepted run).1, run_stored run⟩

/-- A value outlives the close, and is delivered through the second pair of halves. -/
theorem run_delivers_closed :
    ∃ history final, (system Nat).play [] .new
        [.split, .send 5, .close, .dropReceiver, .split, .send 6, .tryRecv, .tryRecv] = some (history, final) ∧
      gathered delivered history = [5] ∧ Along Delivers history ∧ (gathered accepted history).length ≤ 1 ∧
        gathered accepted history = gathered delivered history ++ final.slot.value.toList := by
  obtain ⟨history, final, played, run, delivered⟩ := (system Nat).exists_run .new rfl
    [.split, .send 5, .close, .dropReceiver, .split, .send 6, .tryRecv, .tryRecv]
    (fun history _ => gathered delivered history = [5]) (by decide)
  exact ⟨history, final, played, delivered, run_delivers run⟩

end AsyncUnsync.Proofs.OneshotDelivery
