import AsyncUnsync.Proofs.UnboundedCensus

/-! Wake-ups of the receiver of an unbounded channel, along whole runs. Without
permits, closing is the only call that can end a wait silently. -/

namespace AsyncUnsync.Proofs.UnboundedWaking
open Memory Transition UnboundedSystem QueueCalls UnboundedCensus
variable {T : Type}

def Quiet (counted : Bool) (q : UnboundedQueue T) : Prop := q.items = [] ∧ q.isClosed counted = false

def receiverSide : Action T → Bool
  | .send _ _ | .cloneSender _ | .dropSender _ | .forgetSender _ => false
  | _ => true

def polled (counted : Bool) (event : Event (State T) (Action T) (Outcome T)) : Option (Option Waker) :=
  match event.action with
  | .pollRecv mode waker =>
    match event.outcome.reply with
    | .polled .pending => if mode = counted then some (some waker) else some none
    | _ => some none
  | .tryRecv _ =>
    match event.outcome.reply with
    | .received (.ok _) => some none
    | _ => none
  | .split | .intoSplit | .intoDeque | .dropReceiver | .forgetReceiver => some none
  | _ => none

def pending (counted : Bool) (history : History (State T) (Action T) (Outcome T)) : Option Waker :=
  latest (polled counted) history

def wouldReceive (counted : Bool) (s : State T) : Except Fault (Except TryRecvError T) :=
  (s.queue.tryRecv counted).map Effect.value

/-- A step that ends the wait of the receiver wakes it. -/
def Signals (counted : Bool) (past : History (State T) (Action T) (Outcome T))
    (event : Event (State T) (Action T) (Outcome T)) : Prop :=
  ∀ waker ∈ pending counted past, wouldReceive counted event.before = .ok (.error .empty) →
    wouldReceive counted event.after ≠ .ok (.error .empty) → waker ∈ event.outcome.woken

/-- The unsplit channel is closed while it is open and empty. -/
def ClosesIdle (s : State T) (action : Action T) : Prop :=
  action = .close false ∧ s.queue.items = [] ∧ s.queue.isClosed false = false

/-- Nobody waits when the channel is closed, for the close would not be heard. -/
def CloseHeard (past : History (State T) (Action T) (Outcome T)) (event : Event (State T) (Action T) (Outcome T)) : Prop :=
  pending false past ≠ none → ¬ ClosesIdle event.before event.action

instance [DecidableEq T] (past : History (State T) (Action T) (Outcome T))
    (event : Event (State T) (Action T) (Outcome T)) : Decidable (CloseHeard past event) := by
  unfold CloseHeard ClosesIdle
  infer_instance

/-- Where the waker of a receiver that waits is kept. Once no sender is left it may be gone. -/
structure Waits (counted : Bool) (waker : Waker) (s : State T) : Prop where
  receives : s.handles.receives counted = true
  registered : s.queue.waker = some waker ∨ counted = true ∧ s.handles.senderCount = 0

variable {counted : Bool} {build : Build} {start state : State T} {waker : Waker} {q : UnboundedQueue T}
  {past history : History (State T) (Action T) (Outcome T)} {event : Event (State T) (Action T) (Outcome T)}

theorem tryRecv_quiet : (q.tryRecv counted).map Effect.value = .ok (.error .empty) ↔ Quiet counted q := by
  have popped : ∃ effect, q.tryRecv counted = .ok effect := by
    simp only [Queue.tryRecv, MaybeBoundedQueue.tryRecv]
    split <;> exact ⟨_, rfl⟩
  obtain ⟨effect, done⟩ := popped
  rw [done]
  rcases unbounded_tryRecv_ok done with ⟨elem, rest, _, _, items, rfl⟩ | ⟨items, _, _, rfl⟩
  · simp [Except.map, Quiet, items]
  · simp [Except.map, Quiet, items]

theorem run_counted (run : (system T build).Run start history state) :
    2 * state.handles.senderCount ≤ state.queue.mask.bits := CensusCounts.run_covers (UnboundedCensus.run_census run)

section Senders

/-- What a call of a sender means to a receiver that waits. -/
structure Signal (counted : Bool) (s : State T) (effect : Effect (UnboundedQueue T) (Reply T)) : Prop where
  waker : effect.state.waker = s.queue.waker ∨
    effect.state.waker = none ∧ effect.state.mask.bits = 1 ∧ 0 < s.handles.senderCount
  wakes : Quiet counted s.queue → ¬ Quiet counted effect.state →
    ∀ waker, s.queue.waker = some waker → waker ∈ effect.woken

theorem sender_signal (counted : Bool) {s : State T} {action : Action T} {effect : Effect (UnboundedQueue T) (Reply T)}
    (side : receiverSide action = false) (able : enabled s.handles action = true)
    (operated : operate build s action = .ok effect) : Signal counted s effect := by
  cases action with
  | send via elem =>
    cases operated
    rcases unbounded_send_eq s.queue via.counted elem with ⟨_, same⟩ | ⟨_, same⟩
    · rw [same]
      exact ⟨.inl rfl, fun quiet ends => absurd quiet ends⟩
    · rw [same]
      exact ⟨.inl rfl, fun _ _ waker registered => by simp [Effect.map, registered]⟩
  | cloneSender id =>
    obtain ⟨queue, done, stored⟩ := bind_ok operated
    obtain ⟨mask, bits, rfl⟩ := increaseSenderCount_ok done
    cases stored
    exact ⟨.inl rfl, fun quiet ends => absurd ⟨quiet.1, Mask.isClosed_add bits quiet.2⟩ ends⟩
  | dropSender id =>
    obtain ⟨dropped, done, stored⟩ := bind_ok operated
    cases stored
    obtain ⟨_, ⟨_, rfl⟩ | ⟨many, rfl⟩⟩ := decreaseSenderCount_ok done
    · exact ⟨.inr ⟨rfl, rfl, Handles.senderCount_pos able⟩, fun _ _ waker registered => by simp [Effect.map, registered]⟩
    · exact ⟨.inl rfl, fun quiet ends => absurd ⟨quiet.1, (Mask.isClosed_sub many).trans quiet.2⟩ ends⟩
  | forgetSender id =>
    cases operated
    exact ⟨.inl rfl, fun quiet ends => absurd quiet ends⟩
  | _ => cases side

theorem sender_present {h : Handles} {action : Action T} (receiver : h.receiver = true)
    (side : receiverSide action = false) (able : enabled h action = true) : 0 < h.senderCount := by
  cases action with
  | send => exact Handles.usable_sender able receiver
  | cloneSender id | dropSender id | forgetSender id => exact Handles.senderCount_pos able
  | _ => cases side

theorem record_kept {h : Handles} {action : Action T} (side : receiverSide action = false)
    (able : enabled h action = true) (receives : h.receives counted = true) :
    (record h action).receives counted = true ∧ (h.senderCount = 0 → (record h action).senderCount = 0) := by
  cases action with
  | send => exact ⟨receives, fun zero => zero⟩
  | cloneSender id | dropSender id | forgetSender id =>
    have some := Handles.senderCount_pos able
    cases counted with
    | true => exact ⟨receives, by omega⟩
    | false =>
      have zero := (Handles.unsplit_iff.mp receives).2.2
      omega
  | _ => cases side

end Senders

theorem Waits.sender (waits : Waits counted waker event.before)
    (side : receiverSide event.action = false) (able : enabled event.before.handles event.action = true)
    {effect : Effect (UnboundedQueue T) (Reply T)} (operated : operate build event.before event.action = .ok effect)
    (bits : 2 * (record event.before.handles event.action).senderCount ≤ effect.state.mask.bits) :
    Waits counted waker ⟨effect.state, record event.before.handles event.action⟩ := by
  obtain ⟨receives, nobody⟩ := record_kept side able waits.receives
  refine ⟨receives, ?_⟩
  rcases waits.registered with registered | ⟨split, gone⟩
  · rcases (sender_signal counted side able operated).waker with same | ⟨_, last, some⟩
    · exact .inl (same.trans registered)
    · cases counted with
      | true => exact .inr ⟨rfl, by simp only; omega⟩
      | false =>
        have zero := (Handles.unsplit_iff.mp waits.receives).2.2
        omega
  · exact .inr ⟨split, nobody gone⟩

theorem run_waits (run : (system T build).Run start history state) (waits : pending counted history = some waker) :
    Waits counted waker state := by
  refine run.latest (Waits counted) ?_ ?_ waits
  · intro past event waker run sets
    obtain ⟨_, able, effect, operated, after, outcome⟩ := run_step run
    obtain ⟨before, action, _, _⟩ := event
    dsimp only at after outcome able operated
    subst after outcome
    cases action with
    | pollRecv mode poller =>
      obtain ⟨result, done, stored⟩ := bind_ok operated
      cases stored
      obtain ⟨received, tried, rfl⟩ := pollRecv_ok done
      simp only [polled, Effect.map] at sets
      split at sets
      next waiting =>
        split at sets
        next same =>
          cases sets
          subst same
          refine ⟨able, .inl ?_⟩
          rcases value : received.value with error | elem
          · cases error
            · simp [Effect.map]
            · simp [value] at waiting
          · simp [value] at waiting
        next => cases sets
      next => cases sets
    | tryRecv mode =>
      simp only [polled] at sets
      split at sets <;> cases sets
    | _ => cases sets
  · intro past event waker run keeps waits
    have counts := run_counted run
    obtain ⟨_, able, effect, operated, after, _⟩ := run_step run
    rw [after] at counts ⊢
    by_cases side : receiverSide event.action = false
    · exact waits.sender side able operated counts
    · obtain ⟨before, action, outcome, _⟩ := event
      dsimp only at waits able operated keeps side
      cases action with
      | close mode =>
        obtain ⟨closed, done, stored⟩ := bind_ok operated
        cases unbounded_close_ok done
        cases stored
        exact ⟨waits.receives, waits.registered⟩
      | tryRecv mode =>
        obtain ⟨result, done, stored⟩ := bind_ok operated
        cases stored
        rcases unbounded_tryRecv_ok done with ⟨_, _, _, _, _, rfl⟩ | ⟨_, _, _, rfl⟩ <;>
          exact ⟨waits.receives, waits.registered⟩
      | split | intoSplit | intoDeque | dropReceiver | forgetReceiver => cases keeps
      | pollRecv mode poller =>
        simp only [polled] at keeps
        split at keeps
        · split at keeps <;> cases keeps
        · cases keeps
      | _ => exact absurd rfl side

theorem signals (run : (system T build).Run start (event :: past) event.after)
    (side : receiverSide event.action = false) : Signals counted past event := by
  obtain ⟨earlier, able, effect, operated, after, outcome⟩ := run_step run
  intro waker waits empty ends
  simp only [wouldReceive, ne_eq, tryRecv_quiet, after, outcome] at empty ends ⊢
  obtain ⟨receives, registered | ⟨rfl, none⟩⟩ := run_waits earlier waits
  · exact (sender_signal counted side able operated).wakes empty ends waker registered
  · have some := sender_present receives side able
    omega

theorem close_signals_iff (run : (system T build).Run start (event :: past) event.after)
    (closes : event.action = .close false) : Signals false past event ↔ CloseHeard past event := by
  obtain ⟨_, _, effect, operated, after, outcome⟩ := run_step run
  have operated' := operated
  rw [closes] at operated'
  obtain ⟨closed, done, stored⟩ := bind_ok operated'
  cases unbounded_close_ok done
  cases stored
  have ended : ¬ Quiet false event.after.queue := by
    rw [after]
    simp [Quiet, Effect.map, Queue.isClosed]
  have silent : event.outcome.woken = [] := by
    rw [outcome]
    rfl
  simp only [Signals, CloseHeard, ClosesIdle, wouldReceive, ne_eq, tryRecv_quiet, silent, closes, Option.ne_none_iff_exists']
  constructor
  · intro signals waiting idle
    obtain ⟨waker, waits⟩ := waiting
    obtain ⟨_, quiet⟩ := idle
    exact absurd (signals waker waits quiet ended) List.not_mem_nil
  · intro heard waker waits quiet _
    exact absurd ⟨trivial, quiet⟩ (heard ⟨waker, waits⟩)

end AsyncUnsync.Proofs.UnboundedWaking
