import AsyncUnsync.Proofs.ReceiverSignals

/-! Wake-ups of the receiver of a bounded channel, along whole runs. -/

namespace AsyncUnsync.Proofs.ReceiverWaking
open Memory Transition BoundedSystem QueueCalls BoundedClients BoundedValid ReceiverSignals
variable {T : Type}

/-- How a step changes the waker that waits: a poll that returns pending sets it. -/
def polled (counted : Bool) (event : Event (State T) (Action T) (Outcome T)) : Option (Option Waker) :=
  match event.action with
  | .pollRecv mode waker =>
    match event.outcome.reply with
    | .polled .pending => if mode = counted then some (some waker) else some none
    | _ => some none
  | .tryRecv _ =>
    match event.outcome.reply with
    | .received (.ok _) => some none
    | _ => none
  | .split | .intoSplit | .intoDeque | .dropReceiver | .forgetReceiver => some none
  | _ => none

/-- The waker of the last poll, if it returned pending and nothing was received since. -/
def pending (counted : Bool) (history : History (State T) (Action T) (Outcome T)) : Option Waker :=
  latest (polled counted) history

def wouldReceive (counted : Bool) (s : State T) : Except Fault (Except TryRecvError T) :=
  (s.queue.tryRecv counted).map Effect.value

/-- A step that ends the wait of the receiver wakes it. -/
def Signals (counted : Bool) (past : History (State T) (Action T) (Outcome T))
    (event : Event (State T) (Action T) (Outcome T)) : Prop :=
  ∀ waker ∈ pending counted past, wouldReceive counted event.before = .ok (.error .empty) →
    wouldReceive counted event.after ≠ .ok (.error .empty) → waker ∈ event.outcome.woken

/-- The last reservation is resolved silently, unless the task of the receiver is also the
blocked sender that gets the slot. -/
def ResolvesHeard (counted : Bool) (past : History (State T) (Action T) (Outcome T))
    (event : Event (State T) (Action T) (Outcome T)) : Prop :=
  ∀ waker ∈ pending counted past, Resolves counted event.before event.action →
    waker ∈ (blockedWakers event.before.queue.extra.semaphore).take 1

/-- The unsplit channel is closed while it is open and empty and nothing is reserved. -/
def ClosesIdle (s : State T) (action : Action T) : Prop :=
  action = .close false ∧ s.queue.items = [] ∧ s.queue.extra.reserved = 0 ∧ s.queue.isClosed false = false

/-- Closing wakes the blocked senders only. -/
def CloseHeard (past : History (State T) (Action T) (Outcome T)) (event : Event (State T) (Action T) (Outcome T)) : Prop :=
  ∀ waker ∈ pending false past, ClosesIdle event.before event.action →
    waker ∈ blockedWakers event.before.queue.extra.semaphore

instance [DecidableEq T] (past : History (State T) (Action T) (Outcome T))
    (event : Event (State T) (Action T) (Outcome T)) : Decidable (CloseHeard past event) := by
  unfold CloseHeard ClosesIdle
  infer_instance

instance (counted : Bool) (past : History (State T) (Action T) (Outcome T))
    (event : Event (State T) (Action T) (Outcome T)) : Decidable (ResolvesHeard counted past event) := by
  unfold ResolvesHeard
  infer_instance

/-- Where the waker of a receiver that waits is kept. Once no sender is left it may be gone. -/
structure Waits (counted : Bool) (waker : Waker) (s : State T) : Prop where
  receives : s.clients.handles.receives counted = true
  registered : s.queue.waker = some waker ∨ counted = true ∧ s.clients.senderCount = 0

variable {counted : Bool} {build : Build} {start state : State T} {waker : Waker}
  {past history : History (State T) (Action T) (Outcome T)} {event : Event (State T) (Action T) (Outcome T)}

private theorem record_rest (c : Clients T) (reply : Reply T) {action : Action T} (side : receiverSide action = false) :
    (record c reply action).handles.receiver = c.handles.receiver ∧
      (record c reply action).handles.channel = c.handles.channel := by
  cases action with
  | split | intoSplit | intoDeque | close | tryRecv | pollRecv | dropReceiver | forgetReceiver => cases side
  | tryReserve | tryReserveOwned | pollFuture =>
    simp only [record]
    split <;> exact ⟨rfl, rfl⟩
  | _ => exact ⟨rfl, rfl⟩

private theorem receives_kept {c : Clients T} (reply : Reply T) {action : Action T} (coherent : Coherent c)
    (side : receiverSide action = false) (receives : c.handles.receives counted = true)
    (none : c.senderCount = 0 → (record c reply action).senderCount = 0) :
    (record c reply action).handles.receives counted = true := by
  obtain ⟨receiver, channel⟩ := record_rest c reply side
  cases counted with
  | true => exact receiver.trans receives
  | false =>
    obtain ⟨owned, absent, _⟩ := Handles.unsplit_iff.mp receives
    have nobody := none (unsplit_senders coherent receives)
    refine Handles.unsplit_iff.mpr ⟨channel.trans owned, receiver.trans absent, ?_⟩
    simp only [Clients.senderCount] at nobody
    omega

theorem Waits.sender (waits : Waits counted waker event.before) (valid : Valid event.before)
    (side : receiverSide event.action = false) (able : enabled event.before.clients event.action = true)
    {effect : Effect (BoundedQueue T) (Reply T)} (operated : operate build event.before event.action = .ok effect) :
    Waits counted waker ⟨effect.state, record event.before.clients effect.value event.action⟩ := by
  have whole : splits event.action = false := by
    revert side
    cases event.action <;> simp [splits, receiverSide]
  obtain ⟨bits, nobody⟩ := senders_step valid.coherent valid.counted able operated
  refine ⟨receives_kept effect.value valid.coherent side waits.receives (nobody whole), ?_⟩
  rcases waits.registered with registered | ⟨split, gone⟩
  · rcases (sender_signal counted valid side able operated).waker with same | ⟨_, last, some⟩
    · exact .inl (same.trans registered)
    · cases mode : counted with
      | true => exact .inr ⟨rfl, by simp only; omega⟩
      | false =>
        subst mode
        have none := unsplit_senders valid.coherent waits.receives
        omega
  · exact .inr ⟨split, nobody whole gone⟩

theorem run_waits (run : (system T build).Run start history state) (waits : pending counted history = some waker) :
    Waits counted waker state := by
  refine run.latest (Waits counted) ?_ ?_ waits
  · intro past event waker run sets
    obtain ⟨_, _, able, effect, operated, after, outcome⟩ := run_step run
    obtain ⟨before, action, _, _⟩ := event
    dsimp only at after outcome able operated
    subst after outcome
    cases action with
    | pollRecv mode poller =>
      obtain ⟨result, done, stored⟩ := bind_ok operated
      cases stored
      obtain ⟨received, tried, rfl⟩ := pollRecv_ok done
      simp only [polled, Effect.map] at sets
      split at sets
      next waiting =>
        split at sets
        next same =>
          cases sets
          subst same
          refine ⟨able, .inl ?_⟩
          rcases value : received.value with error | elem
          · cases error
            · simp [Effect.map]
            · simp [value] at waiting
          · simp [value] at waiting
        next => cases sets
      next => cases sets
    | tryRecv mode =>
      simp only [polled] at sets
      split at sets <;> cases sets
    | _ => cases sets
  · intro past event waker run keeps waits
    obtain ⟨_, valid, able, effect, operated, after, _⟩ := run_step run
    rw [after]
    by_cases side : receiverSide event.action = false
    · exact waits.sender valid side able operated
    · obtain ⟨before, action, outcome, _⟩ := event
      dsimp only at waits able operated keeps side
      cases action with
      | close mode =>
        obtain ⟨closed, done, stored⟩ := bind_ok operated
        obtain ⟨_, _, rfl⟩ := close_ok done
        cases stored
        exact ⟨waits.receives, waits.registered⟩
      | tryRecv mode =>
        obtain ⟨result, done, stored⟩ := bind_ok operated
        cases stored
        rcases tryRecv_ok done with ⟨_, _, _, _, _, _, _, _, same⟩ | ⟨_, _, _, rfl⟩
        · refine ⟨waits.receives, ?_⟩
          simp only [Effect.map, same]
          exact waits.registered
        · exact ⟨waits.receives, waits.registered⟩
      | split | intoSplit | intoDeque | dropReceiver | forgetReceiver => cases keeps
      | pollRecv mode poller =>
        simp only [polled] at keeps
        split at keeps
        · split at keeps <;> cases keeps
        · cases keeps
      | _ => exact absurd rfl side

private theorem usable_sender {c : Clients T} {via : Via} (usable : c.handles.usable via = true)
    (receiver : c.handles.receiver = true) : 0 < c.senderCount := by
  have some := Handles.usable_sender usable receiver
  simp only [Clients.senderCount]
  omega

private theorem suspended_sender {c : Clients T} {a : Addr} {future : Suspended T} (coherent : Coherent c)
    (found : c.futures.get? a = some future) (receiver : c.handles.receiver = true) : 0 < c.senderCount := by
  cases via : future.via with
  | some reference => exact usable_sender (coherent.borrowed reference (.inr ⟨a, future, found, via⟩)) receiver
  | none =>
    have some := Arena.count_pos found (p := Suspended.owned) (by simp [Suspended.owned, via])
    simp only [Clients.senderCount]
    omega

theorem sender_present {c : Clients T} {action : Action T} (coherent : Coherent c) (receiver : c.handles.receiver = true)
    (side : receiverSide action = false) (able : enabled c action = true) : 0 < c.senderCount := by
  cases action with
  | split | intoSplit | intoDeque | close | tryRecv | pollRecv | dropReceiver | forgetReceiver => cases side
  | trySend | tryReserve | send | reserve => exact usable_sender able receiver
  | cloneSender id =>
    have live : c.handles.usable (.sender id) = true := able
    exact usable_sender live receiver
  | tryReserveOwned | reserveOwned =>
    simp only [enabled, Bool.and_eq_true] at able
    exact usable_sender able.1.2 receiver
  | pollFuture | dropFuture | forgetFuture =>
    obtain ⟨future, found⟩ := Option.isSome_iff_exists.mp able
    exact suspended_sender coherent found receiver
  | permitSend p | dropPermit p | forgetPermit p =>
    obtain ⟨via, found⟩ := Option.isSome_iff_exists.mp able
    exact usable_sender (coherent.borrowed via (.inl ⟨p, found⟩)) receiver
  | ownedPermitSend | dropOwnedPermit | forgetOwnedPermit =>
    have some := Arena.count_pos_live able
    simp only [Clients.senderCount]
    omega
  | dropSender | forgetSender =>
    simp only [enabled, Bool.and_eq_true] at able
    exact usable_sender able.1 receiver

theorem signals_iff (run : (system T build).Run start (event :: past) event.after)
    (side : receiverSide event.action = false) : Signals counted past event ↔ ResolvesHeard counted past event := by
  obtain ⟨earlier, valid, able, effect, operated, after, outcome⟩ := run_step run
  have woken : event.outcome.woken = effect.woken := by rw [outcome]
  have queue : event.after.queue = effect.state := by rw [after]
  constructor
  · intro signals waker waits resolves
    obtain ⟨quiet, ends, woke⟩ := resolves_signal valid resolves operated
    have heard := signals waker waits (tryRecv_quiet.mpr quiet) fun empty => ends (by
      rw [← queue]
      exact tryRecv_quiet.mp empty)
    rwa [woken, woke] at heard
  · intro heard waker waits empty ends
    rw [woken]
    have signal := sender_signal counted valid side able operated
    have ended : ¬ Quiet counted effect.state := by
      intro quiet
      rw [← queue] at quiet
      exact ends (tryRecv_quiet.mpr quiet)
    rcases signal.wakes (tryRecv_quiet.mp empty) ended with wakes | ⟨resolves, woke⟩
    · obtain ⟨receives, registered | ⟨rfl, none⟩⟩ := run_waits earlier waits
      · exact wakes waker registered
      · have some := sender_present valid.coherent receives side able
        omega
    · rw [woke]
      exact heard waker waits resolves

theorem close_signals_iff (run : (system T build).Run start (event :: past) event.after)
    (closes : event.action = .close false) : Signals false past event ↔ CloseHeard past event := by
  obtain ⟨_, valid, _, effect, operated, after, outcome⟩ := run_step run
  have operated' := operated
  rw [closes] at operated'
  obtain ⟨closed, done, stored⟩ := bind_ok operated'
  obtain ⟨_, closing, rfl⟩ := close_ok done
  cases stored
  have woken : event.outcome.woken = blockedWakers event.before.queue.extra.semaphore := by
    rw [outcome]
    exact close_wakers valid.housed.sound closing
  have still : Quiet false event.after.queue ↔
      event.before.queue.items = [] ∧ event.before.queue.extra.reserved ≠ 0 := by
    rw [after]
    simp [Quiet, Effect.map, Queue.isClosed]
  rw [Signals, CloseHeard]
  apply forall_congr'
  intro waker
  apply forall_congr'
  intro waits
  simp only [wouldReceive, ne_eq, tryRecv_quiet, woken, still]
  constructor
  · intro signals closes
    obtain ⟨_, items, unreserved, opened⟩ := closes
    exact signals ⟨items, fun _ => opened⟩ fun still => still.2 unreserved
  · intro heard quiet ends
    have unreserved : event.before.queue.extra.reserved = 0 := by
      by_contra reserved
      exact ends ⟨quiet.1, reserved⟩
    exact heard ⟨closes, quiet.1, unreserved, quiet.2 unreserved⟩

end AsyncUnsync.Proofs.ReceiverWaking
