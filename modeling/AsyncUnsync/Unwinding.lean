import AsyncUnsync.BoundedSystem

/-! The sending calls of a bounded channel when the waker of the receiver panics and somebody
catches the panic. Unwinding runs the destructors of the values in scope. A second panic
meanwhile would abort the program, so the wakers that destructors invoke only notify. -/

namespace AsyncUnsync
open Memory

/-- How a call comes back to its caller. -/
inductive Completion (β : Type) where
  | returned (value : β)
  | panicked
  deriving DecidableEq, Repr

def Completion.map {β γ : Type} (f : β → γ) : Completion β → Completion γ
  | .returned value => .returned (f value)
  | .panicked => .panicked

namespace Unwinding
open Transition
variable {T B : Type}

/-- `panics` tells what `wake_by_ref` of the registered waker does. The element is queued before. -/
def pushAndWake (panics : Bool) (q : Queue T B) (elem : T) : Effect (Queue T B) (Completion Unit) :=
  let q := { q with queue := q.queue.pushBack elem }
  match q.waker with
  | some waker => ⟨q, if panics then .panicked else .returned (), [waker]⟩
  | none => ⟨q, .returned (), []⟩

def unboundedSend (panics : Bool) (q : BoundedQueue T) (elem : T) : Effect (BoundedQueue T) (Completion Unit) :=
  pushAndWake panics q elem

def trySend (panics : Bool) (q : BoundedQueue T) (elem : T) :
    Effect (BoundedQueue T) (Completion (Except (TrySendError T) Unit)) :=
  match q.extra.semaphore.tryAcquireMany 1 with
  | .ok semaphore =>
    let pushed := pushAndWake panics { q with extra.semaphore := semaphore } elem
    pushed.map (.map .ok)
  | .error error => ⟨q, .returned (.error (.ofAcquire error elem)), []⟩

/-- One poll of the future of `send`. -/
def send (panics : Bool) (q : BoundedQueue T) (a : Addr) (waker : Waker) (elem : T) :
    Except Fault (Effect (BoundedQueue T) (Completion (Poll (Except (SendError T) Unit)))) := do
  let ⟨semaphore, acquired, woken⟩ ← q.extra.semaphore.awaitAcquire a waker
  let q := { q with extra.semaphore := semaphore }
  match acquired with
  | .pending => .ok ⟨q, .returned .pending, woken⟩
  | .ready (.error _) => .ok ⟨q, .returned (.ready (.error ⟨elem⟩)), woken⟩
  | .ready (.ok ()) =>
    let pushed := pushAndWake panics q elem
    .ok ⟨pushed.state, pushed.value.map fun _ => .ready (.ok ()), woken ++ pushed.woken⟩

/-- Sends with a slot that is reserved. `unwind` runs the destructors of what is in scope meanwhile. -/
def reservedSend (unwind : BoundedQueue T → Except Fault (Effect (BoundedQueue T) Unit)) (panics : Bool)
    (q : BoundedQueue T) (elem : T) : Except Fault (Effect (BoundedQueue T) (Completion Unit)) := do
  let pushed := unboundedSend panics q elem
  match pushed.value with
  | .returned () =>
    let ⟨q, _, woken⟩ ← BoundedQueue.unreserve true pushed.state
    .ok ⟨q, .returned (), pushed.woken ++ woken⟩
  | .panicked =>
    let ⟨q, _, woken⟩ ← unwind pushed.state
    .ok ⟨q, .panicked, pushed.woken ++ woken⟩

/-- `Permit::send`. The permit is forgotten at the end, so that a panic drops it. -/
def permitSend (panics : Bool) (q : BoundedQueue T) (elem : T) :
    Except Fault (Effect (BoundedQueue T) (Completion Unit)) :=
  reservedSend BoundedQueue.dropPermit panics q elem

/-- `OwnedPermit::send`. The sender was taken out of the permit: a panic drops the sender, and
then a permit without one, whose destructor does nothing. -/
def ownedPermitSend (panics : Bool) (q : BoundedQueue T) (elem : T) :
    Except Fault (Effect (BoundedQueue T) (Completion Unit)) :=
  reservedSend Queue.decreaseSenderCount panics q elem

/-- A call of a client, and what the waker of the receiver does in it. -/
structure Action (T : Type) where
  call : BoundedSystem.Action T
  panics : Bool
  deriving DecidableEq, Repr

structure Outcome (T : Type) where
  reply : Completion (BoundedSystem.Reply T)
  woken : List Waker
  deriving DecidableEq, Repr

/-- A call that does not wake the receiver by reference. -/
def operateCalmly (build : Build) (s : BoundedSystem.State T) (call : BoundedSystem.Action T) :
    Except Fault (Effect (BoundedQueue T) (Completion (BoundedSystem.Reply T))) := do
  let effect ← BoundedSystem.operate build s call
  .ok (effect.map .returned)

def operate (build : Build) (s : BoundedSystem.State T) (action : Action T) :
    Except Fault (Effect (BoundedQueue T) (Completion (BoundedSystem.Reply T))) :=
  match action.call with
  | .trySend _ elem => .ok ((trySend action.panics s.queue elem).map (.map .trySent))
  | .pollFuture a waker =>
    match s.clients.futures.get? a with
    | some (.send _ elem) => do
      let effect ← send action.panics s.queue a waker elem
      .ok (effect.map (.map fun
        | .pending => .pending
        | .ready result => .sent result))
    | _ => operateCalmly build s action.call
  | .permitSend _ elem => do
    let effect ← permitSend action.panics s.queue elem
    .ok (effect.map (.map fun _ => .done))
  | .ownedPermitSend _ elem => do
    let effect ← ownedPermitSend action.panics s.queue elem
    .ok (effect.map (.map fun _ => .sender s.clients.handles.senders.size))
  | _ => operateCalmly build s action.call

/-- A call that panicked hands nothing back, and has consumed its future or permit. -/
def record (c : BoundedSystem.Clients T) (reply : Completion (BoundedSystem.Reply T)) (call : BoundedSystem.Action T) :
    BoundedSystem.Clients T :=
  match reply with
  | .returned reply => BoundedSystem.record c reply call
  | .panicked =>
    match call with
    | .pollFuture a _ => { c with futures := c.futures.free a }
    | .permitSend p _ => { c with permits := c.permits.free p }
    | .ownedPermitSend p _ => { c with ownedPermits := c.ownedPermits.free p }
    | _ => c

def step (build : Build) (s : BoundedSystem.State T) (action : Action T) :
    Except Fault (BoundedSystem.State T × Outcome T) := do
  let ⟨queue, reply, woken⟩ ← operate build s action
  .ok (⟨queue, record s.clients reply action.call⟩, ⟨reply, woken⟩)

def system (T : Type) (build : Build) : System (BoundedSystem.State T) (Action T) (Outcome T) Fault where
  Initial := (BoundedSystem.system T build).Initial
  Enabled s action := BoundedSystem.enabled s.clients action.call = true
  step := step build

instance (build : Build) (s : BoundedSystem.State T) (action : Action T) :
    Decidable ((system T build).Enabled s action) :=
  inferInstanceAs (Decidable (BoundedSystem.enabled s.clients action.call = true))

theorem step_ok {build : Build} {s after : BoundedSystem.State T} {action : Action T} {outcome : Outcome T}
    (stepped : (system T build).step s action = .ok (after, outcome)) :
    ∃ effect, operate build s action = .ok effect ∧
      after = ⟨effect.state, record s.clients effect.value action.call⟩ ∧ outcome = ⟨effect.value, effect.woken⟩ := by
  obtain ⟨effect, operated, stored⟩ := bind_ok stepped
  obtain ⟨rfl, rfl⟩ := Prod.mk.inj (Except.ok.inj stored)
  exact ⟨effect, operated, rfl, rfl⟩

end Unwinding
end AsyncUnsync
