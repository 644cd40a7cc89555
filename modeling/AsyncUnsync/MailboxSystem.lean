import AsyncUnsync.BoundedSystem
import AsyncUnsync.Mailbox

/-! The clients of a bounded channel, as they see it: they hold the same handles, make
the same calls, and are answered by a mailbox. -/

namespace AsyncUnsync.MailboxSystem
open Memory Transition BoundedSystem

structure Scene (T : Type) where
  mailbox : Mailbox T
  clients : Clients T
  deriving DecidableEq, Repr

variable {T : Type}

def view (s : State T) : Scene T := ⟨BoundedQueue.mailbox s.queue, s.clients⟩

def operate (build : Build) (s : Scene T) : Action T → Except Fault (Effect (Mailbox T) (Reply T))
  | .split | .intoSplit => do
    let effect ← s.mailbox.split build
    .ok (effect.map fun _ => .sender s.clients.handles.senders.size)
  | .intoDeque => .ok ⟨{ s.mailbox with items := [] }, .deque s.mailbox.items, []⟩
  | .close counted => .ok ((s.mailbox.close counted).map fun _ => .done)
  | .dropReceiver => .ok ((s.mailbox.close true).map fun _ => .done)
  | .tryRecv counted => .ok ((s.mailbox.tryRecv counted).map .received)
  | .pollRecv counted waker => .ok ((s.mailbox.pollRecv counted waker).map .polled)
  | .trySend _ elem => .ok ((s.mailbox.trySend elem).map .trySent)
  | .tryReserve _ => do
    let effect ← s.mailbox.tryReserve
    .ok (effect.map fun result => .tryReserved (result.map fun _ => s.clients.permits.size))
  | .tryReserveOwned id => do
    let effect ← s.mailbox.tryReserve
    .ok (effect.map fun
      | .ok () => .tryReservedOwned (.ok s.clients.ownedPermits.size)
      | .error error => .tryReservedOwned (.error (error.set id)))
  | .send _ _ | .reserve _ | .reserveOwned _ => .ok ⟨s.mailbox.request, .future s.clients.futures.size, []⟩
  | .pollFuture a waker =>
    match s.clients.futures.get? a with
    | none => .error .dangling
    | some (.send _ elem) =>
      .ok ((s.mailbox.send a waker elem).map fun
        | .pending => .pending
        | .ready result => .sent result)
    | some (.reserve via) => do
      let effect ← s.mailbox.reserve a waker
      .ok (effect.map fun
        | .pending => .pending
        | .ready result => .reserved via (result.map fun _ => s.clients.permits.size))
    | some .reserveOwned => do
      let effect ← s.mailbox.reserve a waker
      .ok (effect.map fun
        | .pending => .pending
        | .ready (.ok ()) => .reservedOwned (.ok s.clients.ownedPermits.size)
        | .ready (.error _) => .reservedOwned (.error ⟨s.clients.handles.senders.size⟩))
  | .dropFuture a =>
    match s.clients.futures.get? a with
    | none => .error .dangling
    | some future => do
      let effect ← if future.owned then s.mailbox.withdrawOwned a else .ok (s.mailbox.withdraw a)
      .ok (effect.map fun _ => .done)
  | .permitSend _ elem => do
    let effect ← s.mailbox.permitSend elem
    .ok (effect.map fun _ => .done)
  | .ownedPermitSend _ elem => do
    let effect ← s.mailbox.permitSend elem
    .ok (effect.map fun _ => .sender s.clients.handles.senders.size)
  | .dropPermit _ => do
    let effect ← s.mailbox.dropPermit
    .ok (effect.map fun _ => .done)
  | .dropOwnedPermit _ => do
    let effect ← s.mailbox.dropOwnedPermit
    .ok (effect.map fun _ => .done)
  | .cloneSender _ => do
    let mailbox ← s.mailbox.increaseSenderCount
    .ok ⟨mailbox, .sender s.clients.handles.senders.size, []⟩
  | .dropSender _ => do
    let effect ← s.mailbox.decreaseSenderCount
    .ok (effect.map fun _ => .done)
  | .forgetReceiver | .forgetFuture _ | .forgetPermit _ | .forgetOwnedPermit _ | .forgetSender _ =>
    .ok ⟨s.mailbox, .done, []⟩

def step (build : Build) (s : Scene T) (action : Action T) : Except Fault (Scene T × Outcome T) := do
  let ⟨mailbox, reply, woken⟩ ← operate build s action
  .ok (⟨mailbox, record s.clients reply action⟩, ⟨reply, woken⟩)

/-- Every run starts with the view of a channel that was constructed. -/
def system (T : Type) (build : Build) : System (Scene T) (Action T) (Outcome T) Fault where
  Initial s := ∃ start, (BoundedSystem.system T build).Initial start ∧ s = view start
  Enabled s action := enabled s.clients action = true
  step := step build

instance (build : Build) (s : Scene T) (action : Action T) : Decidable ((system T build).Enabled s action) :=
  inferInstanceAs (Decidable (enabled s.clients action = true))

end AsyncUnsync.MailboxSystem
