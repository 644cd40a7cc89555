import AsyncUnsync.Handles
import AsyncUnsync.Library.History
import AsyncUnsync.Queue

/-! All clients of one bounded `Channel`, split and unsplit: the handles, permits
and futures they hold and every call they can make. All of them may be leaked. -/

namespace AsyncUnsync.BoundedSystem
open Memory Transition

/-- What a suspended future was called with. The future of `reserve_owned` owns its sender. -/
inductive Suspended (T : Type) where
  | send (via : Via) (elem : T)
  | reserve (via : Via)
  | reserveOwned
  deriving DecidableEq, Repr

def Suspended.via {T : Type} : Suspended T → Option Via
  | .send via _ | .reserve via => some via
  | .reserveOwned => none

def Suspended.elem {T : Type} : Suspended T → Option T
  | .send _ elem => some elem
  | .reserve _ | .reserveOwned => none

def Suspended.owned {T : Type} (future : Suspended T) : Bool := future.via.isNone

def Suspended.drop {T : Type} (future : Suspended T) (q : BoundedQueue T) (a : Addr) :
    Except Fault (Effect (BoundedQueue T) Unit) :=
  if future.owned then q.dropReserveOwned a else q.dropAcquire a

/-- A receiving call is counted when it goes through the receiver of a split channel. -/
inductive Action (T : Type) where
  | split
  | intoSplit
  | intoDeque
  | close (counted : Bool)
  | tryRecv (counted : Bool)
  | pollRecv (counted : Bool) (waker : Waker)
  | dropReceiver
  | forgetReceiver
  | trySend (via : Via) (elem : T)
  | tryReserve (via : Via)
  | tryReserveOwned (id : Addr)
  | send (via : Via) (elem : T)
  | reserve (via : Via)
  | reserveOwned (id : Addr)
  | pollFuture (a : Addr) (waker : Waker)
  | dropFuture (a : Addr)
  | forgetFuture (a : Addr)
  | permitSend (p : Addr) (elem : T)
  | dropPermit (p : Addr)
  | forgetPermit (p : Addr)
  | ownedPermitSend (p : Addr) (elem : T)
  | dropOwnedPermit (p : Addr)
  | forgetOwnedPermit (p : Addr)
  | cloneSender (id : Addr)
  | dropSender (id : Addr)
  | forgetSender (id : Addr)
  deriving DecidableEq, Repr

/-- Results name new permits, futures and senders by their number. -/
inductive Reply (T : Type) where
  | done
  | deque (items : List T)
  | received (result : Except TryRecvError T)
  | polled (result : Poll (Option T))
  | trySent (result : Except (TrySendError T) Unit)
  | tryReserved (result : Except (TrySendError Unit) Addr)
  | tryReservedOwned (result : Except (TrySendError Addr) Addr)
  | future (a : Addr)
  | pending
  | sent (result : Except (SendError T) Unit)
  | reserved (via : Via) (result : Except (SendError Unit) Addr)
  | reservedOwned (result : Except (SendError Addr) Addr)
  | sender (id : Addr)
  deriving DecidableEq, Repr

structure Outcome (T : Type) where
  reply : Reply T
  woken : List Waker
  deriving DecidableEq, Repr

/-- What the clients hold. A permit remembers the reference it borrows. -/
structure Clients (T : Type) where
  handles : Handles
  permits : Arena Via
  ownedPermits : Arena Unit
  futures : Arena (Suspended T)
  deriving DecidableEq, Repr

/-- The future with number `a` keeps its `Acquire` at the address `a` of the semaphore. -/
structure State (T : Type) where
  queue : BoundedQueue T
  clients : Clients T
  deriving DecidableEq, Repr

variable {T : Type}

def State.new (queue : BoundedQueue T) : State T := ⟨queue, ⟨.new, .empty, .empty, .empty⟩⟩

namespace Clients

/-- Nothing borrows the channel: it can be taken by `&mut` or by value. -/
def exclusive (c : Clients T) : Bool :=
  c.handles.unsplit && c.permits.count (fun _ => true) == 0 && c.futures.count (fun _ => true) == 0

def borrowed (c : Clients T) (id : Addr) : Bool :=
  c.permits.count (fun via => via == .sender id) != 0 ||
    c.futures.count (fun future => future.via == some (.sender id)) != 0

/-- The senders that count: handles, and those inside owned permits and futures. -/
def senderCount (c : Clients T) : Nat :=
  c.handles.senderCount + c.ownedPermits.count (fun _ => true) + c.futures.count Suspended.owned

end Clients

def enabled (c : Clients T) : Action T → Bool
  | .split | .intoSplit | .intoDeque => c.exclusive
  | .close counted | .tryRecv counted | .pollRecv counted _ => c.handles.receives counted
  | .dropReceiver | .forgetReceiver => c.handles.receiver
  | .trySend via _ | .tryReserve via | .send via _ | .reserve via => c.handles.usable via
  | .tryReserveOwned id | .reserveOwned id =>
    !c.handles.channel && c.handles.usable (.sender id) && !c.borrowed id
  | .pollFuture a _ | .dropFuture a | .forgetFuture a => (c.futures.get? a).isSome
  | .permitSend p _ | .dropPermit p | .forgetPermit p => (c.permits.get? p).isSome
  | .ownedPermitSend p _ | .dropOwnedPermit p | .forgetOwnedPermit p => (c.ownedPermits.get? p).isSome
  | .cloneSender id => c.handles.usable (.sender id)
  | .dropSender id | .forgetSender id => c.handles.usable (.sender id) && !c.borrowed id

def operate (build : Build) (s : State T) : Action T → Except Fault (Effect (BoundedQueue T) (Reply T))
  | .split | .intoSplit => do
    let effect ← s.queue.setCounted build
    .ok (effect.map fun _ => .sender s.clients.handles.senders.size)
  | .intoDeque => .ok ⟨{ s.queue with queue := .new }, .deque s.queue.items, []⟩
  | .close counted => do
    let effect ← s.queue.close counted
    .ok (effect.map fun _ => .done)
  | .tryRecv counted => do
    let effect ← s.queue.tryRecv counted
    .ok (effect.map .received)
  | .pollRecv counted waker => do
    let effect ← s.queue.pollRecv counted waker
    .ok (effect.map .polled)
  | .dropReceiver => do
    let effect ← s.queue.close true
    .ok (effect.map fun _ => .done)
  | .trySend _ elem => .ok ((BoundedQueue.trySend s.queue elem).map .trySent)
  | .tryReserve _ => do
    let effect ← BoundedQueue.tryReserve s.queue
    .ok (effect.map fun result => .tryReserved (result.map fun _ => s.clients.permits.size))
  | .tryReserveOwned id => do
    let effect ← BoundedQueue.tryReserve s.queue
    .ok (effect.map fun
      | .ok () => .tryReservedOwned (.ok s.clients.ownedPermits.size)
      | .error error => .tryReservedOwned (.error (error.set id)))
  | .send _ _ | .reserve _ | .reserveOwned _ =>
    .ok ⟨BoundedQueue.acquire s.queue, .future s.clients.futures.size, []⟩
  | .pollFuture a waker =>
    match s.clients.futures.get? a with
    | none => .error .dangling
    | some (.send _ elem) => do
      let effect ← BoundedQueue.send s.queue a waker elem
      .ok (effect.map fun
        | .pending => .pending
        | .ready result => .sent result)
    | some (.reserve via) => do
      let effect ← BoundedQueue.reserve s.queue a waker
      .ok (effect.map fun
        | .pending => .pending
        | .ready result => .reserved via (result.map fun _ => s.clients.permits.size))
    | some .reserveOwned => do
      let effect ← BoundedQueue.reserve s.queue a waker
      .ok (effect.map fun
        | .pending => .pending
        | .ready (.ok ()) => .reservedOwned (.ok s.clients.ownedPermits.size)
        | .ready (.error _) => .reservedOwned (.error ⟨s.clients.handles.senders.size⟩))
  | .dropFuture a =>
    match s.clients.futures.get? a with
    | none => .error .dangling
    | some future => do
      let effect ← future.drop s.queue a
      .ok (effect.map fun _ => .done)
  | .permitSend _ elem => do
    let effect ← BoundedQueue.permitSend s.queue elem
    .ok (effect.map fun _ => .done)
  | .ownedPermitSend _ elem => do
    let effect ← BoundedQueue.permitSend s.queue elem
    .ok (effect.map fun _ => .sender s.clients.handles.senders.size)
  | .dropPermit _ => do
    let effect ← BoundedQueue.dropPermit s.queue
    .ok (effect.map fun _ => .done)
  | .dropOwnedPermit _ => do
    let effect ← BoundedQueue.dropOwnedPermit s.queue
    .ok (effect.map fun _ => .done)
  | .cloneSender _ => do
    let queue ← s.queue.increaseSenderCount
    .ok ⟨queue, .sender s.clients.handles.senders.size, []⟩
  | .dropSender _ => do
    let effect ← s.queue.decreaseSenderCount
    .ok (effect.map fun _ => .done)
  | .forgetReceiver | .forgetFuture _ | .forgetPermit _ | .forgetOwnedPermit _ | .forgetSender _ =>
    .ok ⟨s.queue, .done, []⟩

/-- What the clients hold afterwards. A future that is ready is gone. -/
def record (c : Clients T) (reply : Reply T) : Action T → Clients T
  | .split => { c with handles := c.handles.split }
  | .intoSplit => { c with handles := c.handles.intoSplit }
  | .intoDeque => { c with handles.channel := false }
  | .dropReceiver | .forgetReceiver => { c with handles.receiver := false }
  | .tryReserve via =>
    match reply with
    | .tryReserved (.ok _) => { c with permits := c.permits.alloc via }
    | _ => c
  | .tryReserveOwned id =>
    match reply with
    | .tryReservedOwned (.ok _) =>
      { c with handles := c.handles.removeSender id, ownedPermits := c.ownedPermits.alloc () }
    | _ => c
  | .send via elem => { c with futures := c.futures.alloc (.send via elem) }
  | .reserve via => { c with futures := c.futures.alloc (.reserve via) }
  | .reserveOwned id => { c with handles := c.handles.removeSender id, futures := c.futures.alloc .reserveOwned }
  | .pollFuture a _ =>
    match reply with
    | .pending => c
    | .reserved via (.ok _) => { c with futures := c.futures.free a, permits := c.permits.alloc via }
    | .reservedOwned (.ok _) => { c with futures := c.futures.free a, ownedPermits := c.ownedPermits.alloc () }
    | .reservedOwned (.error _) => { c with futures := c.futures.free a, handles := c.handles.addSender }
    | _ => { c with futures := c.futures.free a }
  | .dropFuture a | .forgetFuture a => { c with futures := c.futures.free a }
  | .permitSend p _ | .dropPermit p | .forgetPermit p => { c with permits := c.permits.free p }
  | .ownedPermitSend p _ => { c with ownedPermits := c.ownedPermits.free p, handles := c.handles.addSender }
  | .dropOwnedPermit p | .forgetOwnedPermit p => { c with ownedPermits := c.ownedPermits.free p }
  | .cloneSender _ => { c with handles := c.handles.addSender }
  | .dropSender id | .forgetSender id => { c with handles := c.handles.removeSender id }
  | .close _ | .tryRecv _ | .pollRecv _ _ | .trySend _ _ => c

def step (build : Build) (s : State T) (action : Action T) : Except Fault (State T × Outcome T) := do
  let ⟨queue, reply, woken⟩ ← operate build s action
  .ok (⟨queue, record s.clients reply action⟩, ⟨reply, woken⟩)

/-- Every run starts with one of the constructors of the channel. -/
def Constructed (queue : BoundedQueue T) : Prop :=
  (∃ capacity ≤ usizeMax, BoundedQueue.new capacity = .ok queue) ∨
    (∃ capacity ≤ usizeMax, ∃ initial, BoundedQueue.withCapacity capacity initial = .ok queue) ∨
    ∃ capacity ≤ usizeMax, ∃ iter : List T, iter.length ≤ usizeMax ∧ queue = .fromIter capacity iter

def system (T : Type) (build : Build) : System (State T) (Action T) (Outcome T) Fault where
  Initial s := ∃ queue, Constructed queue ∧ s = .new queue
  Enabled s action := enabled s.clients action = true
  step := step build

instance (build : Build) (s : State T) (action : Action T) : Decidable ((system T build).Enabled s action) :=
  inferInstanceAs (Decidable (enabled s.clients action = true))

theorem step_ok {build : Build} {s after : State T} {action : Action T} {outcome : Outcome T}
    (stepped : (system T build).step s action = .ok (after, outcome)) :
    ∃ effect, operate build s action = .ok effect ∧ after = ⟨effect.state, record s.clients effect.value action⟩ ∧
      outcome = ⟨effect.value, effect.woken⟩ := by
  obtain ⟨effect, operated, stored⟩ := bind_ok stepped
  obtain ⟨rfl, rfl⟩ := Prod.mk.inj (Except.ok.inj stored)
  exact ⟨effect, operated, rfl, rfl⟩

end AsyncUnsync.BoundedSystem
