import AsyncUnsync.Error
import AsyncUnsync.Mask

/-! The queue of `queue.rs` that both channels share, with its bounded and
unbounded specializations. -/

namespace AsyncUnsync
open Memory

/-- A `VecDeque`: its contents and the capacity of its buffer. -/
structure Deque (T : Type) where
  items : List T
  capacity : Nat
  deriving DecidableEq, Repr

namespace Deque
variable {T : Type}

def new : Deque T := ⟨[], 0⟩

def withCapacity (capacity : Nat) : Deque T := ⟨[], capacity⟩

def fromIter (iter : List T) : Deque T := ⟨iter, iter.length⟩

def len (deque : Deque T) : Nat := deque.items.length

/-- A full buffer doubles. -/
def pushBack (deque : Deque T) (elem : T) : Deque T :=
  ⟨deque.items ++ [elem], if deque.len < deque.capacity then deque.capacity else max 4 (2 * deque.capacity)⟩

def popFront (deque : Deque T) : Option (T × Deque T) :=
  match deque.items with
  | [] => none
  | elem :: rest => some (elem, { deque with items := rest })

def shrinkTo (deque : Deque T) (capacity : Nat) : Deque T :=
  { deque with capacity := min deque.capacity (max deque.len capacity) }

@[simp] theorem items_new : (new : Deque T).items = [] := rfl

@[simp] theorem items_pushBack (deque : Deque T) (elem : T) : (deque.pushBack elem).items = deque.items ++ [elem] := rfl

end Deque

/-- Every wake-up of a step is listed in its `Effect`. -/
structure Queue (T B : Type) where
  mask : Mask
  queue : Deque T
  popCount : Nat
  waker : Option Waker
  extra : B
  deriving DecidableEq, Repr

namespace Queue
variable {T B : Type}

def new (queue : Deque T) (extra : B) : Queue T B := ⟨.new, queue, 0, none, extra⟩

def items (q : Queue T B) : List T := q.queue.items

@[simp] theorem items_mk (mask : Mask) (queue : Deque T) (popCount : Nat) (waker : Option Waker) (extra : B) :
    (⟨mask, queue, popCount, waker, extra⟩ : Queue T B).items = queue.items := rfl

@[simp] theorem items_eq (q : Queue T B) : q.queue.items = q.items := rfl

def len (q : Queue T B) : Nat := q.queue.len

def isClosed (counted : Bool) (q : Queue T B) : Bool := q.mask.isClosed counted

def increaseSenderCount (q : Queue T B) : Except Fault (Queue T B) := do
  let mask ← q.mask.increaseSenderCount
  .ok { q with mask }

/-- The last sender takes the waker of the receiver and wakes it. -/
def decreaseSenderCount (q : Queue T B) : Except Fault (Effect (Queue T B) Unit) := do
  let (mask, last) ← q.mask.decreaseSenderCount
  if last then .ok ⟨{ q with mask, waker := none }, (), q.waker.toList⟩
  else .ok ⟨{ q with mask }, (), []⟩

def pushAndWake (q : Queue T B) (elem : T) : Effect (Queue T B) Unit :=
  ⟨{ q with queue := q.queue.pushBack elem }, (), q.waker.toList⟩

def tryShrinkQueue (q : Queue T B) : Queue T B :=
  let targetCapacity := q.queue.len + 32
  let q := if q.queue.capacity / 4 > targetCapacity then { q with queue := q.queue.shrinkTo targetCapacity } else q
  { q with popCount := 0 }

def popFront (q : Queue T B) : Queue T B × Option T :=
  match q.queue.popFront with
  | some (elem, queue) =>
    let q := { q with queue, popCount := q.popCount + 1 }
    (if q.popCount == 4096 then q.tryShrinkQueue else q, some elem)
  | none => (if q.popCount > 0 then q.tryShrinkQueue else q, none)

end Queue

/-- The trait over the two kinds of queues. `counted` tells a split channel. -/
class MaybeBoundedQueue (B : Type) where
  reset {T : Type} (build : Build) (q : Queue T B) : Except Fault (Effect (Queue T B) Unit)
  close {T : Type} (counted : Bool) (q : Queue T B) : Except Fault (Effect (Queue T B) Unit)
  tryRecv {T : Type} (counted : Bool) (q : Queue T B) : Except Fault (Effect (Queue T B) (Except TryRecvError T))

namespace Queue
variable {T B : Type} [MaybeBoundedQueue B]

def reset (build : Build) (q : Queue T B) : Except Fault (Effect (Queue T B) Unit) := MaybeBoundedQueue.reset build q

def close (counted : Bool) (q : Queue T B) : Except Fault (Effect (Queue T B) Unit) := MaybeBoundedQueue.close counted q

def tryRecv (counted : Bool) (q : Queue T B) : Except Fault (Effect (Queue T B) (Except TryRecvError T)) :=
  MaybeBoundedQueue.tryRecv counted q

def setCounted (build : Build) (q : Queue T B) : Except Fault (Effect (Queue T B) Unit) := do
  let effect ← q.reset build
  let mask ← effect.state.mask.reset true
  .ok { effect with state := { effect.state with waker := none, mask } }

/-- One poll of a `RecvFuture`, or of `poll_recv`, in the task of `waker`. -/
def pollRecv (counted : Bool) (waker : Waker) (q : Queue T B) :
    Except Fault (Effect (Queue T B) (Poll (Option T))) := do
  let ⟨q, result, woken⟩ ← q.tryRecv counted
  match result with
  | .ok elem => .ok ⟨q, .ready (some elem), woken⟩
  | .error .disconnected => .ok ⟨q, .ready none, woken⟩
  | .error .empty => .ok ⟨{ q with waker := some waker }, .pending, woken⟩

end Queue

structure Unbounded where
  deriving DecidableEq, Repr

abbrev UnboundedQueue (T : Type) := Queue T Unbounded

instance : MaybeBoundedQueue Unbounded where
  reset _ q := .ok ⟨q, (), []⟩
  close counted q := .ok ⟨{ q with mask := q.mask.close counted }, (), []⟩
  tryRecv counted q :=
    match q.popFront with
    | (q, some elem) => .ok ⟨q, .ok elem, []⟩
    | (q, none) => .ok ⟨q, .error (if q.isClosed counted then .disconnected else .empty), []⟩

namespace UnboundedQueue
variable {T : Type}

def new : UnboundedQueue T := Queue.new .new ⟨⟩

def withCapacity (capacity : Nat) : UnboundedQueue T := Queue.new (.withCapacity capacity) ⟨⟩

def fromIter (iter : List T) : UnboundedQueue T := Queue.new (.fromIter iter) ⟨⟩

def send (counted : Bool) (q : UnboundedQueue T) (elem : T) : Effect (UnboundedQueue T) (Except (SendError T) Unit) :=
  if q.isClosed counted then ⟨q, .error ⟨elem⟩, []⟩
  else
    let pushed := q.pushAndWake elem
    ⟨pushed.state, .ok (), pushed.woken⟩

end UnboundedQueue

structure Bounded where
  semaphore : Semaphore
  maxCapacity : Nat
  reserved : Nat
  deriving DecidableEq, Repr

abbrev BoundedQueue (T : Type) := Queue T Bounded

instance : MaybeBoundedQueue Bounded where
  reset build q := do
    let diff ← build.sub q.extra.maxCapacity q.extra.semaphore.availablePermits
    let (semaphore, woken) ← q.extra.semaphore.addPermits diff
    .ok ⟨{ q with extra.semaphore := semaphore }, (), woken⟩
  close counted q := do
    let ⟨semaphore, _, woken⟩ ← q.extra.semaphore.close
    .ok ⟨{ q with mask := q.mask.close counted, extra.semaphore := semaphore }, (), woken⟩
  tryRecv counted q :=
    match q.popFront with
    | (q, some elem) => do
      let (semaphore, woken) ← q.extra.semaphore.addPermits 1
      .ok ⟨{ q with extra.semaphore := semaphore }, .ok elem, woken⟩
    | (q, none) =>
      .ok ⟨q, .error (if q.extra.reserved == 0 && q.isClosed counted then .disconnected else .empty), []⟩

/-- Awaiting the `Acquire` at `a`: once it is ready it is dropped, and its permit forgotten. -/
def Semaphore.awaitAcquire (s : Semaphore) (a : Addr) (waker : Waker) :
    Except Fault (Effect Semaphore (Poll (Except AcquireError Unit))) := do
  let (s, polled) ← s.pollFuture a waker
  match polled with
  | .pending => .ok ⟨s, .pending, []⟩
  | .ready result => do
    let (s, woken) ← s.dropFuture a
    .ok ⟨s, .ready (result.map fun _ => ()), woken⟩

namespace BoundedQueue
variable {T : Type}

def new (capacity : Nat) : Except Fault (BoundedQueue T) :=
  if capacity > 0 then .ok (Queue.new .new ⟨.new capacity, capacity, 0⟩) else .error .assertion

def withCapacity (capacity initial : Nat) : Except Fault (BoundedQueue T) :=
  if capacity > 0 then .ok (Queue.new (.withCapacity (max capacity initial)) ⟨.new capacity, capacity, 0⟩)
  else .error .assertion

def fromIter (capacity : Nat) (iter : List T) : BoundedQueue T :=
  let queue : Deque T := .fromIter iter
  let capacity := max queue.len capacity
  let initialCapacity := capacity - queue.len
  Queue.new queue ⟨.new initialCapacity, capacity, 0⟩

def maxCapacity (q : BoundedQueue T) : Nat := q.extra.maxCapacity

def capacity (q : BoundedQueue T) : Nat := q.extra.semaphore.availablePermits

def unboundedSend (q : BoundedQueue T) (elem : T) : Effect (BoundedQueue T) Unit := q.pushAndWake elem

def trySend (q : BoundedQueue T) (elem : T) : Effect (BoundedQueue T) (Except (TrySendError T) Unit) :=
  match q.extra.semaphore.tryAcquireMany 1 with
  | .ok semaphore =>
    let pushed := ({ q with extra.semaphore := semaphore } : BoundedQueue T).pushAndWake elem
    ⟨pushed.state, .ok (), pushed.woken⟩
  | .error error => ⟨q, .error (.ofAcquire error elem), []⟩

/-- The `Acquire` that `send` and `reserve` await. Nobody sees it before its first poll. -/
def acquire (q : BoundedQueue T) : BoundedQueue T := { q with extra.semaphore := q.extra.semaphore.acquireMany 1 }

/-- One poll of the future of `send`. -/
def send (q : BoundedQueue T) (a : Addr) (waker : Waker) (elem : T) :
    Except Fault (Effect (BoundedQueue T) (Poll (Except (SendError T) Unit))) := do
  let ⟨semaphore, acquired, woken⟩ ← q.extra.semaphore.awaitAcquire a waker
  let q := { q with extra.semaphore := semaphore }
  match acquired with
  | .pending => .ok ⟨q, .pending, woken⟩
  | .ready (.error _) => .ok ⟨q, .ready (.error ⟨elem⟩), woken⟩
  | .ready (.ok ()) =>
    let pushed := q.pushAndWake elem
    .ok ⟨pushed.state, .ready (.ok ()), woken ++ pushed.woken⟩

def tryReserve (q : BoundedQueue T) : Except Fault (Effect (BoundedQueue T) (Except (TrySendError Unit) Unit)) :=
  match q.extra.semaphore.tryAcquireMany 1 with
  | .ok semaphore => do
    let reserved ← checkedAdd q.extra.reserved 1
    .ok ⟨{ q with extra.semaphore := semaphore, extra.reserved := reserved }, .ok (), []⟩
  | .error error => .ok ⟨q, .error (.ofAcquire error ()), []⟩

/-- One poll of the future of `reserve`. -/
def reserve (q : BoundedQueue T) (a : Addr) (waker : Waker) :
    Except Fault (Effect (BoundedQueue T) (Poll (Except (SendError Unit) Unit))) := do
  let ⟨semaphore, acquired, woken⟩ ← q.extra.semaphore.awaitAcquire a waker
  let q := { q with extra.semaphore := semaphore }
  match acquired with
  | .pending => .ok ⟨q, .pending, woken⟩
  | .ready (.error _) => .ok ⟨q, .ready (.error ⟨()⟩), woken⟩
  | .ready (.ok ()) => do
    let reserved ← checkedAdd q.extra.reserved 1
    .ok ⟨{ q with extra.reserved := reserved }, .ready (.ok ()), woken⟩

/-- Cancels the future of a `send` or `reserve`. -/
def dropAcquire (q : BoundedQueue T) (a : Addr) : Except Fault (Effect (BoundedQueue T) Unit) := do
  let (semaphore, woken) ← q.extra.semaphore.dropFuture a
  .ok ⟨{ q with extra.semaphore := semaphore }, (), woken⟩

def unreserve (consumed : Bool) (q : BoundedQueue T) : Except Fault (Effect (BoundedQueue T) Unit) := do
  let reserved ← checkedSub q.extra.reserved 1
  if consumed then .ok ⟨{ q with extra.reserved := reserved }, (), []⟩
  else do
    let (semaphore, woken) ← q.extra.semaphore.addPermits 1
    .ok ⟨{ q with extra.semaphore := semaphore, extra.reserved := reserved }, (), woken⟩

/-- `Permit::send`, and `OwnedPermit::send`, which hands the sender back. -/
def permitSend (q : BoundedQueue T) (elem : T) : Except Fault (Effect (BoundedQueue T) Unit) := do
  let pushed := q.unboundedSend elem
  let ⟨q, _, woken⟩ ← unreserve true pushed.state
  .ok ⟨q, (), pushed.woken ++ woken⟩

def dropPermit (q : BoundedQueue T) : Except Fault (Effect (BoundedQueue T) Unit) := unreserve false q

/-- The sender inside an `OwnedPermit` is dropped after the slot was returned. -/
def dropOwnedPermit (q : BoundedQueue T) : Except Fault (Effect (BoundedQueue T) Unit) := do
  let returned ← unreserve false q
  let ⟨q, _, woken⟩ ← returned.state.decreaseSenderCount
  .ok ⟨q, (), returned.woken ++ woken⟩

/-- Cancels the future of `reserve_owned`, which owns a sender. -/
def dropReserveOwned (q : BoundedQueue T) (a : Addr) : Except Fault (Effect (BoundedQueue T) Unit) := do
  let cancelled ← q.dropAcquire a
  let ⟨q, _, woken⟩ ← cancelled.state.decreaseSenderCount
  .ok ⟨q, (), cancelled.woken ++ woken⟩

end BoundedQueue
end AsyncUnsync
