import AsyncUnsync.Machine
import AsyncUnsync.Library.Arena

/-! The semaphore of `semaphore.rs`, pointers included. The waiters live inside
the `Acquire` futures of the clients; the queue only links them. -/

namespace AsyncUnsync
open Memory

inductive WaiterState where
  | inert
  | waiting
  | woken
  deriving DecidableEq, Repr

structure Waiter where
  wants : Nat
  waker : Option Waker
  state : WaiterState
  permits : Nat
  next : Option Addr
  prev : Option Addr
  deriving DecidableEq, Repr

def Waiter.new (wants : Nat) : Waiter := ⟨wants, none, .inert, 0, none, none⟩

/-- `LateInitWaker::get`: an absent waker is `unreachable_unchecked`. -/
def getWaker : Option Waker → Except Fault Waker
  | some waker => .ok waker
  | none => .error .unreachable

structure WaiterQueue where
  head : Option Addr
  tail : Option Addr
  deriving DecidableEq, Repr

def WaiterQueue.new : WaiterQueue := ⟨none, none⟩

def WaiterQueue.front (waiters : WaiterQueue) : Option Addr := waiters.head

structure Shared where
  waiters : WaiterQueue
  permits : Nat
  closed : Bool
  deriving DecidableEq, Repr

inductive TryAcquireError where
  | closed
  | noPermits
  deriving DecidableEq, Repr

inductive AcquireError where
  | closed
  deriving DecidableEq, Repr

def Shared.isClosed (shared : Shared) : Bool := shared.closed

def Shared.tryAcquire (strict : Bool) (shared : Shared) (n : Nat) : Except TryAcquireError (Nat × Shared) :=
  if shared.isClosed then .error .closed
  else if n > shared.permits then
    if strict || shared.permits == 0 then .error .noPermits
    else .ok (shared.permits, { shared with permits := 0 })
  else .ok (n, { shared with permits := shared.permits - n })

/-- The shared state and the memory of all `Acquire` futures that were created and
not dropped, each at the address it is pinned to. -/
structure Semaphore where
  shared : Shared
  memory : Arena Waiter
  deriving DecidableEq, Repr

namespace Semaphore

def new (permits : Nat) : Semaphore := ⟨⟨.new, permits, false⟩, .empty⟩

def deref (s : Semaphore) (a : Addr) : Except Fault Waiter :=
  match s.memory.get? a with
  | some waiter => .ok waiter
  | none => .error .dangling

def write (s : Semaphore) (a : Addr) (waiter : Waiter) : Semaphore := { s with memory := s.memory.put a waiter }

def setNext (s : Semaphore) (a : Addr) (target : Option Addr) : Except Fault Semaphore := do
  let waiter ← s.deref a
  .ok (s.write a { waiter with next := target })

def setPrev (s : Semaphore) (a : Addr) (target : Option Addr) : Except Fault Semaphore := do
  let waiter ← s.deref a
  .ok (s.write a { waiter with prev := target })

/-- `WaiterQueue::len`, the loop cut off at `fuel` links. -/
def lenFrom : Nat → Semaphore → Option Addr → Except Fault Nat
  | _, _, none => .ok 0
  | 0, _, some _ => .error .diverges
  | fuel + 1, s, some curr => do
    let waiter ← s.deref curr
    let waiting ← lenFrom fuel s waiter.next
    .ok (waiting + 1)

def waiters (s : Semaphore) : Except Fault Nat := lenFrom s.memory.size s s.shared.waiters.head

def pushBack (s : Semaphore) (waiter : Addr) : Except Fault Semaphore :=
  match s.shared.waiters.tail with
  | none => .ok { s with shared.waiters := ⟨some waiter, some waiter⟩ }
  | some tail => do
    let s ← s.setNext tail (some waiter)
    let s ← s.setPrev waiter (some tail)
    .ok { s with shared.waiters.tail := some waiter }

/-- The first half of `WaiterQueue::try_remove`: the predecessor, or `head`, skips the waiter. -/
def skipForward (s : Semaphore) (waiter : Addr) : Except Fault Semaphore := do
  let removed ← s.deref waiter
  match removed.prev with
  | none => .ok { s with shared.waiters.head := removed.next }
  | some prev => s.setNext prev removed.next

/-- The second half: the successor, or `tail`, skips the waiter. -/
def skipBackward (s : Semaphore) (waiter : Addr) : Except Fault Semaphore := do
  let removed ← s.deref waiter
  match removed.next with
  | none => .ok { s with shared.waiters.tail := removed.prev }
  | some next => s.setPrev next removed.prev

def tryRemove (s : Semaphore) (waiter : Addr) : Except Fault Semaphore := do
  let s ← s.skipForward waiter
  s.skipBackward waiter

def popFront (s : Semaphore) (head : Addr) : Except Fault Semaphore := do
  let removed ← s.deref head
  let s := { s with shared.waiters.head := removed.next }
  match removed.next with
  | none => .ok { s with shared.waiters.tail := none }
  | some next => s.setPrev next none

/-- The loop of `WaiterQueue::wake_all` from `curr` on. -/
def wakeAllFrom : Nat → Semaphore → Option Addr → Except Fault (Semaphore × List Waker)
  | _, s, none => .ok (s, [])
  | 0, _, some _ => .error .diverges
  | fuel + 1, s, some curr => do
    let waiter ← s.deref curr
    let s := s.write curr { waiter with state := .woken }
    let waker ← getWaker waiter.waker
    let (s, woken) ← wakeAllFrom fuel s waiter.next
    .ok (s, waker :: woken)

/-- `Shared::close`; the value is the number of waiters that were notified. -/
def close (s : Semaphore) : Except Fault (Effect Semaphore Nat) := do
  let (s, woken) ← wakeAllFrom s.memory.size s s.shared.waiters.head
  .ok { state := { s with shared.closed := true, shared.waiters := .new }, value := woken.length, woken }

/-- The loop of `Shared::add_permits`, cut off after `fuel` waiters. -/
def addPermitsLoop (fuel : Nat) (s : Semaphore) (n : Nat) : Except Fault (Semaphore × List Waker) :=
  if n = 0 then .ok (s, [])
  else match s.shared.waiters.front with
    | none => .ok ({ s with shared.permits := saturatingAdd s.shared.permits n }, [])
    | some front => match fuel with
      | 0 => .error .diverges
      | fuel + 1 => do
        let waiter ← s.deref front
        let diff ← checkedSub waiter.wants waiter.permits
        if diff > n then .ok (s.write front { waiter with permits := diff - n }, [])
        else
          let s := s.write front { waiter with permits := waiter.wants, state := .woken }
          let waker ← getWaker waiter.waker
          let s ← s.popFront front
          let (s, woken) ← addPermitsLoop fuel s (n - diff)
          .ok (s, waker :: woken)

def addPermits (s : Semaphore) (n : Nat) : Except Fault (Semaphore × List Waker) :=
  addPermitsLoop s.memory.size s n

def removePermits (s : Semaphore) (n : Nat) : Semaphore :=
  { s with shared.permits := s.shared.permits - n }

def availablePermits (s : Semaphore) : Nat := s.shared.permits

/-- Succeeds with the state in which a `Permit` of count `n` exists. -/
def tryAcquireMany (s : Semaphore) (n : Nat) : Except TryAcquireError Semaphore :=
  match s.shared.tryAcquire true n with
  | .ok (_, shared) => .ok { s with shared }
  | .error error => .error error

/-- The new `Acquire` future gets the address `s.memory.size`. -/
def acquireMany (s : Semaphore) (n : Nat) : Semaphore := { s with memory := s.memory.alloc (.new n) }

/-- The end of `Shared::poll_acquire_initial`: registers the waker and enqueues. -/
def enqueue (s : Semaphore) (waiter : Addr) (waker : Waker) : Except Fault Semaphore := do
  let entry ← s.deref waiter
  let s := s.write waiter { entry with state := .waiting, waker := some waker }
  s.pushBack waiter

def pollAcquireInitial (s : Semaphore) (waiter : Addr) (waker : Waker) :
    Except Fault (Semaphore × Poll (Except AcquireError Unit)) := do
  let entry ← s.deref waiter
  match s.shared.tryAcquire false entry.wants with
  | .ok (n, shared) =>
    let s := ({ s with shared } : Semaphore).write waiter { entry with permits := n }
    if n = entry.wants then .ok (s, .ready (.ok ()))
    else
      let s ← s.enqueue waiter waker
      .ok (s, .pending)
  | .error .closed => .ok (s, .ready (.error .closed))
  | .error .noPermits =>
    let s ← s.enqueue waiter waker
    .ok (s, .pending)

def pollAcquire (s : Semaphore) (waiter : Addr) (waker : Waker) :
    Except Fault (Semaphore × Poll (Except AcquireError Unit)) :=
  if s.shared.closed then .ok (s, .ready (.error .closed))
  else do
    let entry ← s.deref waiter
    match entry.state with
    | .woken => .ok (s, .ready (.ok ()))
    | .inert => s.pollAcquireInitial waiter waker
    | .waiting => .ok (s, .pending)

/-- What `Acquire::poll` makes of a result; the value of a success is the count of the new `Permit`. -/
def resolve (s : Semaphore) (a : Addr) :
    Poll (Except AcquireError Unit) → Except Fault (Semaphore × Poll (Except AcquireError Nat))
  | .pending => .ok (s, .pending)
  | .ready result => do
    let waiter ← s.deref a
    let waiter := { waiter with state := .woken }
    match result with
    | .ok () => .ok (s.write a { waiter with permits := 0 }, .ready (.ok waiter.permits))
    | .error error => .ok (s.write a waiter, .ready (.error error))

/-- `Acquire::poll`. -/
def pollFuture (s : Semaphore) (a : Addr) (waker : Waker) :
    Except Fault (Semaphore × Poll (Except AcquireError Nat)) := do
  let (s, polled) ← s.pollAcquire a waker
  s.resolve a polled

/-- The first half of `Acquire::drop`: only a waiting future is still in the queue. -/
def dequeue (s : Semaphore) (a : Addr) : Except Fault Semaphore := do
  let waiter ← s.deref a
  match waiter.state with
  | .waiting => s.tryRemove a
  | _ => .ok s

/-- `Acquire::drop`, after which the memory of the future is gone. -/
def dropFuture (s : Semaphore) (a : Addr) : Except Fault (Semaphore × List Waker) := do
  let s ← s.dequeue a
  let waiter ← s.deref a
  let (s, woken) ← s.addPermits waiter.permits
  .ok ({ s with memory := s.memory.free a }, woken)

end Semaphore
end AsyncUnsync
