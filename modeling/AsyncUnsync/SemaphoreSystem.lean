import AsyncUnsync.Semaphore
import AsyncUnsync.Library.History

/-! All clients of one semaphore: the futures and permits they hold and every
call they can make. Wakers only notify their task, they do not call back. -/

namespace AsyncUnsync.SemaphoreSystem
open Memory Transition

/-- The semaphore and the counts of the live `Permit` guards. -/
structure State where
  sem : Semaphore
  permits : Arena Nat
  deriving DecidableEq, Repr

def State.new (permits : Nat) : State := ⟨.new permits, .empty⟩

/-- `try_acquire` and `acquire` are the requests for one permit. -/
inductive Action where
  | tryAcquireMany (n : Nat)
  | acquireMany (n : Nat)
  | poll (a : Addr) (waker : Waker)
  | dropAcquire (a : Addr)
  | dropPermit (p : Addr)
  | forgetPermit (p : Addr)
  | addPermits (n : Nat)
  | removePermits (n : Nat)
  | close
  deriving DecidableEq, Repr

inductive Reply where
  | done
  | refused (error : TryAcquireError)
  | future (a : Addr)
  | pending
  | acquired (p : Addr)
  | failed
  | closed (notified : Nat)
  deriving DecidableEq, Repr

structure Outcome where
  reply : Reply
  woken : List Waker := []
  deriving DecidableEq, Repr

/-- A client can only use the futures and permits that exist. -/
def enabled (s : State) : Action → Bool
  | .poll a _ | .dropAcquire a => (s.sem.memory.get? a).isSome
  | .dropPermit p | .forgetPermit p => (s.permits.get? p).isSome
  | _ => true

def step (s : State) : Action → Except Fault (State × Outcome)
  | .tryAcquireMany n =>
    match s.sem.tryAcquireMany n with
    | .ok sem => .ok (⟨sem, s.permits.alloc n⟩, { reply := .acquired s.permits.size })
    | .error error => .ok (s, { reply := .refused error })
  | .acquireMany n => .ok ({ s with sem := s.sem.acquireMany n }, { reply := .future s.sem.memory.size })
  | .poll a waker => do
    let (sem, polled) ← s.sem.pollFuture a waker
    match polled with
    | .pending => .ok ({ s with sem }, { reply := .pending })
    | .ready (.ok count) => .ok (⟨sem, s.permits.alloc count⟩, { reply := .acquired s.permits.size })
    | .ready (.error _) => .ok ({ s with sem }, { reply := .failed })
  | .dropAcquire a => do
    let (sem, woken) ← s.sem.dropFuture a
    .ok ({ s with sem }, { reply := .done, woken })
  | .dropPermit p =>
    match s.permits.get? p with
    | none => .error .dangling
    | some count => do
      let (sem, woken) ← s.sem.addPermits count
      .ok (⟨sem, s.permits.free p⟩, { reply := .done, woken })
  | .forgetPermit p => .ok ({ s with permits := s.permits.free p }, { reply := .done })
  | .addPermits n => do
    let (sem, woken) ← s.sem.addPermits n
    .ok ({ s with sem }, { reply := .done, woken })
  | .removePermits n => .ok ({ s with sem := s.sem.removePermits n }, { reply := .done })
  | .close => do
    let effect ← s.sem.close
    .ok ({ s with sem := effect.state }, { reply := .closed effect.value, woken := effect.woken })

/-- Every run starts with `Semaphore::new`. -/
def system : System State Action Outcome Fault where
  Initial s := ∃ permits, s = .new permits
  Enabled s action := enabled s action = true
  step := step

instance (s : State) (action : Action) : Decidable (system.Enabled s action) :=
  inferInstanceAs (Decidable (enabled s action = true))

end AsyncUnsync.SemaphoreSystem
