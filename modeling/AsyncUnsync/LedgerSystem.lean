import AsyncUnsync.Ledger
import AsyncUnsync.SemaphoreSystem

/-! The clients of one semaphore, told without pointers. Every call has a result:
there is nothing left that could go wrong. -/

namespace AsyncUnsync.LedgerSystem
open Memory SemaphoreSystem

structure View where
  ledger : Ledger
  permits : Arena Nat
  deriving DecidableEq, Repr

def view (s : State) : View := ⟨s.sem.ledger, s.permits⟩

def turn (v : View) : Action → View × Outcome
  | .tryAcquireMany n =>
    match v.ledger.tryAcquire true n with
    | .ok (_, ledger) => (⟨ledger, v.permits.alloc n⟩, { reply := .acquired v.permits.size })
    | .error error => (v, { reply := .refused error })
  | .acquireMany n => ({ v with ledger := v.ledger.acquireMany n }, { reply := .future v.ledger.tickets.size })
  | .poll a waker =>
    match v.ledger.tickets.get? a with
    | none => (v, { reply := .done })
    | some ticket =>
      match v.ledger.poll a ticket waker with
      | (ledger, .pending) => ({ v with ledger }, { reply := .pending })
      | (ledger, .ready (.ok count)) => (⟨ledger, v.permits.alloc count⟩, { reply := .acquired v.permits.size })
      | (ledger, .ready (.error _)) => ({ v with ledger }, { reply := .failed })
  | .dropAcquire a =>
    match v.ledger.tickets.get? a with
    | none => (v, { reply := .done })
    | some ticket =>
      let (ledger, woken) := v.ledger.drop a ticket
      ({ v with ledger }, { reply := .done, woken })
  | .dropPermit p =>
    match v.permits.get? p with
    | none => (v, { reply := .done })
    | some count =>
      let (ledger, woken) := v.ledger.addPermits count
      (⟨ledger, v.permits.free p⟩, { reply := .done, woken })
  | .forgetPermit p => ({ v with permits := v.permits.free p }, { reply := .done })
  | .addPermits n =>
    let (ledger, woken) := v.ledger.addPermits n
    ({ v with ledger }, { reply := .done, woken })
  | .removePermits n => ({ v with ledger.permits := v.ledger.permits - n }, { reply := .done })
  | .close =>
    let (ledger, woken) := v.ledger.close
    ({ v with ledger }, { reply := .closed woken.length, woken })

/-- The requests a call may hand permits to, and the number of permits it hands out. -/
def returned (v : View) : Action → Ledger × Nat
  | .addPermits n => (v.ledger, n)
  | .dropPermit p => (v.ledger, (v.permits.get? p).getD 0)
  | .dropAcquire a => (v.ledger.forget a, ((v.ledger.tickets.get? a).map Ticket.permits).getD 0)
  | _ => (v.ledger, 0)

/-- The requests a call completes, by a grant or by closing the semaphore. -/
def due (v : View) (action : Action) : List Addr :=
  if action = .close then v.ledger.queue
  else ((returned v action).1.handout (returned v action).2).served

def View.enabled (v : View) : Action → Bool
  | .poll a _ | .dropAcquire a => (v.ledger.tickets.get? a).isSome
  | .dropPermit p | .forgetPermit p => (v.permits.get? p).isSome
  | _ => true

/-- No turn faults. -/
def View.system : Transition.System View Action Outcome Fault where
  Initial v := ∃ permits, v = view (.new permits)
  Enabled v action := v.enabled action = true
  step v action := .ok (turn v action)

end AsyncUnsync.LedgerSystem
