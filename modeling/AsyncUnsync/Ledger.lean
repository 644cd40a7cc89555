import AsyncUnsync.Semaphore
import AsyncUnsync.Library.Chain
import AsyncUnsync.Library.Serving

/-! What the semaphore is for, without pointers: a pool of permits and a list of
the requests that wait for it, served strictly from the front. -/

namespace AsyncUnsync
open Memory Serving

/-- A request as its owner sees it: a waiter without its links. -/
structure Ticket where
  wants : Nat
  waker : Option Waker
  state : WaiterState
  permits : Nat
  deriving DecidableEq, Repr

def Waiter.ticket (waiter : Waiter) : Ticket := ⟨waiter.wants, waiter.waker, waiter.state, waiter.permits⟩

def Ticket.grant (ticket : Ticket) : Ticket := { ticket with permits := ticket.wants, state := .woken }

def Ticket.wake (ticket : Ticket) : Ticket := { ticket with state := .woken }

structure Ledger where
  tickets : Arena Ticket
  queue : List Addr
  permits : Nat
  closed : Bool
  deriving DecidableEq, Repr

namespace Ledger

/-- What a request still lacks. -/
def need (l : Ledger) (a : Addr) : Nat :=
  match l.tickets.get? a with
  | some ticket => ticket.wants - ticket.permits
  | none => 0

def wakers (l : Ledger) (addresses : List Addr) : List Waker :=
  addresses.filterMap fun a => (l.tickets.get? a).bind Ticket.waker

/-- The waiters that `n` returned permits complete, and what remains of them. -/
def handout (l : Ledger) (n : Nat) : Served Addr := serve l.need l.queue n

/-- What is left after the front of the queue was served goes to the pool, or to the
first waiter it cannot complete. That waiter ends up with what it still lacks. -/
def settle (l : Ledger) (waiting : List Addr) (left : Nat) : Ledger :=
  if left = 0 then { l with queue := waiting }
  else match waiting with
    | [] => { l with queue := [], permits := saturatingAdd l.permits left }
    | a :: _ =>
      { l with queue := waiting, tickets := l.tickets.modify a fun t => { t with permits := t.wants - t.permits - left } }

def addPermits (l : Ledger) (n : Nat) : Ledger × List Waker :=
  let served := (l.handout n).served
  (settle { l with tickets := l.tickets.modifyAll Ticket.grant served } (l.handout n).waiting (l.handout n).left,
    l.wakers served)

def tryAcquire (l : Ledger) (strict : Bool) (n : Nat) : Except TryAcquireError (Nat × Ledger) :=
  if l.closed then .error .closed
  else if n > l.permits then
    if strict || l.permits == 0 then .error .noPermits
    else .ok (l.permits, { l with permits := 0 })
  else .ok (n, { l with permits := l.permits - n })

def acquireMany (l : Ledger) (n : Nat) : Ledger := { l with tickets := l.tickets.alloc ⟨n, none, .inert, 0⟩ }

/-- A waiting request joins the queue at the back, with what it has collected. -/
def enqueue (l : Ledger) (a : Addr) (ticket : Ticket) (waker : Waker) : Ledger :=
  { l with
    tickets := l.tickets.put a { ticket with state := .waiting, waker := some waker }
    queue := l.queue ++ [a] }

def poll (l : Ledger) (a : Addr) (ticket : Ticket) (waker : Waker) : Ledger × Poll (Except AcquireError Nat) :=
  if l.closed then ({ l with tickets := l.tickets.put a ticket.wake }, .ready (.error .closed))
  else match ticket.state with
    | .waiting => (l, .pending)
    | .woken => ({ l with tickets := l.tickets.put a { ticket with permits := 0 } }, .ready (.ok ticket.permits))
    | .inert =>
      if ticket.wants ≤ l.permits then
        ({ l with tickets := l.tickets.put a { ticket.wake with permits := 0 }, permits := l.permits - ticket.wants },
          .ready (.ok ticket.wants))
      else ({ l with permits := 0 }.enqueue a { ticket with permits := l.permits } waker, .pending)

def forget (l : Ledger) (a : Addr) : Ledger := { l with tickets := l.tickets.free a, queue := l.queue.erase a }

/-- The request leaves the queue and what it held goes to those behind it. -/
def drop (l : Ledger) (a : Addr) (ticket : Ticket) : Ledger × List Waker := (l.forget a).addPermits ticket.permits

def close (l : Ledger) : Ledger × List Waker :=
  ({ l with tickets := l.tickets.modifyAll Ticket.wake l.queue, queue := [], closed := true }, l.wakers l.queue)

variable {l : Ledger} {a : Addr}

theorem poll_closed (closed : l.closed = true) (ticket : Ticket) (waker : Waker) :
    l.poll a ticket waker = ({ l with tickets := l.tickets.put a ticket.wake }, .ready (.error .closed)) := if_pos closed

theorem poll_waiting (opened : ¬ l.closed = true) {ticket : Ticket} (state : ticket.state = .waiting) (waker : Waker) :
    l.poll a ticket waker = (l, .pending) := by
  cases ticket
  cases state
  exact if_neg opened

theorem poll_woken (opened : ¬ l.closed = true) {ticket : Ticket} (state : ticket.state = .woken) (waker : Waker) :
    l.poll a ticket waker =
      ({ l with tickets := l.tickets.put a { ticket with permits := 0 } }, .ready (.ok ticket.permits)) := by
  cases ticket
  cases state
  exact if_neg opened

theorem poll_inert (opened : ¬ l.closed = true) {ticket : Ticket} (state : ticket.state = .inert) (waker : Waker) :
    l.poll a ticket waker =
      if ticket.wants ≤ l.permits then
        ({ l with tickets := l.tickets.put a { ticket.wake with permits := 0 }, permits := l.permits - ticket.wants },
          .ready (.ok ticket.wants))
      else ({ l with permits := 0 }.enqueue a { ticket with permits := l.permits } waker, .pending) := by
  cases ticket
  cases state
  exact if_neg opened

end Ledger

namespace Semaphore

/-- The links as partial functions on addresses. -/
def next (s : Semaphore) (a : Addr) : Option Addr := (s.memory.get? a).bind Waiter.next

def prev (s : Semaphore) (a : Addr) : Option Addr := (s.memory.get? a).bind Waiter.prev

/-- The waiters visited by following `next` from `head`. -/
def queue (s : Semaphore) : List Addr := follow s.next s.memory.size s.shared.waiters.head

/-- What remains of the semaphore when its links are forgotten. -/
def ledger (s : Semaphore) : Ledger :=
  ⟨s.memory.map Waiter.ticket, s.queue, s.shared.permits, s.shared.closed⟩

end Semaphore
end AsyncUnsync
