import AsyncUnsync.Ledger
import AsyncUnsync.Queue

/-! What a bounded channel is for, without pointers and without counting permits. Its
slots are free, or reserved, or under an element, or granted to a request whose owner
has not noticed yet. Who waits for a slot stands in line. -/

namespace AsyncUnsync
open Memory

/-- How a request for one slot stands. Who was refused has been woken, but has no slot. -/
inductive Request where
  | fresh
  | waiting (waker : Waker)
  | granted
  | refused
  deriving DecidableEq, Repr

def Request.waker : Request → Option Waker
  | .waiting waker => some waker
  | .fresh | .granted | .refused => none

structure Slots where
  requests : Arena Request
  line : List Addr
  free : Nat
  closed : Bool
  deriving DecidableEq, Repr

namespace Slots

def wakers (s : Slots) (line : List Addr) : List Waker :=
  line.filterMap fun a => (s.requests.get? a).bind Request.waker

/-- As many slots come back. Those first in line get one each, and what remains is free. -/
def give (s : Slots) (n : Nat) : Slots × List Waker :=
  ({ s with
      requests := s.requests.modifyAll (fun _ => .granted) (s.line.take n)
      line := s.line.drop n
      free := if s.line.length < n then saturatingAdd s.free (n - s.line.length) else s.free },
    s.wakers (s.line.take n))

/-- A slot is taken at once, or not at all. -/
def take (s : Slots) : Except TryAcquireError Slots :=
  if s.closed then .error .closed
  else if s.free = 0 then .error .noPermits
  else .ok { s with free := s.free - 1 }

def request (s : Slots) : Slots := { s with requests := s.requests.alloc .fresh }

def forget (s : Slots) (a : Addr) : Slots := { s with requests := s.requests.free a, line := s.line.erase a }

/-- A slot that a withdrawn request was granted goes to the next in line. -/
def withdraw (s : Slots) (a : Addr) : Slots × List Waker :=
  if s.requests.get? a = some .granted then (s.forget a).give 1 else (s.forget a, [])

/-- The owner of a request asks for its slot. The answer ends the request. -/
def poll (s : Slots) (a : Addr) (waker : Waker) : Effect Slots (Poll (Except AcquireError Unit)) :=
  if s.closed then ⟨(s.withdraw a).1, .ready (.error .closed), (s.withdraw a).2⟩
  else match s.requests.get? a with
    | some .fresh =>
      if s.free = 0 then
        ⟨{ s with requests := s.requests.put a (.waiting waker), line := s.line ++ [a] }, .pending, []⟩
      else ⟨{ s.forget a with free := s.free - 1 }, .ready (.ok ()), []⟩
    | some .granted => ⟨s.forget a, .ready (.ok ()), []⟩
    | _ => ⟨s, .pending, []⟩

/-- Everybody in line is refused, and woken. -/
def close (s : Slots) : Slots × List Waker :=
  ({ s with requests := s.requests.modifyAll (fun _ => .refused) s.line, line := [], closed := true }, s.wakers s.line)

variable {s : Slots} {a : Addr}

theorem poll_closed (closed : s.closed = true) (waker : Waker) :
    s.poll a waker = ⟨(s.withdraw a).1, .ready (.error .closed), (s.withdraw a).2⟩ := if_pos closed

theorem poll_fresh (opened : s.closed = false) (fresh : s.requests.get? a = some .fresh) (waker : Waker) :
    s.poll a waker =
      if s.free = 0 then
        ⟨{ s with requests := s.requests.put a (.waiting waker), line := s.line ++ [a] }, .pending, []⟩
      else ⟨{ s.forget a with free := s.free - 1 }, .ready (.ok ()), []⟩ := by
  simp [poll, opened, fresh]

theorem poll_waiting (opened : s.closed = false) {registered : Waker} (waits : s.requests.get? a = some (.waiting registered))
    (waker : Waker) : s.poll a waker = ⟨s, .pending, []⟩ := by
  simp [poll, opened, waits]

theorem poll_granted (opened : s.closed = false) (granted : s.requests.get? a = some .granted) (waker : Waker) :
    s.poll a waker = ⟨s.forget a, .ready (.ok ()), []⟩ := by
  simp [poll, opened, granted]

theorem take_closed (closed : s.closed = true) : s.take = .error .closed := if_pos closed

theorem take_none (opened : s.closed = false) (none : s.free = 0) : s.take = .error .noPermits := by
  simp [take, opened, none]

theorem take_some (opened : s.closed = false) (some : s.free ≠ 0) : s.take = .ok { s with free := s.free - 1 } := by
  simp [take, opened, some]

end Slots

/-- `waker` is the receiver's. -/
structure Mailbox (T : Type) where
  items : List T
  slots : Slots
  maxCapacity : Nat
  reserved : Nat
  mask : Mask
  waker : Option Waker
  deriving DecidableEq, Repr

namespace Mailbox
variable {T : Type}

def isClosed (counted : Bool) (m : Mailbox T) : Bool := m.mask.isClosed counted

def push (m : Mailbox T) (elem : T) : Effect (Mailbox T) Unit :=
  ⟨{ m with items := m.items ++ [elem] }, (), m.waker.toList⟩

def give (m : Mailbox T) (n : Nat) : Effect (Mailbox T) Unit :=
  ⟨{ m with slots := (m.slots.give n).1 }, (), (m.slots.give n).2⟩

def increaseSenderCount (m : Mailbox T) : Except Fault (Mailbox T) := do
  let mask ← m.mask.increaseSenderCount
  .ok { m with mask }

def decreaseSenderCount (m : Mailbox T) : Except Fault (Effect (Mailbox T) Unit) := do
  let (mask, last) ← m.mask.decreaseSenderCount
  .ok (if last then ⟨{ m with mask, waker := none }, (), m.waker.toList⟩ else ⟨{ m with mask }, (), []⟩)

/-- All slots are offered anew, also those under elements. -/
def split (build : Build) (m : Mailbox T) : Except Fault (Effect (Mailbox T) Unit) := do
  let missing ← build.sub m.maxCapacity m.slots.free
  let given := m.give missing
  let mask ← m.mask.reset true
  .ok ⟨{ given.state with waker := none, mask }, (), given.woken⟩

def close (counted : Bool) (m : Mailbox T) : Effect (Mailbox T) Unit :=
  ⟨{ m with mask := m.mask.close counted, slots := m.slots.close.1 }, (), m.slots.close.2⟩

/-- The slot under an element is given back when the element is received. -/
def tryRecv (counted : Bool) (m : Mailbox T) : Effect (Mailbox T) (Except TryRecvError T) :=
  match m.items with
  | elem :: rest => (give { m with items := rest } 1).map fun _ => .ok elem
  | [] => ⟨m, .error (if m.reserved == 0 && m.isClosed counted then .disconnected else .empty), []⟩

def pollRecv (counted : Bool) (waker : Waker) (m : Mailbox T) : Effect (Mailbox T) (Poll (Option T)) :=
  let ⟨m, received, woken⟩ := m.tryRecv counted
  match received with
  | .ok elem => ⟨m, .ready (some elem), woken⟩
  | .error .disconnected => ⟨m, .ready none, woken⟩
  | .error .empty => ⟨{ m with waker := some waker }, .pending, woken⟩

def trySend (m : Mailbox T) (elem : T) : Effect (Mailbox T) (Except (TrySendError T) Unit) :=
  match m.slots.take with
  | .ok slots => (push { m with slots } elem).map .ok
  | .error error => ⟨m, .error (.ofAcquire error elem), []⟩

def reserveSlot (m : Mailbox T) : Except Fault (Mailbox T) := do
  let reserved ← checkedAdd m.reserved 1
  .ok { m with reserved }

def tryReserve (m : Mailbox T) : Except Fault (Effect (Mailbox T) (Except (TrySendError Unit) Unit)) :=
  match m.slots.take with
  | .ok slots => do
    let m ← reserveSlot { m with slots }
    .ok ⟨m, .ok (), []⟩
  | .error error => .ok ⟨m, .error (.ofAcquire error ()), []⟩

def request (m : Mailbox T) : Mailbox T := { m with slots := m.slots.request }

def send (m : Mailbox T) (a : Addr) (waker : Waker) (elem : T) :
    Effect (Mailbox T) (Poll (Except (SendError T) Unit)) :=
  let ⟨slots, acquired, woken⟩ := m.slots.poll a waker
  let m := { m with slots }
  match acquired with
  | .pending => ⟨m, .pending, woken⟩
  | .ready (.error _) => ⟨m, .ready (.error ⟨elem⟩), woken⟩
  | .ready (.ok ()) => ⟨(m.push elem).state, .ready (.ok ()), woken ++ (m.push elem).woken⟩

def reserve (m : Mailbox T) (a : Addr) (waker : Waker) :
    Except Fault (Effect (Mailbox T) (Poll (Except (SendError Unit) Unit))) :=
  let ⟨slots, acquired, woken⟩ := m.slots.poll a waker
  let m := { m with slots }
  match acquired with
  | .pending => .ok ⟨m, .pending, woken⟩
  | .ready (.error _) => .ok ⟨m, .ready (.error ⟨()⟩), woken⟩
  | .ready (.ok ()) => do
    let m ← m.reserveSlot
    .ok ⟨m, .ready (.ok ()), woken⟩

def withdraw (m : Mailbox T) (a : Addr) : Effect (Mailbox T) Unit :=
  ⟨{ m with slots := (m.slots.withdraw a).1 }, (), (m.slots.withdraw a).2⟩

def permitSend (m : Mailbox T) (elem : T) : Except Fault (Effect (Mailbox T) Unit) := do
  let reserved ← checkedSub m.reserved 1
  .ok (push { m with reserved } elem)

def dropPermit (m : Mailbox T) : Except Fault (Effect (Mailbox T) Unit) := do
  let reserved ← checkedSub m.reserved 1
  .ok (give { m with reserved } 1)

/-- The sender inside the permit goes with it. -/
def dropOwnedPermit (m : Mailbox T) : Except Fault (Effect (Mailbox T) Unit) := do
  let given ← m.dropPermit
  let ⟨m, _, woken⟩ ← given.state.decreaseSenderCount
  .ok ⟨m, (), given.woken ++ woken⟩

/-- The sender that made the request goes with it. -/
def withdrawOwned (m : Mailbox T) (a : Addr) : Except Fault (Effect (Mailbox T) Unit) := do
  let ⟨m', _, woken⟩ ← (m.withdraw a).state.decreaseSenderCount
  .ok ⟨m', (), (m.withdraw a).woken ++ woken⟩

end Mailbox

/-- A request, seen without the permits it collected. -/
def Ticket.request (ticket : Ticket) : Request :=
  match ticket.state with
  | .inert => .fresh
  | .waiting => .waiting (ticket.waker.getD 0)
  | .woken => if ticket.permits = 0 then .refused else .granted

def Ledger.slots (l : Ledger) : Slots := ⟨l.tickets.map Ticket.request, l.queue, l.permits, l.closed⟩

/-- What remains of the queue when its buffer and its semaphore are seen as slots. -/
def BoundedQueue.mailbox {T : Type} (q : BoundedQueue T) : Mailbox T :=
  ⟨q.items, q.extra.semaphore.ledger.slots, q.extra.maxCapacity, q.extra.reserved, q.mask, q.waker⟩

end AsyncUnsync
