import AsyncUnsync.Handles
import AsyncUnsync.Library.History
import AsyncUnsync.Queue

/-! All clients of one `UnboundedChannel`, split and unsplit, and every call they
can make. Any handle may also be leaked. -/

namespace AsyncUnsync.UnboundedSystem
open Memory Transition

/-- A receiving call is counted when it goes through the receiver of a split channel. -/
inductive Action (T : Type) where
  | split
  | intoSplit
  | intoDeque
  | close (counted : Bool)
  | tryRecv (counted : Bool)
  | pollRecv (counted : Bool) (waker : Waker)
  | dropReceiver
  | forgetReceiver
  | send (via : Via) (elem : T)
  | cloneSender (id : Addr)
  | dropSender (id : Addr)
  | forgetSender (id : Addr)
  deriving DecidableEq, Repr

inductive Reply (T : Type) where
  | done
  | deque (items : List T)
  | received (result : Except TryRecvError T)
  | polled (result : Poll (Option T))
  | sent (result : Except (SendError T) Unit)
  | sender (id : Addr)
  deriving DecidableEq, Repr

structure Outcome (T : Type) where
  reply : Reply T
  woken : List Waker
  deriving DecidableEq, Repr

structure State (T : Type) where
  queue : UnboundedQueue T
  handles : Handles
  deriving DecidableEq, Repr

variable {T : Type}

def State.new (queue : UnboundedQueue T) : State T := ⟨queue, .new⟩

def enabled (h : Handles) : Action T → Bool
  | .split | .intoSplit | .intoDeque => h.unsplit
  | .close counted | .tryRecv counted | .pollRecv counted _ => h.receives counted
  | .dropReceiver | .forgetReceiver => h.receiver
  | .send via _ => h.usable via
  | .cloneSender id | .dropSender id | .forgetSender id => h.usable (.sender id)

def operate (build : Build) (s : State T) : Action T → Except Fault (Effect (UnboundedQueue T) (Reply T))
  | .split | .intoSplit => do
    let effect ← s.queue.setCounted build
    .ok (effect.map fun _ => .sender s.handles.senders.size)
  | .intoDeque => .ok ⟨{ s.queue with queue := .new }, .deque s.queue.items, []⟩
  | .close counted => do
    let effect ← s.queue.close counted
    .ok (effect.map fun _ => .done)
  | .tryRecv counted => do
    let effect ← s.queue.tryRecv counted
    .ok (effect.map .received)
  | .pollRecv counted waker => do
    let effect ← s.queue.pollRecv counted waker
    .ok (effect.map .polled)
  | .dropReceiver => do
    let effect ← s.queue.close true
    .ok (effect.map fun _ => .done)
  | .send via elem => .ok ((UnboundedQueue.send via.counted s.queue elem).map .sent)
  | .cloneSender _ => do
    let queue ← s.queue.increaseSenderCount
    .ok ⟨queue, .sender s.handles.senders.size, []⟩
  | .dropSender _ => do
    let effect ← s.queue.decreaseSenderCount
    .ok (effect.map fun _ => .done)
  | .forgetReceiver | .forgetSender _ => .ok ⟨s.queue, .done, []⟩

def record (h : Handles) : Action T → Handles
  | .split => h.split
  | .intoSplit => h.intoSplit
  | .intoDeque => { h with channel := false }
  | .dropReceiver | .forgetReceiver => { h with receiver := false }
  | .cloneSender _ => h.addSender
  | .dropSender id | .forgetSender id => h.removeSender id
  | .close _ | .tryRecv _ | .pollRecv _ _ | .send _ _ => h

def step (build : Build) (s : State T) (action : Action T) : Except Fault (State T × Outcome T) := do
  let ⟨queue, reply, woken⟩ ← operate build s action
  .ok (⟨queue, record s.handles action⟩, ⟨reply, woken⟩)

/-- Every run starts with one of the constructors of the channel. -/
def Constructed (queue : UnboundedQueue T) : Prop :=
  queue = .new ∨ (∃ initial, queue = .withCapacity initial) ∨ ∃ iter, queue = .fromIter iter

def system (T : Type) (build : Build) : System (State T) (Action T) (Outcome T) Fault where
  Initial s := ∃ queue, Constructed queue ∧ s = .new queue
  Enabled s action := enabled s.handles action = true
  step := step build

instance (build : Build) (s : State T) (action : Action T) : Decidable ((system T build).Enabled s action) :=
  inferInstanceAs (Decidable (enabled s.handles action = true))

theorem step_ok {build : Build} {s after : State T} {action : Action T} {outcome : Outcome T}
    (stepped : (system T build).step s action = .ok (after, outcome)) :
    ∃ effect, operate build s action = .ok effect ∧ after = ⟨effect.state, record s.handles action⟩ ∧
      outcome = ⟨effect.value, effect.woken⟩ := by
  obtain ⟨effect, operated, stored⟩ := bind_ok stepped
  obtain ⟨rfl, rfl⟩ := Prod.mk.inj (Except.ok.inj stored)
  exact ⟨effect, operated, rfl, rfl⟩

end AsyncUnsync.UnboundedSystem
