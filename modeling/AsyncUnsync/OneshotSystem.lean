import AsyncUnsync.Library.History
import AsyncUnsync.Oneshot

/-! The two halves of one `OneshotChannel` and every call they can make. Both may be
leaked, and borrowed halves may be followed by others. -/

namespace AsyncUnsync.OneshotSystem
open Transition

inductive Action (T : Type) where
  | split
  | intoSplit
  | pollClosed (waker : Waker)
  | send (value : T)
  | dropSender
  | forgetSender
  | pollRecv (waker : Waker)
  | tryRecv
  | close
  | dropReceiver
  | forgetReceiver
  deriving DecidableEq, Repr

inductive Reply (T : Type) where
  | done
  | closed (result : Poll Unit)
  | sent (result : Except (SendError T) Unit)
  | polled (result : Poll (Except RecvError T))
  | received (result : Except TryRecvError T)
  deriving DecidableEq, Repr

structure Outcome (T : Type) where
  reply : Reply T
  woken : List Waker
  deriving DecidableEq, Repr

/-- Who exists: the channel itself, and the halves. -/
structure Halves where
  channel : Bool
  sender : Bool
  receiver : Bool
  deriving DecidableEq, Repr

structure State (T : Type) where
  slot : Slot T
  halves : Halves
  deriving DecidableEq, Repr

variable {T : Type}

def State.new : State T := ⟨.new, ⟨true, false, false⟩⟩

def enabled (halves : Halves) : Action T → Bool
  | .split | .intoSplit => halves.channel && !halves.sender && !halves.receiver
  | .pollClosed _ | .send _ | .dropSender | .forgetSender => halves.sender
  | .pollRecv _ | .tryRecv | .close | .dropReceiver | .forgetReceiver => halves.receiver

/-- What a call does to the slot, and what it answers. `send` consumes the sender. -/
def operate (slot : Slot T) : Action T → Effect (Slot T) (Reply T)
  | .split | .intoSplit | .forgetSender | .forgetReceiver => ⟨slot, .done, []⟩
  | .pollClosed waker => (slot.pollClosed waker).map .closed
  | .send value =>
    let sent := slot.send value
    ⟨sent.state.dropSender, .sent sent.value, sent.woken⟩
  | .dropSender => ⟨slot.dropSender, .done, []⟩
  | .pollRecv waker => (slot.pollRecv waker).map .polled
  | .tryRecv => slot.tryRecv.map .received
  | .close | .dropReceiver => slot.closeAndWake.map fun _ => .done

def record (halves : Halves) : Action T → Halves
  | .split => { halves with sender := true, receiver := true }
  | .intoSplit => ⟨false, true, true⟩
  | .send _ | .dropSender | .forgetSender => { halves with sender := false }
  | .dropReceiver | .forgetReceiver => { halves with receiver := false }
  | .pollClosed _ | .pollRecv _ | .tryRecv | .close => halves

def step (s : State T) (action : Action T) : Except Fault (State T × Outcome T) :=
  let effect := operate s.slot action
  .ok (⟨effect.state, record s.halves action⟩, ⟨effect.value, effect.woken⟩)

def system (T : Type) : System (State T) (Action T) (Outcome T) Fault where
  Initial s := s = .new
  Enabled s action := enabled s.halves action = true
  step := step

instance (s : State T) (action : Action T) : Decidable ((system T).Enabled s action) :=
  inferInstanceAs (Decidable (enabled s.halves action = true))

end AsyncUnsync.OneshotSystem
