import AsyncUnsync.Library.History
import AsyncUnsync.Mask

/-! What the mask of a channel is for: who sends on the channel, and whether it is closed.
A census knows nothing of queues. -/

namespace AsyncUnsync
open Transition

/-- The mask, the senders that are alive, and whether the receiver is. -/
structure Census where
  mask : Mask
  senders : Nat
  receiver : Bool
  deriving DecidableEq, Repr

namespace Census

def new : Census := ⟨.new, 0, false⟩

/-- Handles may be leaked: a sender is lost, or the receiver abandoned. -/
inductive Move where
  | stay
  | split
  | join
  | leave
  | lose
  | close (counted : Bool)
  | retire
  | abandon
  deriving DecidableEq, Repr

def Move.leaks : Move → Bool
  | .lose | .abandon => true
  | _ => false

def Move.closes : Move → Bool
  | .close _ | .retire => true
  | _ => false

def Move.splits : Move → Bool
  | .split => true
  | _ => false

/-- The channel is split only when all its handles are gone. -/
def enabled (c : Census) : Move → Bool
  | .stay => true
  | .split | .close false => !c.receiver && c.senders == 0
  | .join | .leave | .lose => c.senders != 0
  | .close true | .retire | .abandon => c.receiver

def step (c : Census) : Move → Except Fault Census
  | .stay => .ok c
  | .split => do
    let mask ← c.mask.reset true
    .ok ⟨mask, c.senders + 1, true⟩
  | .join => do
    let mask ← c.mask.increaseSenderCount
    .ok { c with mask, senders := c.senders + 1 }
  | .leave => do
    let (mask, _) ← c.mask.decreaseSenderCount
    .ok { c with mask, senders := c.senders - 1 }
  | .lose => .ok { c with senders := c.senders - 1 }
  | .close counted => .ok { c with mask := c.mask.close counted }
  | .retire => .ok { c with mask := c.mask.close true, receiver := false }
  | .abandon => .ok { c with receiver := false }

def system : System Census Move Unit Fault where
  Initial c := c = new
  Enabled c move := enabled c move = true
  step c move := (step c move).map fun c => (c, ())

end Census

/-- The channel was closed explicitly, or by its receiver that was dropped, or no sender of a split is left. -/
def Ended {σ α ω : Type} (closes splits : α → Bool) (history : History σ α ω) (senders : Nat) : Prop :=
  (∃ event ∈ history, closes event.action = true) ∨ (∃ event ∈ history, splits event.action = true) ∧ senders = 0

end AsyncUnsync
