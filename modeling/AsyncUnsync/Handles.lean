import AsyncUnsync.Library.Arena
import AsyncUnsync.Machine

/-! Who can reach a channel. Borrowed handles end before the channel is used again;
owned handles replace the channel for good. -/

namespace AsyncUnsync
open Memory

/-- The reference through which a client sends. -/
inductive Via where
  | channel
  | sender (id : Addr)
  deriving DecidableEq, Repr

/-- Whether the call counts senders, as the calls of a split channel do. -/
def Via.counted : Via → Bool
  | .channel => false
  | .sender _ => true

/-- `channel` tells that somebody owns the channel itself. -/
structure Handles where
  channel : Bool
  receiver : Bool
  senders : Arena Unit
  deriving DecidableEq, Repr

namespace Handles

def new : Handles := ⟨true, false, .empty⟩

def senderCount (h : Handles) : Nat := h.senders.count fun _ => true

/-- No handle is left, so the channel can be shared by reference. -/
def unsplit (h : Handles) : Bool := h.channel && !h.receiver && h.senderCount == 0

def usable (h : Handles) : Via → Bool
  | .channel => h.unsplit
  | .sender id => (h.senders.get? id).isSome

/-- Who may receive: the receiver handle, or anybody while the channel is not split. -/
def receives (counted : Bool) (h : Handles) : Bool := if counted then h.receiver else h.unsplit

def split (h : Handles) : Handles := { h with receiver := true, senders := h.senders.alloc () }

def intoSplit (h : Handles) : Handles := { h.split with channel := false }

def addSender (h : Handles) : Handles := { h with senders := h.senders.alloc () }

def removeSender (h : Handles) (id : Addr) : Handles := { h with senders := h.senders.free id }

variable {h : Handles}

theorem unsplit_iff : h.unsplit = true ↔ h.channel = true ∧ h.receiver = false ∧ h.senderCount = 0 := by
  simp [unsplit, and_assoc]

@[simp] theorem senderCount_split (h : Handles) : h.split.senderCount = h.senderCount + 1 := by
  simp [senderCount, split, Arena.count]

@[simp] theorem senderCount_intoSplit (h : Handles) : h.intoSplit.senderCount = h.senderCount + 1 := by
  simp [senderCount, intoSplit, split, Arena.count]

@[simp] theorem senderCount_addSender (h : Handles) : h.addSender.senderCount = h.senderCount + 1 := by
  simp [senderCount, addSender, Arena.count]

theorem senderCount_removeSender {id : Addr} (live : h.usable (.sender id) = true) :
    (h.removeSender id).senderCount + 1 = h.senderCount := by
  obtain ⟨_, held⟩ := Option.isSome_iff_exists.mp live
  simpa [senderCount, removeSender, Arena.count] using Arena.sum_free held fun _ => 1

theorem senderCount_pos {id : Addr} (live : h.usable (.sender id) = true) : 0 < h.senderCount := by
  have removed := senderCount_removeSender live
  omega

theorem usable_sender {via : Via} (usable : h.usable via = true) (receiver : h.receiver = true) : 0 < h.senderCount := by
  cases via with
  | channel =>
    have absent := (unsplit_iff.mp usable).2.1
    cases absent.symm.trans receiver
  | sender id => exact senderCount_pos usable

theorem usable_addSender {via : Via} (usable : h.usable via = true) (sender : via ≠ .channel) :
    h.addSender.usable via = true := by
  cases via with
  | channel => exact absurd rfl sender
  | sender id =>
    obtain ⟨_, held⟩ := Option.isSome_iff_exists.mp usable
    simp [Handles.usable, addSender, Arena.get?_alloc_of_live held]

theorem usable_removeSender {via : Via} {id : Addr} (usable : h.usable via = true)
    (live : h.usable (.sender id) = true) (other : via ≠ .sender id) : (h.removeSender id).usable via = true := by
  cases via with
  | channel =>
    have none := (unsplit_iff.mp usable).2.2
    have some := senderCount_pos live
    omega
  | sender id' =>
    have different : id' ≠ id := fun same => other (congrArg Via.sender same)
    simpa [Handles.usable, removeSender, different] using usable

theorem usable_sender_removeSender (h : Handles) (id other : Addr) :
    (h.removeSender id).usable (.sender other) = true ↔ other ≠ id ∧ h.usable (.sender other) = true := by
  by_cases same : other = id
  · simp [Handles.usable, removeSender, same]
  · simp [Handles.usable, removeSender, same]

end Handles
end AsyncUnsync
