import AsyncUnsync.Error

/-! The slot of `oneshot.rs` that both halves of a oneshot channel share. -/

namespace AsyncUnsync

structure RecvError where
  deriving DecidableEq, Repr

structure Slot (T : Type) where
  value : Option T
  recvWaker : Option Waker
  closeWaker : Option Waker
  closed : Bool
  deriving DecidableEq, Repr

namespace Slot
variable {T : Type}

def new : Slot T := ⟨none, none, none, false⟩

def send (slot : Slot T) (value : T) : Effect (Slot T) (Except (SendError T) Unit) :=
  if slot.closed then ⟨slot, .error ⟨value⟩, []⟩
  else ⟨{ slot with value := some value }, .ok (), slot.recvWaker.toList⟩

def closeAndWake (slot : Slot T) : Effect (Slot T) Unit :=
  if slot.closed then ⟨slot, (), []⟩ else ⟨{ slot with closed := true }, (), slot.closeWaker.toList⟩

def pollClosed (slot : Slot T) (waker : Waker) : Effect (Slot T) (Poll Unit) :=
  if slot.closed then ⟨slot, .ready (), []⟩ else ⟨{ slot with closeWaker := some waker }, .pending, []⟩

def tryRecv (slot : Slot T) : Effect (Slot T) (Except TryRecvError T) :=
  match slot.value with
  | some value => ⟨{ slot with value := none }, .ok value, []⟩
  | none => ⟨slot, .error (if slot.closed then .disconnected else .empty), []⟩

def pollRecv (slot : Slot T) (waker : Waker) : Effect (Slot T) (Poll (Except RecvError T)) :=
  let ⟨slot, result, woken⟩ := slot.tryRecv
  match result with
  | .ok value => ⟨slot, .ready (.ok value), woken⟩
  | .error .disconnected => ⟨slot, .ready (.error ⟨⟩), woken⟩
  | .error .empty => ⟨{ slot with recvWaker := some waker }, .pending, woken⟩

/-- `Sender::drop`, and `SenderRef::drop`. -/
def dropSender (slot : Slot T) : Slot T := { slot with closed := true }

variable {slot : Slot T} {waker : Waker}

theorem pollRecv_pending : (slot.pollRecv waker).value = .pending ↔ slot.value = none ∧ slot.closed = false := by
  obtain ⟨value, _, _, closed⟩ := slot
  cases value <;> cases closed <;> simp [pollRecv, tryRecv]

theorem pollClosed_pending : (slot.pollClosed waker).value = .pending ↔ slot.closed = false := by
  cases closed : slot.closed <;> simp [pollClosed, closed]

end Slot
end AsyncUnsync
