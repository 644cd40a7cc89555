import AsyncUnsync.Semaphore

/-! The errors of `error.rs`. -/

namespace AsyncUnsync

/-- The channel is closed. The value could not be sent and is handed back. -/
structure SendError (T : Type) where
  value : T
  deriving DecidableEq, Repr

inductive TryRecvError where
  | empty
  | disconnected
  deriving DecidableEq, Repr

inductive TrySendError (T : Type) where
  | full (value : T)
  | closed (value : T)
  deriving DecidableEq, Repr

namespace TrySendError
variable {T U : Type}

def set (error : TrySendError T) (value : U) : TrySendError U :=
  match error with
  | .full _ => .full value
  | .closed _ => .closed value

def value : TrySendError T → T
  | .full value => value
  | .closed value => value

/-- `From<(TryAcquireError, T)>`. -/
def ofAcquire : TryAcquireError → T → TrySendError T
  | .closed, value => .closed value
  | .noPermits, value => .full value

@[simp] theorem value_ofAcquire (error : TryAcquireError) (value : T) : (ofAcquire error value).value = value := by
  cases error <;> rfl

end TrySendError
end AsyncUnsync
