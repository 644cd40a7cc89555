import AsyncUnsync.Semaphore

/-! The calls of the semaphore that wake somebody, with wakers that run code of their
own: `wake_by_ref` may call back into the semaphore before it returns, and it may panic.
Where wakers only notify, these calls are those of `Semaphore`. -/

namespace AsyncUnsync.Reentrancy
open Memory

/-- The calls that wake: directly, by dropping a `Permit` or an `Acquire`, or by closing. -/
inductive Operation where
  | addPermits (n : Nat)
  | dropAcquire (a : Addr)
  | close
  deriving DecidableEq, Repr

/-- What the code behind a waker can call. -/
inductive Call where
  | poll (a : Addr) (waker : Waker)
  | wakes (operation : Operation)
  deriving DecidableEq, Repr

/-- What one waker does when it is invoked. -/
structure Reaction where
  calls : List Call
  panics : Bool
  deriving DecidableEq, Repr

/-- A panic unwinds through the caller; a fault is the end of the execution. -/
inductive Stop where
  | panic
  | fault (fault : Fault)
  deriving DecidableEq, Repr

/-- The semaphore while a waker is invoked. The futures in `dropping` are inside their own `drop`. -/
structure Moment where
  waker : Waker
  sem : Semaphore
  dropping : List Addr
  deriving DecidableEq, Repr

/-- `reactions` is what the next wakers will do; those after them only notify. The moments are
the latest first, as are the futures that became ready and the permits they returned. -/
structure World where
  sem : Semaphore
  dropping : List Addr
  reactions : List Reaction
  moments : List Moment
  yields : List (Addr × Nat)
  deriving DecidableEq, Repr

/-- What an interrupted call has done is not undone. -/
abbrev Exec := EStateM Stop World

def World.new (sem : Semaphore) (reactions : List Reaction) : World := ⟨sem, [], reactions, [], []⟩

def World.free (world : World) (a : Addr) : World :=
  { world with sem.memory := world.sem.memory.free a, dropping := world.dropping.erase a }

/-- A client only uses futures that exist, and does not poll one again that was ready. -/
def World.allows (world : World) : Call → Bool
  | .poll a _ =>
    (world.sem.memory.get? a).isSome && !world.dropping.contains a && !world.yields.any fun yielded => yielded.1 == a
  | .wakes (.dropAcquire a) => (world.sem.memory.get? a).isSome && !world.dropping.contains a
  | .wakes _ => true

def lift {α : Type} (result : Except Fault α) : Exec α :=
  match result with
  | .ok value => pure value
  | .error fault => throw (.fault fault)

def update (operation : Semaphore → Except Fault Semaphore) : Exec Unit := do
  let sem ← lift (operation (← get).sem)
  modify fun world => { world with sem }

/-- The loop of `Shared::add_permits`. The waiter is dequeued after its waker has returned. -/
def addPermitsLoop (wake : Waker → Exec Unit) (fuel n : Nat) : Exec Unit :=
  if n = 0 then pure ()
  else do
    let sem := (← get).sem
    match sem.shared.waiters.front with
    | none => update fun s => .ok { s with shared.permits := saturatingAdd s.shared.permits n }
    | some front => match fuel with
      | 0 => throw (.fault .diverges)
      | fuel + 1 => do
        let waiter ← lift (sem.deref front)
        let diff ← lift (checkedSub waiter.wants waiter.permits)
        if diff > n then update fun s => .ok (s.write front { waiter with permits := diff - n })
        else do
          update fun s => .ok (s.write front { waiter with permits := waiter.wants, state := .woken })
          wake (← lift (getWaker waiter.waker))
          update fun s => s.popFront front
          addPermitsLoop wake fuel (n - diff)

/-- The loop of `WaiterQueue::wake_all`. The link is read after the waker has returned. -/
def wakeAllFrom (wake : Waker → Exec Unit) : Nat → Option Addr → Exec Unit
  | _, none => pure ()
  | 0, some _ => throw (.fault .diverges)
  | fuel + 1, some curr => do
    let waiter ← lift ((← get).sem.deref curr)
    update fun s => .ok (s.write curr { waiter with state := .woken })
    wake (← lift (getWaker waiter.waker))
    let waiter ← lift ((← get).sem.deref curr)
    wakeAllFrom wake fuel waiter.next

def close (wake : Waker → Exec Unit) (fuel : Nat) : Exec Unit := do
  wakeAllFrom wake fuel (← get).sem.shared.waiters.head
  update fun s => .ok { s with shared.closed := true, shared.waiters := .new }

/-- The memory of a dropped future is gone, also when its `drop` panicked. -/
def freeing (a : Addr) (drop : Exec Unit) : Exec Unit := fun world =>
  match drop.run world with
  | .ok () world => .ok () (world.free a)
  | .error stop world => .error stop (world.free a)

/-- `Acquire::drop`. -/
def dropFuture (wake : Waker → Exec Unit) (fuel : Nat) (a : Addr) : Exec Unit := do
  modify fun world => { world with dropping := a :: world.dropping }
  update fun s => s.dequeue a
  let waiter ← lift ((← get).sem.deref a)
  freeing a (addPermitsLoop wake fuel waiter.permits)

def Operation.run (wake : Waker → Exec Unit) (fuel : Nat) : Operation → Exec Unit
  | .addPermits n => addPermitsLoop wake fuel n
  | .dropAcquire a => dropFuture wake fuel a
  | .close => Reentrancy.close wake fuel

def Call.run (wake : Waker → Exec Unit) (fuel : Nat) (call : Call) : Exec Unit := do
  let world ← get
  if world.allows call then
    match call with
    | .poll a waker => do
      let (sem, polled) ← lift (world.sem.pollFuture a waker)
      let yields := match polled with
        | .ready (.ok count) => (a, count) :: world.yields
        | _ => world.yields
      set { world with sem, yields }
    | .wakes operation => operation.run wake fuel

def react (wake : Waker → Exec Unit) (fuel : Nat) : List Call → Exec Unit
  | [] => pure ()
  | call :: calls => do
    call.run wake fuel
    react wake fuel calls

/-- The waker is invoked, and it only notifies its task. -/
def notify (waker : Waker) : Exec Unit :=
  modify fun world => { world with moments := ⟨waker, world.sem, world.dropping⟩ :: world.moments }

/-- The waker is invoked and reacts. Calls back are nested at most `depth` deep. -/
def wakeByRef (fuel : Nat) : Nat → Waker → Exec Unit
  | 0, waker => notify waker
  | depth + 1, waker => do
    notify waker
    match (← get).reactions with
    | [] => pure ()
    | reaction :: reactions => do
      modify fun world => { world with reactions }
      react (wakeByRef fuel depth) fuel reaction.calls
      if reaction.panics then throw .panic

@[simp] theorem lift_ok {α : Type} (value : α) : lift (.ok value) = pure value := rfl

@[simp] theorem update_run (operation : Semaphore → Except Fault Semaphore) (world : World) :
    (update operation).run world =
      match operation world.sem with
      | .ok sem => .ok () { world with sem }
      | .error fault => .error (.fault fault) world := by
  cases done : operation world.sem with
  | ok sem => simp [update, done]
  | error fault =>
    simp only [update, EStateM.run_bind, EStateM.run_get, done]
    rfl

@[simp] theorem freeing_run (a : Addr) (drop : Exec Unit) (world : World) :
    (freeing a drop).run world =
      match drop.run world with
      | .ok () world => .ok () (world.free a)
      | .error stop world => .error stop (world.free a) := rfl

@[simp] theorem notify_run (waker : Waker) (world : World) : (notify waker).run world =
    .ok () { world with moments := ⟨waker, world.sem, world.dropping⟩ :: world.moments } := rfl

end AsyncUnsync.Reentrancy
