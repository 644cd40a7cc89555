import AsyncUnsync.Library.Executor
import AsyncUnsync.LedgerSystem

/-! Tasks on one thread that share the resources a semaphore guards. Each of them acquires a
permit, works while it holds it, and drops it, as many times as it wants to. -/

namespace AsyncUnsync.Workers
open Memory Transition SemaphoreSystem LedgerSystem

/-- `acquire().await` drops its future when it is ready. The rounds are those still to begin. -/
inductive Role where
  | idle (rounds : Nat)
  | acquiring (rounds : Nat) (a : Addr)
  | acquired (rounds : Nat) (a p : Addr)
  | working (rounds : Nat) (p : Addr)
  | refused (a : Addr)
  | left
  deriving DecidableEq, Repr

namespace Role

def request : Role → Option Addr
  | .acquiring _ a | .acquired _ a _ | .refused a => some a
  | _ => none

def permit : Role → Option Addr
  | .acquired _ _ p | .working _ p => some p
  | _ => none

def inside (role : Role) : Nat := if role.permit.isSome then 1 else 0

def finished : Role → Bool
  | .idle 0 | .left => true
  | _ => false

end Role

structure Workload where
  workers : Nat
  rounds : Nat → Nat
  waker : Nat → Waker

namespace Workload
variable (w : Workload)

def call (task : Nat) : Role → Option Action
  | .idle (_ + 1) => some (.acquireMany 1)
  | .acquiring _ a => some (.poll a (w.waker task))
  | .acquired _ a _ | .refused a => some (.dropAcquire a)
  | .working _ p => some (.dropPermit p)
  | .idle 0 | .left => none

def resume (role : Role) (reply : Reply) : Role :=
  match role, reply with
  | .idle (rounds + 1), .future a => .acquiring rounds a
  | .acquiring rounds a, .acquired p => .acquired rounds a p
  | .acquiring _ a, .failed => .refused a
  | .acquired rounds _ p, _ => .working rounds p
  | .working rounds _, _ => .idle rounds
  | .refused _, _ => .left
  | role, _ => role

def suspends (outcome : Outcome) : Bool :=
  match outcome.reply with
  | .pending => true
  | _ => false

def program : Program Role Action Outcome where
  tasks := w.workers
  waker := w.waker
  call := w.call
  resume _ role outcome := resume role outcome.reply
  suspends
  woken := Outcome.woken

def crew {σ : Type} (shared : σ) : Crew σ Role := ⟨shared, fun task => .idle (w.rounds task), fun _ => true⟩

/-- How the workers set out: there is no request of anybody else, not even one that does not wait, and
an open semaphore has a permit. -/
structure Assembled (crew : Crew View Role) : Prop where
  idle : ∀ task, crew.place task = .idle (w.rounds task)
  awake : ∀ task, crew.awake task = true
  requests : ∀ a, crew.shared.ledger.tickets.get? a = none
  room : crew.shared.ledger.closed = false → 0 < crew.shared.ledger.permits
  few : crew.shared.ledger.permits ≤ usizeMax

def system : System (Crew State Role) (Turn Action) Outcome Fault :=
  w.program.executor SemaphoreSystem.system fun crew => w.Assembled (crew.map view)

instance (crew : Crew State Role) (turn : Turn Action) : Decidable (w.system.Enabled crew turn) :=
  inferInstanceAs (Decidable (_ ∧ _ ∧ _ ∧ _))

def simple : System (Crew View Role) (Turn Action) Outcome Fault := w.program.executor View.system w.Assembled

def inside {σ : Type} (crew : Crew σ Role) : Nat := ((List.range w.workers).map fun task => (crew.place task).inside).sum

end Workload
end AsyncUnsync.Workers
