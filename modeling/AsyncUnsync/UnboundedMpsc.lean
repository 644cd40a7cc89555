import AsyncUnsync.Mpsc
import AsyncUnsync.UnboundedSystem

/-! The tasks of an mpsc program over an unbounded channel. A send is one call there, and
never suspends its producer. -/

namespace AsyncUnsync.UnboundedMpsc
open Memory Transition UnboundedSystem Mpsc
variable {T : Type} (w : Workload T)

def call (task : Nat) : Role T → Option (Action T)
  | .producing sender sent =>
    match w.source task sent with
    | some elem => some (.send (.sender sender) elem)
    | none => some (.dropSender sender)
  | .leaving sender _ => some (.dropSender sender)
  | .receiving _ => some (.pollRecv true (w.waker task))
  | .closing _ => some (.close true)
  | .departing _ => some .dropReceiver
  | .sending _ _ _ | .left _ | .departed _ => none

def resume (role : Role T) (reply : Reply T) : Role T :=
  match role, reply with
  | .producing sender sent, .sent (.ok ()) => .producing sender (sent + 1)
  | .producing sender sent, .sent (.error _) => .leaving sender sent
  | .producing _ sent, _ | .leaving _ sent, _ => .left sent
  | .receiving taken, .polled (.ready (some elem)) => w.take (taken ++ [elem])
  | .receiving taken, .polled (.ready none) => .departing taken
  | .closing taken, _ => .receiving taken
  | .departing taken, _ => .departed taken
  | role, _ => role

def suspends (outcome : Outcome T) : Bool :=
  match outcome.reply with
  | .polled .pending => true
  | _ => false

def program : Program (Role T) (Action T) (Outcome T) where
  tasks := w.producers + 1
  waker := w.waker
  call := call w
  resume _ role outcome := resume w role outcome.reply
  suspends
  woken := Outcome.woken

/-- How the tasks set out: the senders that exist, and that the mask counts, belong to one producer
each, and nobody else uses the channel. -/
structure Assembled (crew : Crew (State T) (Role T)) : Prop where
  consumer : crew.place 0 = .receiving []
  producing : ∀ task, 0 < task → task ≤ w.producers → ∃ sender, crew.place task = .producing sender 0
  absent : ∀ task, w.producers < task → crew.place task = .left 0
  awake : ∀ task, crew.awake task = true
  some : 0 < w.producers
  receiver : crew.shared.handles.receiver = true
  owned : ∀ id, crew.shared.handles.usable (.sender id) = true ↔ ∃ task, (crew.place task).sender = .some id
  apart : ∀ task task' id, (crew.place task).sender = .some id → (crew.place task').sender = .some id → task = task'
  counted : crew.shared.queue.mask.bits = 2 * crew.shared.handles.senderCount

def system (build : Build) : System (Crew (State T) (Role T)) (Turn (Action T)) (Outcome T) Fault :=
  (program w).executor (UnboundedSystem.system T build) (Assembled w)

instance [DecidableEq T] (build : Build) (crew : Crew (State T) (Role T)) (turn : Turn (Action T)) :
    Decidable ((system w build).Enabled crew turn) := inferInstanceAs (Decidable (_ ∧ _ ∧ _ ∧ _))

end AsyncUnsync.UnboundedMpsc
