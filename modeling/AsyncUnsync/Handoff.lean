import AsyncUnsync.Library.Executor
import AsyncUnsync.OneshotSystem

/-! Two tasks that share a oneshot channel. One sends, or drops its sender, perhaps after
`closed().await`; the other awaits the value, or closes the channel and looks once. -/

namespace AsyncUnsync.Handoff
open Transition OneshotSystem

/-- `send` drops its sender. The receiving task drops its receiver at the end. -/
inductive Role (T : Type) where
  | sending (value : T)
  | watching
  | withdrawing
  | sent (value : T) (result : Except (SendError T) Unit)
  | withdrawn
  | receiving
  | closing
  | looking
  | departing (result : Option T)
  | departed (result : Option T)
  deriving DecidableEq, Repr

variable {T : Type}

namespace Role

def sends : Role T → Bool
  | .sending _ | .watching | .withdrawing | .sent _ _ | .withdrawn => true
  | _ => false

def finished : Role T → Bool
  | .sent _ _ | .withdrawn | .departed _ => true
  | _ => false

def value : Role T → Option T
  | .sending value | .sent value _ => some value
  | _ => none

def accepted : Role T → Option T
  | .sent value (.ok ()) => some value
  | _ => none

def received : Role T → Option T
  | .departing result | .departed result => result
  | _ => none

/-- The calls that are left, but for those that find nothing yet. -/
def steps : Role T → Nat
  | .sending _ | .withdrawing | .departing _ => 1
  | .watching | .receiving | .looking => 2
  | .closing => 3
  | .sent _ _ | .withdrawn | .departed _ => 0

end Role

def call (waker : Nat → Waker) (task : Nat) : Role T → Option (Action T)
  | .sending value => some (.send value)
  | .watching => some (.pollClosed (waker task))
  | .withdrawing => some .dropSender
  | .receiving => some (.pollRecv (waker task))
  | .closing => some .close
  | .looking => some .tryRecv
  | .departing _ => some .dropReceiver
  | .sent _ _ | .withdrawn | .departed _ => none

def resume (role : Role T) (reply : Reply T) : Role T :=
  match role, reply with
  | .sending value, .sent result => .sent value result
  | .watching, .closed (.ready ()) => .withdrawing
  | .withdrawing, _ => .withdrawn
  | .receiving, .polled (.ready (.ok value)) => .departing (some value)
  | .receiving, .polled (.ready (.error _)) => .departing none
  | .closing, _ => .looking
  | .looking, .received (.ok value) => .departing (some value)
  | .looking, .received (.error _) => .departing none
  | .departing result, _ => .departed result
  | role, _ => role

def suspends (outcome : Outcome T) : Bool :=
  match outcome.reply with
  | .closed .pending | .polled .pending => true
  | _ => false

/-- The receiving task is task 0, the sending task is task 1. -/
def program (T : Type) (waker : Nat → Waker) : Program (Role T) (Action T) (Outcome T) where
  tasks := 2
  waker
  call := call waker
  resume _ role outcome := resume role outcome.reply
  suspends
  woken := Outcome.woken

/-- How the tasks set out: each with its half of the channel, whatever became of other halves before. -/
structure Assembled (crew : Crew (State T) (Role T)) : Prop where
  receiving : crew.place 0 = .receiving ∨ crew.place 0 = .closing ∨ crew.place 0 = .departing none
  sending : (∃ value, crew.place 1 = .sending value) ∨ crew.place 1 = .watching ∨ crew.place 1 = .withdrawing
  awake : ∀ task, crew.awake task = true
  receiver : crew.shared.halves.receiver = true
  sender : crew.shared.halves.sender = true

def pair {σ : Type} (shared : σ) (first second : Role T) : Crew σ (Role T) :=
  ⟨shared, fun task => if task = 0 then first else second, fun _ => true⟩

def system (T : Type) (waker : Nat → Waker) : System (Crew (State T) (Role T)) (Turn (Action T)) (Outcome T) Fault :=
  (program T waker).executor (OneshotSystem.system T) Assembled

instance [DecidableEq T] (waker : Nat → Waker) (crew : Crew (State T) (Role T)) (turn : Turn (Action T)) :
    Decidable ((system T waker).Enabled crew turn) := inferInstanceAs (Decidable (_ ∧ _ ∧ _ ∧ _))

end AsyncUnsync.Handoff
