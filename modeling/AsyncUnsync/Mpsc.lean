import AsyncUnsync.Library.Executor
import AsyncUnsync.MailboxSystem

/-! An mpsc program on one thread: the tasks of `tests/mpsc.rs`, with any number of
producers, any elements, and any wakers. Task 0 is the consumer. -/

namespace AsyncUnsync.Mpsc
open Memory Transition BoundedSystem
variable {T : Type}

/-- `push_loop` sends until an element is refused, or there is none left. A producer has `sent`
that many elements, and the consumer has `taken` its own in this order. -/
inductive Role (T : Type) where
  | producing (sender : Addr) (sent : Nat)
  | sending (sender : Addr) (sent : Nat) (future : Addr)
  | leaving (sender : Addr) (sent : Nat)
  | left (sent : Nat)
  | receiving (taken : List T)
  | closing (taken : List T)
  | departing (taken : List T)
  | departed (taken : List T)
  deriving DecidableEq, Repr

namespace Role

def sender : Role T → Option Addr
  | .producing id _ | .sending id _ _ | .leaving id _ => some id
  | _ => none

def future : Role T → Option Addr
  | .sending _ _ a => some a
  | _ => none

def produces : Role T → Bool
  | .producing _ _ | .sending _ _ _ | .leaving _ _ | .left _ => true
  | _ => false

def finished : Role T → Bool
  | .left _ | .departed _ => true
  | _ => false

def sent : Role T → Nat
  | .producing _ sent | .sending _ sent _ | .leaving _ sent | .left sent => sent
  | _ => 0

def taken : Role T → List T
  | .receiving taken | .closing taken | .departing taken | .departed taken => taken
  | _ => []

theorem owner {role : Role T} {id : Addr} (owns : role.sender = some id) : role.produces = true ∧ role.finished = false := by
  cases role <;> simp [sender, produces, finished] at owns ⊢

end Role

/-- Producer `task` has the elements `source task 0`, `source task 1`, and so on. The consumer closes
the channel when it has taken as many elements as the limit says. -/
structure Workload (T : Type) where
  producers : Nat
  source : Nat → Nat → Option T
  limit : Option Nat
  waker : Nat → Waker

namespace Workload
variable (w : Workload T)

def call (task : Nat) : Role T → Option (Action T)
  | .producing sender sent =>
    match w.source task sent with
    | some elem => some (.send (.sender sender) elem)
    | none => some (.dropSender sender)
  | .sending _ _ a => some (.pollFuture a (w.waker task))
  | .leaving sender _ => some (.dropSender sender)
  | .receiving _ => some (.pollRecv true (w.waker task))
  | .closing _ => some (.close true)
  | .departing _ => some .dropReceiver
  | .left _ | .departed _ => none

def take (taken : List T) : Role T := if w.limit = some taken.length then .closing taken else .receiving taken

def resume (role : Role T) (reply : Reply T) : Role T :=
  match role, reply with
  | .producing sender sent, .future a => .sending sender sent a
  | .producing _ sent, _ => .left sent
  | .sending sender sent _, .sent (.ok ()) => .producing sender (sent + 1)
  | .sending sender sent _, .sent (.error _) => .leaving sender sent
  | .leaving _ sent, _ => .left sent
  | .receiving taken, .polled (.ready (some elem)) => w.take (taken ++ [elem])
  | .receiving taken, .polled (.ready none) => .departing taken
  | .closing taken, _ => .receiving taken
  | .departing taken, _ => .departed taken
  | role, _ => role

/-- A call suspends its task when it polls in vain. -/
def suspends (outcome : Outcome T) : Bool :=
  match outcome.reply with
  | .pending | .polled .pending => true
  | _ => false

def program : Program (Role T) (Action T) (Outcome T) where
  tasks := w.producers + 1
  waker := w.waker
  call := w.call
  resume _ role outcome := w.resume role outcome.reply
  suspends
  woken := Outcome.woken

/-- All tasks set out, over a channel that was split and whose sender was cloned for each producer. -/
def crew {σ : Type} (shared : σ) : Crew σ (Role T) where
  shared
  place
    | 0 => .receiving []
    | task + 1 => if task < w.producers then .producing task 0 else .left 0
  awake _ := true

section Crew
variable {w : Workload T} {σ : Type} (shared : σ)

theorem crew_place (task : Nat) :
    (w.crew shared).place (task + 1) = if task < w.producers then .producing task 0 else .left 0 := rfl

theorem crew_producing {task : Nat} (positive : 0 < task) (within : task ≤ w.producers) :
    ∃ sender, (w.crew shared).place task = .producing sender 0 := by
  obtain ⟨task, rfl⟩ := Nat.exists_eq_succ_of_ne_zero (Nat.ne_of_gt positive)
  exact ⟨task, (crew_place shared task).trans (if_pos within)⟩

theorem crew_absent {task : Nat} (beyond : w.producers < task) : (w.crew shared).place task = .left 0 := by
  obtain ⟨task, rfl⟩ := Nat.exists_eq_succ_of_ne_zero (Nat.ne_of_gt (Nat.zero_lt_of_lt beyond))
  exact (crew_place shared task).trans (if_neg (by omega))

theorem crew_sender (task : Nat) (id : Addr) :
    ((w.crew shared).place task).sender = some id ↔ task = id + 1 ∧ id < w.producers := by
  cases task with
  | zero => simp [Workload.crew, Role.sender]
  | succ task =>
    rw [crew_place]
    split
    next within =>
      simp only [Role.sender, Option.some.injEq]
      constructor
      · rintro rfl
        exact ⟨rfl, within⟩
      · rintro ⟨same, _⟩
        exact Nat.succ.inj same
    next beyond =>
      simp only [Role.sender, reduceCtorEq, false_iff]
      rintro ⟨same, within⟩
      exact beyond (Nat.succ.inj same ▸ within)

theorem crew_held {live : Addr → Prop} (senders : ∀ id, live id ↔ id < w.producers) :
    Program.Held Role.sender live (w.crew shared).place := by
  constructor
  · intro id
    rw [senders]
    constructor
    · intro within
      exact ⟨id + 1, (crew_sender shared _ _).mpr ⟨rfl, within⟩⟩
    · rintro ⟨task, owns⟩
      exact ((crew_sender shared _ _).mp owns).2
  · intro task task' id owns owns'
    rw [((crew_sender shared _ _).mp owns).1, ((crew_sender shared _ _).mp owns').1]

end Crew

/-- How the tasks set out: the senders that exist, and that the mask counts, belong to one producer
each; the channel has a free slot or an element, and nobody else uses it. -/
structure Assembled (crew : Crew (MailboxSystem.Scene T) (Role T)) : Prop where
  consumer : crew.place 0 = .receiving []
  producing : ∀ task, 0 < task → task ≤ w.producers → ∃ sender, crew.place task = .producing sender 0
  absent : ∀ task, w.producers < task → crew.place task = .left 0
  awake : ∀ task, crew.awake task = true
  some : 0 < w.producers
  receiver : crew.shared.clients.handles.receiver = true
  owned : ∀ id, crew.shared.clients.handles.usable (.sender id) = true ↔ ∃ task, (crew.place task).sender = .some id
  apart : ∀ task task' id, (crew.place task).sender = .some id → (crew.place task').sender = .some id → task = task'
  permits : ∀ p, crew.shared.clients.permits.get? p = none
  futures : ∀ a, crew.shared.clients.futures.get? a = none
  requests : ∀ a, crew.shared.mailbox.slots.requests.get? a = none
  opened : crew.shared.mailbox.slots.closed = false
  counted : crew.shared.mailbox.mask.bits = 2 * crew.shared.clients.handles.senderCount
  unreserved : crew.shared.mailbox.reserved = 0
  room : 0 < crew.shared.mailbox.slots.free + crew.shared.mailbox.items.length

/-- No more elements can be accepted: the consumer closes the channel in time, or the producers run out. -/
def Bounded (shared : MailboxSystem.Scene T) (most : Nat) : Prop :=
  (∃ limit, w.limit = some limit ∧ 0 < limit ∧ limit + shared.mailbox.slots.free ≤ most) ∨
    ∃ supply : Nat → Nat, (∀ task sent elem, w.source task sent = some elem → sent < supply task) ∧
      ((List.range (w.producers + 1)).map supply).sum ≤ most

def system (T : Type) (build : Build) (w : Workload T) : System (Crew (State T) (Role T)) (Turn (Action T)) (Outcome T) Fault :=
  w.program.executor (BoundedSystem.system T build) fun crew => w.Assembled (crew.map MailboxSystem.view)

instance [DecidableEq T] (build : Build) (crew : Crew (State T) (Role T)) (turn : Turn (Action T)) :
    Decidable ((w.system T build).Enabled crew turn) := inferInstanceAs (Decidable (_ ∧ _ ∧ _ ∧ _))

def simple (T : Type) (build : Build) (w : Workload T) :
    System (Crew (MailboxSystem.Scene T) (Role T)) (Turn (Action T)) (Outcome T) Fault :=
  w.program.executor (MailboxSystem.system T build) w.Assembled

end Workload
end AsyncUnsync.Mpsc
