import AsyncUnsync.Library.Arena
import AsyncUnsync.Library.History
import AsyncUnsync.Machine

/-! Where channels and their senders are stored. A borrowed handle points into the
channel it was split from, an owned one to the allocation that all owned handles of
a channel share. A place that is free again may be used for anything else. -/

namespace AsyncUnsync.Placement
open Memory Transition

/-- An address of the machine, at which at most one value is stored at a time. -/
abbrev Place := Nat

inductive Kind where
  | sender
  | senderRef
  | unboundedSender
  | unboundedSenderRef
  deriving DecidableEq, Repr

def Kind.owned : Kind → Bool
  | .sender | .unboundedSender => true
  | .senderRef | .unboundedSenderRef => false

/-- A sender is one pointer to the queue, stored at `place`. The program does not know `channel`,
the number of the channel from which the handle descends. -/
structure Handle where
  kind : Kind
  place : Place
  queue : Place
  channel : Addr
  deriving DecidableEq, Repr

/-- `Rc::as_ptr(&self.queue)`: what the pointer points to. -/
def Handle.asPtr (handle : Handle) : Place := handle.queue

/-- `&self.queue`: where the pointer is stored. -/
def Handle.queueRef (handle : Handle) : Place := handle.place

namespace Sender

def sameChannel (handle other : Handle) : Bool := handle.asPtr == other.asPtr

end Sender

namespace SenderRef

def sameChannel (handle other : Handle) : Bool := handle.queueRef == other.queueRef

end SenderRef

namespace UnboundedSender

def sameChannel (handle other : Handle) : Bool := handle.asPtr == other.asPtr

end UnboundedSender

namespace UnboundedSenderRef

def sameChannel (handle other : Handle) : Bool := handle.queueRef == other.queueRef

end UnboundedSenderRef

/-- Both handles are of one kind, as the types demand. -/
def Handle.sameChannel (handle other : Handle) : Bool :=
  match handle.kind with
  | .sender => Sender.sameChannel handle other
  | .senderRef => SenderRef.sameChannel handle other
  | .unboundedSender => UnboundedSender.sameChannel handle other
  | .unboundedSenderRef => UnboundedSenderRef.sameChannel handle other

/-- A channel that is `shared` was moved into an `Rc`. If a handle to it was leaked, it stays there. -/
structure Channel where
  bounded : Bool
  place : Place
  shared : Bool
  receiver : Bool
  leaked : Bool
  deriving DecidableEq, Repr

def Channel.kind (channel : Channel) : Kind :=
  match channel.bounded, channel.shared with
  | true, true => .sender
  | true, false => .senderRef
  | false, true => .unboundedSender
  | false, false => .unboundedSenderRef

structure State where
  channels : Arena Channel
  handles : Arena Handle
  deriving DecidableEq, Repr

/-- The caller chooses the place of every value that is made or moved. -/
inductive Action where
  | create (bounded : Bool) (place : Place)
  | moveChannel (c : Addr) (place : Place)
  | dropChannel (c : Addr)
  | split (c : Addr) (place : Place)
  | intoSplit (c : Addr) (allocation place : Place)
  | dropReceiver (c : Addr)
  | forgetReceiver (c : Addr)
  | clone (a : Addr) (place : Place)
  | move (a : Addr) (place : Place)
  | drop (a : Addr)
  | forget (a : Addr)
  deriving DecidableEq, Repr

namespace State

def new : State := ⟨.empty, .empty⟩

def occupied (s : State) (place : Place) : Bool :=
  s.channels.count (fun channel => channel.place == place) != 0 ||
    s.handles.count (fun handle => handle.place == place) != 0

def sends (s : State) (c : Addr) : Bool := s.handles.count (fun handle => handle.channel == c) != 0

def exclusive (s : State) (c : Addr) : Bool :=
  (s.channels.get? c).any (fun channel => !channel.shared && !channel.receiver) && !s.sends c

/-- The `Rc` frees the queue together with the last handle. -/
def release (s : State) (c : Addr) : State :=
  if (s.channels.get? c).any (fun channel => channel.shared && !channel.receiver && !channel.leaked) && !s.sends c then
    { s with channels := s.channels.free c }
  else s

end State

def enabled (s : State) : Action → Bool
  | .create _ place => !s.occupied place
  | .moveChannel c place | .split c place => s.exclusive c && !s.occupied place
  | .intoSplit c allocation place => s.exclusive c && !s.occupied allocation && !s.occupied place && allocation != place
  | .dropChannel c => s.exclusive c
  | .dropReceiver c | .forgetReceiver c => (s.channels.get? c).any Channel.receiver
  | .clone a place | .move a place => (s.handles.get? a).isSome && !s.occupied place
  | .drop a | .forget a => (s.handles.get? a).isSome

def step (s : State) : Action → Except Fault State
  | .create bounded place => .ok { s with channels := s.channels.alloc ⟨bounded, place, false, false, false⟩ }
  | .moveChannel c place => .ok { s with channels := s.channels.modify c fun channel => { channel with place } }
  | .dropChannel c => .ok { s with channels := s.channels.free c }
  | .split c place =>
    match s.channels.get? c with
    | none => .error .dangling
    | some channel =>
      .ok ⟨s.channels.put c { channel with receiver := true }, s.handles.alloc ⟨channel.kind, place, channel.place, c⟩⟩
  | .intoSplit c allocation place =>
    match s.channels.get? c with
    | none => .error .dangling
    | some channel =>
      let channel := { channel with place := allocation, shared := true, receiver := true }
      .ok ⟨s.channels.put c channel, s.handles.alloc ⟨channel.kind, place, channel.place, c⟩⟩
  | .dropReceiver c =>
    .ok (State.release { s with channels := s.channels.modify c fun channel => { channel with receiver := false } } c)
  | .forgetReceiver c =>
    .ok { s with channels := s.channels.modify c fun channel =>
      { channel with receiver := false, leaked := channel.leaked || channel.shared } }
  | .clone a place =>
    match s.handles.get? a with
    | none => .error .dangling
    | some handle => .ok { s with handles := s.handles.alloc { handle with place } }
  | .move a place => .ok { s with handles := s.handles.modify a fun handle => { handle with place } }
  | .drop a =>
    match s.handles.get? a with
    | none => .error .dangling
    | some handle => .ok (State.release { s with handles := s.handles.free a } handle.channel)
  | .forget a =>
    match s.handles.get? a with
    | none => .error .dangling
    | some handle =>
      .ok ⟨s.channels.modify handle.channel fun channel => { channel with leaked := channel.leaked || channel.shared },
        s.handles.free a⟩

def system : System State Action Unit Fault where
  Initial s := s = .new
  Enabled s action := enabled s action = true
  step s action := (step s action).map fun s => (s, ())

instance (s : State) (action : Action) : Decidable (system.Enabled s action) :=
  inferInstanceAs (Decidable (enabled s action = true))

theorem step_ok {s after : State} {action : Action} {outcome : Unit}
    (stepped : system.step s action = .ok (after, outcome)) : step s action = .ok after := by
  simp only [system, Except.map] at stepped
  split at stepped
  · cases stepped
  next done =>
    cases stepped
    exact done

end AsyncUnsync.Placement
