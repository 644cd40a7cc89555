import AsyncUnsync.Library.History
import AsyncUnsync.Queue

/-! The buffer of one `Queue`, under any pushes and pops. How much a push grows
the buffer is up to the `VecDeque`. -/

namespace AsyncUnsync

variable {T B : Type}

/-- `push_and_wake`, after which the buffer has some larger capacity. -/
def Queue.pushInto (q : Queue T B) (elem : T) (capacity : Nat) : Queue T B :=
  { q with queue := ⟨q.items ++ [elem], capacity⟩ }

theorem Queue.pushAndWake_eq (q : Queue T B) (elem : T) :
    (q.pushAndWake elem).state = q.pushInto elem (q.queue.pushBack elem).capacity ∧
      q.queue.capacity ≤ (q.queue.pushBack elem).capacity := by
  refine ⟨rfl, ?_⟩
  simp only [Deque.pushBack]
  split <;> omega

namespace BufferSystem
open Transition

inductive Action (T : Type) where
  | pushAndWake (elem : T) (capacity : Nat)
  | popFront
  deriving DecidableEq, Repr

def enabled (q : Queue T B) : Action T → Prop
  | .pushAndWake _ capacity => q.queue.capacity ≤ capacity
  | .popFront => True

instance (q : Queue T B) : ∀ action, Decidable (enabled q action)
  | .pushAndWake _ capacity => inferInstanceAs (Decidable (q.queue.capacity ≤ capacity))
  | .popFront => .isTrue trivial

def step (q : Queue T B) : Action T → Queue T B × Option T
  | .pushAndWake elem capacity => (q.pushInto elem capacity, none)
  | .popFront => q.popFront

def system (T B : Type) : System (Queue T B) (Action T) (Option T) Fault where
  Initial q := ∃ queue extra, q = .new queue extra
  Enabled := enabled
  step q action := .ok (step q action)

instance (q : Queue T B) (action : Action T) : Decidable ((system T B).Enabled q action) :=
  inferInstanceAs (Decidable (enabled q action))

end BufferSystem
end AsyncUnsync
