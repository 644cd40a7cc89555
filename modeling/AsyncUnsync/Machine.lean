import Mathlib.Algebra.GroupWithZero.Nat
import Mathlib.Control.Monad.Basic

/-! What the crate takes from the language: machine words, tasks that can be
woken, and the ways in which an execution would go wrong. -/

namespace AsyncUnsync

def usizeMax : Nat := 2 ^ 64 - 1

/-- The task a `Waker` wakes. Clones of one waker wake the same task. -/
abbrev Waker := Nat

/-- Undefined behaviour, a panic, or a loop that does not end. None of these is a
result: an execution that reaches one has no next state. -/
inductive Fault where
  | dangling
  | unreachable
  | underflow
  | overflow
  | assertion
  | diverges
  deriving DecidableEq, Repr

/-- Whether arithmetic is checked at run time (debug builds) or wraps (release builds). -/
inductive Build where
  | checked
  | wrapping
  deriving DecidableEq, Repr

def checkedSub (a b : Nat) : Except Fault Nat :=
  if b ≤ a then .ok (a - b) else .error .underflow

def checkedAdd (a b : Nat) : Except Fault Nat :=
  if a + b ≤ usizeMax then .ok (a + b) else .error .overflow

def saturatingAdd (a b : Nat) : Nat := min (a + b) usizeMax

/-- A plain `a - b` as the build compiles it. -/
def Build.sub (build : Build) (a b : Nat) : Except Fault Nat :=
  match build with
  | .checked => checkedSub a b
  | .wrapping => .ok (if b ≤ a then a - b else a + (usizeMax + 1) - b)

inductive Poll (β : Type) where
  | ready (value : β)
  | pending
  deriving DecidableEq, Repr

/-- The result of an operation together with the tasks it woke, in order. -/
structure Effect (σ β : Type) where
  state : σ
  value : β
  woken : List Waker := []
  deriving DecidableEq, Repr

def Effect.map {σ β γ : Type} (f : β → γ) (effect : Effect σ β) : Effect σ γ :=
  ⟨effect.state, f effect.value, effect.woken⟩

theorem checkedSub_of_le {a b : Nat} (le : b ≤ a) : checkedSub a b = .ok (a - b) := if_pos le

theorem checkedAdd_of_le {a b : Nat} (le : a + b ≤ usizeMax) : checkedAdd a b = .ok (a + b) := if_pos le

theorem checkedSub_ok {a b difference : Nat} (done : checkedSub a b = .ok difference) : b ≤ a ∧ difference = a - b := by
  unfold checkedSub at done
  split at done
  next le => exact ⟨le, (Except.ok.inj done).symm⟩
  next => cases done

theorem checkedAdd_ok {a b sum : Nat} (done : checkedAdd a b = .ok sum) : a + b ≤ usizeMax ∧ sum = a + b := by
  unfold checkedAdd at done
  split at done
  next le => exact ⟨le, (Except.ok.inj done).symm⟩
  next => cases done

theorem Build.sub_of_le (build : Build) {a b : Nat} (le : b ≤ a) : build.sub a b = .ok (a - b) := by
  cases build <;> simp [Build.sub, checkedSub, le]

@[simp] theorem ok_bind {ε β γ : Type} (value : β) (next : β → Except ε γ) :
    ((Except.ok value : Except ε β) >>= next) = next value := rfl

theorem bind_ok {ε β γ : Type} {first : Except ε β} {next : β → Except ε γ} {result : γ}
    (done : (first >>= next) = .ok result) : ∃ value, first = .ok value ∧ next value = .ok result := by
  cases first with
  | error error => cases done
  | ok value => exact ⟨value, rfl, done⟩

end AsyncUnsync
