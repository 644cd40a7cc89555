import AsyncUnsync.Machine

/-! The word of `mask.rs`: the closed bit, and above it the number of senders.
It overflows after `2 ^ 63` senders were leaked; that is a fault in every build. -/

namespace AsyncUnsync

structure Mask where
  bits : Nat
  deriving DecidableEq, Repr

namespace Mask

def new : Mask := ⟨0⟩

def reset (counted : Bool) (mask : Mask) : Except Fault Mask :=
  if counted then do
    let bits ← checkedAdd mask.bits 2
    .ok ⟨bits⟩
  else .ok ⟨mask.bits &&& 1⟩

def isClosed (counted : Bool) (mask : Mask) : Bool :=
  if counted then mask.bits &&& 1 == 1 else mask.bits == 1

def close (counted : Bool) (mask : Mask) : Mask :=
  if counted then ⟨mask.bits ||| 1⟩ else ⟨1⟩

def increaseSenderCount (mask : Mask) : Except Fault Mask := do
  let bits ← checkedAdd mask.bits 2
  .ok ⟨bits⟩

/-- `increase_sender_count` as it changes the word in place: the assignment follows the check. -/
def increaseInPlace : EStateM Fault Mask Unit := do
  let mask ← get
  match mask.increaseSenderCount with
  | .ok mask => set mask
  | .error fault => throw fault

def setClosedBit (_ : Mask) : Mask × Bool := (⟨1⟩, true)

/-- Whether the sender was the last one. -/
def decreaseSenderCount (mask : Mask) : Except Fault (Mask × Bool) := do
  let bits ← checkedSub mask.bits 2
  if bits < 2 then .ok (setClosedBit ⟨bits⟩) else .ok (⟨bits⟩, false)

variable {mask mask' : Mask}

theorem isClosed_counted (mask : Mask) : mask.isClosed true = (mask.bits % 2 == 1) := by
  simp [isClosed, Nat.and_one_is_mod]

theorem isClosed_uncounted (mask : Mask) : mask.isClosed false = (mask.bits == 1) := rfl

@[simp] theorem isClosed_close (counted : Bool) (mask : Mask) : (mask.close counted).isClosed counted = true := by
  cases counted
  · rfl
  · rw [isClosed_counted]
    simp [close, Nat.or_mod_two_eq_one]

theorem increaseSenderCount_ok (done : mask.increaseSenderCount = .ok mask') : mask'.bits = mask.bits + 2 := by
  obtain ⟨bits, added, stored⟩ := bind_ok done
  cases stored
  exact (checkedAdd_ok added).2

theorem reset_ok (done : mask.reset true = .ok mask') : mask'.bits = mask.bits + 2 := increaseSenderCount_ok done

theorem increaseInPlace_full (full : usizeMax < mask.bits + 2) :
    mask.increaseSenderCount = .error .overflow ∧ increaseInPlace.run mask = .error .overflow mask := by
  have refused : mask.increaseSenderCount = .error .overflow := by
    simp only [increaseSenderCount, checkedAdd, if_neg (Nat.not_le_of_lt full)]
    rfl
  have unfolded : increaseInPlace.run mask =
      (match mask.increaseSenderCount with
        | .ok mask => set mask
        | .error fault => throw fault : EStateM Fault Mask Unit).run mask := rfl
  refine ⟨refused, ?_⟩
  rw [unfolded, refused]
  rfl

/-- The last sender leaves exactly the closed bit; any other only lowers the count. -/
theorem decreaseSenderCount_ok {last : Bool} (done : mask.decreaseSenderCount = .ok (mask', last)) :
    2 ≤ mask.bits ∧ (last = true ∧ mask.bits < 4 ∧ mask'.bits = 1 ∨
      last = false ∧ 4 ≤ mask.bits ∧ mask'.bits = mask.bits - 2) := by
  obtain ⟨bits, taken, stored⟩ := bind_ok done
  obtain ⟨le, rfl⟩ := checkedSub_ok taken
  refine ⟨le, ?_⟩
  split at stored
  next few =>
    cases stored
    exact .inl ⟨rfl, by omega, rfl⟩
  next many =>
    cases stored
    exact .inr ⟨rfl, by omega, rfl⟩

theorem isClosed_sub {counted : Bool} (many : 4 ≤ mask.bits) :
    (⟨mask.bits - 2⟩ : Mask).isClosed counted = mask.isClosed counted := by
  cases counted
  · simp only [isClosed_uncounted]
    rw [beq_eq_false_iff_ne.mpr (by omega), beq_eq_false_iff_ne.mpr (by omega)]
  · simp only [isClosed_counted]
    congr 1
    omega

theorem isClosed_add {counted : Bool} (more : mask'.bits = mask.bits + 2) (opened : mask.isClosed counted = false) :
    mask'.isClosed counted = false := by
  cases counted
  · rw [isClosed_uncounted]
    apply beq_eq_false_iff_ne.mpr
    omega
  · rw [isClosed_counted] at opened ⊢
    rw [← opened]
    congr 1
    omega

end Mask
end AsyncUnsync
