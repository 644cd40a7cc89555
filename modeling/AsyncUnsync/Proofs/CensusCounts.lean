import AsyncUnsync.Census

/-! The mask counts the senders and remembers whether the channel is closed. The
count holds in every run; as long as no handle is leaked, it is exact. -/

namespace AsyncUnsync.Proofs.CensusCounts
open Transition Census

variable {c c' : Census} {move : Move} {start state : Census} {past history : History Census Move Unit}
  {event : Event Census Move Unit}

section Moves

theorem split_ok (done : step c .split = .ok c') :
    c'.mask.bits = c.mask.bits + 2 ∧ c'.senders = c.senders + 1 ∧ c'.receiver = true := by
  obtain ⟨mask, counted, stored⟩ := bind_ok done
  cases stored
  exact ⟨Mask.reset_ok counted, rfl, rfl⟩

theorem join_ok (done : step c .join = .ok c') :
    c'.mask.bits = c.mask.bits + 2 ∧ c'.senders = c.senders + 1 ∧ c'.receiver = c.receiver := by
  obtain ⟨mask, counted, stored⟩ := bind_ok done
  cases stored
  exact ⟨Mask.increaseSenderCount_ok counted, rfl, rfl⟩

theorem leave_ok (done : step c .leave = .ok c') :
    2 ≤ c.mask.bits ∧ c'.senders = c.senders - 1 ∧ c'.receiver = c.receiver ∧
      (c.mask.bits < 4 ∧ c'.mask.bits = 1 ∨ 4 ≤ c.mask.bits ∧ c'.mask.bits = c.mask.bits - 2) := by
  obtain ⟨⟨mask, last⟩, counted, stored⟩ := bind_ok done
  cases stored
  obtain ⟨some, ⟨_, few, bits⟩ | ⟨_, many, bits⟩⟩ := Mask.decreaseSenderCount_ok counted
  · exact ⟨some, rfl, rfl, .inl ⟨few, bits⟩⟩
  · exact ⟨some, rfl, rfl, .inr ⟨many, bits⟩⟩

private theorem or_one (bits : Nat) : (bits ||| 1) / 2 = bits / 2 ∧ (bits ||| 1) % 2 = 1 :=
  ⟨by simp [Nat.or_div_two], by simp [Nat.or_mod_two_eq_one]⟩

theorem close_bits {counted : Bool} (none : counted = false → c.mask.bits / 2 = 0) :
    (c.mask.close counted).bits / 2 = c.mask.bits / 2 ∧ (c.mask.close counted).bits % 2 = 1 := by
  cases counted with
  | false =>
    rw [none rfl]
    exact ⟨by simp [Mask.close], rfl⟩
  | true => exact or_one c.mask.bits

end Moves

/-- The mask counts at least the senders that are left. -/
def Covers (c : Census) : Prop := 2 * c.senders ≤ c.mask.bits

theorem step_covers (covers : Covers c) (able : enabled c move = true) (done : step c move = .ok c') : Covers c' := by
  unfold Covers at covers ⊢
  cases move with
  | stay | abandon =>
    cases done
    exact covers
  | split =>
    obtain ⟨bits, senders, _⟩ := split_ok done
    omega
  | join =>
    obtain ⟨bits, senders, _⟩ := join_ok done
    omega
  | leave =>
    simp only [enabled, bne_iff_ne, ne_eq] at able
    obtain ⟨_, senders, _, ⟨few, bits⟩ | ⟨many, bits⟩⟩ := leave_ok done <;> omega
  | lose =>
    cases done
    simp only
    omega
  | close counted =>
    cases done
    cases counted with
    | false =>
      simp only [enabled, Bool.and_eq_true, beq_iff_eq] at able
      simp [able.2]
    | true => exact Nat.le_trans covers Nat.left_le_or
  | retire =>
    cases done
    exact Nat.le_trans covers Nat.left_le_or

theorem step_senders (able : enabled c move = true) (done : step c move = .ok c') (whole : move.splits = false)
    (none : c.senders = 0) : c'.senders = 0 := by
  cases move with
  | split => cases whole
  | join =>
    simp only [enabled, bne_iff_ne, ne_eq] at able
    omega
  | leave =>
    obtain ⟨_, senders, _⟩ := leave_ok done
    omega
  | stay | lose | close | retire | abandon =>
    cases done
    simp [none]

/-- What is true as long as no handle is leaked, where `closed` and `parted` tell what happened. -/
structure Exact (closed parted : Prop) (c : Census) : Prop where
  counted : c.mask.bits / 2 = c.senders
  ended : c.mask.bits % 2 = 1 ↔ closed ∨ parted ∧ c.senders = 0
  born : 0 < c.senders → parted
  retired : c.receiver = false → parted → closed

theorem Exact.new : Exact False False Census.new := by
  refine ⟨rfl, ?_, ?_, ?_⟩ <;> simp [Census.new, Mask.new]

theorem step_exact {closed parted : Prop} (exact : Exact closed parted c) (able : enabled c move = true)
    (kept : move.leaks = false) (done : step c move = .ok c') :
    Exact (move.closes = true ∨ closed) (move.splits = true ∨ parted) c' := by
  obtain ⟨counted, ended, born, retired⟩ := exact
  cases move with
  | stay =>
    cases done
    constructor <;> simpa [Move.closes, Move.splits]
  | split =>
    obtain ⟨bits, senders, receiver⟩ := split_ok done
    simp only [enabled, Bool.and_eq_true, Bool.not_eq_true', beq_iff_eq] at able
    constructor <;> grind [Move.closes, Move.splits]
  | join =>
    obtain ⟨bits, senders, receiver⟩ := join_ok done
    simp only [enabled, bne_iff_ne, ne_eq] at able
    constructor <;> grind [Move.closes, Move.splits]
  | leave =>
    obtain ⟨_, senders, receiver, bits⟩ := leave_ok done
    simp only [enabled, bne_iff_ne, ne_eq] at able
    constructor <;> grind [Move.closes, Move.splits]
  | close mode =>
    cases done
    have none : mode = false → c.mask.bits / 2 = 0 := by
      intro whole
      subst whole
      simp only [enabled, Bool.and_eq_true, beq_iff_eq] at able
      omega
    have bits := close_bits none
    constructor <;> grind [Move.closes, Move.splits]
  | retire =>
    cases done
    have none : true = false → c.mask.bits / 2 = 0 := by simp
    have bits := close_bits none
    constructor <;> grind [Move.closes, Move.splits]
  | lose | abandon => cases kept

theorem step_bit (done : step c move = .ok c') (bit : c.mask.bits % 2 = 1) : c'.mask.bits % 2 = 1 := by
  cases move with
  | stay | lose | abandon =>
    cases done
    exact bit
  | split =>
    obtain ⟨bits, _⟩ := split_ok done
    omega
  | join =>
    obtain ⟨bits, _⟩ := join_ok done
    omega
  | leave =>
    obtain ⟨_, _, _, ⟨_, bits⟩ | ⟨_, bits⟩⟩ := leave_ok done <;> omega
  | close counted =>
    cases done
    cases counted with
    | false => rfl
    | true => exact (or_one c.mask.bits).2
  | retire =>
    cases done
    exact (or_one c.mask.bits).2

/-- Both tests of the mask read the closed bit: the uncounted one is used when there are no senders. -/
theorem Exact.isClosed {closed parted : Prop} (exact : Exact closed parted c) {counted : Bool}
    (alone : counted = false → c.senders = 0) : c.mask.isClosed counted = true ↔ c.mask.bits % 2 = 1 := by
  have bits := exact.counted
  cases counted with
  | true => rw [Mask.isClosed_counted, beq_iff_eq]
  | false =>
    have none := alone rfl
    rw [Mask.isClosed_uncounted, beq_iff_eq]
    omega

section Run

theorem step_ok (done : system.step c move = .ok (c', ())) : step c move = .ok c' := by
  simp only [system, Except.map] at done
  split at done
  · cases done
  next after =>
    cases done
    exact after

theorem run_covers (run : system.Run start history state) : Covers state := by
  refine run.invariant (fun _ c => Covers c) ?_ ?_
  · intro initial
    cases initial
    exact Nat.le_refl _
  · intro past before move _ after _ covers able stepped
    exact step_covers covers able (step_ok stepped)

theorem run_exact (run : system.Run start history state) (kept : ∀ event ∈ history, event.action.leaks = false) :
    Exact (∃ event ∈ history, event.action.closes = true) (∃ event ∈ history, event.action.splits = true) state := by
  revert kept
  refine run.invariant (fun history c => (∀ event ∈ history, event.action.leaks = false) →
    Exact (∃ event ∈ history, event.action.closes = true) (∃ event ∈ history, event.action.splits = true) c) ?_ ?_
  · intro initial _
    cases initial
    simpa using Exact.new
  · intro past before move _ after _ exact able stepped kept
    have later := step_exact (exact fun event member => kept event (List.mem_cons_of_mem _ member)) able
      (kept _ (List.mem_cons_self ..)) (step_ok stepped)
    simpa using later

end Run

end AsyncUnsync.Proofs.CensusCounts
