import AsyncUnsync.Library.History
import Mathlib.Algebra.GroupWithZero.Nat
import Mathlib.Data.List.Basic

/-! Waiting in a line that is served from the front. Those in front may also give up, and
newcomers join behind, so nobody's place gets worse. -/

namespace Transition
variable {σ α ω ε ι : Type*}

section Lines
variable [DecidableEq ι] {line line' front : List ι} {a : ι}

theorem idxOf_le_of_sublist (shorter : line'.Sublist line) (nodup : line.Nodup) (member : a ∈ line') :
    line'.idxOf a ≤ line.idxOf a := by
  induction shorter with
  | slnil => exact Nat.le_refl _
  | @cons rest line b shorter ih =>
    obtain ⟨fresh, nodup⟩ := List.nodup_cons.mp nodup
    have apart : b ≠ a := fun same => fresh (same ▸ shorter.subset member)
    rw [List.idxOf_cons_ne _ apart]
    exact Nat.le_succ_of_le (ih nodup member)
  | @cons_cons rest line b shorter ih =>
    obtain ⟨_, nodup⟩ := List.nodup_cons.mp nodup
    by_cases same : b = a
    · subst same
      simp
    · rw [List.idxOf_cons_ne _ same, List.idxOf_cons_ne _ same]
      exact Nat.succ_le_succ (ih nodup ((List.mem_cons.mp member).resolve_left (Ne.symm same)))

theorem idxOf_served (shorter : (front ++ line').Sublist line) (nodup : line.Nodup) (member : a ∈ line') :
    line'.idxOf a + front.length ≤ line.idxOf a := by
  have nearer := idxOf_le_of_sublist shorter nodup (List.mem_append_right _ member)
  have apart : a ∉ front := fun inside => (List.nodup_append.mp (shorter.nodup nodup)).2.2 a inside a member rfl
  rw [List.idxOf_append_of_notMem apart] at nearer
  omega

end Lines

/-- While its wait does not end, every step brings whoever waits nearer by those it serves. -/
theorem System.Run.nears {sys : System σ α ω ε} {start final : σ} {past later : History σ α ω} {since : Event σ α ω}
    (run : sys.Run start (later ++ since :: past) final) (waits : σ → Prop) (ahead : σ → Nat)
    {serves : Event σ α ω → Nat} {ends : Event σ α ω → Prop}
    (nears : ∀ event ∈ later, waits event.before →
      (waits event.after ∧ ahead event.after + serves event ≤ ahead event.before) ∨ ends event)
    (waiting : waits since.after) :
    (waits final ∧ ahead final + (later.map serves).sum ≤ ahead since.after) ∨ ∃ event ∈ later, ends event := by
  induction later generalizing final with
  | nil =>
    obtain ⟨_, _, _, rfl⟩ := run.last
    exact .inl ⟨waiting, Nat.le_refl _⟩
  | cons event later ih =>
    obtain ⟨reached, _, _, rfl⟩ := run.last
    rcases ih reached fun other member => nears other (List.mem_cons_of_mem _ member) with ⟨still, before⟩ | ⟨other, member, ends⟩
    · rcases nears event (List.mem_cons_self ..) still with ⟨waits, now⟩ | ends
      · refine .inl ⟨waits, ?_⟩
        rw [List.map_cons, List.sum_cons]
        omega
      · exact .inr ⟨event, List.mem_cons_self .., ends⟩
    · exact .inr ⟨other, List.mem_cons_of_mem _ member, ends⟩

end Transition
