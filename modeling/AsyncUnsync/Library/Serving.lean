import Mathlib.Algebra.GroupWithZero.Nat
import Mathlib.Data.List.Basic

/-! Handing out a budget to a queue of claimants from the front. A claimant is
served only when its whole need is covered, and nobody is served past a claimant
that is not. -/

namespace Serving
variable {ι : Type*}

/-- The claimants that were served, those still waiting, and the rest of the
budget, which is too small for the first claimant still waiting. -/
structure Served (ι : Type*) where
  served : List ι
  waiting : List ι
  left : Nat

def serve (need : ι → Nat) : List ι → Nat → Served ι
  | [], budget => ⟨[], [], budget⟩
  | a :: queue, budget =>
    if budget < need a then ⟨[], a :: queue, budget⟩
    else
      let rest := serve need queue (budget - need a)
      ⟨a :: rest.served, rest.waiting, rest.left⟩

variable {need : ι → Nat}

@[simp] theorem serve_nil (budget : Nat) : serve need [] budget = ⟨[], [], budget⟩ := rfl

theorem serve_cons_short {a : ι} {budget : Nat} (short : budget < need a) (queue : List ι) :
    serve need (a :: queue) budget = ⟨[], a :: queue, budget⟩ := by
  simp [serve, short]

theorem serve_cons_enough {a : ι} {budget : Nat} (enough : need a ≤ budget) (queue : List ι) :
    serve need (a :: queue) budget =
      ⟨a :: (serve need queue (budget - need a)).served, (serve need queue (budget - need a)).waiting,
        (serve need queue (budget - need a)).left⟩ := by
  simp [serve, Nat.not_lt_of_le enough]

/-- Service is a prefix: nobody is overtaken. -/
theorem served_append_waiting (need : ι → Nat) (queue : List ι) (budget : Nat) :
    (serve need queue budget).served ++ (serve need queue budget).waiting = queue := by
  induction queue generalizing budget with
  | nil => rfl
  | cons a queue ih =>
    by_cases short : budget < need a
    · rw [serve_cons_short short]
      rfl
    · rw [serve_cons_enough (Nat.le_of_not_lt short), List.cons_append, ih]

theorem served_sum (need : ι → Nat) (queue : List ι) (budget : Nat) :
    ((serve need queue budget).served.map need).sum + (serve need queue budget).left = budget := by
  induction queue generalizing budget with
  | nil => simp
  | cons a queue ih =>
    by_cases short : budget < need a
    · rw [serve_cons_short short]
      simp
    · have rest := ih (budget - need a)
      rw [serve_cons_enough (Nat.le_of_not_lt short)]
      simp only [List.map_cons, List.sum_cons]
      omega

theorem left_lt_need {queue waiting : List ι} {budget : Nat} {a : ι}
    (blocked : (serve need queue budget).waiting = a :: waiting) : (serve need queue budget).left < need a := by
  induction queue generalizing budget with
  | nil => simp at blocked
  | cons b queue ih =>
    by_cases short : budget < need b
    · rw [serve_cons_short short] at blocked ⊢
      obtain ⟨rfl, rfl⟩ := List.cons.inj blocked
      exact short
    · rw [serve_cons_enough (Nat.le_of_not_lt short)] at blocked ⊢
      exact ih blocked

theorem serve_congr {need' : ι → Nat} {queue : List ι} (same : ∀ a ∈ queue, need' a = need a) (budget : Nat) :
    serve need' queue budget = serve need queue budget := by
  induction queue generalizing budget with
  | nil => rfl
  | cons a queue ih =>
    have rest := ih (fun b member => same b (List.mem_cons_of_mem a member))
    simp only [serve, same a (List.mem_cons_self ..), rest]

theorem mem_of_served {queue : List ι} {budget : Nat} {a : ι} (member : a ∈ (serve need queue budget).served) :
    a ∈ queue := by
  rw [← served_append_waiting need queue budget]
  exact List.mem_append_left _ member

theorem mem_of_waiting {queue : List ι} {budget : Nat} {a : ι} (member : a ∈ (serve need queue budget).waiting) :
    a ∈ queue := by
  rw [← served_append_waiting need queue budget]
  exact List.mem_append_right _ member

theorem serve_append_done {queue : List ι} {budget : Nat} (done : (serve need queue budget).waiting = []) (behind : List ι) :
    serve need (queue ++ behind) budget =
      ⟨(serve need queue budget).served ++ (serve need behind (serve need queue budget).left).served,
        (serve need behind (serve need queue budget).left).waiting, (serve need behind (serve need queue budget).left).left⟩ := by
  induction queue generalizing budget with
  | nil => rfl
  | cons a queue ih =>
    by_cases short : budget < need a
    · rw [serve_cons_short short] at done
      cases done
    · have enough := Nat.le_of_not_lt short
      rw [serve_cons_enough enough] at done ⊢
      simp only [List.cons_append, serve_cons_enough enough, ih done]

theorem serve_append_blocked {queue : List ι} {budget : Nat} (blocked : (serve need queue budget).waiting ≠ [])
    (behind : List ι) :
    serve need (queue ++ behind) budget =
      ⟨(serve need queue budget).served, (serve need queue budget).waiting ++ behind, (serve need queue budget).left⟩ := by
  induction queue generalizing budget with
  | nil => exact absurd rfl blocked
  | cons a queue ih =>
    by_cases short : budget < need a
    · simp only [List.cons_append, serve_cons_short short]
    · have enough := Nat.le_of_not_lt short
      rw [serve_cons_enough enough] at blocked ⊢
      simp only [List.cons_append, serve_cons_enough enough, ih blocked]

theorem serve_zero {queue : List ι} (real : ∀ a ∈ queue, 0 < need a) : serve need queue 0 = ⟨[], queue, 0⟩ := by
  cases queue with
  | nil => rfl
  | cons a queue => exact serve_cons_short (real a (List.mem_cons_self ..)) queue

theorem serve_one {queue : List ι} (one : ∀ a ∈ queue, need a = 1) (budget : Nat) :
    serve need queue budget = ⟨queue.take budget, queue.drop budget, budget - queue.length⟩ := by
  induction queue generalizing budget with
  | nil => simp
  | cons a queue ih =>
    have single := one a (List.mem_cons_self ..)
    cases budget with
    | zero => rw [serve_cons_short (by omega), List.take_zero, List.drop_zero, Nat.zero_sub]
    | succ budget =>
      rw [serve_cons_enough (by omega), single, Nat.add_sub_cancel, ih fun b member => one b (List.mem_cons_of_mem a member)]
      simp

end Serving
