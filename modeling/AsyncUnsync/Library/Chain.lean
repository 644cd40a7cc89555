import Mathlib.Data.List.Basic
import Mathlib.Data.List.Nodup
import Mathlib.Logic.Function.Basic

/-! Doubly linked chains over arbitrary nodes. The links are given by two partial
functions, so a chain can be read out of any memory that stores them. Every
operation is the pointer surgery an intrusive list performs. -/

namespace Memory
variable {α : Type*}

/-- Following `next` from `head` visits exactly `nodes`, and `prev` walks back
along the same nodes from `tail`. -/
structure Chain (next prev : α → Option α) (head tail : Option α) (nodes : List α) : Prop where
  head_eq : head = nodes.head?
  tail_eq : tail = nodes.getLast?
  nodup : nodes.Nodup
  next_eq : ∀ front a back, nodes = front ++ a :: back → next a = back.head?
  prev_eq : ∀ front a back, nodes = front ++ a :: back → prev a = front.getLast?

/-- The nodes visited by following `next` for at most `fuel` links. -/
def follow (next : α → Option α) : Nat → Option α → List α
  | 0, _ | _ + 1, none => []
  | fuel + 1, some a => a :: follow next fuel (next a)

/-- Redirects the link stored at `at?`, if there is such a node. -/
def relink [DecidableEq α] (links : α → Option α) (at? : Option α) (target : Option α) : α → Option α :=
  match at? with
  | none => links
  | some a => Function.update links a target

theorem relink_ne [DecidableEq α] (links : α → Option α) {at? : Option α} {b : α} (apart : at? ≠ some b)
    (target : Option α) : relink links at? target b = links b := by
  cases at? with
  | none => rfl
  | some a => exact Function.update_of_ne (fun same => apart (congrArg some same.symm)) _ _

namespace Chain
variable {next prev : α → Option α} {head tail : Option α} {nodes : List α}

theorem nil : Chain next prev none none [] :=
  ⟨rfl, rfl, List.nodup_nil, by simp, by simp⟩

theorem head_none_iff (chain : Chain next prev head tail nodes) : head = none ↔ nodes = [] := by
  rw [chain.head_eq, List.head?_eq_none_iff]

theorem tail_none_iff (chain : Chain next prev head tail nodes) : tail = none ↔ nodes = [] := by
  rw [chain.tail_eq, List.getLast?_eq_none_iff]

theorem reverse (chain : Chain next prev head tail nodes) : Chain prev next tail head nodes.reverse := by
  refine ⟨by simp [chain.tail_eq], by simp [chain.head_eq], List.nodup_reverse.mpr chain.nodup, ?_, ?_⟩
  · intro front a back split
    have original : nodes = back.reverse ++ a :: front.reverse := by
      simpa using congrArg List.reverse split
    simpa using chain.prev_eq _ _ _ original
  · intro front a back split
    have original : nodes = back.reverse ++ a :: front.reverse := by
      simpa using congrArg List.reverse split
    simpa using chain.next_eq _ _ _ original

theorem next_iff_prev (chain : Chain next prev head tail nodes) {a b : α} (first : a ∈ nodes) (second : b ∈ nodes) :
    next a = some b ↔ prev b = some a := by
  constructor
  · intro linked
    obtain ⟨front, back, split⟩ := List.append_of_mem first
    rw [chain.next_eq _ _ _ split] at linked
    obtain ⟨rest, rfl⟩ := List.head?_eq_some_iff.mp linked
    have shifted : nodes = (front ++ [a]) ++ b :: rest := by simpa using split
    simpa using chain.prev_eq _ _ _ shifted
  · intro linked
    obtain ⟨front, back, split⟩ := List.append_of_mem second
    rw [chain.prev_eq _ _ _ split] at linked
    obtain ⟨rest, rfl⟩ := List.getLast?_eq_some_iff.mp linked
    have shifted : nodes = rest ++ a :: b :: back := by simpa using split
    simpa using chain.next_eq _ _ _ shifted

private theorem follow_suffix (chain : Chain next prev head tail nodes) (front back : List α)
    (split : nodes = front ++ back) (fuel : Nat) (enough : back.length ≤ fuel) :
    follow next fuel back.head? = back := by
  induction back generalizing front fuel with
  | nil => cases fuel <;> rfl
  | cons a back ih =>
    obtain _ | fuel := fuel
    · simp at enough
    · simp only [List.head?_cons, follow, chain.next_eq _ _ _ split]
      rw [ih (front ++ [a]) (by simpa using split) fuel (by simpa using enough)]

/-- The traversal from the head is exactly the list of nodes. -/
theorem follow_eq (chain : Chain next prev head tail nodes) {fuel : Nat} (enough : nodes.length ≤ fuel) :
    follow next fuel head = nodes := by
  rw [chain.head_eq]
  exact chain.follow_suffix [] nodes rfl fuel enough

/-- Only the links of the nodes themselves matter. -/
theorem congr {next' prev' : α → Option α} (chain : Chain next prev head tail nodes)
    (sameNext : ∀ a ∈ nodes, next' a = next a) (samePrev : ∀ a ∈ nodes, prev' a = prev a) :
    Chain next' prev' head tail nodes where
  head_eq := chain.head_eq
  tail_eq := chain.tail_eq
  nodup := chain.nodup
  next_eq front a back split := (sameNext a (by simp [split])).trans (chain.next_eq front a back split)
  prev_eq front a back split := (samePrev a (by simp [split])).trans (chain.prev_eq front a back split)

theorem singleton {a : α} (unlinkedNext : next a = none) (unlinkedPrev : prev a = none) :
    Chain next prev (some a) (some a) [a] := by
  refine ⟨rfl, rfl, List.nodup_singleton a, ?_, ?_⟩
  · intro front b back split
    obtain ⟨rfl, rfl, rfl⟩ : front = [] ∧ b = a ∧ back = [] := by
      cases front <;> simp_all
    simpa using unlinkedNext
  · intro front b back split
    obtain ⟨rfl, rfl, rfl⟩ : front = [] ∧ b = a ∧ back = [] := by
      cases front <;> simp_all
    simpa using unlinkedPrev

private theorem split_concat {nodes front back : List α} {a b : α} (split : nodes ++ [a] = front ++ b :: back) :
    (back = [] ∧ b = a ∧ front = nodes) ∨ ∃ rest, back = rest ++ [a] ∧ nodes = front ++ b :: rest := by
  rcases List.eq_nil_or_concat back with rfl | ⟨rest, c, rfl⟩
  · have parts := List.append_inj' split rfl
    simp only [List.cons.injEq, and_true] at parts
    exact .inl ⟨rfl, parts.2.symm, parts.1.symm⟩
  · have shape : nodes ++ [a] = (front ++ b :: rest) ++ [c] := by simpa using split
    have parts := List.append_inj' shape rfl
    simp only [List.cons.injEq, and_true] at parts
    exact .inr ⟨rest, by simp [parts.2], parts.1⟩

variable [DecidableEq α]

/-- Appending an unlinked node behind the tail of a nonempty chain. -/
theorem push_back {last a : α} (chain : Chain next prev head (some last) nodes) (fresh : a ∉ nodes)
    (unlinked : next a = none) :
    Chain (Function.update next last (some a)) (Function.update prev a (some last)) head (some a) (nodes ++ [a]) := by
  obtain ⟨init, shape⟩ := List.getLast?_eq_some_iff.mp chain.tail_eq.symm
  have inside : last ∈ nodes := by simp [shape]
  have different : a ≠ last := fun same => fresh (same ▸ inside)
  refine ⟨?_, by simp, List.nodup_append.mpr ⟨chain.nodup, List.nodup_singleton a, ?_⟩, ?_, ?_⟩
  · simp [chain.head_eq, shape]
  · intro b member c singleton same
    rw [List.mem_singleton] at singleton
    exact fresh (singleton ▸ same ▸ member)
  · intro front b back split
    rcases split_concat split with ⟨rfl, rfl, rfl⟩ | ⟨rest, rfl, original⟩
    · simp [Function.update_of_ne different, unlinked]
    · have old := chain.next_eq _ _ _ original
      by_cases same : b = last
      · subst same
        rcases List.eq_nil_or_concat rest with rfl | ⟨rest, c, rfl⟩
        · simp
        · have distinct := chain.nodup
          have ends : init ++ [b] = (front ++ b :: rest) ++ [c] := by simpa [shape] using original
          have parts := List.append_inj' ends rfl
          simp only [List.cons.injEq, and_true] at parts
          rw [original, ← parts.2] at distinct
          simp [List.nodup_append] at distinct
      · rw [Function.update_of_ne same, old]
        cases rest with
        | nil =>
          have ends : init ++ [last] = front ++ [b] := by simpa [shape] using original
          have parts := List.append_inj' ends rfl
          simp only [List.cons.injEq, and_true] at parts
          exact absurd parts.2.symm same
        | cons c rest => rfl
  · intro front b back split
    rcases split_concat split with ⟨rfl, rfl, rfl⟩ | ⟨rest, rfl, original⟩
    · simp [shape]
    · have member : b ∈ nodes := by simp [original]
      have other : b ≠ a := fun same => fresh (same ▸ member)
      rw [Function.update_of_ne other]
      exact chain.prev_eq _ _ _ original

private theorem unlink_next (chain : Chain next prev head tail nodes) {a b : α} {front back before after : List α}
    (split : nodes = front ++ a :: back) (rest : front ++ back = before ++ b :: after) :
    relink next (prev a) (next a) b = after.head? := by
  have distinct := chain.nodup
  rw [chain.prev_eq _ _ _ split, chain.next_eq _ _ _ split]
  rw [split] at distinct
  have disjoint := List.nodup_append.mp distinct
  rcases List.append_eq_append_iff.mp rest with ⟨shared, rfl, rfl⟩ | ⟨shared, rfl, shape⟩
  · have apart : front.getLast? ≠ some b := by
      intro last
      exact disjoint.2.2 b (List.mem_of_getLast? last) b (by simp) rfl
    rw [relink_ne _ apart]
    apply chain.next_eq (front ++ a :: shared) b after
    simpa using split
  · cases shared with
    | nil =>
      have apart : before.getLast? ≠ some b := by
        intro last
        refine disjoint.2.2 b (by simpa using List.mem_of_getLast? last) b ?_ rfl
        simp [← show b :: after = back by simpa using shape]
      rw [List.append_nil, relink_ne _ apart]
      apply chain.next_eq (before ++ [a]) b after
      simpa [show b :: after = back by simpa using shape] using split
    | cons c shared =>
      obtain ⟨rfl, rfl⟩ : b = c ∧ after = shared ++ back := by simpa using shape
      have old := chain.next_eq before b (shared ++ a :: back) (by simpa using split)
      rcases List.eq_nil_or_concat shared with rfl | ⟨shared, d, rfl⟩
      · simp [relink]
      · have apart : (before ++ b :: (shared ++ [d])).getLast? ≠ some b := by
          intro last
          have ends : before ++ b :: (shared ++ [d]) = (before ++ b :: shared) ++ [d] := by simp
          have same : d = b := by simpa only [ends, List.getLast?_concat, Option.some.injEq] using last
          subst same
          have unique := disjoint.1
          simp [List.nodup_append] at unique
        simp only [List.concat_eq_append] at old ⊢
        rw [relink_ne _ apart, old]
        cases shared <;> rfl

/-- Taking any node out of a chain by redirecting the links of its neighbours. -/
theorem remove (chain : Chain next prev head tail nodes) {a : α} (member : a ∈ nodes) :
    Chain (relink next (prev a) (next a)) (relink prev (next a) (prev a))
      (if prev a = none then next a else head) (if next a = none then prev a else tail) (nodes.erase a) := by
  obtain ⟨front, back, split⟩ := List.append_of_mem member
  have distinct := chain.nodup
  rw [split] at distinct
  have fresh : a ∉ front := fun inside => (List.nodup_append.mp distinct).2.2 a inside a (by simp) rfl
  have shape : nodes.erase a = front ++ back := by
    rw [split, List.erase_append_right _ fresh, List.erase_cons_head]
  have reversed : nodes.reverse = back.reverse ++ a :: front.reverse := by simp [split]
  rw [shape]
  refine ⟨?_, ?_, ?_, ?_, ?_⟩
  · rw [chain.prev_eq _ _ _ split, chain.next_eq _ _ _ split, chain.head_eq, split]
    cases front <;> simp
  · rw [chain.prev_eq _ _ _ split, chain.next_eq _ _ _ split, chain.tail_eq, split]
    cases back with
    | nil => simp
    | cons b back => simp [List.getLast?_append]
  · exact distinct.sublist (by simp)
  · exact fun before b after rest => chain.unlink_next split rest
  · intro before b after rest
    have mirrored : back.reverse ++ front.reverse = after.reverse ++ b :: before.reverse := by
      simpa using congrArg List.reverse rest
    simpa using chain.reverse.unlink_next reversed mirrored

theorem pop_front {a : α} {rest : List α} (chain : Chain next prev head tail (a :: rest)) :
    Chain next (relink prev (next a) none) (next a) (if next a = none then none else tail) rest := by
  have first : prev a = none := chain.prev_eq [] a rest rfl
  simpa [first, relink] using chain.remove (a := a) (by simp)

end Chain
end Memory
