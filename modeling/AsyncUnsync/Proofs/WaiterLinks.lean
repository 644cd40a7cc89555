import AsyncUnsync.Ledger

/-! The pointer operations of the waiter queue. Each one succeeds on a well formed
chain, changes links of queued waiters only, and leaves a well formed chain. -/

namespace AsyncUnsync.Proofs.WaiterLinks
open Memory Semaphore

/-- The tickets of all live futures, which relinking never touches. -/
abbrev tickets (s : Semaphore) : Arena Ticket := s.memory.map Waiter.ticket

abbrev Linked (s : Semaphore) (queue : List Addr) : Prop :=
  Chain s.next s.prev s.shared.waiters.head s.shared.waiters.tail queue

theorem live_iff {s s' : Semaphore} (same : tickets s' = tickets s) (a : Addr) :
    (s'.memory.get? a).isSome = (s.memory.get? a).isSome := by
  have cells := congrArg (fun arena => (arena.get? a).isSome) same
  simpa using cells

theorem deref_eq {s : Semaphore} {a : Addr} {waiter : Waiter} (live : s.memory.get? a = some waiter) :
    s.deref a = .ok waiter := by
  simp [deref, live]

@[simp] theorem next_shared (s : Semaphore) (shared : Shared) : ({ s with shared } : Semaphore).next = s.next := rfl

@[simp] theorem prev_shared (s : Semaphore) (shared : Shared) : ({ s with shared } : Semaphore).prev = s.prev := rfl

theorem next_write {s : Semaphore} {a : Addr} {old : Waiter} (live : s.memory.get? a = some old) (waiter : Waiter) :
    (s.write a waiter).next = Function.update s.next a waiter.next := by
  funext b
  by_cases same : b = a
  · subst b
    simp [next, write, Arena.get?_put_self live]
  · simp [next, write, same]

theorem prev_write {s : Semaphore} {a : Addr} {old : Waiter} (live : s.memory.get? a = some old) (waiter : Waiter) :
    (s.write a waiter).prev = Function.update s.prev a waiter.prev := by
  funext b
  by_cases same : b = a
  · subst b
    simp [prev, write, Arena.get?_put_self live]
  · simp [prev, write, same]

theorem tickets_write {s : Semaphore} {a : Addr} {old : Waiter} (live : s.memory.get? a = some old) {waiter : Waiter}
    (same : waiter.ticket = old.ticket) : tickets (s.write a waiter) = tickets s := by
  simp only [tickets, write, Arena.map_put, same]
  apply Arena.put_same
  simp [live]

private theorem update_next {s : Semaphore} {a : Addr} {waiter : Waiter} (live : s.memory.get? a = some waiter) :
    Function.update s.next a waiter.next = s.next :=
  Function.update_eq_self_iff.mpr (by simp [next, live])

private theorem update_prev {s : Semaphore} {a : Addr} {waiter : Waiter} (live : s.memory.get? a = some waiter) :
    Function.update s.prev a waiter.prev = s.prev :=
  Function.update_eq_self_iff.mpr (by simp [prev, live])

theorem links_write {s : Semaphore} {a : Addr} {old waiter : Waiter} (live : s.memory.get? a = some old)
    (sameNext : waiter.next = old.next) (samePrev : waiter.prev = old.prev) :
    (s.write a waiter).next = s.next ∧ (s.write a waiter).prev = s.prev := by
  rw [next_write live, prev_write live, sameNext, samePrev]
  exact ⟨update_next live, update_prev live⟩

theorem setNext_spec (s : Semaphore) (a : Addr) (target : Option Addr) (live : (s.memory.get? a).isSome) :
    ∃ s', s.setNext a target = .ok s' ∧ s'.shared = s.shared ∧ s'.next = Function.update s.next a target ∧
      s'.prev = s.prev ∧ tickets s' = tickets s ∧ ∀ b, b ≠ a → s'.memory.get? b = s.memory.get? b := by
  obtain ⟨waiter, found⟩ := Option.isSome_iff_exists.mp live
  have kept := update_prev found
  refine ⟨s.write a { waiter with next := target }, by simp [setNext, deref_eq found], rfl, next_write found _,
    (prev_write found _).trans kept, tickets_write found rfl,
    fun b different => Arena.get?_put_ne _ different _⟩

theorem setPrev_spec (s : Semaphore) (a : Addr) (target : Option Addr) (live : (s.memory.get? a).isSome) :
    ∃ s', s.setPrev a target = .ok s' ∧ s'.shared = s.shared ∧ s'.next = s.next ∧
      s'.prev = Function.update s.prev a target ∧ tickets s' = tickets s ∧
      ∀ b, b ≠ a → s'.memory.get? b = s.memory.get? b := by
  obtain ⟨waiter, found⟩ := Option.isSome_iff_exists.mp live
  have kept := update_next found
  refine ⟨s.write a { waiter with prev := target }, by simp [setPrev, deref_eq found], rfl,
    (next_write found _).trans kept, prev_write found _, tickets_write found rfl,
    fun b different => Arena.get?_put_ne _ different _⟩

/-- What an operation on the queue may do: reorder the chain from `queue` to
`queue'`, and nothing else. -/
structure Relinked (s s' : Semaphore) (queue queue' : List Addr) : Prop where
  chain : Linked s' queue'
  tickets : tickets s' = tickets s
  permits : s'.shared.permits = s.shared.permits
  closed : s'.shared.closed = s.shared.closed
  outside : ∀ b, b ∉ queue → b ∉ queue' → s'.memory.get? b = s.memory.get? b

theorem pushBack_spec {s : Semaphore} {queue : List Addr} {a : Addr} {waiter : Waiter} (chain : Linked s queue)
    (queued : ∀ b ∈ queue, (s.memory.get? b).isSome) (found : s.memory.get? a = some waiter) (fresh : a ∉ queue)
    (unlinked : waiter.next = none ∧ waiter.prev = none) :
    ∃ s', s.pushBack a = .ok s' ∧ Relinked s s' queue (queue ++ [a]) := by
  have noNext : s.next a = none := by simp [next, found, unlinked.1]
  have noPrev : s.prev a = none := by simp [prev, found, unlinked.2]
  cases tail : s.shared.waiters.tail with
  | none =>
    obtain rfl := chain.tail_none_iff.mp tail
    exact ⟨{ s with shared.waiters := ⟨some a, some a⟩ }, by simp [pushBack, tail], Chain.singleton noNext noPrev, rfl,
      rfl, rfl, fun _ _ _ => rfl⟩
  | some last =>
    have inside : last ∈ queue := List.mem_of_getLast? (chain.tail_eq.symm.trans tail)
    have different : a ≠ last := fun same => fresh (same ▸ inside)
    obtain ⟨s₁, linked, shared, next₁, prev₁, tickets₁, other₁⟩ := setNext_spec s last (some a) (queued last inside)
    obtain ⟨s₂, back, shared₂, next₂, prev₂, tickets₂, other₂⟩ := setPrev_spec s₁ a (some last)
      (by rw [other₁ a different, found]; rfl)
    refine ⟨{ s₂ with shared.waiters.tail := some a }, by simp [pushBack, tail, linked, back], ?_,
      tickets₂.trans tickets₁, by simp [shared₂, shared], by simp [shared₂, shared], ?_⟩
    · have nonempty : Chain s.next s.prev s.shared.waiters.head (some last) queue := by
        rw [← tail]
        exact chain
      have pushed := nonempty.push_back fresh noNext
      simpa only [Linked, next_shared, prev_shared, next₂, next₁, prev₂, prev₁, shared₂, shared] using pushed
    · intro b before after
      have notLast : b ≠ last := fun same => before (same ▸ inside)
      have notNew : b ≠ a := fun same => after (by simp [same])
      exact (other₂ b notNew).trans (other₁ b notLast)

private theorem neighbour {s : Semaphore} {queue : List Addr} {a b : Addr} (chain : Linked s queue) (member : a ∈ queue)
    (link : s.next a = some b ∨ s.prev a = some b) : b ∈ queue ∧ b ≠ a := by
  obtain ⟨front, back, split⟩ := List.append_of_mem member
  have distinct := chain.nodup
  rw [split] at distinct
  rw [chain.next_eq _ _ _ split, chain.prev_eq _ _ _ split] at link
  rcases link with link | link
  · have inside := List.mem_of_head? link
    refine ⟨by simp [split, inside], ?_⟩
    intro same
    subst same
    exact (List.nodup_cons.mp (List.nodup_append.mp distinct).2.1).1 inside
  · have inside := List.mem_of_getLast? link
    refine ⟨by simp [split, inside], ?_⟩
    intro same
    subst same
    exact (List.nodup_append.mp distinct).2.2 b inside b (by simp) rfl

private theorem skipForward_spec {s : Semaphore} {queue : List Addr} {a : Addr} {waiter : Waiter}
    (chain : Linked s queue) (queued : ∀ b ∈ queue, (s.memory.get? b).isSome) (member : a ∈ queue)
    (found : s.memory.get? a = some waiter) :
    ∃ s', s.skipForward a = .ok s' ∧
      s'.shared = { s.shared with waiters.head := if waiter.prev = none then waiter.next else s.shared.waiters.head } ∧
      s'.next = relink s.next waiter.prev waiter.next ∧ s'.prev = s.prev ∧ tickets s' = tickets s ∧
      ∀ b, b ∉ queue ∨ b = a → s'.memory.get? b = s.memory.get? b := by
  cases before : waiter.prev with
  | none =>
    exact ⟨{ s with shared.waiters.head := waiter.next }, by simp [skipForward, deref_eq found, before], rfl, rfl, rfl,
      rfl, fun _ _ => rfl⟩
  | some p =>
    have linked : s.prev a = some p := by simp [prev, found, before]
    obtain ⟨inside, different⟩ := neighbour chain member (.inr linked)
    obtain ⟨s', stored, shared, next', prev', tickets', other⟩ := setNext_spec s p waiter.next (queued p inside)
    refine ⟨s', by simp only [skipForward, deref_eq found, ok_bind, before, stored], by simp [shared], next', prev',
      tickets', fun b outside => other b ?_⟩
    intro same
    subst same
    exact outside.elim (fun absent => absent inside) different

private theorem skipBackward_spec {s : Semaphore} {queue : List Addr} {a : Addr} {waiter : Waiter}
    (live : ∀ b ∈ queue, (s.memory.get? b).isSome) (found : s.memory.get? a = some waiter)
    (inside : ∀ n, waiter.next = some n → n ∈ queue) :
    ∃ s', s.skipBackward a = .ok s' ∧
      s'.shared = { s.shared with waiters.tail := if waiter.next = none then waiter.prev else s.shared.waiters.tail } ∧
      s'.next = s.next ∧ s'.prev = relink s.prev waiter.next waiter.prev ∧ tickets s' = tickets s ∧
      ∀ b, b ∉ queue → s'.memory.get? b = s.memory.get? b := by
  cases after : waiter.next with
  | none =>
    exact ⟨{ s with shared.waiters.tail := waiter.prev }, by simp [skipBackward, deref_eq found, after], rfl, rfl, rfl,
      rfl, fun _ _ => rfl⟩
  | some n =>
    obtain ⟨s', stored, shared, next', prev', tickets', other⟩ :=
      setPrev_spec s n waiter.prev (live n (inside n after))
    refine ⟨s', by simp only [skipBackward, deref_eq found, ok_bind, after, stored], by simp [shared], next', prev',
      tickets', fun b outside => other b ?_⟩
    intro same
    subst same
    exact outside (inside b after)

theorem tryRemove_spec {s : Semaphore} {queue : List Addr} {a : Addr} (chain : Linked s queue)
    (queued : ∀ b ∈ queue, (s.memory.get? b).isSome) (member : a ∈ queue) :
    ∃ s', s.tryRemove a = .ok s' ∧ Relinked s s' queue (queue.erase a) := by
  obtain ⟨waiter, found⟩ := Option.isSome_iff_exists.mp (queued a member)
  have nextIs : s.next a = waiter.next := by simp [next, found]
  have prevIs : s.prev a = waiter.prev := by simp [prev, found]
  obtain ⟨s₁, first, shared₁, next₁, prev₁, tickets₁, other₁⟩ := skipForward_spec chain queued member found
  obtain ⟨s₂, second, shared₂, next₂, prev₂, tickets₂, other₂⟩ := skipBackward_spec
    (fun b inside => by rw [live_iff tickets₁]; exact queued b inside) ((other₁ a (.inr rfl)).trans found)
    (fun n after => (neighbour chain member (.inl (nextIs.trans after))).1)
  refine ⟨s₂, by simp only [tryRemove, first, ok_bind, second], ?_, tickets₂.trans tickets₁,
    by simp [shared₂, shared₁], by simp [shared₂, shared₁], ?_⟩
  · have removed := chain.remove member
    rw [nextIs, prevIs] at removed
    simpa only [Linked, next₂, next₁, prev₂, prev₁, shared₂, shared₁] using removed
  · exact fun b outside _ => (other₂ b outside).trans (other₁ b (.inl outside))

theorem popFront_spec {s : Semaphore} {rest : List Addr} {a : Addr} (chain : Linked s (a :: rest))
    (queued : ∀ b ∈ a :: rest, (s.memory.get? b).isSome) :
    ∃ s', s.popFront a = .ok s' ∧ Relinked s s' (a :: rest) rest := by
  obtain ⟨waiter, found⟩ := Option.isSome_iff_exists.mp (queued a (by simp))
  have nextIs : s.next a = waiter.next := by simp [next, found]
  have popped := Chain.pop_front chain
  rw [nextIs] at popped
  cases after : waiter.next with
  | none =>
    simp only [after, relink, ite_true] at popped
    exact ⟨{ s with shared.waiters := .new }, by simp [popFront, deref_eq found, after, WaiterQueue.new], popped, rfl,
      rfl, rfl, fun _ _ _ => rfl⟩
  | some n =>
    obtain ⟨inside, different⟩ := neighbour chain (by simp) (.inl (nextIs.trans after))
    obtain ⟨s₁, stored, shared, next₁, prev₁, tickets₁, other₁⟩ :=
      setPrev_spec { s with shared.waiters.head := some n } n none (queued n inside)
    refine ⟨s₁, by simp only [popFront, deref_eq found, ok_bind, after, stored], ?_, tickets₁, by simp [shared],
      by simp [shared], fun b outside _ => other₁ b (fun same => outside (same ▸ inside))⟩
    simpa [Linked, after, relink, next₁, prev₁, shared] using popped

end AsyncUnsync.Proofs.WaiterLinks
