import AsyncUnsync.Proofs.SlotAccounting

/-! A request for one permit that joined the queue and is dropped later leaves no trace
in a ledger that nobody else joins: a permit it was granted was left by all the others. -/

namespace AsyncUnsync.Proofs.CancelledRequests
open Memory Serving LedgerTurns LedgerGrants SlotAccounting

variable {l l' : Ledger} {a b : Addr} {ticket : Ticket} {waker : Waker} {n : Nat}

/-- Where a request stands that was polled in the first ledger and never in the second:
behind everybody, or with the permit that the second ledger has in its pool. -/
inductive Stands (a : Addr) (l l' : Ledger) : Prop where
  | last (ticket : Ticket) (held : l.tickets.get? a = some ticket) (state : ticket.state = .waiting)
      (queue : l.queue = l'.queue ++ [a]) (empty : l'.permits = 0)
  | granted (ticket : Ticket) (held : l.tickets.get? a = some ticket) (state : ticket.state = .woken)
      (one : ticket.permits = 1) (queue : l.queue = []) (queue' : l'.queue = [])
      (pool : l'.permits = saturatingAdd l.permits 1)

structure Shadows (a : Addr) (l l' : Ledger) : Prop where
  valid : l.Valid
  valid' : l'.Valid
  single : Single l
  single' : Single l'
  opened : l.closed = false
  opened' : l'.closed = false
  size : l'.tickets.size = l.tickets.size
  others : ∀ b, b ≠ a → l'.tickets.get? b = l.tickets.get? b
  idle : ∃ ticket, l'.tickets.get? a = some ticket ∧ ticket.state = .inert
  stands : Stands a l l'

section Single

theorem need_one (single : Single l) (valid : l.Valid) (member : b ∈ l.queue) : l.need b = 1 := by
  obtain ⟨ticket, _, held, _, _, short⟩ := valid.queued member
  have one := single b _ (demand_of_held held)
  rw [Ledger.need_eq held]
  omega

theorem left_zero (single : Single l) (valid : l.Valid) (waiting : (l.handout n).waiting ≠ []) : (l.handout n).left = 0 := by
  cases blocked : (l.handout n).waiting with
  | nil => exact absurd blocked waiting
  | cons b rest =>
    have short := Ledger.handout_left blocked
    have one := need_one single valid (Ledger.queued_of_waiting blocked)
    omega

theorem addPermits_single (single : Single l) (valid : l.Valid) (n : Nat) :
    (l.addPermits n).1 = ⟨l.tickets.modifyAll Ticket.grant (l.handout n).served, (l.handout n).waiting,
      if (l.handout n).left = 0 then l.permits else saturatingAdd l.permits (l.handout n).left, l.closed⟩ := by
  simp only [Ledger.addPermits, Ledger.settle]
  split
  next none => rfl
  next some =>
    have nobody : (l.handout n).waiting = [] := by
      apply Classical.byContradiction
      intro waiting
      exact some (left_zero single valid waiting)
    rw [nobody]

end Single

namespace Shadows

theorem absent (shadows : Shadows a l l') : a ∉ l'.queue := by
  intro member
  obtain ⟨idle, held, inert⟩ := shadows.idle
  obtain ⟨ticket, held', waiting⟩ := (shadows.valid'.waiting a).mp member
  cases held.symm.trans held'
  cases inert.symm.trans waiting

theorem handout_same (shadows : Shadows a l l') (n : Nat) : l'.handout n = serve l.need l'.queue n := by
  apply serve_congr
  intro b member
  have other : b ≠ a := fun same => shadows.absent (same ▸ member)
  simp only [Ledger.need, shadows.others b other]

private theorem granted_others (shadows : Shadows a l l') (n : Nat)
    (alike : ∀ b, b ≠ a → (b ∈ (l'.handout n).served ↔ b ∈ (l.handout n).served)) :
    ∀ b, b ≠ a → (l'.addPermits n).1.tickets.get? b = (l.addPermits n).1.tickets.get? b := by
  intro b other
  rw [addPermits_single shadows.single' shadows.valid', addPermits_single shadows.single shadows.valid]
  simp only [Arena.get?_modifyAll _ (shadows.valid'.served_nodup n), Arena.get?_modifyAll _ (shadows.valid.served_nodup n),
    alike b other, shadows.others b other]

/-- A return keeps the two ledgers together, once it is known where the request stands then. -/
private theorem returned (shadows : Shadows a l l') (n : Nat)
    (alike : ∀ b, b ≠ a → (b ∈ (l'.handout n).served ↔ b ∈ (l.handout n).served))
    (stands : Stands a (l.addPermits n).1 (l'.addPermits n).1) : Shadows a (l.addPermits n).1 (l'.addPermits n).1 := by
  refine ⟨shadows.valid.addPermits n, shadows.valid'.addPermits n, ?_, ?_, ?_, ?_, ?_, shadows.granted_others n alike, ?_, stands⟩
  · rw [Single, addPermits_demands shadows.valid]
    exact shadows.single
  · rw [Single, addPermits_demands shadows.valid']
    exact shadows.single'
  · rw [addPermits_closed, shadows.opened]
  · rw [addPermits_closed, shadows.opened']
  · rw [addPermits_single shadows.single' shadows.valid', addPermits_single shadows.single shadows.valid]
    simp only [Arena.size_modifyAll, shadows.size]
  · obtain ⟨ticket, held, inert⟩ := shadows.idle
    have unserved : a ∉ (l'.handout n).served := fun member => shadows.absent (mem_of_served member)
    refine ⟨ticket, ?_, inert⟩
    rw [addPermits_single shadows.single' shadows.valid']
    simp only [Arena.get?_modifyAll _ (shadows.valid'.served_nodup n), if_neg unserved, held]

/-- The permits that the others leave go to the request first. -/
private theorem stands_returned (shadows : Shadows a l l') (n : Nat) {ticket : Ticket} (held : l.tickets.get? a = some ticket)
    (state : ticket.state = .waiting) (queue : l.queue = l'.queue ++ [a]) (empty : l'.permits = 0) :
    (∀ b, b ≠ a → (b ∈ (l'.handout n).served ↔ b ∈ (l.handout n).served)) ∧
      Stands a (l.addPermits n).1 (l'.addPermits n).1 := by
  have member : a ∈ l.queue := by simp [queue]
  have lacks : l.need a = 1 := need_one shadows.single shadows.valid member
  have pool : l.permits = 0 := shadows.valid.idle (List.ne_nil_of_mem member)
  have same := shadows.handout_same n
  have unserved : a ∉ (serve l.need l'.queue n).served := fun served => shadows.absent (mem_of_served served)
  have grant := shadows.valid.served_nodup n
  rw [addPermits_single shadows.single shadows.valid, addPermits_single shadows.single' shadows.valid', same]
  by_cases done : (serve l.need l'.queue n).waiting = []
  · have front := serve_append_done done [a]
    rw [← queue] at front
    by_cases spent : (serve l.need l'.queue n).left = 0
    · rw [spent, serve_cons_short (by omega)] at front
      have handout : l.handout n = ⟨(serve l.need l'.queue n).served, [a], 0⟩ := by simpa [Ledger.handout] using front
      rw [handout] at grant ⊢
      refine ⟨fun b _ => Iff.rfl, .last ticket ?_ state ?_ ?_⟩
      · simp [Arena.get?_modifyAll _ grant, unserved, held]
      · simp [done]
      · simp [spent, empty]
    · rw [serve_cons_enough (by omega), serve_nil] at front
      have handout : l.handout n = ⟨(serve l.need l'.queue n).served ++ [a], [], (serve l.need l'.queue n).left - 1⟩ := by
        simpa [Ledger.handout, lacks] using front
      rw [handout] at grant ⊢
      refine ⟨fun b other => by simp [other], .granted ticket.grant ?_ rfl ?_ rfl done ?_⟩
      · simp [Arena.get?_modifyAll _ grant, held]
      · exact shadows.single a _ (demand_of_held held)
      · simp only [if_neg spent, pool, empty, saturatingAdd]
        split <;> omega
  · have front := serve_append_blocked done [a]
    rw [← queue] at front
    have spent : (serve l.need l'.queue n).left = 0 := by
      rw [← same] at done ⊢
      exact left_zero shadows.single' shadows.valid' done
    have handout : l.handout n = ⟨(serve l.need l'.queue n).served, (serve l.need l'.queue n).waiting ++ [a], 0⟩ := by
      simpa [Ledger.handout, spent] using front
    rw [handout] at grant ⊢
    refine ⟨fun b _ => Iff.rfl, .last ticket ?_ state rfl ?_⟩
    · simp [Arena.get?_modifyAll _ grant, unserved, held]
    · simp [spent, empty]

theorem addPermits (shadows : Shadows a l l') (n : Nat) : Shadows a (l.addPermits n).1 (l'.addPermits n).1 := by
  cases shadows.stands with
  | last ticket held state queue empty =>
    obtain ⟨alike, stands⟩ := shadows.stands_returned n held state queue empty
    exact shadows.returned n alike stands
  | granted ticket held state one queue queue' pool =>
    have alone : l.handout n = ⟨[], [], n⟩ := by simp [Ledger.handout, queue]
    have alone' : l'.handout n = ⟨[], [], n⟩ := by simp [Ledger.handout, queue']
    apply shadows.returned n
    · intro b _
      rw [alone, alone']
    · rw [addPermits_single shadows.single shadows.valid, addPermits_single shadows.single' shadows.valid', alone, alone']
      refine .granted ticket held state one rfl rfl ?_
      simp only [pool, saturatingAdd]
      split <;> omega

theorem forget (shadows : Shadows a l l') (other : b ≠ a) : Shadows a (l.forget b) (l'.forget b) := by
  refine ⟨shadows.valid.forget b, shadows.valid'.forget b, shadows.single.forget b, shadows.single'.forget b, shadows.opened,
    shadows.opened', ?_, ?_, ?_, ?_⟩
  · simp only [Ledger.forget, Arena.size_free, shadows.size]
  · intro c apart
    simp only [Ledger.forget, Arena.get?_free, shadows.others c apart]
  · obtain ⟨ticket, held, inert⟩ := shadows.idle
    exact ⟨ticket, (Arena.get?_free_ne _ other.symm).trans held, inert⟩
  · cases shadows.stands with
    | last ticket held state queue empty =>
      refine .last ticket ((Arena.get?_free_ne _ other.symm).trans held) state ?_ empty
      simp only [Ledger.forget, queue]
      by_cases member : b ∈ l'.queue
      · exact List.erase_append_left _ member
      · rw [List.erase_append_right _ member, List.erase_of_not_mem member, List.erase_of_not_mem (by simpa using other)]
    | granted ticket held state one queue queue' pool =>
      exact .granted ticket ((Arena.get?_free_ne _ other.symm).trans held) state one (by simp [Ledger.forget, queue])
        (by simp [Ledger.forget, queue']) pool

theorem drop (shadows : Shadows a l l') (other : b ≠ a) (ticket : Ticket) :
    Shadows a (l.drop b ticket).1 (l'.drop b ticket).1 :=
  (shadows.forget other).addPermits ticket.permits

theorem start (valid : l.Valid) (single : Single l) (opened : l.closed = false) (held : l.tickets.get? a = some ticket)
    (inert : ticket.state = .inert) (pending : (l.poll a ticket waker).2 = .pending) :
    Shadows a (l.poll a ticket waker).1 l := by
  have kept := valid.poll held waker
  have demand := poll_demands held waker
  have one : ticket.wants = 1 := single a _ (demand_of_held held)
  have open' : ¬ l.closed = true := by simp [opened]
  have polled := Ledger.poll_inert (a := a) open' inert waker
  rw [polled] at pending kept demand ⊢
  split at pending
  · cases pending
  next few =>
    have none : l.permits = 0 := by omega
    rw [if_neg few] at kept demand ⊢
    refine ⟨kept, valid, ?_, single, opened, opened, ?_, ?_, ⟨ticket, held, inert⟩, ?_⟩
    · rw [Single, demand]
      exact single
    · simp [Ledger.enqueue]
    · intro b other
      simp [Ledger.enqueue, other]
    · exact .last _ (Arena.get?_put_self held _) rfl rfl none

theorem cancel (shadows : Shadows a l l') (held : l.tickets.get? a = some ticket) :
    (l.drop a ticket).1 = l'.forget a := by
  have tickets : l'.tickets.free a = l.tickets.free a := by
    apply Arena.ext_get?
    · simp [shadows.size]
    · intro b
      by_cases same : b = a
      · simp [same]
      · simp [same, shadows.others b same]
  have absent := shadows.absent
  cases shadows.stands with
  | last ticket' held' state queue empty =>
    cases held.symm.trans held'
    have member : a ∈ l.queue := by simp [queue]
    have one := shadows.single a _ (demand_of_held held)
    have short := ((shadows.valid.ticket a _ held).waiting state).1
    rw [drop_empty shadows.valid (by omega)]
    have pool : l.permits = 0 := shadows.valid.idle (List.ne_nil_of_mem member)
    simp only [Ledger.forget, tickets, queue, pool, empty, shadows.opened, shadows.opened', List.erase_of_not_mem absent]
    rw [List.erase_append_right _ absent]
    simp
  | granted ticket' held' state one queue queue' pool =>
    cases held.symm.trans held'
    have valid := shadows.valid.forget a
    have alone : (l.forget a).handout 1 = ⟨[], [], 1⟩ := by simp [Ledger.handout, Ledger.forget, queue]
    rw [Ledger.drop, one, addPermits_single (shadows.single.forget a) valid, alone]
    simp [Ledger.forget, tickets, queue', pool, shadows.opened, shadows.opened']

end Shadows
end AsyncUnsync.Proofs.CancelledRequests
