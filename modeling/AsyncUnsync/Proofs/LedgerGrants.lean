import AsyncUnsync.Proofs.PermitTotals

/-! Returned permits, one waiter after the other, as the loop of `add_permits` hands them out. -/

namespace AsyncUnsync.Proofs.LedgerGrants
open Memory Serving PermitTotals

/-- Everyone in the queue is alive, was registered, and lacks something. -/
def Queued (l : Ledger) : Prop :=
  ∀ a ∈ l.queue, ∃ ticket waker, l.tickets.get? a = some ticket ∧ ticket.state = .waiting ∧
    ticket.waker = some waker ∧ ticket.permits < ticket.wants

theorem Queued.of_valid {l : Ledger} (valid : l.Valid) : Queued l := fun _ member => valid.queued member

/-- The ledger after the first waiter got all it wanted. -/
def granted (l : Ledger) (a : Addr) (rest : List Addr) (ticket : Ticket) : Ledger :=
  { l with tickets := l.tickets.put a ticket.grant, queue := rest }

/-- The ledger after the first waiter got `n` permits, fewer than it lacked. -/
def refilled (l : Ledger) (a : Addr) (ticket : Ticket) (n : Nat) : Ledger :=
  { l with tickets := l.tickets.put a { ticket with permits := ticket.wants - ticket.permits - n } }

variable {l : Ledger} {a : Addr} {rest : List Addr} {ticket : Ticket} {waker : Waker} {n : Nat}

theorem granted_other (l : Ledger) (ticket : Ticket) {b : Addr} (fresh : a ∉ rest) (member : b ∈ rest) :
    (granted l a rest ticket).tickets.get? b = l.tickets.get? b := by
  have different : b ≠ a := by
    intro same
    subst same
    exact fresh member
  exact Arena.get?_put_ne _ different _

theorem addPermits_short (shape : l.queue = a :: rest) (held : l.tickets.get? a = some ticket)
    (short : n < ticket.wants - ticket.permits) (positive : 0 < n) : l.addPermits n = (refilled l a ticket n, []) := by
  have front : l.handout n = ⟨[], a :: rest, n⟩ := by
    rw [Ledger.handout, shape]
    apply serve_cons_short
    rwa [Ledger.need_eq held]
  simp [Ledger.addPermits, Ledger.settle, front, Nat.ne_of_gt positive, shape, Ledger.wakers, refilled, Arena.modify_eq held]

theorem handout_served (shape : l.queue = a :: rest) (fresh : a ∉ rest) (ticket : Ticket) (enough : l.need a ≤ n) :
    l.handout n = ⟨a :: ((granted l a rest ticket).handout (n - l.need a)).served,
      ((granted l a rest ticket).handout (n - l.need a)).waiting,
      ((granted l a rest ticket).handout (n - l.need a)).left⟩ := by
  have needs : ∀ b ∈ rest, (granted l a rest ticket).need b = l.need b := by
    intro b member
    simp only [Ledger.need, granted_other l ticket fresh member]
  have remaining : (granted l a rest ticket).handout (n - l.need a) = serve l.need rest (n - l.need a) :=
    serve_congr needs _
  rw [remaining, Ledger.handout, shape]
  exact serve_cons_enough enough rest

theorem addPermits_served (shape : l.queue = a :: rest) (fresh : a ∉ rest) (held : l.tickets.get? a = some ticket)
    (registered : ticket.waker = some waker) (enough : l.need a ≤ n) :
    l.addPermits n =
      (((granted l a rest ticket).addPermits (n - l.need a)).1,
        waker :: ((granted l a rest ticket).addPermits (n - l.need a)).2) := by
  have front := handout_served shape fresh ticket enough
  have wakers : l.wakers ((granted l a rest ticket).handout (n - l.need a)).served =
      (granted l a rest ticket).wakers ((granted l a rest ticket).handout (n - l.need a)).served := by
    apply List.filterMap_congr
    intro b member
    rw [granted_other l ticket fresh (mem_of_served member)]
  simp only [Ledger.addPermits, front, Arena.modifyAll_cons, Arena.modify_eq held, ← wakers]
  refine Prod.ext rfl ?_
  simp [Ledger.wakers, held, registered]

theorem addPermits_zero (queued : Queued l) : l.addPermits 0 = (l, []) := by
  have idle : l.handout 0 = ⟨[], l.queue, 0⟩ := by
    apply serve_zero
    intro b member
    obtain ⟨ticket, _, held, _, _, short⟩ := queued b member
    rw [Ledger.need_eq held]
    omega
  simp [Ledger.addPermits, Ledger.settle, idle, Ledger.wakers]

theorem addPermits_alone (alone : l.queue = []) (fits : l.permits + n ≤ usizeMax) :
    l.addPermits n = ({ l with permits := l.permits + n }, []) := by
  have pooled : saturatingAdd l.permits n = l.permits + n := Nat.min_eq_left fits
  by_cases zero : n = 0
  · subst zero
    exact addPermits_zero (by simp [Queued, alone])
  · simp [Ledger.addPermits, Ledger.handout, alone, Ledger.settle, Ledger.wakers, zero, pooled]

theorem refilled_held (held : l.tickets.get? a = some ticket) (n : Nat) :
    (refilled l a ticket n).tickets.get? a = some { ticket with permits := ticket.wants - ticket.permits - n } :=
  Arena.get?_put_self held _

theorem granted_refilled (l : Ledger) (a : Addr) (rest : List Addr) (ticket : Ticket) (n : Nat) :
    granted (refilled l a ticket n) a rest { ticket with permits := ticket.wants - ticket.permits - n } =
      granted l a rest ticket := by
  simp only [granted, refilled, Arena.put_put]
  rfl

theorem granted_valid (valid : l.Valid) (shape : l.queue = a :: rest) (held : l.tickets.get? a = some ticket) :
    (granted l a rest ticket).Valid := by
  have split : l.queue = [a] ++ rest := shape
  have released := valid.release split Ticket.grant (fun _ _ => .woken (Nat.le_refl _) rfl) (fun _ => rfl)
  simp only [Arena.modifyAll_cons, Arena.modifyAll_nil, Arena.modify_eq held] at released
  exact released

theorem granted_behind (valid : l.Valid) (shape : l.queue = a :: rest) (ticket : Ticket) :
    ∀ b ∈ rest, ∀ current, (granted l a rest ticket).tickets.get? b = some current → current.permits = 0 := by
  intro b member current found
  have distinct := valid.nodup
  rw [shape] at distinct
  rw [granted_other l ticket (List.nodup_cons.mp distinct).1 member] at found
  apply valid.first b _ current found
  rw [shape]
  exact member

end AsyncUnsync.Proofs.LedgerGrants
