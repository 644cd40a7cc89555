import AsyncUnsync.Proofs.LedgerValid

/-! The number of permits a ledger knows of, and what every operation does to it. -/

namespace AsyncUnsync.Proofs.PermitTotals
open Memory Serving

/-- What reaches the pool fits into it. -/
def Fits (l : Ledger) (n : Nat) : Prop :=
  (l.handout n).waiting = [] → l.permits + (l.handout n).left ≤ usizeMax

/-- A waiter that gets a part of what it lacks lacks as much afterwards as it has then
collected; in particular it wants an even number. -/
def EvenHandout (l : Ledger) (n : Nat) : Prop :=
  (l.handout n).left = 0 ∨ ∀ a ∈ (l.handout n).waiting.head?, ∀ ticket ∈ l.tickets.get? a,
    ticket.wants = 2 * (ticket.permits + (l.handout n).left)

instance (l : Ledger) (n : Nat) : Decidable (Fits l n) := inferInstanceAs (Decidable (_ → _))

instance (l : Ledger) (n : Nat) : Decidable (EvenHandout l n) := inferInstanceAs (Decidable (_ ∨ _))

def owned (l : Ledger) : Nat := l.permits + l.tickets.sum Ticket.permits

variable {l : Ledger} {a : Addr} {ticket : Ticket}

private theorem settle_owned (l : Ledger) (waiting : List Addr) (left : Nat)
    (fits : waiting = [] → l.permits + left ≤ usizeMax)
    (front : ∀ b ∈ waiting.head?, ∃ ticket, l.tickets.get? b = some ticket ∧ left < ticket.wants - ticket.permits) :
    owned (l.settle waiting left) = owned l + left ↔
      left = 0 ∨ ∀ b ∈ waiting.head?, ∀ ticket ∈ l.tickets.get? b, ticket.wants = 2 * (ticket.permits + left) := by
  by_cases zero : left = 0
  · simp [Ledger.settle, zero, owned]
  cases waiting with
  | nil =>
    have pooled : saturatingAdd l.permits left = l.permits + left := Nat.min_eq_left (fits rfl)
    simp only [Ledger.settle, if_neg zero, owned, pooled]
    simp
    omega
  | cons b rest =>
    obtain ⟨ticket, held, short⟩ := front b rfl
    have changed := Arena.sum_put held Ticket.permits { ticket with permits := ticket.wants - ticket.permits - left }
    have settled : l.settle (b :: rest) left = { l with
        queue := b :: rest, tickets := l.tickets.put b { ticket with permits := ticket.wants - ticket.permits - left } } := by
      rw [Ledger.settle, if_neg zero]
      simp only [Arena.modify_eq held]
    rw [settled, owned, owned]
    simp only [zero, false_or, List.head?_cons, Option.mem_def, Option.some.injEq, forall_eq', held] at changed ⊢
    constructor <;> intro balanced <;> omega

/-- Permits that are handed out are all accounted for exactly when the refill is even. -/
theorem addPermits_owned (valid : l.Valid) {n : Nat} (fits : Fits l n) :
    owned (l.addPermits n).1 = owned l + n ↔ EvenHandout l n := by
  have nodup := valid.served_nodup n
  have spent := l.handout_sum n
  have unserved : ∀ b ∈ (l.handout n).waiting, b ∉ (l.handout n).served := by
    intro b behind before
    have distinct := valid.nodup
    rw [← l.handout_split n] at distinct
    exact (List.nodup_append.mp distinct).2.2 b before b behind rfl
  have read : ∀ b ∈ (l.handout n).waiting,
      (l.tickets.modifyAll Ticket.grant (l.handout n).served).get? b = l.tickets.get? b := by
    intro b behind
    rw [Arena.get?_modifyAll _ nodup, if_neg (unserved b behind)]
  have granted : (l.tickets.modifyAll Ticket.grant (l.handout n).served).sum Ticket.permits =
      l.tickets.sum Ticket.permits + ((l.handout n).served.map l.need).sum := by
    apply Arena.sum_modifyAll Ticket.grant _ _ _ nodup
    intro b member
    obtain ⟨ticket, _, held, _, _, short⟩ := valid.queued (mem_of_served member)
    refine ⟨ticket, held, ?_⟩
    rw [Ledger.need_eq held]
    simp only [Ticket.grant]
    omega
  have settled := settle_owned { l with tickets := l.tickets.modifyAll Ticket.grant (l.handout n).served }
    (l.handout n).waiting (l.handout n).left fits (by
      intro b first
      have behind : b ∈ (l.handout n).waiting := List.mem_of_head? first
      obtain ⟨rest, shape⟩ := List.head?_eq_some_iff.mp first
      obtain ⟨ticket, _, held, _⟩ := valid.queued (mem_of_waiting behind)
      have less := Ledger.handout_left shape
      rw [Ledger.need_eq held] at less
      exact ⟨ticket, (read b behind).trans held, less⟩)
  have same : EvenHandout l n ↔ (l.handout n).left = 0 ∨ ∀ b ∈ (l.handout n).waiting.head?,
      ∀ ticket ∈ (l.tickets.modifyAll Ticket.grant (l.handout n).served).get? b,
        ticket.wants = 2 * (ticket.permits + (l.handout n).left) := by
    refine or_congr_right (forall_congr' fun b => forall_congr' fun first => ?_)
    rw [read b (List.mem_of_head? first)]
  rw [same, ← settled]
  simp only [owned, Ledger.addPermits] at granted ⊢
  omega

theorem tryAcquire_owned {n count : Nat} {l' : Ledger} (taken : l.tryAcquire true n = .ok (count, l')) :
    owned l' + n = owned l := by
  unfold Ledger.tryAcquire at taken
  split at taken
  · cases taken
  · split at taken
    · simp at taken
    next enough =>
      cases taken
      simp only [owned]
      omega

theorem poll_owned (valid : l.Valid) (held : l.tickets.get? a = some ticket) (waker : Waker) :
    match l.poll a ticket waker with
    | (l', .ready (.ok count)) => owned l' + count = owned l
    | (l', _) => owned l' = owned l := by
  have changed := fun updated => Arena.sum_put held Ticket.permits updated
  by_cases closed : l.closed = true
  · have same := changed ticket.wake
    rw [Ledger.poll_closed closed]
    simp only [owned, Ticket.wake] at same ⊢
    omega
  cases state : ticket.state with
  | waiting => rw [Ledger.poll_waiting closed state]
  | woken =>
    have emptied := changed { ticket with permits := 0 }
    rw [Ledger.poll_woken closed state]
    simp only [owned] at emptied ⊢
    omega
  | inert =>
    have nothing := ((valid.ticket a ticket held).inert state).1
    rw [Ledger.poll_inert closed state]
    by_cases enough : ticket.wants ≤ l.permits
    · have emptied := changed { ticket.wake with permits := 0 }
      rw [if_pos enough]
      simp only [owned] at emptied ⊢
      omega
    · have filled := changed ⟨ticket.wants, some waker, .waiting, l.permits⟩
      rw [if_neg enough]
      simp only [owned, Ledger.enqueue] at filled ⊢
      omega

theorem forget_owned (held : l.tickets.get? a = some ticket) :
    owned (l.forget a) + ticket.permits = owned l := by
  have freed := Arena.sum_free held Ticket.permits
  simp only [owned, Ledger.forget]
  omega

theorem close_owned (valid : l.Valid) : owned l.close.1 = owned l := by
  have kept := Arena.sum_modifyAll Ticket.wake l.tickets Ticket.permits (fun _ => 0) valid.nodup
    (fun b member => by
      obtain ⟨ticket, _, held, _⟩ := valid.queued member
      exact ⟨ticket, held, rfl⟩)
  simp only [owned, Ledger.close, kept]
  simp

end AsyncUnsync.Proofs.PermitTotals
