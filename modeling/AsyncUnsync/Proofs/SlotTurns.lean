import AsyncUnsync.Proofs.MailboxRefinement

/-! Slots are handed out in turn. What holds of them in every state that a channel
reaches, and how many there are: free, or granted and not yet noticed. -/

namespace AsyncUnsync.Proofs.SlotTurns
open Memory Transition SlotAccounting MailboxSystem MailboxRefinement

/-- Nobody waits while a slot is free, or after the close. -/
structure Orderly (s : Slots) : Prop where
  nodup : s.line.Nodup
  waits : ∀ a, a ∈ s.line ↔ ∃ waker, s.requests.get? a = some (.waiting waker)
  idle : s.line ≠ [] → s.free = 0
  shut : s.closed = true → s.line = []
  refused : ∀ a, s.requests.get? a = some .refused → s.closed = true

theorem orderly_ledger {l : Ledger} (valid : l.Valid) (single : Single l) (full : Full l) : Orderly l.slots where
  nodup := valid.nodup
  waits a := by
    constructor
    · intro queued
      obtain ⟨waker, _, waits⟩ := SlotRefinement.queued_request valid queued
      exact ⟨waker, waits⟩
    · rintro ⟨waker, waits⟩
      rw [SlotRefinement.held_request] at waits
      obtain ⟨ticket, held, seen⟩ := Option.map_eq_some_iff.mp waits
      apply (valid.waiting a).mpr
      refine ⟨ticket, held, ?_⟩
      cases state : ticket.state with
      | waiting => rfl
      | inert => simp [Ticket.request, state] at seen
      | woken =>
        simp only [Ticket.request, state] at seen
        split at seen <;> cases seen
  idle := valid.idle
  shut := valid.closed
  refused a refused := by
    rw [SlotRefinement.held_request] at refused
    obtain ⟨ticket, held, seen⟩ := Option.map_eq_some_iff.mp refused
    cases state : ticket.state with
    | waiting => simp [Ticket.request, state] at seen
    | inert => simp [Ticket.request, state] at seen
    | woken =>
      by_contra opened
      have whole := full (Bool.eq_false_iff.mpr opened) a ticket held state
      have one := single a _ (demand_of_held held)
      have some : ticket.permits ≠ 0 := by omega
      simp [Ticket.request, state, some] at seen

/-- The future with number `a` has made the request at `a`. -/
structure Lined {T : Type} (s : Scene T) : Prop extends Orderly s.mailbox.slots where
  size : s.clients.futures.size = s.mailbox.slots.requests.size

variable {T : Type} {build : Build}

theorem lined_view {s : BoundedSystem.State T} (regular : Regular s) : Lined (view s) where
  toOrderly := orderly_ledger regular.housed.sound.valid regular.fit.single regular.fit.full
  size := by
    have same := regular.housed.size
    simp only [view, BoundedQueue.mailbox, Ledger.slots, Arena.size_map] at same ⊢
    rw [← same]
    exact Arena.size_map ..

theorem run_lined {start scene : Scene T} {history : History (Scene T) (BoundedSystem.Action T) (BoundedSystem.Outcome T)}
    (run : (MailboxSystem.system T build).Run start history scene) : Lined scene := by
  obtain ⟨origin, initial, rfl⟩ := run.initial
  obtain ⟨_, final, run', _, rfl⟩ := (refines T build).realizes initial run
  exact lined_view ((refines T build).run run').1

/-- The slots that nobody has taken yet. -/
def unused (s : Slots) : Nat := s.free + s.requests.count fun request => request == .granted

variable {s : Slots} {a : Addr}

theorem Orderly.first (orderly : Orderly s) {rest : List Addr} (line : s.line = a :: rest) :
    ∃ waker, s.requests.get? a = some (.waiting waker) := (orderly.waits a).mp (by simp [line])

theorem give_nil (line : s.line = []) (n : Nat) :
    s.give n = ({ s with free := if 0 < n then saturatingAdd s.free n else s.free }, []) := by
  cases s
  subst line
  simp [Slots.give, Slots.wakers]

theorem give_cons {rest : List Addr} (line : s.line = a :: rest) (orderly : Orderly s) {waker : Waker}
    (waits : s.requests.get? a = some (.waiting waker)) :
    s.give 1 = ({ s with requests := s.requests.put a .granted, line := rest }, [waker]) := by
  have none : s.free = 0 := orderly.idle (by simp [line])
  simp [Slots.give, Slots.wakers, line, Arena.modify_eq waits, waits, Request.waker]

theorem unused_give (orderly : Orderly s) : 0 < unused (s.give 1).1 ∧ unused (s.give 1).1 ≤ unused s + 1 := by
  cases line : s.line with
  | nil =>
    simp only [give_nil line, unused, saturatingAdd, usizeMax]
    simp only [Nat.zero_lt_one, if_true]
    omega
  | cons a rest =>
    obtain ⟨waker, waits⟩ := orderly.first line
    have granted := Arena.sum_put waits (fun request => if request == .granted then 1 else 0) .granted
    simp only [give_cons line orderly waits, unused, Arena.count] at granted ⊢
    simp only [beq_self_eq_true, if_true, reduceCtorEq, beq_iff_eq, if_false] at granted ⊢
    omega

theorem withdraw_closed (orderly : Orderly s) (closed : s.closed = true) (a : Addr) :
    ∃ free, s.withdraw a = ({ s with requests := s.requests.free a, free }, []) ∧
      free = if s.requests.get? a = some .granted then saturatingAdd s.free 1 else s.free := by
  have line := orderly.shut closed
  have forgotten : (s.forget a).line = [] := by simp [Slots.forget, line]
  unfold Slots.withdraw
  split
  · refine ⟨_, ?_, rfl⟩
    rw [give_nil forgotten]
    simp [Slots.forget, line]
  · exact ⟨_, by simp [Slots.forget, line], rfl⟩

theorem unused_withdraw {request : Request} (orderly : Orderly s) (closed : s.closed = true)
    (held : s.requests.get? a = some request) :
    unused (s.withdraw a).1 ≤ unused s ∧ (0 < unused s → 0 < unused (s.withdraw a).1) := by
  obtain ⟨free, withdrawn, now⟩ := withdraw_closed orderly closed a
  have fewer := Arena.count_free held fun request => request == .granted
  rw [withdrawn]
  simp only [unused, held, Option.some.injEq, beq_iff_eq] at now fewer ⊢
  subst now
  split at fewer
  · simp only [saturatingAdd, usizeMax, ‹request = _›, if_true]
    omega
  · simp only [‹¬ _›, if_false]
    omega

theorem unused_close (orderly : Orderly s) : unused s.close.1 = unused s := by
  have kept := Arena.sum_modifyAll (fun _ => .refused) s.requests (fun request => if request == .granted then 1 else 0)
    (fun _ => 0) orderly.nodup (by
      intro a queued
      obtain ⟨waker, waits⟩ := (orderly.waits a).mp queued
      exact ⟨_, waits, rfl⟩)
  have nothing : (s.line.map fun _ => 0).sum = 0 := by simp
  simp only [unused, Slots.close, Arena.count, kept, nothing, Nat.add_zero]

end AsyncUnsync.Proofs.SlotTurns
