import AsyncUnsync.Proofs.LedgerRuns
import AsyncUnsync.Workers

/-! What the workers do, one turn at a time, when nobody wants more than one permit. -/

namespace AsyncUnsync.Proofs.WorkerTasks
open Memory Transition SemaphoreSystem LedgerSystem LedgerGrants Workers

section Tickets

abbrev fresh : Ticket := ⟨1, none, .inert, 0⟩

abbrev waiting (waker : Waker) : Ticket := ⟨1, some waker, .waiting, 0⟩

abbrev collected (waker : Waker) : Ticket := ⟨1, some waker, .woken, 1⟩

abbrev spent (registered : Option Waker) : Ticket := ⟨1, registered, .woken, 0⟩

end Tickets

/-- What a worker has in the semaphore, by where it is. -/
def Fits (v : View) (waker : Waker) : Role → Prop
  | .acquiring _ a =>
    v.ledger.tickets.get? a = some fresh ∨ v.ledger.closed = false ∧
      (v.ledger.tickets.get? a = some (waiting waker) ∨ v.ledger.tickets.get? a = some (collected waker))
  | .acquired _ a p => (∃ registered, v.ledger.tickets.get? a = some (spent registered)) ∧ v.permits.get? p = some 1
  | .working _ p => v.permits.get? p = some 1
  | .refused a => v.ledger.closed = true ∧ ∃ registered, v.ledger.tickets.get? a = some (spent registered)
  | .left => v.ledger.closed = true
  | .idle _ => True

/-- Each turn of a worker: where it was and is, what it leaves behind, and what it was answered. -/
inductive Move (v : View) (waker : Waker) : Role → Role → View → Outcome → Prop where
  | asks {rounds} :
    Move v waker (.idle (rounds + 1)) (.acquiring rounds v.ledger.tickets.size)
      { v with ledger.tickets := v.ledger.tickets.alloc fresh } ⟨.future v.ledger.tickets.size, []⟩
  | takes {rounds a permits} (opened : v.ledger.closed = false) (held : v.ledger.tickets.get? a = some fresh)
      (some : v.ledger.permits = permits + 1) :
    Move v waker (.acquiring rounds a) (.acquired rounds a v.permits.size)
      ⟨{ v.ledger with tickets := v.ledger.tickets.put a (spent none), permits }, v.permits.alloc 1⟩
      ⟨.acquired v.permits.size, []⟩
  | waits {rounds a} (opened : v.ledger.closed = false) (held : v.ledger.tickets.get? a = some fresh)
      (none : v.ledger.permits = 0) :
    Move v waker (.acquiring rounds a) (.acquiring rounds a)
      { v with ledger.tickets := v.ledger.tickets.put a (waiting waker), ledger.queue := v.ledger.queue ++ [a] }
      ⟨.pending, []⟩
  | idles {rounds a} (opened : v.ledger.closed = false) (held : v.ledger.tickets.get? a = some (waiting waker)) :
    Move v waker (.acquiring rounds a) (.acquiring rounds a) v ⟨.pending, []⟩
  | collects {rounds a} (opened : v.ledger.closed = false) (held : v.ledger.tickets.get? a = some (collected waker)) :
    Move v waker (.acquiring rounds a) (.acquired rounds a v.permits.size)
      ⟨{ v.ledger with tickets := v.ledger.tickets.put a (spent (some waker)) }, v.permits.alloc 1⟩
      ⟨.acquired v.permits.size, []⟩
  | fails {rounds a} (closed : v.ledger.closed = true) (held : v.ledger.tickets.get? a = some fresh) :
    Move v waker (.acquiring rounds a) (.refused a)
      { v with ledger.tickets := v.ledger.tickets.put a (spent none) } ⟨.failed, []⟩
  | begins {rounds a p registered} (held : v.ledger.tickets.get? a = some (spent registered)) :
    Move v waker (.acquired rounds a p) (.working rounds p)
      { v with ledger.tickets := v.ledger.tickets.free a } ⟨.done, []⟩
  | returns {rounds p} (held : v.permits.get? p = some 1) (nobody : v.ledger.queue = []) :
    Move v waker (.working rounds p) (.idle rounds)
      ⟨{ v.ledger with permits := v.ledger.permits + 1 }, v.permits.free p⟩ ⟨.done, []⟩
  | passes {rounds p b rest next} (held : v.permits.get? p = some 1) (queue : v.ledger.queue = b :: rest)
      (first : v.ledger.tickets.get? b = some (waiting next)) :
    Move v waker (.working rounds p) (.idle rounds)
      ⟨{ v.ledger with tickets := v.ledger.tickets.put b (collected next), queue := rest }, v.permits.free p⟩
      ⟨.done, [next]⟩
  | leaves {a registered} (held : v.ledger.tickets.get? a = some (spent registered)) :
    Move v waker (.refused a) .left { v with ledger.tickets := v.ledger.tickets.free a } ⟨.done, []⟩

variable {v : View} {waker : Waker} {role : Role} {w : Workload} {task : Nat}

private theorem drops (valid : v.ledger.Valid) {a : Addr} {registered : Option Waker}
    (held : v.ledger.tickets.get? a = some (spent registered)) :
    turn v (.dropAcquire a) = ({ v with ledger.tickets := v.ledger.tickets.free a }, ⟨.done, []⟩) := by
  have outside : a ∉ v.ledger.queue := by
    intro queued
    obtain ⟨ticket, found, waits⟩ := (valid.waiting a).mp queued
    rw [held] at found
    cases found
    cases waits
  have nothing := addPermits_zero (Queued.of_valid (valid.forget a))
  simp only [turn, held, Ledger.drop, nothing]
  simp only [Ledger.forget, List.erase_of_not_mem outside]

private theorem returned (valid : v.ledger.Valid) (waker : Waker)
    (single : ∀ b ∈ v.ledger.queue, ∃ next, v.ledger.tickets.get? b = some (waiting next))
    (few : v.ledger.permits < usizeMax) {p : Addr} (held : v.permits.get? p = some 1) (rounds : Nat) :
    ∃ after outcome, Move v waker (.working rounds p) (.idle rounds) after outcome ∧ turn v (.dropPermit p) = (after, outcome) := by
  cases queue : v.ledger.queue with
  | nil =>
    refine ⟨_, _, .returns held queue, ?_⟩
    have alone : v.ledger.addPermits 1 = ({ v.ledger with permits := v.ledger.permits + 1 }, []) := addPermits_alone queue few
    simp only [turn, held, alone]
  | cons b rest =>
    obtain ⟨next, first⟩ := single b (by simp [queue])
    have distinct := valid.nodup
    rw [queue] at distinct
    have one : v.ledger.need b = 1 := Ledger.need_eq first
    have served := addPermits_served queue (List.nodup_cons.mp distinct).1 first rfl (Nat.le_of_eq one)
    have nothing := addPermits_zero (Queued.of_valid (granted_valid valid queue first))
    rw [one, Nat.sub_self, nothing] at served
    refine ⟨_, _, .passes held queue first, ?_⟩
    simp only [turn, held, served]
    rfl

/-- The inversion lemma: every turn of a worker is one of the moves. -/
theorem turn_moves (valid : v.ledger.Valid) (fits : Fits v (w.waker task) role)
    (single : ∀ b ∈ v.ledger.queue, ∃ next, v.ledger.tickets.get? b = some (waiting next))
    (few : role.inside + v.ledger.permits ≤ usizeMax) {action : Action} (call : w.call task role = some action) :
    ∃ role' after outcome, Move v (w.waker task) role role' after outcome ∧ turn v action = (after, outcome) ∧
      Workload.resume role outcome.reply = role' := by
  cases role with
  | idle rounds =>
    cases rounds with
    | zero => cases call
    | succ rounds =>
      cases call
      exact ⟨_, _, _, .asks, rfl, rfl⟩
  | acquiring rounds a =>
    cases call
    by_cases closed : v.ledger.closed = true
    · have held : v.ledger.tickets.get? a = some fresh := by
        rcases fits with held | ⟨opened, _⟩
        · exact held
        · rw [closed] at opened
          cases opened
      refine ⟨_, _, _, .fails closed held, ?_, rfl⟩
      simp only [turn, held, Ledger.poll_closed closed]
      rfl
    · have opened := Bool.eq_false_iff.mpr closed
      rcases fits with held | ⟨_, held | held⟩
      · have polled : v.ledger.poll a fresh (w.waker task) = _ := Ledger.poll_inert closed rfl _
        by_cases none : v.ledger.permits = 0
        · refine ⟨_, _, _, .waits opened held none, ?_, rfl⟩
          rw [if_neg (show ¬ 1 ≤ v.ledger.permits by omega)] at polled
          simp only [turn, held, polled, Ledger.enqueue, none]
        · obtain ⟨permits, some⟩ := Nat.exists_eq_succ_of_ne_zero none
          refine ⟨_, _, _, .takes opened held some, ?_, rfl⟩
          rw [if_pos (show 1 ≤ v.ledger.permits by omega)] at polled
          simp only [turn, held, polled, some]
          rfl
      · have polled : v.ledger.poll a (waiting (w.waker task)) (w.waker task) = _ := Ledger.poll_waiting closed rfl _
        refine ⟨_, _, _, .idles opened held, ?_, rfl⟩
        simp only [turn, held, polled]
      · have polled : v.ledger.poll a (collected (w.waker task)) (w.waker task) = _ := Ledger.poll_woken closed rfl _
        refine ⟨_, _, _, .collects opened held, ?_, rfl⟩
        simp only [turn, held, polled]
  | acquired rounds a p =>
    cases call
    obtain ⟨⟨registered, held⟩, _⟩ := fits
    exact ⟨_, _, _, .begins held, drops valid held, rfl⟩
  | working rounds p =>
    cases call
    simp only [Role.inside, Role.permit, Option.isSome_some, if_true] at few
    obtain ⟨after, outcome, move, turned⟩ := returned valid (w.waker task) single (by omega) fits rounds
    exact ⟨_, _, _, move, turned, rfl⟩
  | refused a =>
    cases call
    obtain ⟨_, registered, held⟩ := fits
    exact ⟨_, _, _, .leaves held, drops valid held, rfl⟩
  | left => cases call

end AsyncUnsync.Proofs.WorkerTasks
