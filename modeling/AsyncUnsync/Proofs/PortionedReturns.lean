import AsyncUnsync.Proofs.LedgerSimulation
import AsyncUnsync.Proofs.LedgerTurns
import AsyncUnsync.Proofs.PermitTotals

/-! Permits that are returned in two portions. The second portion completes what the
first one began, unless the first one stopped at a waiter and miscounted what it gave. -/

namespace AsyncUnsync.Proofs.PortionedReturns
open Memory Serving Transition SemaphoreSystem LedgerSystem LedgerSimulation LedgerGrants LedgerTurns PermitTotals

/-- Two returns, one after the other. -/
def portions (s : Semaphore) (a b : Nat) : Except Fault (Semaphore × List Waker) := do
  let (s, first) ← s.addPermits a
  let (s, second) ← s.addPermits b
  .ok (s, first ++ second)

/-- What a return leads to: the pool, the queue in its order, what every waiter has collected,
and who was woken, in order. -/
def seen (result : Except Fault (Semaphore × List Waker)) : Except Fault (Ledger × List Waker) :=
  result.map fun (s, woken) => (s.ledger, woken)

def Additive (s : Semaphore) (a b : Nat) : Prop := seen (portions s a b) = seen (s.addPermits (a + b))

/-- No return exceeds what the pool can hold. -/
structure Unsaturated (l : Ledger) (a b : Nat) : Prop where
  first : Fits l a
  second : Fits (l.addPermits a).1 b
  whole : Fits l (a + b)

section Portions
variable {l : Ledger} {a : Addr} {rest : List Addr} {ticket : Ticket} {m n : Nat}

def twice (l : Ledger) (m n : Nat) : Ledger × List Waker :=
  (((l.addPermits m).1.addPermits n).1, (l.addPermits m).2 ++ ((l.addPermits m).1.addPermits n).2)

theorem fits_served (shape : l.queue = a :: rest) (fresh : a ∉ rest) (ticket : Ticket) (enough : l.need a ≤ n) :
    Fits l n ↔ Fits (granted l a rest ticket) (n - l.need a) := by
  simp only [Fits, handout_served shape fresh ticket enough]
  rfl

theorem even_served (shape : l.queue = a :: rest) (fresh : a ∉ rest) (ticket : Ticket) (enough : l.need a ≤ n) :
    EvenHandout l n ↔ EvenHandout (granted l a rest ticket) (n - l.need a) := by
  simp only [EvenHandout, handout_served shape fresh ticket enough]
  apply or_congr_right
  apply forall_congr'
  intro b
  apply forall_congr'
  intro first
  have behind : b ∈ rest := mem_of_waiting (List.mem_of_head? first)
  rw [granted_other l ticket fresh behind]

theorem even_short (shape : l.queue = a :: rest) (held : l.tickets.get? a = some ticket)
    (short : n < ticket.wants - ticket.permits) (positive : 0 < n) :
    EvenHandout l n ↔ ticket.permits + n = ticket.wants - ticket.permits - n := by
  have front : l.handout n = ⟨[], a :: rest, n⟩ := by
    rw [Ledger.handout, shape]
    apply serve_cons_short
    rw [Ledger.need_eq held]
    exact short
  simp only [EvenHandout, front, Nat.ne_of_gt positive, false_or, List.head?_cons, Option.mem_def, Option.some.injEq,
    forall_eq', held]
  constructor <;> intro even <;> omega

theorem addPermits_left (valid : l.Valid) (fits : Fits l n) :
    match (l.handout n).waiting with
    | [] => (l.addPermits n).1.permits = l.permits + (l.handout n).left
    | b :: _ => ∀ current, l.tickets.get? b = some current → (l.addPermits n).1.tickets.get? b =
      some { current with permits := if (l.handout n).left = 0 then current.permits
        else current.wants - current.permits - (l.handout n).left } := by
  have nodup := valid.served_nodup n
  have split := l.handout_split n
  have distinct := valid.nodup
  simp only [Fits] at fits
  simp only [Ledger.addPermits, Ledger.settle]
  cases waiting : (l.handout n).waiting with
  | nil =>
    have pooled : saturatingAdd l.permits (l.handout n).left = l.permits + (l.handout n).left :=
      Nat.min_eq_left (fits waiting)
    by_cases nothing : (l.handout n).left = 0
    · simp [nothing]
    · simp [nothing, pooled]
  | cons b behind =>
    intro current found
    rw [waiting] at split
    rw [← split] at distinct
    have unserved : b ∉ (l.handout n).served :=
      fun before => (List.nodup_append.mp distinct).2.2 b before b (by simp) rfl
    by_cases nothing : (l.handout n).left = 0
    · simp [nothing, Arena.get?_modifyAll _ nodup, unserved, found]
    · simp [nothing, Arena.get?_modify, Arena.get?_modifyAll _ nodup, unserved, found]

/-- As long as nobody has collected a part, the amount can be read off the result. -/
theorem addPermits_injective (valid : l.Valid)
    (empty : ∀ b ∈ l.queue, ∀ current, l.tickets.get? b = some current → current.permits = 0)
    (fitsM : Fits l m) (fitsN : Fits l n) (same : l.addPermits m = l.addPermits n) : m = n := by
  have waiting : (l.handout m).waiting = (l.handout n).waiting := by
    have queues := congrArg (fun result => result.1.queue) same
    simpa only [Ledger.addPermits, settle_queue] using queues
  have served : (l.handout m).served = (l.handout n).served := by
    have whole := (l.handout_split m).trans (l.handout_split n).symm
    rw [waiting] at whole
    exact List.append_cancel_right whole
  have left : (l.handout m).left = (l.handout n).left := by
    have leftM := addPermits_left valid fitsM
    have leftN := addPermits_left valid fitsN
    rw [waiting, same] at leftM
    cases rest : (l.handout n).waiting with
    | nil =>
      simp only [rest] at leftM leftN
      omega
    | cons b behind =>
      have lessM := l.handout_left (waiting.trans rest)
      have lessN := l.handout_left rest
      have queued : b ∈ l.queue := Ledger.queued_of_waiting rest
      obtain ⟨current, _, found, _⟩ := valid.queued queued
      have nothing := empty b queued current found
      simp only [rest] at leftM leftN
      have equal := Option.some.inj ((leftM current found).symm.trans (leftN current found))
      have collected := congrArg Ticket.permits equal
      rw [Ledger.need_eq found] at lessM lessN
      simp only [nothing] at collected lessM lessN
      split at collected <;> split at collected <;> omega
  have sumM := l.handout_sum m
  have sumN := l.handout_sum n
  rw [served, left] at sumM
  omega

private theorem twice_zero (valid : l.Valid) (n : Nat) : twice l 0 n = l.addPermits n := by
  simp only [twice, addPermits_zero (.of_valid valid), List.nil_append]

private theorem twice_nothing (valid : l.Valid) (m : Nat) : twice l m 0 = l.addPermits m := by
  simp only [twice, addPermits_zero (.of_valid (valid.addPermits m)), List.append_nil]

private theorem addPermits_length (n : Nat) : (l.addPermits n).1.queue.length ≤ l.queue.length := by
  rw [addPermits_queue (l := l) n, List.length_append]
  omega

private theorem twice_short (valid : l.Valid) (shape : l.queue = a :: rest) (held : l.tickets.get? a = some ticket)
    (short : m < ticket.wants - ticket.permits) (positive : 0 < m) (some : 0 < n) (fits : Unsaturated l m n) :
    twice l m n = l.addPermits (m + n) ↔ ticket.permits + m = ticket.wants - ticket.permits - m := by
  have distinct := valid.nodup
  rw [shape] at distinct
  have fresh := (List.nodup_cons.mp distinct).1
  obtain ⟨_, waker, found, _, registered, less⟩ := valid.queued (a := a) (by simp [shape])
  cases held.symm.trans found
  have added := addPermits_short shape held short positive
  have held' := refilled_held held m
  have shape' : (refilled l a ticket m).queue = a :: rest := shape
  have need := Ledger.need_eq held
  have need' : (refilled l a ticket m).need a = ticket.permits + m := by
    rw [Ledger.need_eq held']
    dsimp only
    omega
  have longer : ∀ k, (a :: rest) ≠ ((granted l a rest ticket).addPermits k).1.queue := by
    intro k same
    have shorter := addPermits_length (l := granted l a rest ticket) k
    rw [← same] at shorter
    simp only [List.length_cons, granted] at shorter
    omega
  have portions : twice l m n = (refilled l a ticket m).addPermits n := by
    simp only [twice, added, List.nil_append]
  rw [portions]
  by_cases few : n < ticket.permits + m
  · have second := addPermits_short shape' held' (by dsimp only; omega) some
    by_cases fewer : m + n < ticket.wants - ticket.permits
    · rw [second, addPermits_short shape held fewer (by omega)]
      simp only [refilled, Arena.put_put, Prod.mk.injEq, Ledger.mk.injEq, and_true]
      constructor
      · intro equal
        have collected := congrArg (fun tickets => (tickets.get? a).map Ticket.permits) equal
        simp only [Arena.get?_put_self held, Option.map_some, Option.some.injEq] at collected
        omega
      · intro even
        congr 2
        omega
    · rw [second, addPermits_served shape fresh held registered (by omega)]
      constructor
      · intro equal
        exact absurd (shape'.symm.trans (congrArg (fun result => result.1.queue) equal)) (longer _)
      · omega
  · have second := addPermits_served (n := n) shape' fresh held' registered (by omega)
    rw [granted_refilled, need'] at second
    by_cases fewer : m + n < ticket.wants - ticket.permits
    · rw [second, addPermits_short shape held fewer (by omega)]
      constructor
      · intro equal
        exact absurd (shape.symm.trans (congrArg (fun result => result.1.queue) equal.symm)) (longer _)
      · omega
    · rw [second, addPermits_served shape fresh held registered (by omega), need]
      constructor
      · intro equal
        have after : Fits (granted l a rest ticket) (n - (ticket.permits + m)) := by
          have second : Fits (refilled l a ticket m) n := by simpa only [added] using fits.second
          rw [← granted_refilled l a rest ticket m, ← need']
          exact (fits_served shape' fresh _ (by omega)).mp second
        have once := (fits_served shape fresh ticket (by omega)).mp fits.whole
        rw [need] at once
        have ledgers := congrArg Prod.fst equal
        have wakers := (List.cons.inj (congrArg Prod.snd equal)).2
        have amounts := addPermits_injective (granted_valid valid shape held) (granted_behind valid shape ticket) after once
          (Prod.ext ledgers wakers)
        omega
      · intro even
        rw [show n - (ticket.permits + m) = m + n - (ticket.wants - ticket.permits) by omega]

/-- The second portion adds up with the first exactly when the first one gave no waiter more
or less than it had. By induction on the queue; the waiter at which the first portion stops decides. -/
theorem twice_iff (valid : l.Valid) (fits : Unsaturated l m n) :
    twice l m n = l.addPermits (m + n) ↔ n = 0 ∨ EvenHandout l m := by
  by_cases nothing : n = 0
  · subst nothing
    simp [twice_nothing valid]
  generalize queue : l.queue = waiters
  induction waiters generalizing l m with
  | nil =>
    have even : EvenHandout l m := .inr (by simp [Ledger.handout, queue])
    have once : l.permits + (m + n) ≤ usizeMax := by simpa [Fits, Ledger.handout, queue] using fits.whole
    simp only [nothing, even, or_true, iff_true]
    have first := addPermits_alone (n := m) queue (by omega)
    have second := addPermits_alone (l := { l with permits := l.permits + m }) (n := n) queue (by dsimp only; omega)
    simp only [twice, addPermits_alone queue once, first, second, Nat.add_assoc, List.append_nil]
  | cons a rest ih =>
    obtain ⟨ticket, waker, held, _, registered, less⟩ := valid.queued (a := a) (by simp [queue])
    have distinct := valid.nodup
    rw [queue] at distinct
    have fresh := (List.nodup_cons.mp distinct).1
    have need := Ledger.need_eq held
    by_cases zero : m = 0
    · subst zero
      have even : EvenHandout l 0 := .inl (by rw [handout_zero valid])
      simp [twice_zero valid, even]
    by_cases short : m < ticket.wants - ticket.permits
    · rw [twice_short valid queue held short (by omega) (by omega) fits, even_short queue held short (by omega)]
      simp [nothing]
    · have enough : l.need a ≤ m := by omega
      have first := addPermits_served queue fresh held registered enough
      have whole := addPermits_served queue fresh held registered (n := m + n) (by omega)
      have rest : Unsaturated (granted l a rest ticket) (m - l.need a) n := by
        refine ⟨(fits_served queue fresh ticket enough).mp fits.first, ?_, ?_⟩
        · have later := fits.second
          rwa [first] at later
        · have once := (fits_served queue fresh ticket (by omega)).mp fits.whole
          rwa [show m + n - l.need a = m - l.need a + n by omega] at once
      have later := ih (granted_valid valid queue held) rest rfl
      rw [even_served queue fresh ticket enough, ← later, whole, show m + n - l.need a = m - l.need a + n by omega]
      simp only [twice, first, List.cons_append]
      constructor
      · intro equal
        have ledgers := congrArg Prod.fst equal
        have wakers := (List.cons.inj (congrArg Prod.snd equal)).2
        exact Prod.ext ledgers wakers
      · intro equal
        rw [← equal]

end Portions

def dropBoth (s : State) (p q : Addr) : Except Fault (State × List Waker) := do
  let (s, first) ← system.step s (.dropPermit p)
  let (s, second) ← system.step s (.dropPermit q)
  .ok (s, first.woken ++ second.woken)

def Commute (s : State) (p q : Addr) : Prop :=
  (dropBoth s p q).map (fun (s, woken) => (view s, woken)) = (dropBoth s q p).map fun (s, woken) => (view s, woken)

/-- The second portion is nothing, or the first one is handed out evenly. -/
def Splits (l : Ledger) (a b : Nat) : Prop := b = 0 ∨ EvenHandout l a

instance (l : Ledger) (a b : Nat) : Decidable (Unsaturated l a b) :=
  decidable_of_iff (Fits l a ∧ Fits (l.addPermits a).1 b ∧ Fits l (a + b))
    ⟨fun fits => ⟨fits.1, fits.2.1, fits.2.2⟩, fun fits => ⟨fits.first, fits.second, fits.whole⟩⟩

instance (l : Ledger) (a b : Nat) : Decidable (Splits l a b) := inferInstanceAs (Decidable (_ ∨ _))

instance (s : Semaphore) (a b : Nat) : Decidable (Additive s a b) := inferInstanceAs (Decidable (_ = _))

section Semaphores
variable {s : Semaphore} {a b : Nat}

private theorem seen_portions (sound : Sound s) (a b : Nat) : seen (portions s a b) = .ok (twice s.ledger a b) := by
  obtain ⟨s₁, first, same₁, sound₁⟩ := sound.addPermits a
  obtain ⟨s₂, second, same₂, _⟩ := sound₁.addPermits b
  rw [same₁] at same₂ second
  simp only [portions, first, second, ok_bind, seen, Except.map, twice, same₂]

theorem additive_iff (sound : Sound s) (fits : Unsaturated s.ledger a b) : Additive s a b ↔ Splits s.ledger a b := by
  obtain ⟨s', whole, same, _⟩ := sound.addPermits (a + b)
  have once : seen (s.addPermits (a + b)) = .ok (s.ledger.addPermits (a + b)) := by
    simp only [whole, seen, Except.map, same]
  rw [Additive, seen_portions sound, once, Except.ok.injEq]
  exact twice_iff sound.valid fits

private theorem seen_drops {state : State} {p q : Addr} (sound : Sound state.sem) (first : state.permits.get? p = some a)
    (second : state.permits.get? q = some b) (different : p ≠ q) :
    (dropBoth state p q).map (fun (s, woken) => (view s, woken)) =
      (seen (portions state.sem a b)).map fun (l, woken) => (⟨l, (state.permits.free p).free q⟩, woken) := by
  obtain ⟨s₁, added₁, _, sound₁⟩ := sound.addPermits a
  obtain ⟨s₂, added₂, _, _⟩ := sound₁.addPermits b
  have kept : (state.permits.free p).get? q = some b := by rw [Arena.get?_free_ne _ different.symm, second]
  simp only [dropBoth, system, step, first, kept, added₁, added₂, ok_bind, portions, seen, Except.map, view]

theorem commute_of_splits {state : State} {p q : Addr} (sound : Sound state.sem) (first : state.permits.get? p = some a)
    (second : state.permits.get? q = some b) (different : p ≠ q) (fits : Unsaturated state.sem.ledger a b)
    (fits' : Unsaturated state.sem.ledger b a) (splits : Splits state.sem.ledger a b) (splits' : Splits state.sem.ledger b a) :
    Commute state p q := by
  have forth : Additive state.sem a b := (additive_iff sound fits).mpr splits
  have back : Additive state.sem b a := (additive_iff sound fits').mpr splits'
  have freed : (state.permits.free p).free q = (state.permits.free q).free p := Arena.free_comm _ p q
  rw [Commute, seen_drops sound first second different, seen_drops sound second first different.symm, forth, back,
    Nat.add_comm b a, freed]

end Semaphores

/-- In every reachable state two returns add up exactly when the condition holds. Permits whose
counts meet it both ways can be dropped in either order. -/
theorem portions_add_iff {start state : State} {history : History State Action Outcome}
    (run : system.Run start history state) :
    (∀ a b, Unsaturated state.sem.ledger a b → (Additive state.sem a b ↔ Splits state.sem.ledger a b)) ∧
      ∀ p q a b, state.permits.get? p = some a → state.permits.get? q = some b → p ≠ q →
        Unsaturated state.sem.ledger a b → Unsaturated state.sem.ledger b a →
        Splits state.sem.ledger a b → Splits state.sem.ledger b a → Commute state p q :=
  ⟨fun _ _ fits => additive_iff (run_sound run) fits,
    fun _ _ _ _ first second different fits fits' splits splits' =>
      commute_of_splits (run_sound run) first second different fits fits' splits splits'⟩

/-- Two times half of what a waiter wants. -/
theorem portions_add_halves :
    ∃ history state, system.play [] (.new 0) [.acquireMany 4, .poll 0 7] = some (history, state) ∧
      Additive state.sem 2 2 := by
  obtain ⟨history, state, played, run, fits, splits⟩ := system.exists_run (.new 0) ⟨0, rfl⟩ [.acquireMany 4, .poll 0 7]
    (fun _ state => Unsaturated state.sem.ledger 2 2 ∧ Splits state.sem.ledger 2 2) (by decide)
  exact ⟨history, state, played, ((portions_add_iff run).1 2 2 fits).mpr splits⟩

/-- Of two single permits the first one counts double for a waiter that wants three. -/
theorem portions_not_added :
    ¬ ∀ start state history, system.Run start history state → ∀ a b, Unsaturated state.sem.ledger a b →
      Additive state.sem a b := by
  intro additive
  obtain ⟨history, state, _, run, fits, apart⟩ := system.exists_run (.new 0) ⟨0, rfl⟩ [.acquireMany 3, .poll 0 7]
    (fun _ state => Unsaturated state.sem.ledger 1 1 ∧ ¬ Additive state.sem 1 1) (by decide)
  exact apart (additive _ _ _ run 1 1 fits)

end AsyncUnsync.Proofs.PortionedReturns
