import AsyncUnsync.Proofs.LedgerSimulation
import AsyncUnsync.Proofs.LedgerTurns
import AsyncUnsync.Proofs.PermitTotals
import AsyncUnsync.Queue

/-! The semaphore as a channel uses it: every request is for one slot. A slot is
then either free or granted as a whole, and no operation creates or loses one. -/

namespace AsyncUnsync.Proofs.SlotAccounting
open Memory LedgerSimulation LedgerTurns PermitTotals

def demands (l : Ledger) : Arena Nat := l.tickets.map Ticket.wants

def Single (l : Ledger) : Prop := ∀ a wants, (demands l).get? a = some wants → wants = 1

variable {l : Ledger} {a : Addr} {n : Nat} {ticket : Ticket}

section Demands

theorem held_of_demand {wants : Nat} (demand : (demands l).get? a = some wants) :
    ∃ ticket, l.tickets.get? a = some ticket ∧ ticket.wants = wants := by
  simpa [demands] using demand

theorem demand_of_held (held : l.tickets.get? a = some ticket) : (demands l).get? a = some ticket.wants := by
  simp [demands, held]

theorem addPermits_demands (valid : l.Valid) (n : Nat) : demands (l.addPermits n).1 = demands l := by
  apply Arena.ext_get?
  · simp [demands]
  · intro b
    cases after : (l.addPermits n).1.tickets.get? b with
    | some ticket' =>
      obtain ⟨ticket, held, aged, _⟩ := addPermits_ticket valid n after
      simp [demands, after, held, aged.wants]
    | none =>
      cases held : l.tickets.get? b with
      | none => simp [demands, after, held]
      | some ticket =>
        obtain ⟨ticket', live⟩ := addPermits_live valid n held
        cases after.symm.trans live

theorem forget_demands (l : Ledger) (a : Addr) : demands (l.forget a) = (demands l).free a := by
  simp [demands, Ledger.forget]

theorem drop_demands (valid : l.Valid) (a : Addr) (ticket : Ticket) : demands (l.drop a ticket).1 = (demands l).free a :=
  (addPermits_demands (valid.forget a) _).trans (forget_demands l a)

theorem acquireMany_demands (l : Ledger) (n : Nat) : demands (l.acquireMany n) = (demands l).alloc n := by
  simp [demands, Ledger.acquireMany]

theorem close_demands (valid : l.Valid) : demands l.close.1 = demands l := by
  apply Arena.ext_get?
  · simp [demands, Ledger.close]
  · intro b
    simp only [demands, Ledger.close, Arena.get?_map, Arena.get?_modifyAll _ valid.nodup]
    split
    · cases l.tickets.get? b <;> rfl
    · rfl

private theorem put_demands (held : l.tickets.get? a = some ticket) {updated : Ticket} (same : updated.wants = ticket.wants) :
    (l.tickets.put a updated).map Ticket.wants = demands l := by
  rw [Arena.map_put, same]
  exact Arena.put_same (demand_of_held held)

theorem poll_demands (held : l.tickets.get? a = some ticket) (waker : Waker) :
    demands (l.poll a ticket waker).1 = demands l := by
  by_cases closed : l.closed = true
  · rw [Ledger.poll_closed closed]
    exact put_demands held rfl
  cases state : ticket.state with
  | waiting => rw [Ledger.poll_waiting closed state]
  | woken =>
    rw [Ledger.poll_woken closed state]
    exact put_demands held rfl
  | inert =>
    rw [Ledger.poll_inert closed state]
    split <;> exact put_demands held rfl

end Demands

section Slots

/-- One slot is never split between requests, so a refill is always even. -/
theorem Single.even (single : Single l) (valid : l.Valid) (n : Nat) : EvenHandout l n := by
  by_cases nothing : (l.handout n).left = 0
  · exact .inl nothing
  · right
    intro a first
    obtain ⟨rest, blocked⟩ := List.head?_eq_some_iff.mp first
    obtain ⟨ticket, _, held, _⟩ := valid.queued (Serving.mem_of_waiting (List.mem_of_head? first))
    have short := Ledger.handout_left blocked
    have one := single a _ (demand_of_held held)
    rw [Ledger.need_eq held] at short
    omega

theorem addPermits_slots (single : Single l) (valid : l.Valid) (bound : owned l + n ≤ usizeMax) :
    owned (l.addPermits n).1 = owned l + n := by
  have fits : Fits l n := by
    intro _
    have spent := l.handout_sum n
    simp only [owned] at bound
    omega
  exact (addPermits_owned valid fits).mpr (single.even valid n)

theorem Single.forget (single : Single l) (a : Addr) : Single (l.forget a) := by
  intro b wants demand
  rw [forget_demands] at demand
  exact single b wants (Arena.of_free demand).2

theorem drop_slots (single : Single l) (valid : l.Valid) (held : l.tickets.get? a = some ticket)
    (bound : owned l ≤ usizeMax) : owned (l.drop a ticket).1 = owned l := by
  have freed := forget_owned held
  have given := addPermits_slots (single.forget a) (valid.forget a) (n := ticket.permits) (by omega)
  simp only [Ledger.drop, given]
  omega

theorem addPermits_pos (single : Single l) (valid : l.Valid) (some : 0 < owned l + n) : 0 < owned (l.addPermits n).1 := by
  by_cases fits : Fits l n
  · rw [(addPermits_owned valid fits).mpr (single.even valid n)]
    exact some
  · simp only [Fits, Classical.not_imp, Nat.not_le] at fits
    obtain ⟨nobody, full⟩ := fits
    have pool : 0 < (l.addPermits n).1.permits := by
      simp only [Ledger.addPermits, Ledger.settle, nobody]
      split
      · simp only
        omega
      · exact Nat.lt_min.mpr ⟨by omega, by decide⟩
    exact Nat.lt_of_lt_of_le pool (Nat.le_add_right ..)

theorem drop_pos (single : Single l) (valid : l.Valid) (held : l.tickets.get? a = some ticket) (some : 0 < owned l) :
    0 < owned (l.drop a ticket).1 := by
  have freed := forget_owned held
  exact addPermits_pos (single.forget a) (valid.forget a) (by omega)

end Slots

section Granted

/-- While the semaphore is open, a woken request holds all it wants. -/
def Full (l : Ledger) : Prop :=
  l.closed = false → ∀ a ticket, l.tickets.get? a = some ticket → ticket.state = .woken → ticket.permits = ticket.wants

theorem Full.addPermits (full : Full l) (valid : l.Valid) (n : Nat) : Full (l.addPermits n).1 := by
  intro opened a ticket after woken
  rw [addPermits_closed] at opened
  obtain ⟨before, held, rfl | ⟨_, _, rfl⟩ | ⟨_, waiting, _⟩⟩ := addPermits_held valid n after
  · exact full opened a _ held woken
  · rfl
  · cases waiting.symm.trans woken

theorem Full.forget (full : Full l) (a : Addr) : Full (l.forget a) := by
  intro opened b ticket held
  exact full opened b ticket (Arena.of_free held).2

theorem Full.drop (full : Full l) (valid : l.Valid) (a : Addr) (ticket : Ticket) : Full (l.drop a ticket).1 :=
  (full.forget a).addPermits (valid.forget a) _

theorem Full.acquireMany (full : Full l) (n : Nat) : Full (l.acquireMany n) := by
  intro opened a ticket held woken
  rcases Arena.of_alloc held with ⟨_, rfl⟩ | before
  · cases woken
  · exact full opened a ticket before woken

theorem Full.close (l : Ledger) : Full l.close.1 := by
  intro opened
  cases opened

theorem Full.pending (full : Full l) (held : l.tickets.get? a = some ticket) {waker : Waker} {l' : Ledger}
    (polled : l.poll a ticket waker = (l', .pending)) : Full l' := by
  by_cases closed : l.closed = true
  · rw [Ledger.poll_closed closed] at polled
    cases polled
  cases state : ticket.state with
  | waiting =>
    rw [Ledger.poll_waiting closed state] at polled
    cases polled
    exact full
  | woken =>
    rw [Ledger.poll_woken closed state] at polled
    cases polled
  | inert =>
    rw [Ledger.poll_inert closed state] at polled
    split at polled
    · cases polled
    · cases polled
      intro opened b other after woken
      simp only [Ledger.enqueue] at after
      by_cases same : b = a
      · subst b
        rw [Arena.get?_put_self held] at after
        cases after
        cases woken
      · rw [Arena.get?_put_ne _ same] at after
        exact full opened b other after woken

end Granted

section Calls
variable {s s' : Semaphore} {woken : List Waker} {waker : Waker}

theorem addPermits_ok (sound : Sound s) (done : s.addPermits n = .ok (s', woken)) :
    Sound s' ∧ s'.ledger = (s.ledger.addPermits n).1 ∧ woken = (s.ledger.addPermits n).2 := by
  obtain ⟨_, added, same, sound'⟩ := sound.addPermits n
  obtain ⟨rfl, rfl⟩ := Prod.mk.inj (Except.ok.inj (done.symm.trans added))
  exact ⟨sound', same, rfl⟩

theorem close_ok {effect : Effect Semaphore Nat} (sound : Sound s) (done : s.close = .ok effect) :
    Sound effect.state ∧ effect.state.ledger = s.ledger.close.1 ∧ effect.woken = s.ledger.close.2 := by
  obtain ⟨_, closed, same, sound'⟩ := sound.close
  cases done.symm.trans closed
  exact ⟨sound', same, rfl⟩

theorem tryAcquireMany_ok (sound : Sound s) (done : s.tryAcquireMany n = .ok s') :
    Sound s' ∧ ∃ count, s.ledger.tryAcquire true n = .ok (count, s'.ledger) := by
  have tried := sound.tryAcquireMany n
  split at tried
  next count l acquired =>
    obtain ⟨_, succeeded, same, sound'⟩ := tried
    cases done.symm.trans succeeded
    exact ⟨sound', count, by rw [same, acquired]⟩
  next => cases done.symm.trans tried

theorem dropFuture_ok (sound : Sound s) (held : s.ledger.tickets.get? a = some ticket)
    (done : s.dropFuture a = .ok (s', woken)) :
    Sound s' ∧ s'.ledger = (s.ledger.drop a ticket).1 ∧ woken = (s.ledger.drop a ticket).2 := by
  obtain ⟨_, dropped, same, sound'⟩ := sound.dropFuture held
  obtain ⟨rfl, rfl⟩ := Prod.mk.inj (Except.ok.inj (done.symm.trans dropped))
  exact ⟨sound', same, rfl⟩

private theorem drop_put (l : Ledger) (a : Addr) (stored dropped : Ticket) :
    Ledger.drop { l with tickets := l.tickets.put a stored } a dropped = l.drop a dropped := by
  simp [Ledger.drop, Ledger.forget]

theorem drop_empty (valid : l.Valid) {dropped : Ticket} (nothing : dropped.permits = 0) :
    l.drop a dropped = (l.forget a, []) := by
  rw [Ledger.drop, nothing, LedgerGrants.addPermits_zero (.of_valid (valid.forget a))]

/-- An awaited request stays pending, or takes its slot along, or fails and returns what it held. -/
theorem awaitAcquire_ok {effect : Effect Semaphore (Poll (Except AcquireError Unit))} (sound : Sound s)
    (held : s.ledger.tickets.get? a = some ticket) (done : s.awaitAcquire a waker = .ok effect) :
    Sound effect.state ∧
      ((effect.value = .pending ∧ effect.woken = [] ∧
          s.ledger.poll a ticket waker = (effect.state.ledger, .pending)) ∨
        (effect.value = .ready (.ok ()) ∧ effect.woken = [] ∧ s.ledger.closed = false ∧
          (ticket.state = .woken ∧ effect.state.ledger = s.ledger.forget a ∨
            ticket.state = .inert ∧ ticket.wants ≤ s.ledger.permits ∧
              effect.state.ledger = { s.ledger with permits := s.ledger.permits - ticket.wants }.forget a)) ∨
        ((∃ error, effect.value = .ready (.error error)) ∧ s.ledger.closed = true ∧
          effect.state.ledger = (s.ledger.drop a ticket).1 ∧ effect.woken = (s.ledger.drop a ticket).2)) := by
  obtain ⟨⟨polled, value⟩, polling, rest⟩ := bind_ok done
  obtain ⟨_, polling', same, sound'⟩ := sound.pollFuture held waker
  obtain ⟨rfl, rfl⟩ := Prod.mk.inj (Except.ok.inj (polling.symm.trans polling'))
  have valid := sound.valid
  by_cases closed : s.ledger.closed = true
  · rw [Ledger.poll_closed closed] at same rest
    obtain ⟨⟨s', woken⟩, dropped, stored⟩ := bind_ok rest
    cases stored
    obtain ⟨sound'', after, woke⟩ := dropFuture_ok sound' (by rw [same]; exact Arena.get?_put_self held _) dropped
    rw [same, drop_put] at after woke
    exact ⟨sound'', .inr (.inr ⟨⟨_, rfl⟩, closed, after, woke⟩)⟩
  have opened : s.ledger.closed = false := by simpa using closed
  cases state : ticket.state with
  | waiting =>
    rw [Ledger.poll_waiting closed state] at same rest ⊢
    cases rest
    exact ⟨sound', .inl ⟨rfl, rfl, by rw [same]⟩⟩
  | woken =>
    rw [Ledger.poll_woken closed state] at same rest ⊢
    obtain ⟨⟨s', woken⟩, dropped, stored⟩ := bind_ok rest
    cases stored
    obtain ⟨sound'', after, woke⟩ := dropFuture_ok sound' (by rw [same]; exact Arena.get?_put_self held _) dropped
    rw [same, drop_put, drop_empty valid rfl] at after woke
    exact ⟨sound'', .inr (.inl ⟨rfl, woke, opened, .inl ⟨rfl, after⟩⟩)⟩
  | inert =>
    rw [Ledger.poll_inert closed state] at same rest ⊢
    by_cases enough : ticket.wants ≤ s.ledger.permits
    · rw [if_pos enough] at same rest ⊢
      obtain ⟨⟨s', woken⟩, dropped, stored⟩ := bind_ok rest
      cases stored
      obtain ⟨sound'', after, woke⟩ := dropFuture_ok sound' (by rw [same]; exact Arena.get?_put_self held _) dropped
      have emptied := drop_put { s.ledger with permits := s.ledger.permits - ticket.wants } a
        { ticket.wake with permits := 0 } { ticket.wake with permits := 0 }
      rw [drop_empty (valid.takePermits _) rfl] at emptied
      rw [same, emptied] at after woke
      exact ⟨sound'', .inr (.inl ⟨rfl, woke, opened, .inr ⟨rfl, enough, after⟩⟩)⟩
    · rw [if_neg enough] at same rest ⊢
      cases rest
      exact ⟨sound', .inl ⟨rfl, rfl, by rw [same]⟩⟩

theorem addPermits_total (sound : Sound s) (n : Nat) : ∃ s' woken, s.addPermits n = .ok (s', woken) := by
  obtain ⟨s', added, _⟩ := sound.addPermits n
  exact ⟨s', _, added⟩

theorem awaitAcquire_total (sound : Sound s) (held : s.ledger.tickets.get? a = some ticket) (waker : Waker) :
    ∃ effect, s.awaitAcquire a waker = .ok effect := by
  obtain ⟨s', polled, same, sound'⟩ := sound.pollFuture held waker
  have kept := poll_demands held waker
  rw [← same] at kept
  obtain ⟨ticket', held', _⟩ := held_of_demand (kept ▸ demand_of_held held)
  obtain ⟨_, dropped, _⟩ := sound'.dropFuture held'
  simp only [Semaphore.awaitAcquire, polled, ok_bind]
  split
  · exact ⟨_, rfl⟩
  · simp only [dropped, ok_bind]
    exact ⟨_, rfl⟩

theorem awaitAcquire_fails (sound : Sound s) (held : s.ledger.tickets.get? a = some ticket) (waker : Waker) :
    (∃ effect error, s.awaitAcquire a waker = .ok effect ∧ effect.value = .ready (.error error)) ↔ s.shared.closed = true := by
  constructor
  · rintro ⟨effect, error, done, fails⟩
    obtain ⟨_, ⟨value, _⟩ | ⟨value, _⟩ | ⟨_, closed, _⟩⟩ := awaitAcquire_ok sound held done
    · cases fails.symm.trans value
    · cases fails.symm.trans value
    · exact closed
  · intro closed
    obtain ⟨effect, done⟩ := awaitAcquire_total sound held waker
    obtain ⟨_, ⟨_, _, polled⟩ | ⟨_, _, opened, _⟩ | ⟨⟨error, fails⟩, _⟩⟩ := awaitAcquire_ok sound held done
    · rw [Ledger.poll_closed closed] at polled
      cases (Prod.mk.inj polled).2
    · cases opened.symm.trans closed
    · exact ⟨effect, error, done, fails⟩

end Calls

section Hosted
variable {s s' : Semaphore} {d : Arena Nat} {woken : List Waker} {waker : Waker}

/-- A sound semaphore whose live requests are known. -/
structure Hosted (d : Arena Nat) (s : Semaphore) : Prop where
  sound : Sound s
  demands : demands s.ledger = d

theorem Hosted.held (hosted : Hosted d s) {wants : Nat} (demand : d.get? a = some wants) :
    ∃ ticket, s.ledger.tickets.get? a = some ticket ∧ ticket.wants = wants := by
  rw [← hosted.demands] at demand
  exact held_of_demand demand

theorem Hosted.addPermits (hosted : Hosted d s) (done : s.addPermits n = .ok (s', woken)) : Hosted d s' := by
  obtain ⟨sound, same, _⟩ := addPermits_ok hosted.sound done
  exact ⟨sound, by rw [same, addPermits_demands hosted.sound.valid, hosted.demands]⟩

theorem Hosted.close (hosted : Hosted d s) {effect : Effect Semaphore Nat} (done : s.close = .ok effect) :
    Hosted d effect.state := by
  obtain ⟨sound, same, _⟩ := close_ok hosted.sound done
  exact ⟨sound, by rw [same, close_demands hosted.sound.valid, hosted.demands]⟩

theorem Hosted.tryAcquireMany (hosted : Hosted d s) (done : s.tryAcquireMany n = .ok s') : Hosted d s' := by
  obtain ⟨sound, count, taken⟩ := tryAcquireMany_ok hosted.sound done
  refine ⟨sound, ?_⟩
  rw [← hosted.demands, SlotAccounting.demands, (tryAcquire_tickets taken).1]
  rfl

theorem Hosted.acquireMany (hosted : Hosted d s) (n : Nat) : Hosted (d.alloc n) (s.acquireMany n) := by
  obtain ⟨same, sound⟩ := hosted.sound.acquireMany n
  exact ⟨sound, by rw [same, acquireMany_demands, hosted.demands]⟩

theorem Hosted.dropFuture (hosted : Hosted d s) {wants : Nat} (demand : d.get? a = some wants)
    (done : s.dropFuture a = .ok (s', woken)) : Hosted (d.free a) s' := by
  obtain ⟨ticket, held, _⟩ := hosted.held demand
  obtain ⟨sound, same, _⟩ := dropFuture_ok hosted.sound held done
  exact ⟨sound, by rw [same, drop_demands hosted.sound.valid, hosted.demands]⟩

theorem Hosted.awaitAcquire (hosted : Hosted d s) {wants : Nat} (demand : d.get? a = some wants)
    {effect : Effect Semaphore (Poll (Except AcquireError Unit))} (done : s.awaitAcquire a waker = .ok effect) :
    Hosted (if effect.value = .pending then d else d.free a) effect.state := by
  obtain ⟨ticket, held, _⟩ := hosted.held demand
  obtain ⟨sound, outcome⟩ := awaitAcquire_ok hosted.sound held done
  refine ⟨sound, ?_⟩
  rcases outcome with ⟨value, _, polled⟩ | ⟨value, _, _, ⟨_, same⟩ | ⟨_, _, same⟩⟩ | ⟨⟨error, value⟩, _, same, _⟩
  · have kept := poll_demands held waker
    rw [polled] at kept
    rw [if_pos value, ← hosted.demands, ← kept]
  · rw [value, if_neg (by simp), same, forget_demands, hosted.demands]
  · rw [value, if_neg (by simp), same, forget_demands, ← hosted.demands]
    rfl
  · rw [value, if_neg (by simp), same, drop_demands hosted.sound.valid, hosted.demands]

end Hosted

section Stock
variable {s s' : Semaphore} {d : Arena Nat} {slots : Nat} {woken : List Waker} {waker : Waker}

/-- A semaphore whose slots, free or granted, are counted. -/
structure Stock (d : Arena Nat) (slots : Nat) (s : Semaphore) : Prop extends Hosted d s where
  full : Full s.ledger
  single : ∀ a wants, d.get? a = some wants → wants = 1
  owned : owned s.ledger = slots
  bound : slots ≤ usizeMax

theorem Stock.new {permits : Nat} (bound : permits ≤ usizeMax) : Stock .empty permits (.new permits) := by
  obtain ⟨same, sound⟩ := Sound.new permits
  refine ⟨⟨sound, by rw [same]; rfl⟩, ?_, ?_, by rw [same]; rfl, bound⟩
  · intro _ a ticket held
    rw [same] at held
    cases held
  · intro a wants demand
    cases demand

theorem Stock.singles (stock : Stock d slots s) : Single s.ledger := by
  intro a wants demand
  rw [stock.demands] at demand
  exact stock.single a wants demand

private theorem single_free (single : ∀ a wants, d.get? a = some wants → wants = 1) (b : Addr) :
    ∀ a wants, (d.free b).get? a = some wants → wants = 1 := by
  intro a wants demand
  exact single a wants (Arena.of_free demand).2

theorem Stock.addPermits (stock : Stock d slots s) (done : s.addPermits n = .ok (s', woken))
    (bound : slots + n ≤ usizeMax) : Stock d (slots + n) s' := by
  obtain ⟨_, same, _⟩ := addPermits_ok stock.sound done
  have added := addPermits_slots stock.singles stock.sound.valid (by rw [stock.owned]; exact bound)
  refine ⟨stock.toHosted.addPermits done, ?_, stock.single, ?_, bound⟩
  · rw [same]
    exact stock.full.addPermits stock.sound.valid n
  · rw [same, added, stock.owned]

theorem Stock.close (stock : Stock d slots s) {effect : Effect Semaphore Nat} (done : s.close = .ok effect) :
    Stock d slots effect.state := by
  obtain ⟨_, same, _⟩ := close_ok stock.sound done
  refine ⟨stock.toHosted.close done, ?_, stock.single, ?_, stock.bound⟩
  · rw [same]
    exact .close _
  · rw [same, close_owned stock.sound.valid, stock.owned]

theorem Stock.tryAcquireMany (stock : Stock d slots s) (done : s.tryAcquireMany n = .ok s') :
    n ≤ slots ∧ Stock d (slots - n) s' := by
  obtain ⟨_, count, taken⟩ := tryAcquireMany_ok stock.sound done
  have fewer := tryAcquire_owned taken
  obtain ⟨tickets, closed⟩ := tryAcquire_tickets taken
  rw [stock.owned] at fewer
  refine ⟨by omega, stock.toHosted.tryAcquireMany done, ?_, stock.single, by omega, Nat.le_trans (Nat.sub_le ..) stock.bound⟩
  intro opened a ticket held woken
  rw [tickets] at held
  exact stock.full (by rw [← closed, opened]) a ticket held woken

theorem Stock.acquireMany (stock : Stock d slots s) : Stock (d.alloc 1) slots (s.acquireMany 1) := by
  obtain ⟨same, _⟩ := stock.sound.acquireMany 1
  refine ⟨stock.toHosted.acquireMany 1, ?_, ?_, ?_, stock.bound⟩
  · rw [same]
    exact stock.full.acquireMany 1
  · intro a wants demand
    rcases Arena.of_alloc demand with ⟨_, rfl⟩ | before
    · rfl
    · exact stock.single a wants before
  · rw [same, ← stock.owned]
    simp [PermitTotals.owned, Ledger.acquireMany]

theorem Stock.dropFuture (stock : Stock d slots s) (demand : d.get? a = some 1)
    (done : s.dropFuture a = .ok (s', woken)) : Stock (d.free a) slots s' := by
  obtain ⟨ticket, held, _⟩ := stock.held demand
  obtain ⟨_, same, _⟩ := dropFuture_ok stock.sound held done
  have kept := drop_slots stock.singles stock.sound.valid held (by rw [stock.owned]; exact stock.bound)
  refine ⟨stock.toHosted.dropFuture demand done, ?_, single_free stock.single a, ?_, stock.bound⟩
  · rw [same]
    exact stock.full.drop stock.sound.valid a ticket
  · rw [same, kept, stock.owned]

private theorem forget_slot (stock : Stock d slots s) (held : s.ledger.tickets.get? a = some ticket)
    (one : ticket.wants = 1) (opened : s.ledger.closed = false) (woken : ticket.state = .woken) :
    1 ≤ slots ∧ owned (s.ledger.forget a) = slots - 1 := by
  have filled := stock.full opened a ticket held woken
  have freed := forget_owned held
  rw [stock.owned] at freed
  omega

private theorem take_slot (stock : Stock d slots s) (held : s.ledger.tickets.get? a = some ticket)
    (one : ticket.wants = 1) (inert : ticket.state = .inert) (enough : ticket.wants ≤ s.ledger.permits) :
    1 ≤ slots ∧ owned ({ s.ledger with permits := s.ledger.permits - ticket.wants }.forget a) = slots - 1 := by
  have nothing := ((stock.sound.valid.ticket a ticket held).inert inert).1
  have freed := forget_owned held
  rw [stock.owned] at freed
  simp only [owned, Ledger.forget] at freed ⊢
  omega

theorem Stock.awaitAcquire (stock : Stock d slots s) (demand : d.get? a = some 1)
    {effect : Effect Semaphore (Poll (Except AcquireError Unit))} (done : s.awaitAcquire a waker = .ok effect) :
    match effect.value with
    | .pending => Stock d slots effect.state
    | .ready (.ok ()) => 1 ≤ slots ∧ Stock (d.free a) (slots - 1) effect.state
    | .ready (.error _) => Stock (d.free a) slots effect.state := by
  obtain ⟨ticket, held, one⟩ := stock.held demand
  have hosted := stock.toHosted.awaitAcquire demand done
  have less : slots - 1 ≤ usizeMax := Nat.le_trans (Nat.sub_le ..) stock.bound
  obtain ⟨_, ⟨value, _, polled⟩ | ⟨value, _, opened, ⟨state, same⟩ | ⟨state, enough, same⟩⟩ |
    ⟨⟨error, value⟩, _, same, _⟩⟩ := awaitAcquire_ok stock.sound held done
  · have kept := poll_owned stock.sound.valid held waker
    rw [polled] at kept
    rw [if_pos value] at hosted
    rw [value]
    exact ⟨hosted, stock.full.pending held polled, stock.single, kept.trans stock.owned, stock.bound⟩
  · obtain ⟨positive, left⟩ := forget_slot stock held one opened state
    rw [if_neg (by simp [value])] at hosted
    rw [value]
    exact ⟨positive, hosted, by rw [same]; exact stock.full.forget a, single_free stock.single a, by rw [same, left], less⟩
  · obtain ⟨positive, left⟩ := take_slot stock held one state enough
    rw [if_neg (by simp [value])] at hosted
    rw [value]
    exact ⟨positive, hosted, by rw [same]; exact Full.forget stock.full a, single_free stock.single a,
      by rw [same, left], less⟩
  · have kept := drop_slots stock.singles stock.sound.valid held (by rw [stock.owned]; exact stock.bound)
    rw [if_neg (by simp [value])] at hosted
    rw [value]
    exact ⟨hosted, by rw [same]; exact stock.full.drop stock.sound.valid a ticket, single_free stock.single a,
      by rw [same, kept, stock.owned], stock.bound⟩

end Stock
end AsyncUnsync.Proofs.SlotAccounting
