import AsyncUnsync.Ledger

/-! The invariant of the ledger. Permits wait in the pool only while nobody waits
for them, and of those who wait only the first may have collected a part. -/

namespace AsyncUnsync
open Memory Serving

structure Ticket.Valid (ticket : Ticket) : Prop where
  bounded : ticket.permits ≤ ticket.wants
  inert : ticket.state = .inert → ticket.permits = 0 ∧ ticket.waker = none
  waiting : ticket.state = .waiting → ticket.permits < ticket.wants ∧ ticket.waker.isSome

structure Ledger.Valid (l : Ledger) : Prop where
  nodup : l.queue.Nodup
  waiting : ∀ a, a ∈ l.queue ↔ ∃ ticket, l.tickets.get? a = some ticket ∧ ticket.state = .waiting
  ticket : ∀ a ticket, l.tickets.get? a = some ticket → ticket.Valid
  first : ∀ a ∈ l.queue.tail, ∀ ticket, l.tickets.get? a = some ticket → ticket.permits = 0
  idle : l.queue ≠ [] → l.permits = 0
  closed : l.closed = true → l.queue = []

theorem Ticket.Valid.woken {ticket : Ticket} (bounded : ticket.permits ≤ ticket.wants) (state : ticket.state = .woken) :
    ticket.Valid :=
  ⟨bounded, by simp [state], by simp [state]⟩

namespace Ledger
variable {l : Ledger} {a : Addr} {ticket : Ticket}

theorem Valid.empty (permits : Nat) : (⟨.empty, [], permits, false⟩ : Ledger).Valid :=
  ⟨List.nodup_nil, by simp, by simp, by simp, by simp, by simp⟩

theorem need_eq (held : l.tickets.get? a = some ticket) : l.need a = ticket.wants - ticket.permits := by
  simp [need, held]

theorem Valid.queued (valid : l.Valid) (member : a ∈ l.queue) :
    ∃ ticket waker, l.tickets.get? a = some ticket ∧ ticket.state = .waiting ∧ ticket.waker = some waker ∧
      ticket.permits < ticket.wants := by
  obtain ⟨ticket, held, state⟩ := (valid.waiting a).mp member
  obtain ⟨short, registered⟩ := (valid.ticket a ticket held).waiting state
  obtain ⟨waker, stored⟩ := Option.isSome_iff_exists.mp registered
  exact ⟨ticket, waker, held, state, stored, short⟩

theorem Valid.need_pos (valid : l.Valid) (member : a ∈ l.queue) : 0 < l.need a := by
  obtain ⟨ticket, _, held, _, _, short⟩ := valid.queued member
  rw [need_eq held]
  omega

theorem handout_split (l : Ledger) (n : Nat) : (l.handout n).served ++ (l.handout n).waiting = l.queue :=
  served_append_waiting l.need l.queue n

theorem handout_left {n : Nat} {rest : List Addr} (blocked : (l.handout n).waiting = a :: rest) :
    (l.handout n).left < l.need a := left_lt_need blocked

theorem queued_of_waiting {n : Nat} {rest : List Addr} (waiting : (l.handout n).waiting = a :: rest) : a ∈ l.queue := by
  have member : a ∈ (l.handout n).waiting := by simp [waiting]
  exact mem_of_waiting member

theorem handout_sum (l : Ledger) (n : Nat) : ((l.handout n).served.map l.need).sum + (l.handout n).left = n :=
  served_sum l.need l.queue n

theorem Valid.served_nodup (valid : l.Valid) (n : Nat) : (l.handout n).served.Nodup :=
  (List.nodup_append.mp ((l.handout_split n).symm ▸ valid.nodup)).1

/-- The front of the queue is released, by a grant or by a close. -/
theorem Valid.release (valid : l.Valid) {front back : List Addr} (split : l.queue = front ++ back) (f : Ticket → Ticket)
    (kept : ∀ ticket, ticket.Valid → (f ticket).Valid) (woken : ∀ ticket, (f ticket).state = .woken) :
    Valid { l with tickets := l.tickets.modifyAll f front, queue := back } := by
  have distinct := valid.nodup
  rw [split] at distinct
  obtain ⟨nodup, nodup', apart⟩ := List.nodup_append.mp distinct
  have other : ∀ b ∈ back, b ∉ front := fun b behind before => apart b before b behind rfl
  refine ⟨nodup', ?_, ?_, ?_, ?_, ?_⟩
  · intro b
    simp only [Arena.get?_modifyAll f nodup]
    have before := valid.waiting b
    rw [split, List.mem_append] at before
    by_cases inside : b ∈ front
    · refine ⟨fun behind => absurd inside (other b behind), ?_⟩
      intro ⟨_, held, state⟩
      simp only [inside, if_true, Option.map_eq_some_iff] at held
      obtain ⟨old, _, rfl⟩ := held
      simp [woken] at state
    · simpa [inside] using before
  · intro b current held
    simp only [Arena.get?_modifyAll f nodup] at held
    split at held
    · obtain ⟨old, found, rfl⟩ := Option.map_eq_some_iff.mp held
      exact kept old (valid.ticket b old found)
    · exact valid.ticket b current held
  · intro b behind current held
    have inside := List.mem_of_mem_tail behind
    simp only [Arena.get?_modifyAll f nodup, other b inside, if_false] at held
    refine valid.first b ?_ current held
    rw [split]
    cases front with
    | nil => exact behind
    | cons c front => simp [inside]
  · intro nonempty
    apply valid.idle
    simp [split, show back ≠ [] from nonempty]
  · intro closed
    have none := valid.closed closed
    rw [split] at none
    exact (List.append_eq_nil_iff.mp none).2

private theorem modify_first (valid : l.Valid) {rest : List Addr} {left : Nat} (split : l.queue = a :: rest)
    (positive : 0 < left) (held : l.tickets.get? a = some ticket) (less : left < ticket.wants - ticket.permits) :
    Valid { l with
      tickets := l.tickets.modify a fun t => { t with permits := t.wants - t.permits - left } } := by
  have distinct := valid.nodup
  rw [split] at distinct
  obtain ⟨fresh, _⟩ := List.nodup_cons.mp distinct
  have state : ticket.state = .waiting := by
    obtain ⟨_, found, state⟩ := (valid.waiting a).mp (by simp [split])
    rw [held] at found
    cases found
    exact state
  refine ⟨valid.nodup, ?_, ?_, ?_, valid.idle, valid.closed⟩
  · intro b
    simp only [Arena.get?_modify]
    by_cases same : a = b
    · subst b
      simp [split, held, state]
    · simpa [same] using valid.waiting b
  · intro b current found
    simp only [Arena.get?_modify] at found
    split at found
    next same =>
      subst same
      rw [held] at found
      cases found
      have old := valid.ticket a ticket held
      exact ⟨by simp only; omega, fun inert => by simp [state] at inert,
        fun _ => ⟨by simp only; omega, (old.waiting state).2⟩⟩
    · exact valid.ticket b current found
  · intro b behind current found
    have different : a ≠ b := by
      intro same
      subst same
      apply fresh
      simpa [split] using behind
    simp only [Arena.get?_modify, different, if_false] at found
    exact valid.first b behind current found

theorem Valid.addPermits (valid : l.Valid) (n : Nat) : (l.addPermits n).1.Valid := by
  have released := valid.release (l.handout_split n).symm Ticket.grant
    (fun _ _ => .woken (Nat.le_refl _) rfl) (fun _ => rfl)
  simp only [Ledger.addPermits, settle]
  split
  · exact released
  next positive =>
    cases waiting : (l.handout n).waiting with
    | nil =>
      rw [waiting] at released
      exact ⟨released.nodup, released.waiting, released.ticket, released.first, fun absurd => (absurd rfl).elim, released.closed⟩
    | cons a rest =>
      rw [waiting] at released
      obtain ⟨current, _, held, _, _, short⟩ := released.queued (a := a) (by simp)
      apply modify_first released rfl (Nat.pos_of_ne_zero positive) held
      have less := handout_left waiting
      have original : l.tickets.get? a = some current := by
        have distinct := valid.nodup
        rw [← l.handout_split n, waiting] at distinct
        have outside : a ∉ (l.handout n).served := fun inside =>
          (List.nodup_append.mp distinct).2.2 a inside a (by simp) rfl
        simpa only [Arena.get?_modifyAll _ (valid.served_nodup n), outside, if_false] using held
      rwa [need_eq original] at less

private theorem put_idle (valid : l.Valid) (held : l.tickets.get? a = some ticket) (before : ticket.state ≠ .waiting)
    {updated : Ticket} (after : updated.state ≠ .waiting) (kept : updated.Valid) :
    Valid { l with tickets := l.tickets.put a updated } := by
  have outside : a ∉ l.queue := by
    intro member
    obtain ⟨_, found, state⟩ := (valid.waiting a).mp member
    rw [held] at found
    cases found
    exact before state
  have read : ∀ b, (l.tickets.put a updated).get? b = if a = b then some updated else l.tickets.get? b := by
    intro b
    simp [Arena.get?_put, Arena.lt_size held]
  refine ⟨valid.nodup, ?_, ?_, ?_, valid.idle, valid.closed⟩
  · intro b
    simp only [read]
    by_cases same : a = b
    · subst b
      simp [outside, after]
    · simpa [same] using valid.waiting b
  · intro b current found
    simp only [read] at found
    split at found
    · cases found
      exact kept
    · exact valid.ticket b current found
  · intro b behind current found
    have different : a ≠ b := by
      intro same
      subst same
      exact outside (List.mem_of_mem_tail behind)
    simp only [read, different, if_false] at found
    exact valid.first b behind current found

theorem Valid.takePermits (valid : l.Valid) (n : Nat) : Valid { l with permits := l.permits - n } :=
  ⟨valid.nodup, valid.waiting, valid.ticket, valid.first, fun nonempty => by simp [valid.idle nonempty], valid.closed⟩

theorem Valid.acquireMany (valid : l.Valid) (n : Nat) : (l.acquireMany n).Valid := by
  refine ⟨valid.nodup, ?_, ?_, ?_, valid.idle, valid.closed⟩
  · intro b
    simp only [Ledger.acquireMany, Arena.get?_alloc]
    split
    next same =>
      subst same
      have absent := valid.waiting l.tickets.size
      rw [Arena.get?_of_size_le (Nat.le_refl _)] at absent
      simpa using absent
    · exact valid.waiting b
  · intro b current found
    rcases Arena.of_alloc found with ⟨_, rfl⟩ | before
    · exact ⟨Nat.zero_le _, fun _ => ⟨rfl, rfl⟩, by simp⟩
    · exact valid.ticket b current before
  · intro b behind current found
    rcases Arena.of_alloc found with ⟨_, rfl⟩ | before
    · rfl
    · exact valid.first b behind current before

private theorem enqueue_valid (valid : l.Valid) (opened : l.closed = false) (held : l.tickets.get? a = some ticket)
    (inert : ticket.state = .inert) (few : l.permits < ticket.wants) (waker : Waker) :
    ({ l with permits := 0 }.enqueue a { ticket with permits := l.permits } waker).Valid := by
  have outside : a ∉ l.queue := by
    intro member
    obtain ⟨_, found, state⟩ := (valid.waiting a).mp member
    rw [held] at found
    cases found
    simp [inert] at state
  have read : ∀ (updated : Ticket) b, (l.tickets.put a updated).get? b = if a = b then some updated else l.tickets.get? b := by
    intro updated b
    simp [Arena.get?_put, Arena.lt_size held]
  refine ⟨?_, ?_, ?_, ?_, fun _ => rfl, ?_⟩
  · refine List.nodup_append.mpr ⟨valid.nodup, List.nodup_singleton a, ?_⟩
    intro b member c single same
    rw [List.mem_singleton] at single
    exact outside (single ▸ same ▸ member)
  · intro b
    simp only [enqueue, read, List.mem_append, List.mem_singleton]
    by_cases same : a = b
    · simp [same]
    · simpa [same, Ne.symm same] using valid.waiting b
  · intro b current found
    simp only [enqueue, read] at found
    split at found
    · cases found
      exact ⟨Nat.le_of_lt few, by simp, fun _ => ⟨few, rfl⟩⟩
    · exact valid.ticket b current found
  · intro b behind current found
    simp only [enqueue, read] at found behind
    cases queue : l.queue with
    | nil => simp [queue] at behind
    | cons c rest =>
      have none : l.permits = 0 := valid.idle (by simp [queue])
      split at found
      · cases found
        exact none
      next different =>
        refine valid.first b ?_ current found
        simpa [queue, Ne.symm different] using behind
  · intro closed
    simp [enqueue, opened] at closed

theorem Valid.poll (valid : l.Valid) (held : l.tickets.get? a = some ticket) (waker : Waker) :
    (l.poll a ticket waker).1.Valid := by
  have old := valid.ticket a ticket held
  have woken : ticket.wake.Valid := .woken old.bounded rfl
  unfold Ledger.poll
  split
  next closed =>
    refine put_idle valid held ?_ (by simp [Ticket.wake]) woken
    intro waiting
    have member := (valid.waiting a).mpr ⟨ticket, held, waiting⟩
    simp [valid.closed closed] at member
  next opened =>
    cases state : ticket.state with
    | waiting => exact valid
    | woken =>
      exact put_idle valid held (by simp [state]) (by simp) (.woken (Nat.zero_le _) rfl)
    | inert =>
      simp only
      split
      · exact (put_idle valid held (by simp [state]) (by simp [Ticket.wake]) (.woken (Nat.zero_le _) rfl)).takePermits ticket.wants
      next few => exact enqueue_valid valid (by simpa using opened) held state (Nat.lt_of_not_le few) waker

theorem Valid.forget (valid : l.Valid) (a : Addr) : (l.forget a).Valid := by
  simp only [Ledger.forget]
  refine ⟨valid.nodup.erase a, ?_, ?_, ?_, ?_, ?_⟩
  · intro b
    simp only [valid.nodup.mem_erase_iff, Arena.get?_free]
    by_cases same : a = b
    · simp [same]
    · simpa [same, Ne.symm same] using valid.waiting b
  · intro b current found
    exact valid.ticket b current (Arena.of_free found).2
  · intro b behind current found
    simp only [Arena.get?_free] at found
    split at found
    · cases found
    · refine valid.first b ?_ current found
      cases queue : l.queue with
      | nil => simp [queue] at behind
      | cons c rest =>
        by_cases head : c = a
        · subst head
          simp only [queue, List.erase_cons_head] at behind
          exact List.mem_of_mem_tail behind
        · simp only [queue, List.erase_cons_tail (show ¬ (c == a) = true by simpa using head), List.tail_cons] at behind
          exact List.mem_of_mem_erase behind
  · intro nonempty
    refine valid.idle (fun none => nonempty ?_)
    simp [none]
  · intro closed
    simp [valid.closed closed]

theorem Valid.drop (valid : l.Valid) (a : Addr) (ticket : Ticket) : (l.drop a ticket).1.Valid :=
  (valid.forget a).addPermits ticket.permits

theorem Valid.close (valid : l.Valid) : l.close.1.Valid := by
  have released := valid.release (List.append_nil l.queue).symm Ticket.wake
    (fun _ old => .woken old.bounded rfl) (fun _ => rfl)
  exact ⟨released.nodup, released.waiting, released.ticket, released.first, released.idle, fun _ => rfl⟩

end Ledger
end AsyncUnsync
