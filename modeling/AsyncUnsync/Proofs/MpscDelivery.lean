import AsyncUnsync.Proofs.MpscProgress

/-! An mpsc program delivers: what the consumer takes is what was accepted, in this order,
and each producer's elements are accepted in theirs. -/

namespace AsyncUnsync.Proofs.MpscTasks
open Memory Transition BoundedSystem MailboxSystem Mpsc SlotTurns
variable {T : Type} {build : Build} {w : Workload T}

/-- The element that a call of a producer hands over. -/
def passed (c : Clients T) (role : Role T) (outcome : Outcome T) : List T :=
  match role, outcome.reply with
  | .sending _ _ a, .sent (.ok ()) => ((c.futures.get? a).bind Suspended.elem).toList
  | _, _ => []

/-- The element that a turn hands over, with its producer. -/
def accepted (event : Event (Crew (State T) (Role T)) (Turn (Action T)) (Outcome T)) : List (Nat × T) :=
  (passed event.before.shared.clients (event.before.place event.action.task) event.outcome).map (event.action.task, ·)

section Moves
variable {crew : Crew (Scene T) (Role T)} {shared : Scene T} {task : Nat} {role role' : Role T} {outcome : Outcome T}

def contents (crew : Crew (Scene T) (Role T)) : List T := (crew.place 0).taken ++ crew.shared.mailbox.items

theorem passed_sending (asking : Asking w crew) {sender a : Addr} {sent : Nat} {elem : T}
    (place : crew.place task = .sending sender sent a) (supplied : w.source task sent = some elem)
    (sends : outcome.reply = .sent (.ok ())) : passed crew.shared.clients (.sending sender sent a) outcome = [elem] := by
  obtain ⟨_, _, supplied', found, _⟩ := asking.asked _ _ _ _ place
  rw [supplied] at supplied'
  cases supplied'
  simp [passed, sends, found, Suspended.elem]

theorem contents_moves (working : Working w crew) (place : crew.place task = role)
    (move : Move w crew.shared task role role' shared outcome) :
    contents (advance w crew task role' shared outcome) = contents crew ++ passed crew.shared.clients role outcome := by
  have producer : role.produces = true → (advance w crew task role' shared outcome).place 0 = crew.place 0 := by
    intro produces
    have positive := working.staffed.producer (by rw [place, produces])
    exact place_other (by omega)
  have consumer : role.produces = false → (advance w crew task role' shared outcome).place 0 = role' ∧ crew.place 0 = role := by
    intro consumes
    have zero := working.staffed.zero (by rw [place, consumes])
    subst zero
    exact ⟨place_self, place⟩
  simp only [contents, advance_shared]
  cases move with
  | begins | waits | idles | refused => simp [producer rfl, passed]
  | sends opened supplied =>
    rw [producer rfl, passed_sending working.asking place supplied rfl, List.append_assoc]
  | leaves gone | leavesLast gone =>
    rcases gone with ⟨rfl, _⟩ | rfl <;> simp [producer rfl, passed]
  | takes items =>
    obtain ⟨after, before⟩ := consumer rfl
    have taken : ∀ taken : List T, (w.take taken).taken = taken := by
      intro taken
      unfold Workload.take
      split <;> rfl
    rw [after, before, taken, items]
    simp [passed, Role.taken]
  | listens | ends | closes | departs =>
    obtain ⟨after, before⟩ := consumer rfl
    rw [after, before]
    simp [passed, Role.taken, Mailbox.close]

theorem supply_moves (working : Working w crew) (place : crew.place task = role)
    (move : Move w crew.shared task role role' shared outcome) :
    (List.range role'.sent).map (w.source task) =
      (List.range role.sent).map (w.source task) ++ (passed crew.shared.clients role outcome).map some := by
  cases move with
  | begins | waits | idles | refused | listens | ends | closes | departs => simp [passed, Role.sent]
  | sends opened supplied =>
    rw [passed_sending working.asking place supplied rfl]
    simp [Role.sent, List.range_succ, supplied]
  | leaves gone | leavesLast gone => rcases gone with ⟨rfl, _⟩ | rfl <;> simp [passed, Role.sent]
  | takes =>
    unfold Workload.take
    split <;> simp [passed, Role.sent]

/-- Nothing is refused before everybody has left, if the consumer never closes the channel. -/
structure Lossless (w : Workload T) (crew : Crew (Scene T) (Role T)) : Prop where
  opened : crew.shared.mailbox.slots.closed = true → (crew.place 0).finished = true
  stays : ∀ task sender sent, crew.place task ≠ .leaving sender sent
  open_ended : ∀ taken, crew.place 0 ≠ .closing taken
  exhausted : ∀ task sent, task ≤ w.producers → crew.place task = .left sent → w.source task sent = none
  drained : (∀ taken, crew.place 0 ≠ .receiving taken) →
    crew.shared.mailbox.items = [] ∧ crew.shared.clients.handles.senderCount = 0

private theorem Lossless.produces (lossless : Lossless w crew) {taken : List T} (receives : crew.place 0 = .receiving taken)
    (producer : task ≠ 0) (closed : shared.mailbox.slots.closed = crew.shared.mailbox.slots.closed)
    (stays : ∀ sender sent, role' ≠ .leaving sender sent) (exhausted : ∀ sent, role' = .left sent → w.source task sent = none) :
    Lossless w (advance w crew task role' shared outcome) := by
  have consumer : (advance w crew task role' shared outcome).place 0 = crew.place 0 := place_other (Ne.symm producer)
  constructor
  · rw [consumer, advance_shared, closed]
    exact lossless.opened
  · intro other sender sent
    by_cases self : other = task
    · rw [self, place_self]
      exact stays sender sent
    · rw [place_other self]
      exact lossless.stays other sender sent
  · rw [consumer]
    exact lossless.open_ended
  · intro other sent within left
    by_cases self : other = task
    · subst other
      rw [place_self] at left
      exact exhausted sent left
    · rw [place_other self] at left
      exact lossless.exhausted other sent within left
  · intro idle
    rw [consumer] at idle
    exact absurd receives (idle taken)

private theorem Lossless.consumes (lossless : Lossless w crew) (consumes : role'.produces = false)
    (opened : shared.mailbox.slots.closed = true → role'.finished = true) (open_ended : ∀ taken, role' ≠ .closing taken)
    (drained : (∀ taken, role' ≠ .receiving taken) →
      shared.mailbox.items = [] ∧ shared.clients.handles.senderCount = 0) :
    Lossless w (advance w crew 0 role' shared outcome) := by
  constructor
  · rwa [place_self, advance_shared]
  · intro other sender sent
    by_cases self : other = 0
    · rw [self, place_self]
      rintro rfl
      cases consumes
    · rw [place_other self]
      exact lossless.stays other sender sent
  · rwa [place_self]
  · intro other sent within left
    by_cases self : other = 0
    · rw [self, place_self] at left
      rw [left] at consumes
      cases consumes
    · rw [place_other self] at left
      exact lossless.exhausted other sent within left
  · rwa [place_self, advance_shared]

private theorem Lossless.received (lossless : Lossless w crew) (staffed : Staffed w crew) (place : crew.place task = role)
    {id : Addr} (owns : role.sender = some id) :
    (∃ taken, crew.place 0 = .receiving taken) ∧ crew.shared.mailbox.slots.closed = false ∧ task ≠ 0 := by
  have some := Handles.senderCount_pos ((staffed.owned id).mpr ⟨task, by rw [place, owns]⟩)
  have receives : ∃ taken, crew.place 0 = .receiving taken := by
    by_contra none
    have drained := lossless.drained fun taken receives => none ⟨taken, receives⟩
    omega
  obtain ⟨taken, receives⟩ := receives
  refine ⟨⟨taken, receives⟩, ?_, Nat.ne_of_gt (staffed.producer (by rw [place]; exact (Role.owner owns).1))⟩
  by_contra closed
  have finished := lossless.opened (by simpa using closed)
  rw [receives] at finished
  cases finished

theorem Lossless.moves (lossless : Lossless w crew) (unlimited : w.limit = none) (working : Working w crew)
    (place : crew.place task = role) (move : Move w crew.shared task role role' shared outcome) :
    Lossless w (advance w crew task role' shared outcome) := by
  cases move with
  | begins | waits | idles | sends =>
    obtain ⟨⟨taken, receives⟩, _, producer⟩ := lossless.received working.staffed place rfl
    exact lossless.produces receives producer rfl (by simp) (by simp)
  | refused closed =>
    obtain ⟨_, opened, _⟩ := lossless.received working.staffed place rfl
    rw [opened] at closed
    cases closed
  | @leaves sender sent _ gone | @leavesLast sender sent _ gone =>
    rcases gone with ⟨rfl, exhausted⟩ | rfl
    · obtain ⟨⟨taken, receives⟩, _, producer⟩ := lossless.received working.staffed place rfl
      refine lossless.produces receives producer rfl (by simp) ?_
      rintro _ ⟨⟩
      exact exhausted
    · exact absurd place (lossless.stays task sender sent)
  | takes =>
    have zero := working.staffed.zero (by rw [place]; rfl)
    subst zero
    have more : ∀ taken : List T, w.take taken = .receiving taken := fun taken => if_neg (by rw [unlimited]; simp)
    rw [more]
    refine lossless.consumes rfl ?_ (by simp) fun idle => absurd rfl (idle _)
    intro closed
    have finished := lossless.opened closed
    rw [place] at finished
    cases finished
  | listens =>
    have zero := working.staffed.zero (by rw [place]; rfl)
    subst zero
    refine lossless.consumes rfl ?_ (by simp) fun idle => absurd rfl (idle _)
    intro closed
    have finished := lossless.opened closed
    rw [place] at finished
    cases finished
  | ends items closed =>
    have zero := working.staffed.zero (by rw [place]; rfl)
    subst zero
    have opened : ¬ crew.shared.mailbox.slots.closed = true := by
      intro closed
      have finished := lossless.opened closed
      rw [place] at finished
      cases finished
    refine lossless.consumes rfl (fun closed => absurd closed opened) (by simp) fun _ => ⟨items, ?_⟩
    by_contra some
    have counted := working.staffed.counted
    rw [if_neg some, if_neg opened] at counted
    rw [Mask.isClosed_counted, counted] at closed
    simp at closed
  | closes => exact absurd ((working.staffed.zero (by rw [place]; rfl)) ▸ place) (lossless.open_ended _)
  | departs =>
    have zero := working.staffed.zero (by rw [place]; rfl)
    subst zero
    refine lossless.consumes rfl (fun _ => rfl) (by simp) fun _ => ?_
    exact lossless.drained (by rw [place]; simp)

end Moves

section Runs
variable {start crew : Crew (State T) (Role T)} {history : History (Crew (State T) (Role T)) (Turn (Action T)) (Outcome T)}

theorem run_contents (run : (w.system T build).Run start history crew) :
    contents (start.map view) ++ (gathered accepted history).map Prod.snd = contents (crew.map view) := by
  induction run with
  | start => simp [gathered]
  | step run able stepped ih =>
    obtain ⟨working, _, _, role, shared, move, moved⟩ := event_move (.step run able stepped)
    have grown := contents_moves working rfl move
    rw [← moved] at grown
    rw [grown, ← ih, gathered, List.map_append, List.append_assoc]
    simp [accepted, Function.comp_def]
    rfl

theorem run_supply (run : (w.system T build).Run start history crew) (task : Nat) :
    ((gathered accepted history).filter fun item => item.1 == task).map (fun item => some item.2) =
      (List.range (crew.place task).sent).map (w.source task) := by
  induction run with
  | start initial =>
    rcases Assembled.place initial.2 task with place | ⟨_, place⟩ | place <;>
    · change start.place task = _ at place
      rw [place]
      rfl
  | @step past before after turn outcome run able stepped ih =>
    obtain ⟨working, _, _, role, shared, move, moved⟩ := event_move (.step run able stepped)
    have grown := supply_moves working rfl move
    have placed : after.place = Function.update before.place turn.task role := congrArg Crew.place moved
    rw [gathered, List.filter_append, List.map_append, ih, placed]
    by_cases self : task = turn.task
    · subst self
      rw [Function.update_self, grown]
      simp [accepted, List.filter_map, Function.comp_def]
      rfl
    · rw [Function.update_of_ne self]
      have other : ¬ turn.task = task := Ne.symm self
      simp [accepted, List.filter_map, Function.comp_def, other]

theorem run_lossless (unlimited : w.limit = none) (run : (w.system T build).Run start history crew) :
    Lossless w (crew.map view) := by
  induction run with
  | start initial =>
    have assembled := initial.2
    refine ⟨?_, ?_, ?_, ?_, ?_⟩
    · intro closed
      rw [assembled.opened] at closed
      cases closed
    · intro task sender sent
      rcases Assembled.place assembled task with place | ⟨_, place⟩ | place <;> rw [place] <;> simp
    · intro taken
      rw [assembled.consumer]
      simp
    · intro task sent within left
      rcases Nat.eq_zero_or_pos task with rfl | positive
      · rw [assembled.consumer] at left
        cases left
      · obtain ⟨sender, place⟩ := assembled.producing task positive within
        rw [place] at left
        cases left
    · intro idle
      exact absurd assembled.consumer (idle [])
  | step run able stepped ih =>
    obtain ⟨working, _, _, role, shared, move, moved⟩ := event_move (.step run able stepped)
    rw [moved]
    exact ih.moves unlimited working rfl move

/-- From where the tasks were assembled, what the consumer has taken and what is in the queue is what was
there and what was accepted, in this order, and of each producer the elements up to some point are accepted,
in order. If the consumer never closes the channel, it ends up with all elements of all producers. -/
theorem mpsc_delivers (run : (w.system T build).Run start history crew) :
    (crew.place 0).taken ++ crew.shared.queue.items =
        start.shared.queue.items ++ (gathered accepted history).map Prod.snd ∧
      (∀ task, ((gathered accepted history).filter fun item => item.1 == task).map (fun item => some item.2) =
        (List.range (crew.place task).sent).map (w.source task)) ∧
      (w.limit = none → (∀ task ≤ w.producers, (crew.place task).finished = true) →
        crew.shared.queue.items = [] ∧ ∀ task, 0 < task → task ≤ w.producers → w.source task (crew.place task).sent = none) := by
  have contents := run_contents run
  have consumer : start.place 0 = .receiving [] := run.initial.2.consumer
  refine ⟨?_, run_supply run, fun unlimited finished => ?_⟩
  · simp only [MpscTasks.contents, Crew.map, consumer, Role.taken, List.nil_append] at contents
    exact contents.symm
  · have lossless := run_lossless unlimited run
    have staffed := (run_working (seen_run run)).staffed
    constructor
    · refine (lossless.drained fun taken receives => ?_).1
      have busy := finished 0 (Nat.zero_le _)
      change crew.place 0 = _ at receives
      rw [receives] at busy
      cases busy
    · intro task positive within
      have done := finished task within
      have produces := staffed.produces task positive
      change (crew.place task).produces = true at produces
      cases place : crew.place task with
      | left sent => exact lossless.exhausted task sent within place
      | _ =>
        rw [place] at done produces
        first | exact absurd done Bool.false_ne_true | exact absurd produces Bool.false_ne_true

/-- The first producer is served, and the second one waits. -/
theorem mpsc_delivers_zipped :
    ∃ history final, (zipped.system Nat .checked).play [] (zipped.crew joined)
        [⟨1, .send (.sender 0) 1⟩, ⟨2, .send (.sender 1) 2⟩, ⟨1, .pollFuture 0 0⟩, ⟨2, .pollFuture 1 0⟩,
         ⟨0, .pollRecv true 0⟩] =
          some (history, final) ∧
      gathered accepted history = [(1, 1)] ∧
      (final.place 0).taken ++ final.shared.queue.items = [] ++ (gathered accepted history).map Prod.snd := by
  obtain ⟨history, final, played, run, passed⟩ := (zipped.system Nat .checked).exists_run _ (zipped_starts .checked)
    [⟨1, .send (.sender 0) 1⟩, ⟨2, .send (.sender 1) 2⟩, ⟨1, .pollFuture 0 0⟩, ⟨2, .pollFuture 1 0⟩,
     ⟨0, .pollRecv true 0⟩]
    (fun history _ => gathered accepted history = [(1, 1)]) (by decide +kernel)
  exact ⟨history, final, played, passed, (mpsc_delivers run).1⟩

end Runs
end AsyncUnsync.Proofs.MpscTasks
