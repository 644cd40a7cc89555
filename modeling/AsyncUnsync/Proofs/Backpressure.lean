import AsyncUnsync.Proofs.MpscDelivery
import AsyncUnsync.Proofs.UnboundedDelivery

/-! Backpressure only delays. What the tasks of an mpsc program do over a bounded channel, they could
have done over an unbounded one. -/

namespace AsyncUnsync.Proofs.Backpressure
open Memory Transition Mpsc MailboxSystem
variable {T : Type} {build build' : Build} {w : Workload T} {task : Nat} {role role' : Role T}

/-- A task as it would be if it never had to wait. Its sender may be another one. -/
def unhurried : Role T → Role T
  | .producing _ sent | .sending _ sent _ => .producing 0 sent
  | .leaving _ sent => .leaving 0 sent
  | role => role

/-- The same tasks over both channels, with the same elements between them. -/
structure Alike (crew : Crew (Scene T) (Role T)) (free : Crew (UnboundedSystem.State T) (Role T)) : Prop where
  places : ∀ task, unhurried (crew.place task) = unhurried (free.place task)
  items : crew.shared.mailbox.items = free.shared.queue.items
  mask : crew.shared.mailbox.mask = free.shared.queue.mask

theorem unhurried_seen {free : Role T} (same : unhurried role = unhurried free) :
    free.sent = role.sent ∧ free.taken = role.taken ∧ free.finished = role.finished ∧ free.produces = role.produces := by
  have seen : ∀ role : Role T, (unhurried role).sent = role.sent ∧ (unhurried role).taken = role.taken ∧
      (unhurried role).finished = role.finished ∧ (unhurried role).produces = role.produces := by
    intro role
    cases role <;> exact ⟨rfl, rfl, rfl, rfl⟩
  obtain ⟨sent, taken, finished, produces⟩ := seen role
  obtain ⟨sent', taken', finished', produces'⟩ := seen free
  rw [same] at sent taken finished produces
  exact ⟨sent'.symm.trans sent, taken'.symm.trans taken, finished'.symm.trans finished, produces'.symm.trans produces⟩

section Moves
variable {crew : Crew (Scene T) (Role T)} {free freeStart : Crew (UnboundedSystem.State T) (Role T)}
  {shared : Scene T} {shared' : UnboundedSystem.State T} {outcome : BoundedSystem.Outcome T}
  {outcome' : UnboundedSystem.Outcome T} {freeRole freeRole' : Role T}

theorem mask_agrees (staffed : MpscTasks.Staffed w crew) {id : Addr} (owns : (crew.place task).sender = some id) :
    crew.shared.mailbox.mask.isClosed true = crew.shared.mailbox.slots.closed := by
  have some := Handles.senderCount_pos ((staffed.owned id).mpr ⟨task, owns⟩)
  have counted := staffed.counted
  rw [if_neg (by omega)] at counted
  rw [Mask.isClosed_counted, counted]
  cases crew.shared.mailbox.slots.closed <;> simp

/-- A turn in which a task begins to wait, or waits on. -/
def Waits (outcome : BoundedSystem.Outcome T) : Prop := Workload.suspends outcome = true ∨ ∃ a, outcome.reply = .future a

theorem Alike.waits (alike : Alike crew free) (move : MpscTasks.Move w crew.shared task (crew.place task) role' shared outcome)
    (waits : Waits outcome) :
    Alike (MpscTasks.advance w crew task role' shared outcome) free ∧
      MpscTasks.passed crew.shared.clients (crew.place task) outcome = [] := by
  have still : unhurried role' = unhurried (crew.place task) ∧ shared.mailbox.items = crew.shared.mailbox.items ∧
      shared.mailbox.mask = crew.shared.mailbox.mask ∧ MpscTasks.passed crew.shared.clients (crew.place task) outcome = [] := by
    generalize crew.place task = role at move
    cases move with
    | begins | waits | idles | listens => exact ⟨rfl, rfl, rfl, rfl⟩
    | _ => rcases waits with suspends | ⟨_, future⟩ <;> first | cases suspends | cases future
  obtain ⟨seen, items, mask, passed⟩ := still
  refine ⟨⟨fun other => ?_, items.trans alike.items, mask.trans alike.mask⟩, passed⟩
  rw [MpscTasks.place_same w shared outcome unhurried rfl seen]
  exact alike.places other

/-- Any other turn is matched by the turn of the same task over the unbounded channel. -/
theorem Alike.matched (alike : Alike crew free) (working : MpscTasks.Working w crew)
    (move : MpscTasks.Move w crew.shared task (crew.place task) role' shared outcome) (active : ¬ Waits outcome)
    (freely : UnboundedTasks.Move w free.shared task (free.place task) freeRole' shared' outcome') :
    unhurried role' = unhurried freeRole' ∧ shared.mailbox.items = shared'.queue.items ∧
      shared.mailbox.mask = shared'.queue.mask ∧
      MpscTasks.passed crew.shared.clients (crew.place task) outcome = UnboundedTasks.passed w task (free.place task) outcome' := by
  have same := alike.places task
  have items := alike.items
  have mask := alike.mask
  have agrees : ∀ id, (crew.place task).sender = some id →
      crew.shared.mailbox.mask.isClosed true = crew.shared.mailbox.slots.closed := fun _ => mask_agrees working.staffed
  have closed : free.shared.queue.isClosed true = crew.shared.mailbox.mask.isClosed true := by rw [mask]; rfl
  have sending : ∀ sender a sent elem, crew.place task = .sending sender sent a → w.source task sent = some elem →
      outcome.reply = .sent (.ok ()) → MpscTasks.passed crew.shared.clients (.sending sender sent a) outcome = [elem] :=
    fun _ _ _ _ => MpscTasks.passed_sending working.asking
  generalize place : crew.place task = role at move same agrees sending
  generalize free.place task = freeRole at freely same
  cases move with
  | begins | waits | idles | listens => exact absurd (by simp [Waits, Workload.suspends]) active
  | @sends sender sent a elem _ opened supplied =>
    rw [agrees _ rfl, opened] at closed
    cases freely with
    | sends supplied' =>
      cases same
      cases supplied.symm.trans supplied'
      refine ⟨rfl, ?_, mask, ?_⟩
      · simp [items]
      · rw [sending sender a sent elem rfl supplied rfl]
        simp [UnboundedTasks.passed, supplied]
    | refused _ closed' => cases closed.symm.trans closed'
    | leaves gone | leavesLast gone =>
      rcases gone with ⟨rfl, exhausted⟩ | rfl
      · cases same
        cases supplied.symm.trans exhausted
      · cases same
    | _ => cases same
  | @refused sender sent a elem shut supplied =>
    rw [agrees _ rfl, shut] at closed
    cases freely with
    | sends _ opened' => cases closed.symm.trans opened'
    | refused =>
      cases same
      exact ⟨rfl, items, mask, rfl⟩
    | leaves gone | leavesLast gone =>
      rcases gone with ⟨rfl, exhausted⟩ | rfl
      · cases same
        cases supplied.symm.trans exhausted
      · cases same
    | _ => cases same
  | leaves gone count | leavesLast gone count =>
    rw [mask] at count
    cases freely with
    | leaves gone' count' | leavesLast gone' count' =>
      rcases gone with ⟨rfl, _⟩ | rfl <;> rcases gone' with ⟨rfl, _⟩ | rfl <;> cases same
      all_goals first | omega | exact ⟨rfl, items, by simp only [mask], rfl⟩
    | sends supplied | refused supplied =>
      rcases gone with ⟨rfl, exhausted⟩ | rfl
      · cases same
        cases supplied.symm.trans exhausted
      · cases same
    | _ => rcases gone with ⟨rfl, _⟩ | rfl <;> cases same
  | takes found =>
    cases freely with
    | takes found' =>
      cases same
      rw [← items] at found'
      cases found.symm.trans found'
      exact ⟨rfl, rfl, mask, rfl⟩
    | listens empty | ends empty =>
      rw [← items] at empty
      cases found.symm.trans empty
    | leaves gone | leavesLast gone => rcases gone with ⟨rfl, _⟩ | rfl <;> cases same
    | _ => cases same
  | ends empty shut =>
    rw [shut] at closed
    cases freely with
    | takes found =>
      rw [← items] at found
      cases empty.symm.trans found
    | listens _ opened => cases closed.symm.trans opened
    | ends =>
      cases same
      exact ⟨rfl, empty, mask, rfl⟩
    | leaves gone | leavesLast gone => rcases gone with ⟨rfl, _⟩ | rfl <;> cases same
    | _ => cases same
  | closes =>
    cases freely with
    | closes =>
      cases same
      exact ⟨rfl, items, congrArg (Mask.close true) mask, rfl⟩
    | leaves gone | leavesLast gone => rcases gone with ⟨rfl, _⟩ | rfl <;> cases same
    | _ => cases same
  | departs =>
    cases freely with
    | departs =>
      cases same
      exact ⟨rfl, items, congrArg (Mask.close true) mask, rfl⟩
    | leaves gone | leavesLast gone => rcases gone with ⟨rfl, _⟩ | rfl <;> cases same
    | _ => cases same

theorem active_unfinished {scene : Scene T} (move : MpscTasks.Move w scene task role role' shared outcome) :
    role.finished = false := by
  cases move with
  | leaves gone | leavesLast gone => rcases gone with ⟨rfl, _⟩ | rfl <;> rfl
  | _ => rfl

theorem Alike.awake (alike : Alike crew free) (working : UnboundedTasks.Working w free)
    (move : MpscTasks.Move w crew.shared task (crew.place task) role' shared outcome) (active : ¬ Waits outcome) :
    free.awake task = true := by
  rcases Nat.eq_zero_or_pos task with rfl | positive
  · by_contra asleep
    obtain ⟨⟨taken, receiving⟩, empty, opened, _⟩ := working.listens (Bool.eq_false_iff.mpr asleep)
    have same := alike.places 0
    rw [receiving] at same
    rw [← alike.items] at empty
    rw [Queue.isClosed, ← alike.mask] at opened
    generalize crew.place 0 = role at move same
    cases move with
    | listens => exact active (.inl rfl)
    | takes found => cases found.symm.trans empty
    | ends _ closed => cases closed.symm.trans opened
    | leaves gone | leavesLast gone => rcases gone with ⟨rfl, _⟩ | rfl <;> cases same
    | _ => cases same
  · exact working.awake task positive

end Moves

section Runs
variable {start crew : Crew (BoundedSystem.State T) (Role T)} {free freeStart : Crew (UnboundedSystem.State T) (Role T)}
  {history : History (Crew (BoundedSystem.State T) (Role T)) (Turn (BoundedSystem.Action T)) (BoundedSystem.Outcome T)}
  {freely : History (Crew (UnboundedSystem.State T) (Role T)) (Turn (UnboundedSystem.Action T)) (UnboundedSystem.Outcome T)}

private theorem senderCount_eq {h : Handles} {place : Nat → Role T} {count : Nat}
    (held : Program.Held Role.sender (fun id => h.usable (.sender id) = true) place)
    (producing : ∀ task, 0 < task → task ≤ count → ∃ sender, place task = .producing sender 0)
    (rest : ∀ task, task = 0 ∨ count < task → (place task).sender = none) : h.senderCount = count := by
  have owns : ∀ task < count, (place (task + 1)).sender = some (((place (task + 1)).sender).getD 0) := by
    intro task within
    obtain ⟨sender, producer⟩ := producing (task + 1) (Nat.succ_pos _) within
    rw [producer]
    rfl
  have nodup : ((List.range count).map fun task => ((place (task + 1)).sender).getD 0).Nodup := by
    apply List.Nodup.map_on _ List.nodup_range
    intro task within task' within' same
    have mine := owns task (List.mem_range.mp within)
    rw [same] at mine
    exact Nat.succ.inj (held.apart _ _ _ mine (owns task' (List.mem_range.mp within')))
  rw [Handles.senderCount, Arena.count_eq_length _ _ nodup, List.length_map, List.length_range]
  intro id
  have live : (∃ value, h.senders.get? id = some value ∧ true = true) ↔ h.usable (.sender id) = true := by
    simp [Handles.usable, Option.isSome_iff_exists]
  rw [live, held.held, List.mem_map]
  constructor
  · rintro ⟨task, within, rfl⟩
    exact ⟨task + 1, owns task (List.mem_range.mp within)⟩
  · rintro ⟨task, mine⟩
    have inside : 0 < task ∧ task ≤ count := by
      by_contra outside
      rw [rest task (by omega)] at mine
      cases mine
    obtain ⟨task, rfl⟩ := Nat.exists_eq_succ_of_ne_zero (Nat.ne_of_gt inside.1)
    exact ⟨task, List.mem_range.mpr inside.2, by rw [mine]; rfl⟩

private theorem start_alike {shared : Crew (Scene T) (Role T)} (assembled : w.Assembled shared)
    (assembled' : UnboundedMpsc.Assembled w freeStart) (items : freeStart.shared.queue.items = shared.shared.mailbox.items) :
    Alike shared freeStart := by
  have absent : ∀ place : Nat → Role T, place 0 = .receiving [] → (∀ task, w.producers < task → place task = .left 0) →
      ∀ task, task = 0 ∨ w.producers < task → (place task).sender = none := by
    rintro place consumer left task (rfl | beyond)
    · rw [consumer]
      rfl
    · rw [left task beyond]
      rfl
  have senders := senderCount_eq ⟨assembled.owned, assembled.apart⟩ assembled.producing
    (absent _ assembled.consumer assembled.absent)
  have senders' := senderCount_eq ⟨assembled'.owned, assembled'.apart⟩ assembled'.producing
    (absent _ assembled'.consumer assembled'.absent)
  refine ⟨fun task => ?_, items.symm, ?_⟩
  · rcases Nat.eq_zero_or_pos task with rfl | positive
    · rw [assembled.consumer, assembled'.consumer]
    · by_cases within : task ≤ w.producers
      · obtain ⟨sender, place⟩ := assembled.producing task positive within
        obtain ⟨sender', place'⟩ := assembled'.producing task positive within
        rw [place, place']
        rfl
      · rw [assembled.absent task (by omega), assembled'.absent task (by omega)]
  · have counted := assembled.counted
    have counted' := assembled'.counted
    rw [senders] at counted
    rw [senders', ← counted] at counted'
    exact congrArg Mask.mk counted'.symm

theorem turn_taken (run : (UnboundedMpsc.system w build).Run freeStart freely free) (within : task ≤ w.producers)
    (awake : free.awake task = true) (unfinished : (free.place task).finished = false) :
    ∃ event : Event _ _ _, (UnboundedMpsc.system w build).Run freeStart (event :: freely) event.after ∧
      event.before = free ∧ event.action.task = task := by
  obtain ⟨action, ⟨after, outcome⟩, able, stepped⟩ := UnboundedTasks.turn_returns run within awake unfinished
  exact ⟨⟨free, ⟨task, action⟩, outcome, after⟩, .step run able stepped, rfl, rfl⟩

/-- The step lemma: a turn over the bounded channel is no turn over the unbounded one, or the turn of the same task. -/
private theorem turn_matched
    {past : History (Crew (BoundedSystem.State T) (Role T)) (Turn (BoundedSystem.Action T)) (BoundedSystem.Outcome T)}
    {event : Event (Crew (BoundedSystem.State T) (Role T)) (Turn (BoundedSystem.Action T)) (BoundedSystem.Outcome T)}
    (run : (w.system T build).Run start (event :: past) event.after) (run' : (UnboundedMpsc.system w build').Run freeStart freely free)
    (alike : Alike (event.before.map view) free) :
    ∃ more after, (UnboundedMpsc.system w build').Run freeStart (more ++ freely) after ∧
      gathered (UnboundedTasks.accepted w) more = MpscTasks.accepted event ∧ Alike (event.after.map view) after := by
  obtain ⟨working, _, within, role, shared, move, moved⟩ := MpscTasks.event_move run
  have free' := UnboundedTasks.run_working run'
  have busy := active_unfinished move
  rw [moved]
  by_cases waits : Waits event.outcome
  · obtain ⟨still, passed⟩ := alike.waits move waits
    have nothing : MpscTasks.accepted event = [] := congrArg (List.map _) passed
    exact ⟨[], free, run', nothing.symm, still⟩
  · have awake := alike.awake free' move waits
    have unfinished : (free.place event.action.task).finished = false := by
      rw [(unhurried_seen (alike.places event.action.task)).2.2.1]
      exact busy
    obtain ⟨taken, longer, rfl, same⟩ := turn_taken run' within awake unfinished
    obtain ⟨_, _, freeRole, shared', freely', resumed, moved'⟩ := UnboundedTasks.event_move longer
    rw [same] at freely' resumed moved'
    obtain ⟨roles, items, mask, passed⟩ := alike.matched working move waits freely'
    have handed : UnboundedTasks.accepted w taken = MpscTasks.accepted event := by
      rw [UnboundedTasks.accepted, MpscTasks.accepted, same, ← passed]
      rfl
    refine ⟨[taken], _, longer, handed, fun other => ?_, ?_, ?_⟩
    · have placed : taken.after.place = Function.update taken.before.place event.action.task freeRole :=
        (congrArg Crew.place moved').trans (Program.proceed_place resumed)
      rw [placed]
      by_cases self : other = event.action.task
      · rw [self, MpscTasks.place_self, Function.update_self]
        exact roles
      · rw [MpscTasks.place_other self, Function.update_of_ne self]
        exact alike.places other
    · rw [moved']
      exact items
    · rw [moved']
      exact mask

def unfilled : UnboundedSystem.State Nat :=
  ⟨{ (.new : UnboundedQueue Nat) with mask := ⟨4⟩ }, ⟨true, true, ⟨[some (), some ()]⟩⟩⟩

theorem unfilled_starts (build : Build) : (UnboundedMpsc.system MpscTasks.zipped build).Initial (MpscTasks.zipped.crew unfilled) := by
  constructor
  · have initial : (UnboundedSystem.system Nat build).Initial (.new .new) := ⟨_, .inl rfl, rfl⟩
    cases build <;>
    · obtain ⟨history, final, _, run, rfl⟩ := (UnboundedSystem.system Nat _).exists_run _ initial [.split, .cloneSender 0]
        (fun _ final => final = unfilled) (by decide)
      exact ⟨_, _, run⟩
  · refine UnboundedTasks.crew_assembled (by decide) rfl ?_ (by decide)
    intro id
    match id with
    | 0 | 1 => decide
    | id + 2 => exact iff_of_false (by simp [unfilled, Handles.usable, Arena.get?]) (by simp [MpscTasks.zipped])

/-- Every run of the tasks over a bounded channel is matched by a run of the same tasks over an unbounded
channel that holds the same elements at first, both assembled as usual: the same elements are accepted of the
same producers in the same order, and everybody gets as far, the consumer with the same elements. -/
theorem backpressure_hidden (run : (w.system T build).Run start history crew)
    (initial : (UnboundedMpsc.system w build').Initial freeStart)
    (items : freeStart.shared.queue.items = start.shared.queue.items) :
    ∃ freely free, (UnboundedMpsc.system w build').Run freeStart freely free ∧
      gathered (UnboundedTasks.accepted w) freely = gathered MpscTasks.accepted history ∧
      free.shared.queue.items = crew.shared.queue.items ∧
      ∀ task, (free.place task).sent = (crew.place task).sent ∧ (free.place task).taken = (crew.place task).taken ∧
        (free.place task).finished = (crew.place task).finished := by
  obtain ⟨freely, free, run', expands, alike⟩ := run.matched (fun crew free => Alike (crew.map view) free)
    (fun _ _ => trivial) initial (start_alike run.initial.2 initial.2 items)
    fun _ _ _ _ reached _ run' alike => turn_matched reached run' alike
  refine ⟨freely, free, run', expands.gathered fun _ _ agreed => agreed, alike.items.symm, fun task => ?_⟩
  obtain ⟨sent, taken, finished, _⟩ := unhurried_seen (alike.places task)
  exact ⟨sent, taken, finished⟩

/-- The test of the crate: the second producer waits for the slot that the first one took. -/
theorem backpressure_hidden_zipped :
    ∃ history final, (MpscTasks.zipped.system Nat .checked).play [] (MpscTasks.zipped.crew MpscTasks.joined)
        [⟨1, .send (.sender 0) 1⟩, ⟨2, .send (.sender 1) 2⟩, ⟨1, .pollFuture 0 0⟩, ⟨2, .pollFuture 1 0⟩,
         ⟨0, .pollRecv true 0⟩] =
          some (history, final) ∧
      ∃ freely free, (UnboundedMpsc.system MpscTasks.zipped .checked).Run (MpscTasks.zipped.crew unfilled) freely free ∧
        gathered (UnboundedTasks.accepted MpscTasks.zipped) freely = [(1, 1)] ∧ (free.place 0).taken = (final.place 0).taken := by
  obtain ⟨history, final, played, run, passed⟩ := (MpscTasks.zipped.system Nat .checked).exists_run _ (MpscTasks.zipped_starts .checked)
    [⟨1, .send (.sender 0) 1⟩, ⟨2, .send (.sender 1) 2⟩, ⟨1, .pollFuture 0 0⟩, ⟨2, .pollFuture 1 0⟩,
     ⟨0, .pollRecv true 0⟩]
    (fun history _ => gathered MpscTasks.accepted history = [(1, 1)]) (by decide +kernel)
  obtain ⟨freely, free, run', agreed, _, places⟩ := backpressure_hidden run (unfilled_starts .checked) rfl
  exact ⟨history, final, played, freely, free, run', agreed.trans passed, (places 0).2.1⟩

end Runs
end AsyncUnsync.Proofs.Backpressure
