import AsyncUnsync.Proofs.MpscDelivery

/-! An mpsc program ends, whatever the order of its turns, if only finitely many elements
can be accepted. Every turn brings its task nearer to its end, or puts it to sleep. -/

namespace AsyncUnsync.Proofs.MpscTasks
open Memory Transition BoundedSystem MailboxSystem MailboxRefinement Mpsc SlotTurns
variable {T : Type} {build : Build} {w : Workload T} {crew : Crew (Scene T) (Role T)} {shared : Scene T} {task : Nat}
  {role role' : Role T} {outcome : Outcome T}

/-- How far a task is from its end, or from the next element. -/
def stage (requests : Arena Request) : Role T → Nat
  | .producing _ _ => 5
  | .sending _ _ a => if requests.get? a = some .fresh then 4 else 3
  | .closing _ => 3
  | .leaving _ _ | .receiving _ => 2
  | .departing _ => 1
  | .left _ | .departed _ => 0

def sentAll (w : Workload T) (crew : Crew (Scene T) (Role T)) : Nat :=
  ((List.range (w.producers + 1)).map fun task => (crew.place task).sent).sum

def stages (w : Workload T) (crew : Crew (Scene T) (Role T)) : Nat :=
  ((List.range (w.producers + 1)).map fun task => stage crew.shared.mailbox.slots.requests (crew.place task)).sum

/-- At most `most` elements are ever accepted. -/
def rank (w : Workload T) (most : Nat) (crew : Crew (Scene T) (Role T)) : Nat :=
  5 * (most - sentAll w crew) + 2 * crew.shared.mailbox.items.length + stages w crew

theorem sentAll_moves (w : Workload T) (shared : Scene T) (outcome : Outcome T) (role' : Role T) (within : task ≤ w.producers)
    (place : crew.place task = role) :
    sentAll w (advance w crew task role' shared outcome) + role.sent = sentAll w crew + role'.sent := by
  have moved := Program.sum_moved (f := fun task => (crew.place task).sent)
    (g := fun other => ((advance w crew task role' shared outcome).place other).sent)
    (fun other different => by rw [place_other different]) (Nat.lt_succ_of_le within)
  simp only [place_self, place] at moved
  exact moved

private theorem Move.fresh (lined : Lined crew.shared) (move : Move w crew.shared task role role' shared outcome) {a : Addr}
    (live : (crew.shared.mailbox.slots.requests.get? a).isSome = true) (elsewhere : role.future ≠ some a) :
    shared.mailbox.slots.requests.get? a = some .fresh ↔ crew.shared.mailbox.slots.requests.get? a = some .fresh := by
  have settled : ∀ request, request ≠ .fresh → ∀ line, line.Nodup → line ⊆ crew.shared.mailbox.slots.line →
      ((crew.shared.mailbox.slots.requests.modifyAll (fun _ => request) line).get? a = some .fresh ↔
        crew.shared.mailbox.slots.requests.get? a = some .fresh) := by
    intro request old line nodup inside
    rw [Arena.get?_modifyAll _ nodup]
    split
    next member =>
      obtain ⟨waker, waits⟩ := (lined.waits a).mp (inside member)
      simp [waits, old]
    next => rfl
  cases move with
  | begins =>
    obtain ⟨request, held⟩ := Option.isSome_iff_exists.mp live
    simp only [Slots.request, Arena.get?_alloc_of_live held, held]
  | @waits sender sent b =>
    have different : a ≠ b := fun same => elsewhere (congrArg some same.symm)
    simp only [Arena.get?_put_ne _ different]
  | @sends sender sent b =>
    have different : a ≠ b := fun same => elsewhere (congrArg some same.symm)
    simp only [Slots.forget, Arena.get?_free_ne _ different]
  | @refused sender sent b elem closed =>
    have different : a ≠ b := fun same => elsewhere (congrArg some same.symm)
    obtain ⟨free, withdrawn, _⟩ := withdraw_closed lined.toOrderly closed b
    simp only [withdrawn, Arena.get?_free_ne _ different]
  | takes => exact settled .granted (by simp) _ (lined.nodup.sublist (List.take_sublist 1 _)) (List.take_subset ..)
  | closes | departs => exact settled .refused (by simp) _ lined.nodup fun _ inside => inside
  | idles | leaves | leavesLast | listens | ends => rfl

theorem stages_moves (working : Working w crew) (lined : Lined crew.shared) (within : task ≤ w.producers)
    (place : crew.place task = role) (move : Move w crew.shared task role role' shared outcome) :
    stages w (advance w crew task role' shared outcome) + stage crew.shared.mailbox.slots.requests role =
      stages w crew + stage shared.mailbox.slots.requests role' := by
  have moved := Program.sum_moved (f := fun task => stage crew.shared.mailbox.slots.requests (crew.place task))
    (g := fun other => stage shared.mailbox.slots.requests ((advance w crew task role' shared outcome).place other))
    ?_ (Nat.lt_succ_of_le within)
  · simp only [place_self, place] at moved
    exact moved
  · intro other different
    rw [place_other different]
    cases sends : crew.place other with
    | sending sender sent a =>
      obtain ⟨_, request, _, _, held, _⟩ := working.asking.asked _ _ _ _ sends
      have elsewhere : role.future ≠ some a := by
        intro mine
        exact different (working.asking.alone working.staffed (by rw [sends]; rfl) (by rw [place, mine]))
      simp only [stage, move.fresh lined (by rw [held]; rfl) elsewhere]
    | _ => rfl

private theorem stage_sending (requests : Arena Request) (sender a : Addr) (sent : Nat) :
    3 ≤ stage requests (.sending sender sent a : Role T) := by
  simp only [stage]
  split <;> omega

/-- Every move lowers the rank, but for a vain poll. -/
theorem rank_moves {most : Nat} (working : Working w crew) (lined : Lined crew.shared) (within : task ≤ w.producers)
    (place : crew.place task = role) (move : Move w crew.shared task role role' shared outcome)
    (few : sentAll w (advance w crew task role' shared outcome) ≤ most) :
    rank w most (advance w crew task role' shared outcome) < rank w most crew ∨
      rank w most (advance w crew task role' shared outcome) = rank w most crew ∧
        Workload.suspends outcome = true ∧ outcome.woken = [] := by
  have sent := sentAll_moves w shared outcome role' within place
  have staged := stages_moves working lined within place move
  simp only [rank, advance_shared]
  generalize sentAll w (advance w crew task role' shared outcome) = after at *
  generalize stages w (advance w crew task role' shared outcome) = later at *
  cases move with
  | begins =>
    simp only [Role.sent, stage, Slots.request, lined.size, Arena.get?_alloc_self, if_true] at sent staged
    dsimp only
    omega
  | waits opened fresh =>
    simp only [Role.sent, stage, fresh, if_true, Arena.get?_put_self fresh, Option.some.injEq, reduceCtorEq, if_false] at sent staged
    dsimp only
    omega
  | idles =>
    simp only [Role.sent] at sent
    refine .inr ⟨?_, rfl, rfl⟩
    omega
  | @sends sender sent' a =>
    have old := stage_sending (T := T) crew.shared.mailbox.slots.requests sender a sent'
    simp only [Role.sent] at sent
    rw [show ∀ requests, stage requests (.producing sender (sent' + 1) : Role T) = 5 from fun _ => rfl] at staged
    simp only [List.length_append, List.length_singleton]
    omega
  | @refused sender sent' a =>
    have old := stage_sending (T := T) crew.shared.mailbox.slots.requests sender a sent'
    simp only [Role.sent] at sent
    rw [show ∀ requests, stage requests (.leaving sender sent' : Role T) = 2 from fun _ => rfl] at staged
    dsimp only
    omega
  | leaves gone | leavesLast gone =>
    rcases gone with ⟨rfl, _⟩ | rfl <;> simp only [Role.sent, stage] at sent staged ⊢ <;> omega
  | takes items =>
    simp only [items, List.length_cons]
    unfold Workload.take at sent staged
    split at staged
    next limited =>
      simp only [if_pos limited, Role.sent, stage] at sent staged
      omega
    next more =>
      simp only [if_neg more, Role.sent, stage] at sent staged
      omega
  | listens =>
    simp only [Role.sent, stage] at sent staged
    refine .inr ⟨?_, rfl, rfl⟩
    dsimp only
    omega
  | ends =>
    simp only [Role.sent, stage] at sent staged
    omega
  | closes | departs =>
    simp only [Role.sent, stage] at sent staged
    simp only [Mailbox.close]
    omega

section Bounds
variable {start : Crew (Scene T) (Role T)}

private theorem Move.slots (lined : Lined crew.shared) (asking : Asking w crew) (place : crew.place task = role)
    (move : Move w crew.shared task role role' shared outcome) :
    unused shared.mailbox.slots + shared.mailbox.items.length ≤
      unused crew.shared.mailbox.slots + crew.shared.mailbox.items.length := by
  cases move with
  | begins => simp [unused, Slots.request]
  | waits opened fresh =>
    have same := Arena.sum_put fresh (fun request => if request == .granted then 1 else 0) (.waiting (w.waker task))
    change _ + 0 = _ + 0 at same
    simp only [unused, Arena.count]
    omega
  | sends opened supplied slot =>
    simp only [unused, Slots.forget, List.length_append, List.length_singleton]
    rcases slot with ⟨held, slots⟩ | ⟨held, slots⟩
    · have fewer := Arena.count_free held fun request => request == .granted
      omega
    · have fewer := Arena.count_free held fun request => request == .granted
      simp only [beq_self_eq_true, if_true] at fewer
      omega
  | refused closed =>
    obtain ⟨_, _, _, _, held, _⟩ := asking.asked _ _ _ _ place
    exact Nat.add_le_add_right (unused_withdraw lined.toOrderly closed held).1 _
  | takes items =>
    have given := (unused_give lined.toOrderly).2
    simp only [items, List.length_cons]
    omega
  | closes | departs => simp only [Mailbox.close, unused_close lined.toOrderly, Nat.le_refl]
  | idles | leaves | leavesLast | listens | ends => exact Nat.le_refl _

theorem sent_passed (working : Working w crew) (place : crew.place task = role)
    (move : Move w crew.shared task role role' shared outcome) :
    role'.sent = role.sent + (passed crew.shared.clients role outcome).length := by
  have supply := congrArg List.length (supply_moves working place move)
  simpa using supply

/-- As long as the channel is open, the consumer has taken less than its limit, or is about to close it. -/
structure Limited (w : Workload T) (limit : Nat) (start crew : Crew (Scene T) (Role T)) : Prop where
  slots : unused crew.shared.mailbox.slots + crew.shared.mailbox.items.length ≤
    start.shared.mailbox.slots.free + start.shared.mailbox.items.length
  total : sentAll w crew + start.shared.mailbox.items.length = (contents crew).length
  taken : crew.shared.mailbox.slots.closed = false →
    (crew.place 0).taken.length < limit ∨ (crew.place 0).taken.length = limit ∧ ∃ taken, crew.place 0 = .closing taken
  few : sentAll w crew ≤ limit + start.shared.mailbox.slots.free

private theorem Move.shut (lined : Lined crew.shared) (move : Move w crew.shared task role role' shared outcome)
    (closed : crew.shared.mailbox.slots.closed = true) : shared.mailbox.slots.closed = true := by
  cases move with
  | refused =>
    obtain ⟨free, withdrawn, _⟩ := withdraw_closed lined.toOrderly closed _
    rw [withdrawn]
    exact closed
  | closes | departs => rfl
  | _ => exact closed

private theorem Move.taken {limit : Nat} (limited : w.limit = some limit) (staffed : Staffed w crew) (lined : Lined crew.shared)
    (place : crew.place task = role) (move : Move w crew.shared task role role' shared outcome)
    (before : crew.shared.mailbox.slots.closed = false →
      (crew.place 0).taken.length < limit ∨ (crew.place 0).taken.length = limit ∧ ∃ taken, crew.place 0 = .closing taken)
    (opened : shared.mailbox.slots.closed = false) :
    ((advance w crew task role' shared outcome).place 0).taken.length < limit ∨
      ((advance w crew task role' shared outcome).place 0).taken.length = limit ∧
        ∃ taken, (advance w crew task role' shared outcome).place 0 = .closing taken := by
  have before := before (Bool.eq_false_iff.mpr fun closed => by rw [move.shut lined closed] at opened; cases opened)
  by_cases producer : role.produces = true
  · have positive := staffed.producer (by rw [place, producer])
    rwa [place_other (by omega)]
  · have zero := staffed.zero (by rw [place]; simpa using producer)
    subst zero
    rw [place_self]
    rw [place] at before
    cases move with
    | @takes taken elem =>
      simp only [Role.taken, reduceCtorEq, exists_false, and_false, or_false] at before
      unfold Workload.take
      split
      next reached =>
        rw [limited] at reached
        exact .inr ⟨(Option.some.inj reached).symm, _, rfl⟩
      next more =>
        rw [limited, Option.some.injEq] at more
        left
        simp only [Role.taken, List.length_append, List.length_singleton] at more ⊢
        omega
    | listens => exact before
    | ends | departs =>
      left
      simpa [Role.taken] using before
    | closes => cases opened
    | leaves gone | leavesLast gone => rcases gone with ⟨rfl, _⟩ | rfl <;> exact absurd rfl producer
    | _ => exact absurd rfl producer

theorem Limited.moves {limit : Nat} (limited : Limited w limit start crew) (limits : w.limit = some limit)
    (working : Working w crew) (lined : Lined crew.shared) (within : task ≤ w.producers) (place : crew.place task = role)
    (move : Move w crew.shared task role role' shared outcome) :
    Limited w limit start (advance w crew task role' shared outcome) := by
  have slots := (move.slots lined working.asking place).trans limited.slots
  have taken := move.taken limits working.staffed lined place limited.taken
  have sent := sentAll_moves w shared outcome role' within place
  have passed := sent_passed working place move
  have total : sentAll w (advance w crew task role' shared outcome) + start.shared.mailbox.items.length =
      (contents (advance w crew task role' shared outcome)).length := by
    have grown := congrArg List.length (contents_moves working place move)
    have before := limited.total
    rw [List.length_append] at grown
    omega
  refine ⟨slots, total, taken, ?_⟩
  have few := limited.few
  by_cases opened : shared.mailbox.slots.closed = false
  · simp only [contents, List.length_append, advance_shared] at total
    have short := taken opened
    omega
  · -- after the close nothing is accepted
    have none : role'.sent = role.sent := by
      cases move with
      | sends open_ => exact absurd open_ opened
      | takes =>
        unfold Workload.take
        split <;> rfl
      | leaves gone | leavesLast gone => rcases gone with ⟨rfl, _⟩ | rfl <;> rfl
      | _ => rfl
    omega

end Bounds

section Runs
variable {start crew : Crew (State T) (Role T)} {history : History (Crew (State T) (Role T)) (Turn (Action T)) (Outcome T)}

private theorem sum_le {f g : Nat → Nat} (count : Nat) (below : ∀ task < count, f task ≤ g task) :
    ((List.range count).map f).sum ≤ ((List.range count).map g).sum := by
  induction count with
  | zero => exact Nat.le_refl _
  | succ count ih =>
    simp only [List.range_succ, List.map_append, List.sum_append, List.map_cons, List.map_nil, List.sum_cons, List.sum_nil]
    exact Nat.add_le_add (ih fun task within => below task (by omega)) (by simpa using below count (Nat.lt_succ_self _))

theorem run_limited {limit : Nat} (limits : w.limit = some limit) (positive : 0 < limit)
    (run : (w.system T build).Run start history crew) : Limited w limit (start.map view) (crew.map view) := by
  induction run with
  | start initial =>
    have assembled := initial.2
    have nothing : ∀ task, ((start.map view).place task).sent = 0 := by
      intro task
      rcases Assembled.place assembled task with place | ⟨_, place⟩ | place <;> rw [place] <;> rfl
    have none : sentAll w (start.map view) = 0 := by
      have bound := sum_le (w.producers + 1) fun task _ => Nat.le_of_eq (nothing task)
      simpa [sentAll] using bound
    refine ⟨?_, ?_, fun _ => .inl ?_, by omega⟩
    · have ungranted : (start.map view).shared.mailbox.slots.requests.count (fun request => request == .granted) = 0 := by
        apply Arena.sum_eq_zero
        intro a request held
        rw [assembled.requests a] at held
        cases held
      simp only [unused]
      omega
    · rw [none, contents, assembled.consumer]
      simp [Role.taken]
    · rw [assembled.consumer]
      exact positive
  | step run able stepped ih =>
    obtain ⟨working, lined, within, role, shared, move, moved⟩ := event_move (.step run able stepped)
    rw [moved]
    exact ih.moves limits working lined within rfl move

theorem run_few {most : Nat} (bounded : w.Bounded (view start.shared) most) (run : (w.system T build).Run start history crew) :
    sentAll w (crew.map view) ≤ most := by
  rcases bounded with ⟨limit, limits, positive, enough⟩ | ⟨supply, supplied, enough⟩
  · exact (run_limited limits positive run).few.trans enough
  · refine (sum_le _ fun task _ => ?_).trans enough
    have order := run_supply run task
    cases sent : (crew.place task).sent with
    | zero =>
      change (crew.place task).sent ≤ _
      omega
    | succ last =>
      rw [sent, List.range_succ, List.map_append] at order
      have member : w.source task last ∈ (List.range last).map (w.source task) ++ [last].map (w.source task) := by simp
      rw [← order] at member
      obtain ⟨item, _, passed⟩ := List.mem_map.mp member
      have short := supplied task last item.2 passed.symm
      change (crew.place task).sent ≤ _
      omega

theorem run_lowers {most : Nat} (bounded : w.Bounded (view start.shared) most)
    {past : History (Crew (State T) (Role T)) (Turn (Action T)) (Outcome T)}
    {event : Event (Crew (State T) (Role T)) (Turn (Action T)) (Outcome T)}
    (run : (w.system T build).Run start (event :: past) event.after) :
    w.program.Lowers (fun crew => rank w most (crew.map view)) event := by
  obtain ⟨working, lined, within, role, shared, move, moved⟩ := event_move run
  have few := run_few bounded run
  rw [moved] at few
  have lowered := rank_moves working lined within rfl move few
  rw [← moved] at lowered
  exact lowered

private theorem rank_start (most : Nat) (assembled : w.Assembled (start.map view)) :
    rank w most (start.map view) ≤ 5 * most + 2 * start.shared.queue.items.length + (5 * w.producers + 2) := by
  have staged : ∀ count, ((List.range (count + 1)).map fun task =>
      stage (start.map view).shared.mailbox.slots.requests ((start.map view).place task)).sum ≤ 5 * count + 2 := by
    intro count
    induction count with
    | zero => simp [assembled.consumer, stage]
    | succ count ih =>
      have last : stage (start.map view).shared.mailbox.slots.requests ((start.map view).place (count + 1)) ≤ 5 := by
        rcases Assembled.place assembled (count + 1) with place | ⟨_, place⟩ | place <;> rw [place] <;> simp [stage]
      rw [List.range_succ, List.map_append, List.sum_append]
      simp only [List.map_cons, List.map_nil, List.sum_cons, List.sum_nil]
      omega
  have all := staged w.producers
  have items : (start.map view).shared.mailbox.items.length = start.shared.queue.items.length := rfl
  simp only [rank, stages]
  omega

/-- Whatever the order of their turns, assembled tasks come to an end: every run is bounded, and can be
led to a state in which everybody has finished. -/
theorem mpsc_finishes {most : Nat} (bounded : w.Bounded (view start.shared) most)
    (run : (w.system T build).Run start history crew) :
    history.length ≤
        (w.producers + 2) * (5 * most + 2 * start.shared.queue.items.length + (5 * w.producers + 2)) + (w.producers + 1) ∧
      ∃ later final, (w.system T build).Run start (later ++ history) final ∧
        ∀ task ≤ w.producers, (final.place task).finished = true := by
  have lowers : ∀ past event, (w.system T build).Run start (event :: past) event.after →
      w.program.Lowers (fun crew => rank w most (crew.map view)) event := fun _ _ reached => run_lowers bounded reached
  constructor
  · have turns := Program.run_bounded _ run lowers
    exact turns.trans (Nat.add_le_add_right (Nat.mul_le_mul_left (w.producers + 2) (rank_start most run.initial.2)) _)
  · obtain ⟨later, final, ends, quiet⟩ := Program.run_ends _ run lowers fun _ _ reached _ able => enabled_returns reached able
    exact ⟨later, final, ends, stuck_finished ends quiet⟩

/-- The test of the crate, from its start. -/
theorem mpsc_finishes_zipped :
    ∃ later final, (zipped.system Nat .checked).Run (zipped.crew joined) (later ++ []) final ∧
      ∀ task ≤ 2, (final.place task).finished = true :=
  (mpsc_finishes (.inl ⟨10, rfl, by decide, Nat.le_refl 11⟩) (.start (zipped_starts .checked))).2

end Runs
end AsyncUnsync.Proofs.MpscTasks
