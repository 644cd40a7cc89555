import AsyncUnsync.Proofs.MpscMoves

/-! Every move keeps the tasks of an mpsc program working: whoever owns a sender is
counted, whoever waits has its request in the line, and whoever sleeps will be woken. -/

namespace AsyncUnsync.Proofs.MpscTasks
open Memory Transition BoundedSystem MailboxSystem Mpsc SlotTurns
variable {T : Type} {build : Build} {w : Workload T} {crew : Crew (Scene T) (Role T)} {shared : Scene T} {task : Nat}
  {role role' : Role T} {outcome : Outcome T}

section Advance

@[simp] theorem advance_shared : (advance w crew task role shared outcome).shared = shared := rfl

@[simp] theorem place_self : (advance w crew task role shared outcome).place task = role := Function.update_self ..

theorem place_other {other : Nat} (different : other ≠ task) :
    (advance w crew task role shared outcome).place other = crew.place other := Function.update_of_ne different ..

theorem place_same {β : Type} (w : Workload T) (shared : Scene T) (outcome : Outcome T) (f : Role T → β)
    (place : crew.place task = role) (same : f role' = f role) (other : Nat) :
    f ((advance w crew task role' shared outcome).place other) = f (crew.place other) := by
  by_cases self : other = task
  · subst other
    rw [place_self, same, place]
  · rw [place_other self]

theorem awake_false {other : Nat} (sleeps : (advance w crew task role shared outcome).awake other = false) :
    w.waker other ∉ outcome.woken ∧
      (other = task ∧ Workload.suspends outcome = true ∨ other ≠ task ∧ crew.awake other = false) := by
  simp only [advance, Bool.or_eq_false_iff, List.contains_eq_mem, decide_eq_false_iff_not] at sleeps
  refine ⟨sleeps.1, ?_⟩
  by_cases self : other = task
  · rw [if_pos self] at sleeps
    exact .inl ⟨self, by simpa using sleeps.2⟩
  · rw [if_neg self] at sleeps
    exact .inr ⟨self, sleeps.2⟩

end Advance

section Asking

theorem future_sending {a : Addr} (future : role.future = some a) : ∃ sender sent, role = .sending sender sent a := by
  cases role <;> simp only [Role.future, reduceCtorEq, Option.some.injEq] at future
  subst future
  exact ⟨_, _, rfl⟩

theorem Asking.alone (asking : Asking w crew) (staffed : Staffed w crew) {other : Nat} {a : Addr}
    (first : (crew.place task).future = some a) (second : (crew.place other).future = some a) : task = other := by
  obtain ⟨sender, sent, place⟩ := future_sending first
  obtain ⟨sender', sent', place'⟩ := future_sending second
  obtain ⟨_, _, _, found, _⟩ := asking.asked _ _ _ _ place
  obtain ⟨_, _, _, found', _⟩ := asking.asked _ _ _ _ place'
  rw [found] at found'
  cases found'
  exact staffed.apart task other sender (by rw [place]; rfl) (by rw [place']; rfl)

/-- Futures stay; a request that waits has waited before, or is the one its task has just polled. -/
theorem Asking.stays (asking : Asking w crew) (staffed : Staffed w crew) (place : crew.place task = role)
    (futures : shared.clients.futures = crew.shared.clients.futures)
    (live : ∀ a, (shared.mailbox.slots.requests.get? a).isSome = (crew.shared.mailbox.slots.requests.get? a).isSome)
    (waits : ∀ a waker, shared.mailbox.slots.requests.get? a = some (.waiting waker) →
      crew.shared.mailbox.slots.requests.get? a = some (.waiting waker) ∨ role.future = some a ∧ waker = w.waker task)
    (same : role' = role ∨ role.future = none ∧ role'.future = none) :
    Asking w (advance w crew task role' shared outcome) := by
  have future : role'.future = role.future := by
    rcases same with rfl | ⟨none, none'⟩
    · rfl
    · rw [none, none']
  constructor
  · intro other sender sent a sends
    have before : crew.place other = .sending sender sent a := by
      by_cases self : other = task
      · subst other
        rw [place_self] at sends
        rcases same with rfl | ⟨_, none⟩
        · rw [place, sends]
        · rw [sends] at none
          cases none
      · rwa [place_other self] at sends
    obtain ⟨elem, request, supplied, found, held, known⟩ := asking.asked other sender sent a before
    obtain ⟨request', held'⟩ := Option.isSome_iff_exists.mp ((live a).trans (by rw [held]; rfl))
    refine ⟨elem, request', supplied, by rw [advance_shared, futures, found], held', ?_⟩
    rintro waker rfl
    rcases waits a waker held' with waited | ⟨mine, now⟩
    · rw [held] at waited
      exact known waker (Option.some.inj waited)
    · rw [← place] at mine
      have same : task = other := asking.alone staffed mine (by rw [before]; rfl)
      rw [← same]
      exact now
  · intro a some
    rw [advance_shared, futures, live a] at some
    obtain ⟨other, holds⟩ := asking.answered a some
    exact ⟨other, by rw [place_same w shared outcome Role.future place future, holds]⟩

theorem Asking.answers (asking : Asking w crew) (staffed : Staffed w crew) {a : Addr} {sender : Addr} {sent : Nat}
    (place : crew.place task = .sending sender sent a)
    (futures : shared.clients.futures = crew.shared.clients.futures.free a)
    (requests : shared.mailbox.slots.requests = crew.shared.mailbox.slots.requests.free a)
    (done : role'.future = none) : Asking w (advance w crew task role' shared outcome) := by
  have mine : (crew.place task).future = some a := by
    rw [place]
    rfl
  constructor
  · intro other sender' sent' b sends
    have different : other ≠ task := by
      rintro rfl
      rw [place_self] at sends
      rw [sends] at done
      cases done
    rw [place_other different] at sends
    have elsewhere : a ≠ b := by
      rintro rfl
      exact different (asking.alone staffed (by rw [sends]; rfl) mine)
    obtain ⟨elem, request, supplied, found, held, known⟩ := asking.asked other sender' sent' b sends
    refine ⟨elem, request, supplied, ?_, ?_, known⟩
    · rw [advance_shared, futures, Arena.get?_free, if_neg elsewhere, found]
    · rw [advance_shared, requests, Arena.get?_free, if_neg elsewhere, held]
  · intro b some
    rw [advance_shared, futures, requests, Arena.get?_free, Arena.get?_free] at some
    by_cases here : a = b
    · simp [here] at some
    · simp only [if_neg here] at some
      obtain ⟨other, holds⟩ := asking.answered b some
      have different : other ≠ task := by
        rintro rfl
        rw [mine] at holds
        exact here (Option.some.inj holds)
      exact ⟨other, by rw [place_other different, holds]⟩

theorem Asking.asks (asking : Asking w crew) (lined : Lined crew.shared) {sender : Addr} {sent : Nat} {elem : T}
    (place : crew.place task = .producing sender sent) (supplied : w.source task sent = some elem)
    (futures : shared.clients.futures = crew.shared.clients.futures.alloc (.send (.sender sender) elem))
    (requests : shared.mailbox.slots.requests = crew.shared.mailbox.slots.requests.alloc .fresh) :
    Asking w (advance w crew task (.sending sender sent crew.shared.clients.futures.size) shared outcome) := by
  have size := lined.size
  constructor
  · intro other sender' sent' b sends
    by_cases self : other = task
    · subst other
      rw [place_self] at sends
      cases sends
      refine ⟨elem, .fresh, supplied, ?_, ?_, by simp⟩
      · rw [advance_shared, futures, Arena.get?_alloc_self]
      · rw [advance_shared, requests, size, Arena.get?_alloc_self]
    · rw [place_other self] at sends
      obtain ⟨elem', request, supplied', found, held, known⟩ := asking.asked other sender' sent' b sends
      refine ⟨elem', request, supplied', ?_, ?_, known⟩
      · rw [advance_shared, futures, Arena.get?_alloc_of_live found]
      · rw [advance_shared, requests, Arena.get?_alloc_of_live held]
  · intro b some
    rw [advance_shared, futures, requests] at some
    by_cases new : b = crew.shared.clients.futures.size
    · exact ⟨task, by rw [place_self, new]; rfl⟩
    · rw [Arena.get?_alloc, Arena.get?_alloc, if_neg new, if_neg (size ▸ new)] at some
      obtain ⟨other, holds⟩ := asking.answered b some
      have different : other ≠ task := by
        rintro rfl
        rw [place] at holds
        cases holds
      exact ⟨other, by rw [place_other different, holds]⟩

private theorem kept_modifyAll (requests : Arena Request) (request : Request) {line : List Addr} (nodup : line.Nodup)
    (settled : ∀ waker, request ≠ .waiting waker) (a : Addr) :
    ((requests.modifyAll (fun _ => request) line).get? a).isSome = (requests.get? a).isSome ∧
      ∀ waker, (requests.modifyAll (fun _ => request) line).get? a = some (.waiting waker) →
        requests.get? a = some (.waiting waker) := by
  rw [Arena.get?_modifyAll _ nodup]
  split
  · refine ⟨Option.isSome_map .., fun waker waits => ?_⟩
    obtain ⟨_, _, rfl⟩ := Option.map_eq_some_iff.mp waits
    exact absurd rfl (settled waker)
  · exact ⟨rfl, fun _ waits => waits⟩

theorem Asking.moves (asking : Asking w crew) (staffed : Staffed w crew) (lined : Lined crew.shared)
    (place : crew.place task = role) (move : Move w crew.shared task role role' shared outcome) :
    Asking w (advance w crew task role' shared outcome) := by
  have given := kept_modifyAll crew.shared.mailbox.slots.requests .granted
    (lined.nodup.sublist (List.take_sublist 1 _)) (by simp)
  have refused := kept_modifyAll crew.shared.mailbox.slots.requests .refused lined.nodup (by simp)
  cases move with
  | begins supplied => exact asking.asks lined place supplied rfl rfl
  | waits opened fresh none =>
    refine asking.stays staffed place rfl ?_ ?_ (.inl rfl)
    · intro b
      rw [Arena.get?_put]
      split
      next same => rw [← same.1, fresh]; rfl
      next => rfl
    · intro b waker waits
      rw [Arena.get?_put] at waits
      split at waits
      next same =>
        cases waits
        exact .inr ⟨congrArg some same.1, rfl⟩
      next => exact .inl waits
  | idles => exact asking.stays staffed place rfl (fun _ => rfl) (fun _ _ waits => .inl waits) (.inl rfl)
  | sends => exact asking.answers staffed place rfl rfl rfl
  | refused closed =>
    obtain ⟨free, withdrawn, _⟩ := withdraw_closed lined.toOrderly closed _
    exact asking.answers staffed place rfl (by rw [withdrawn]) rfl
  | leaves gone | leavesLast gone =>
    refine asking.stays staffed place rfl (fun _ => rfl) (fun _ _ waits => .inl waits) (.inr ⟨?_, rfl⟩)
    rcases gone with ⟨rfl, _⟩ | rfl <;> rfl
  | takes =>
    refine asking.stays staffed place rfl (fun a => (given a).1) (fun a waker waits => .inl ((given a).2 waker waits))
      (.inr ⟨rfl, ?_⟩)
    unfold Workload.take
    split <;> rfl
  | listens => exact asking.stays staffed place rfl (fun _ => rfl) (fun _ _ waits => .inl waits) (.inl rfl)
  | ends => exact asking.stays staffed place rfl (fun _ => rfl) (fun _ _ waits => .inl waits) (.inr ⟨rfl, rfl⟩)
  | closes | departs =>
    exact asking.stays staffed place rfl (fun a => (refused a).1) (fun a waker waits => .inl ((refused a).2 waker waits))
      (.inr ⟨rfl, rfl⟩)

end Asking

section Staffed

theorem Staffed.stays (staffed : Staffed w crew) (place : crew.place task = role)
    (clients : shared.clients.handles = crew.shared.clients.handles ∧ shared.clients.permits = crew.shared.clients.permits)
    (mailbox : shared.mailbox.mask = crew.shared.mailbox.mask ∧ shared.mailbox.reserved = crew.shared.mailbox.reserved ∧
      shared.mailbox.slots.closed = crew.shared.mailbox.slots.closed)
    (same : role'.sender = role.sender ∧ role'.produces = role.produces)
    (unfinished : role.finished = false ∧ role'.finished = false) : Staffed w (advance w crew task role' shared outcome) := by
  have finished := place_same w shared outcome Role.finished place (unfinished.2.trans unfinished.1.symm)
  have produces := place_same w shared outcome Role.produces place same.2
  have sender := place_same w shared outcome Role.sender place same.1
  constructor
  case consumer => rw [produces]; exact staffed.consumer
  case produces => intro other positive; rw [produces]; exact staffed.produces other positive
  case absent => intro other beyond; rw [finished]; exact staffed.absent other beyond
  case receiver => rw [finished, advance_shared, clients.1]; exact staffed.receiver
  case departed => rw [finished, advance_shared, mailbox.2.2]; exact staffed.departed
  case owned => simp only [sender, advance_shared, clients.1]; exact staffed.owned
  case apart => simp only [sender]; exact staffed.apart
  case permits => rw [advance_shared, clients.2]; exact staffed.permits
  case unreserved => rw [advance_shared, mailbox.2.1]; exact staffed.unreserved
  case counted => rw [advance_shared, mailbox.1, mailbox.2.2, clients.1]; exact staffed.counted

theorem Staffed.loses (staffed : Staffed w crew) (place : crew.place task = role) {id : Addr} {sent : Nat}
    (owns : role.sender = some id)
    (clients : shared.clients.handles = crew.shared.clients.handles.removeSender id ∧
      shared.clients.permits = crew.shared.clients.permits)
    (mailbox : shared.mailbox.reserved = crew.shared.mailbox.reserved ∧
      shared.mailbox.slots.closed = crew.shared.mailbox.slots.closed)
    (mask : 4 ≤ crew.shared.mailbox.mask.bits ∧ shared.mailbox.mask.bits = crew.shared.mailbox.mask.bits - 2 ∨
      crew.shared.mailbox.mask.bits < 4 ∧ shared.mailbox.mask.bits = 1) :
    Staffed w (advance w crew task (.left sent) shared outcome) := by
  have mine : (crew.place task).sender = some id := by rw [place, owns]
  have live := (staffed.owned id).mpr ⟨task, mine⟩
  have positive := staffed.producer (Role.owner mine).1
  have consumer : (advance w crew task (.left sent) shared outcome).place 0 = crew.place 0 := place_other (by omega)
  have held : Program.Held Role.sender (fun id => shared.clients.handles.usable (.sender id) = true)
      (Function.update crew.place task (.left sent)) := by
    refine Program.Held.loses ⟨staffed.owned, staffed.apart⟩ mine rfl fun other => ?_
    rw [clients.1]
    exact Handles.usable_sender_removeSender ..
  constructor
  case consumer => rw [consumer]; exact staffed.consumer
  case produces =>
    intro other positive
    by_cases self : other = task
    · rw [self, place_self]
      rfl
    · rw [place_other self]
      exact staffed.produces other positive
  case absent =>
    intro other beyond
    by_cases self : other = task
    · rw [self, place_self]
      rfl
    · rw [place_other self]
      exact staffed.absent other beyond
  case receiver => rw [consumer, advance_shared, clients.1]; exact staffed.receiver
  case departed => rw [consumer, advance_shared, mailbox.2]; exact staffed.departed
  case owned => exact held.held
  case apart => exact held.apart
  case permits => rw [advance_shared, clients.2]; exact staffed.permits
  case unreserved => rw [advance_shared, mailbox.1]; exact staffed.unreserved
  case counted =>
    have fewer := Handles.senderCount_removeSender live
    have counted := staffed.counted
    rw [if_neg (by omega)] at counted
    rw [advance_shared, clients.1, mailbox.2]
    split at counted <;> split <;> omega

theorem Staffed.shuts (staffed : Staffed w crew) (place : crew.place task = role)
    (clients : shared.clients.handles.senders = crew.shared.clients.handles.senders ∧
      shared.clients.permits = crew.shared.clients.permits)
    (receiver : role'.finished = false → shared.clients.handles.receiver = crew.shared.clients.handles.receiver)
    (mailbox : shared.mailbox = (crew.shared.mailbox.close true).state)
    (consumes : role.produces = false ∧ role'.produces = false) (unfinished : role.finished = false) :
    Staffed w (advance w crew task role' shared outcome) := by
  have zero := staffed.zero (by rw [place, consumes.1])
  subst zero
  have none : ∀ role : Role T, role.produces = false → role.sender = none := by
    intro role consumes
    cases role <;> first | rfl | cases consumes
  have sender := place_same w shared outcome Role.sender place ((none _ consumes.2).trans (none _ consumes.1).symm)
  have produces := place_same w shared outcome Role.produces place (consumes.2.trans consumes.1.symm)
  have count : shared.clients.handles.senderCount = crew.shared.clients.handles.senderCount := by
    rw [Handles.senderCount, clients.1]
    rfl
  constructor
  case consumer => rw [produces]; exact staffed.consumer
  case produces => intro other positive; rw [produces]; exact staffed.produces other positive
  case absent => intro other beyond; rw [place_other (by omega)]; exact staffed.absent other beyond
  case receiver =>
    intro busy
    rw [place_self] at busy
    rw [advance_shared, receiver busy]
    exact staffed.receiver (by rw [place, unfinished])
  case departed => intro _; rw [advance_shared, mailbox]; rfl
  case owned => simp only [sender, advance_shared, Handles.usable, clients.1]; exact staffed.owned
  case apart => simp only [sender]; exact staffed.apart
  case permits => rw [advance_shared, clients.2]; exact staffed.permits
  case unreserved => rw [advance_shared, mailbox]; exact staffed.unreserved
  case counted =>
    have counted := staffed.counted
    have closed : shared.mailbox.slots.closed = true := by rw [mailbox]; rfl
    have bits : shared.mailbox.mask.bits = crew.shared.mailbox.mask.bits ||| 1 := by rw [mailbox]; rfl
    have half : (crew.shared.mailbox.mask.bits ||| 1) / 2 = crew.shared.mailbox.mask.bits / 2 := by simp [Nat.or_div_two]
    have odd : (crew.shared.mailbox.mask.bits ||| 1) % 2 = 1 := by simp [Nat.or_mod_two_eq_one]
    rw [advance_shared, count, closed, bits, if_pos rfl]
    split at counted
    next none =>
      rw [if_pos none]
      omega
    next some =>
      rw [if_neg some]
      split at counted <;> omega

theorem Staffed.moves (staffed : Staffed w crew) (lined : Lined crew.shared) (place : crew.place task = role)
    (move : Move w crew.shared task role role' shared outcome) : Staffed w (advance w crew task role' shared outcome) := by
  cases move with
  | begins | waits | idles | sends | listens | ends =>
    exact staffed.stays place ⟨rfl, rfl⟩ ⟨rfl, rfl, rfl⟩ ⟨rfl, rfl⟩ ⟨rfl, rfl⟩
  | @refused sender sent a elem closed =>
    obtain ⟨free, withdrawn, _⟩ := withdraw_closed lined.toOrderly closed a
    exact staffed.stays place ⟨rfl, rfl⟩ ⟨rfl, rfl, by rw [withdrawn]⟩ ⟨rfl, rfl⟩ ⟨rfl, rfl⟩
  | leaves gone others =>
    refine staffed.loses place ?_ ⟨rfl, rfl⟩ ⟨rfl, rfl⟩ (.inl ⟨others, rfl⟩)
    rcases gone with ⟨rfl, _⟩ | rfl <;> rfl
  | leavesLast gone last =>
    refine staffed.loses place ?_ ⟨rfl, rfl⟩ ⟨rfl, rfl⟩ (.inr ⟨last, rfl⟩)
    rcases gone with ⟨rfl, _⟩ | rfl <;> rfl
  | takes =>
    unfold Workload.take
    split <;> exact staffed.stays place ⟨rfl, rfl⟩ ⟨rfl, rfl, rfl⟩ ⟨rfl, rfl⟩ ⟨rfl, rfl⟩
  | closes | departs => exact staffed.shuts place ⟨rfl, rfl⟩ (by simp [Role.finished]) rfl ⟨rfl, rfl⟩ rfl

end Staffed

section Resting

/-- Whoever leaves the line is woken, unless it has just moved. -/
private theorem waits_stay (resting : Resting w crew) (asking : Asking w crew) (staffed : Staffed w crew)
    (place : crew.place task = role)
    (line : ∀ a ∈ crew.shared.mailbox.slots.line, a ∈ shared.mailbox.slots.line ∨ role.future = some a ∨
      ∃ waker ∈ outcome.woken, crew.shared.mailbox.slots.requests.get? a = some (.waiting waker))
    (suspended : Workload.suspends outcome = true → 0 < task →
      ∃ a, role'.future = some a ∧ a ∈ shared.mailbox.slots.line) :
    ∀ other, 0 < other → other ≤ w.producers → (advance w crew task role' shared outcome).awake other = false →
      ∃ a, ((advance w crew task role' shared outcome).place other).future = some a ∧ a ∈ shared.mailbox.slots.line := by
  intro other positive within sleeps
  obtain ⟨unwoken, ⟨rfl, suspends⟩ | ⟨different, sleeps⟩⟩ := awake_false sleeps
  · rw [place_self]
    exact suspended suspends positive
  · obtain ⟨a, future, queued⟩ := resting.waits other positive within sleeps
    rw [place_other different]
    rcases line a queued with stays | mine | ⟨waker, woken, waits⟩
    · exact ⟨a, future, stays⟩
    · exact absurd (asking.alone staffed future (by rw [place, mine])) different
    · obtain ⟨sender, sent, sends⟩ := future_sending future
      obtain ⟨_, request, _, _, held, known⟩ := asking.asked _ _ _ _ sends
      rw [waits] at held
      rw [known waker (Option.some.inj held).symm] at woken
      exact absurd woken unwoken

/-- The consumer sleeps on, or it is woken. -/
private theorem listens_stay (resting : Resting w crew) (producer : task ≠ 0)
    (keeps : outcome.woken = crew.shared.mailbox.waker.toList ∨
      shared.mailbox.items = crew.shared.mailbox.items ∧
        shared.mailbox.mask.isClosed true = crew.shared.mailbox.mask.isClosed true ∧
        shared.mailbox.waker = crew.shared.mailbox.waker)
    (sleeps : (advance w crew task role' shared outcome).awake 0 = false) :
    (∃ taken, (advance w crew task role' shared outcome).place 0 = .receiving taken) ∧ shared.mailbox.items = [] ∧
      shared.mailbox.mask.isClosed true = false ∧ shared.mailbox.waker = some (w.waker 0) := by
  obtain ⟨unwoken, ⟨rfl, _⟩ | ⟨different, sleeps⟩⟩ := awake_false sleeps
  · exact absurd rfl producer
  · obtain ⟨receives, items, opened, registered⟩ := resting.listens sleeps
    rcases keeps with woken | ⟨items', closed', waker'⟩
    · rw [woken, registered] at unwoken
      simp at unwoken
    · rw [place_other different, items', closed', waker']
      exact ⟨receives, items, opened, registered⟩

private theorem listens_awake {prop : Prop} (busy : Workload.suspends outcome = false)
    (sleeps : (advance w crew 0 role' shared outcome).awake 0 = false) : prop := by
  obtain ⟨_, ⟨_, suspends⟩ | ⟨different, _⟩⟩ := awake_false sleeps
  · rw [busy] at suspends
    cases suspends
  · exact absurd rfl different

theorem Move.room (lined : Lined crew.shared) (asking : Asking w crew)
    (room : 0 < unused crew.shared.mailbox.slots + crew.shared.mailbox.items.length) (place : crew.place task = role)
    (move : Move w crew.shared task role role' shared outcome) :
    0 < unused shared.mailbox.slots + shared.mailbox.items.length := by
  cases move with
  | begins =>
    have same : unused crew.shared.mailbox.slots.request = unused crew.shared.mailbox.slots := by simp [unused, Slots.request]
    simpa only [same] using room
  | waits opened fresh =>
    have same := Arena.sum_put fresh (fun request => if request == .granted then 1 else 0) (.waiting (w.waker task))
    change _ + 0 = _ + 0 at same
    simp only [unused, Arena.count] at room ⊢
    omega
  | idles | listens | ends => exact room
  | sends =>
    simp only [List.length_append, List.length_singleton]
    omega
  | refused closed =>
    obtain ⟨_, _, _, _, held, _⟩ := asking.asked _ _ _ _ place
    have kept := (unused_withdraw lined.toOrderly closed held).2
    simp only
    omega
  | leaves | leavesLast => exact room
  | takes =>
    have given := (unused_give lined.toOrderly).1
    simp only
    omega
  | closes | departs =>
    have same := unused_close lined.toOrderly
    simp only [Mailbox.close, same]
    exact room

private theorem Move.queued (resting : Resting w crew) (asking : Asking w crew) (staffed : Staffed w crew)
    (lined : Lined crew.shared) (place : crew.place task = role) (move : Move w crew.shared task role role' shared outcome) :
    ∀ other, 0 < other → other ≤ w.producers → (advance w crew task role' shared outcome).awake other = false →
      ∃ a, ((advance w crew task role' shared outcome).place other).future = some a ∧ a ∈ shared.mailbox.slots.line := by
  have everybody : crew.shared.mailbox.slots.closed = true → ∀ a, a ∉ crew.shared.mailbox.slots.line := by
    intro closed a queued
    simp [lined.shut closed] at queued
  have woken : ∀ line : List Addr, line ⊆ crew.shared.mailbox.slots.line → ∀ a ∈ line,
      ∃ waker ∈ crew.shared.mailbox.slots.wakers line, crew.shared.mailbox.slots.requests.get? a = some (.waiting waker) := by
    intro line inside a member
    obtain ⟨waker, waits⟩ := (lined.waits a).mp (inside member)
    exact ⟨waker, List.mem_filterMap.mpr ⟨a, member, by rw [waits]; rfl⟩, waits⟩
  cases move with
  | begins | leaves | leavesLast | ends =>
    exact waits_stay resting asking staffed place (fun a queued => .inl queued) (fun suspends => by cases suspends)
  | waits =>
    refine waits_stay resting asking staffed place (fun a queued => .inl (List.mem_append_left _ queued)) fun _ _ => ⟨_, rfl, ?_⟩
    simp
  | idles opened waits =>
    exact waits_stay resting asking staffed place (fun a queued => .inl queued)
      fun _ _ => ⟨_, rfl, (lined.waits _).mpr ⟨_, waits⟩⟩
  | @sends sender sent b =>
    refine waits_stay resting asking staffed place (fun a queued => ?_) (fun suspends => by cases suspends)
    by_cases mine : a = b
    · exact .inr (.inl (congrArg some mine.symm))
    · exact .inl ((List.mem_erase_of_ne mine).mpr queued)
  | refused closed =>
    exact waits_stay resting asking staffed place (fun a queued => absurd queued (everybody closed a))
      (fun suspends => by cases suspends)
  | takes =>
    refine waits_stay resting asking staffed place (fun a queued => ?_) (fun suspends => by cases suspends)
    rw [← List.take_append_drop 1 crew.shared.mailbox.slots.line, List.mem_append] at queued
    rcases queued with first | later
    · exact .inr (.inr (woken _ (List.take_subset ..) a first))
    · exact .inl later
  | listens =>
    refine waits_stay resting asking staffed place (fun a queued => .inl queued) fun _ positive => ?_
    exact absurd (staffed.zero (by rw [place]; rfl)) (by omega)
  | closes | departs =>
    exact waits_stay resting asking staffed place (fun a queued => .inr (.inr (woken _ (fun _ inside => inside) a queued)))
      (fun suspends => by cases suspends)

private theorem Move.listened (resting : Resting w crew) (staffed : Staffed w crew) (place : crew.place task = role)
    (move : Move w crew.shared task role role' shared outcome)
    (sleeps : (advance w crew task role' shared outcome).awake 0 = false) :
    (∃ taken, (advance w crew task role' shared outcome).place 0 = .receiving taken) ∧ shared.mailbox.items = [] ∧
      shared.mailbox.mask.isClosed true = false ∧ shared.mailbox.waker = some (w.waker 0) := by
  cases move with
  | begins | waits | idles | refused =>
    exact listens_stay resting (Nat.ne_of_gt (staffed.producer (by rw [place]; rfl))) (.inr ⟨rfl, rfl, rfl⟩) sleeps
  | sends => exact listens_stay resting (Nat.ne_of_gt (staffed.producer (by rw [place]; rfl))) (.inl rfl) sleeps
  | leaves gone others =>
    refine listens_stay resting (Nat.ne_of_gt (staffed.producer ?_)) (.inr ⟨rfl, Mask.isClosed_sub others, rfl⟩) sleeps
    rcases gone with ⟨rfl, _⟩ | rfl <;> rw [place] <;> rfl
  | leavesLast gone =>
    refine listens_stay resting (Nat.ne_of_gt (staffed.producer ?_)) (.inl rfl) sleeps
    rcases gone with ⟨rfl, _⟩ | rfl <;> rw [place] <;> rfl
  | takes | ends | closes | departs =>
    have zero := staffed.zero (by rw [place]; rfl)
    subst zero
    exact listens_awake rfl sleeps
  | listens items opened =>
    have zero := staffed.zero (by rw [place]; rfl)
    subst zero
    exact ⟨⟨_, place_self⟩, items, opened, rfl⟩

theorem Resting.moves (resting : Resting w crew) (asking : Asking w crew) (staffed : Staffed w crew)
    (lined : Lined crew.shared) (place : crew.place task = role) (move : Move w crew.shared task role role' shared outcome) :
    Resting w (advance w crew task role' shared outcome) :=
  ⟨move.room lined asking resting.room place, move.queued resting asking staffed lined place,
    fun sleeps => move.listened resting staffed place sleeps⟩

end Resting
end AsyncUnsync.Proofs.MpscTasks
