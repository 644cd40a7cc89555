import AsyncUnsync.Library.Refinement
import AsyncUnsync.Proofs.Delivery

/-! A send is a reservation whose permit sends at once. Whatever clients do with `send` and
`try_send`, they could do with `reserve`, `try_reserve` and `Permit::send`. -/

namespace AsyncUnsync.Proofs.ReservedSends
open Memory Transition BoundedSystem QueueCalls FuturePolls Delivery.Bounded
variable {T : Type} {build : Build}

def reserving : Suspended T → Suspended T
  | .send via _ => .reserve via
  | future => future

/-- The call that takes the place of a call. Permits may have other numbers. -/
def instead (names : Addr → Addr) : Action T → Action T
  | .trySend via _ => .tryReserve via
  | .send via _ => .reserve via
  | .permitSend p elem => .permitSend (names p) elem
  | .dropPermit p => .dropPermit (names p)
  | .forgetPermit p => .forgetPermit (names p)
  | action => action

def sends : Action T → Bool
  | .trySend _ _ | .send _ _ => true
  | _ => false

theorem sends_instead (names : Addr → Addr) (action : Action T) : sends (instead names action) = false := by
  cases action <;> rfl

def permit : Reply T → Option Addr
  | .tryReserved (.ok p) | .reserved _ (.ok p) => some p
  | _ => none

/-- The calls that may answer with a permit, or instead of one. -/
def grants : Action T → Bool
  | .trySend _ _ | .tryReserve _ | .pollFuture _ _ => true
  | _ => false

/-- The same channel, where whoever sends has a reservation instead. -/
structure Mirrors (names : Addr → Addr) (s s' : State T) : Prop where
  queue : s'.queue = s.queue
  handles : s'.clients.handles = s.clients.handles
  ownedPermits : s'.clients.ownedPermits = s.clients.ownedPermits
  futures : s'.clients.futures = s.clients.futures.map reserving
  permits : Arena.Renamed names s.clients.permits s'.clients.permits

variable {names : Addr → Addr} {s s' : State T} {action : Action T}

@[simp] theorem via_reserving (future : Suspended T) : (reserving future).via = future.via := by cases future <;> rfl

@[simp] theorem owned_reserving (future : Suspended T) : (reserving future).owned = future.owned := by cases future <;> rfl

@[simp] theorem drop_reserving (future : Suspended T) : (reserving future).drop = future.drop := by
  funext q a
  simp only [Suspended.drop, owned_reserving]

section Calls

theorem Mirrors.counts (mirrors : Mirrors names s s') (p : Suspended T → Bool) :
    s'.clients.futures.count p = s.clients.futures.count fun future => p (reserving future) := by
  rw [mirrors.futures, Arena.count, Arena.sum_map]
  rfl

theorem Mirrors.exclusive (mirrors : Mirrors names s s') : s'.clients.exclusive = s.clients.exclusive := by
  simp only [Clients.exclusive, mirrors.handles, mirrors.permits.counts, mirrors.counts]

theorem Mirrors.borrowed (mirrors : Mirrors names s s') (id : Addr) : s'.clients.borrowed id = s.clients.borrowed id := by
  simp only [Clients.borrowed, mirrors.permits.counts, mirrors.counts, via_reserving]

theorem Mirrors.future (mirrors : Mirrors names s s') (a : Addr) :
    s'.clients.futures.get? a = (s.clients.futures.get? a).map reserving := by
  rw [mirrors.futures, Arena.get?_map]

theorem Mirrors.able (mirrors : Mirrors names s s') (able : enabled s.clients action = true) :
    enabled s'.clients (instead names action) = true := by
  cases action with
  | permitSend p | dropPermit p | forgetPermit p => exact mirrors.permits.live able
  | _ =>
    simpa only [instead, enabled, mirrors.exclusive, mirrors.borrowed, mirrors.handles, mirrors.ownedPermits,
      mirrors.future, Option.isSome_map] using able

theorem Mirrors.operates (mirrors : Mirrors names s s') (plain : grants action = false) :
    operate build s' (instead names action) = operate build s action := by
  have size : s'.clients.futures.size = s.clients.futures.size := by rw [mirrors.futures, Arena.size_map]
  cases action with
  | trySend | tryReserve | pollFuture => cases plain
  | dropFuture a =>
    simp only [instead, operate, mirrors.queue, mirrors.future]
    cases s.clients.futures.get? a with
    | none => rfl
    | some future => simp only [Option.map_some, drop_reserving]
  | _ => simp only [instead, operate, mirrors.queue, mirrors.handles, mirrors.ownedPermits, size]

theorem Mirrors.records (mirrors : Mirrors names s s') (plain : grants action = false) (able : enabled s.clients action = true)
    (queue : BoundedQueue T) (reply : Reply T) :
    Mirrors names ⟨queue, record s.clients reply action⟩ ⟨queue, record s'.clients reply (instead names action)⟩ := by
  obtain ⟨_, handles, owned, futures, renamed⟩ := mirrors
  cases action with
  | trySend | tryReserve | pollFuture => cases plain
  | permitSend p | dropPermit p | forgetPermit p => exact ⟨rfl, handles, owned, futures, renamed.free able⟩
  | tryReserveOwned id =>
    simp only [record, instead]
    split
    · exact ⟨rfl, by simp only [handles], by simp only [owned], futures, renamed⟩
    · exact ⟨rfl, handles, owned, futures, renamed⟩
  | _ => exact ⟨rfl, by simp only [record, instead, handles], by simp only [record, instead, owned],
      by simp [record, instead, futures, reserving], renamed⟩

end Calls

section Runs
variable {start start' state : State T} {past past' history history' : History (State T) (Action T) (Outcome T)}
  {event : Event (State T) (Action T) (Outcome T)}

/-- What both do: the same tasks are woken, the same elements enter, and the same come out. -/
structure Alike (history history' : History (State T) (Action T) (Outcome T)) : Prop where
  woken : gathered (fun event => event.outcome.woken) history' = gathered (fun event => event.outcome.woken) history
  accepted : gathered accepted history' = gathered accepted history
  received : gathered received history' = gathered received history

/-- The calls that stand for a call, the latest first: the one that takes its place and, where that gives
a send its permit, `Permit::send`. -/
inductive Replaces (event : Event (State T) (Action T) (Outcome T)) : History (State T) (Action T) (Outcome T) → Prop where
  | call {other : Event (State T) (Action T) (Outcome T)} (names : Addr → Addr)
      (mirrors : Mirrors names event.before other.before) (action : other.action = instead names event.action)
      (alike : Alike [event] [other]) : Replaces event [other]
  | send {other sent : Event (State T) (Action T) (Outcome T)} {p : Addr} {elem : T} (names : Addr → Addr)
      (mirrors : Mirrors names event.before other.before) (action : other.action = instead names event.action)
      (accepts : accepted event = [elem]) (given : permit other.outcome.reply = some p)
      (spent : sent.action = .permitSend p elem) (alike : Alike [event] [sent, other]) : Replaces event [sent, other]

theorem Replaces.alike {more : History (State T) (Action T) (Outcome T)} (replaces : Replaces event more) :
    Alike [event] more := by
  cases replaces <;> assumption

theorem Replaces.sendless {more : History (State T) (Action T) (Outcome T)} (replaces : Replaces event more) :
    ∀ other ∈ more, sends other.action = false := by
  cases replaces with
  | call names _ action =>
    rw [List.forall_mem_singleton, action]
    exact sends_instead names _
  | send names _ action _ _ spent =>
    rw [List.forall_mem_cons, List.forall_mem_singleton, action, spent]
    exact ⟨rfl, sends_instead names _⟩

private theorem calls {t : State T} (run : (system T build).Run start past t) (able : enabled t.clients action = true)
    {effect : Effect (BoundedQueue T) (Reply T)} (operated : operate build t action = .ok effect) :
    (system T build).Run start
      (⟨t, action, ⟨effect.value, effect.woken⟩, ⟨effect.state, record t.clients effect.value action⟩⟩ :: past)
      ⟨effect.state, record t.clients effect.value action⟩ :=
  .step run able (by simp only [system, step, operated, ok_bind])

private theorem permit_sends {t : State T} (run : (system T build).Run start past t) {p : Addr} {via : Via}
    (held : t.clients.permits.get? p = some via) (reserved : 1 ≤ t.queue.extra.reserved) (elem : T) :
    ∃ event : Event (State T) (Action T) (Outcome T), (system T build).Run start (event :: past) event.after ∧
      event.action = .permitSend p elem ∧ event.outcome = ⟨.done, t.queue.waker.toList⟩ ∧
      event.after = ⟨{ t.queue with queue := t.queue.queue.pushBack elem, extra.reserved := t.queue.extra.reserved - 1 },
        { t.clients with permits := t.clients.permits.free p }⟩ := by
  have sent : operate build t (.permitSend p elem) =
      .ok ⟨{ t.queue with queue := t.queue.queue.pushBack elem, extra.reserved := t.queue.extra.reserved - 1 }, .done,
        t.queue.waker.toList⟩ := by
    simp only [operate, BoundedQueue.permitSend, BoundedQueue.unreserve, BoundedQueue.unboundedSend, Queue.pushAndWake,
      checkedSub_of_le reserved, ok_bind, if_true, Effect.map, List.append_nil]
  exact ⟨_, calls run (by rw [enabled, held]; rfl) sent, rfl, rfl, rfl⟩

/-- How a step is matched, by one call or by two. -/
def Matched (build : Build) (start' : State T) (past' : History (State T) (Action T) (Outcome T))
    (event : Event (State T) (Action T) (Outcome T)) : Prop :=
  ∃ names more after', (system T build).Run start' (more ++ past') after' ∧ Mirrors names event.after after' ∧
    Replaces event more

private theorem plain_matched (run' : (system T build).Run start' past' s') (mirrors : Mirrors names event.before s')
    (plain : grants event.action = false) (able : enabled event.before.clients event.action = true)
    {effect : Effect (BoundedQueue T) (Reply T)} (operated : operate build event.before event.action = .ok effect)
    (after : event.after = ⟨effect.state, record event.before.clients effect.value event.action⟩)
    (outcome : event.outcome = ⟨effect.value, effect.woken⟩) : Matched build start' past' event := by
  have operated' := (mirrors.operates plain).trans operated
  refine ⟨names, [_], _, calls run' (mirrors.able able) operated', after ▸ mirrors.records plain able _ _,
    .call names mirrors rfl ?_⟩
  obtain ⟨before, action, _, _⟩ := event
  dsimp only at *
  subst after outcome
  cases action with
  | trySend | tryReserve | pollFuture => cases plain
  | _ => exact ⟨rfl, rfl, rfl⟩

private theorem trySend_matched {via : Via} {elem : T} (run' : (system T build).Run start' past' s')
    (mirrors : Mirrors names event.before s') (called : event.action = .trySend via elem)
    (able : enabled event.before.clients event.action = true) (few : event.before.queue.extra.reserved < usizeMax)
    {effect : Effect (BoundedQueue T) (Reply T)} (operated : operate build event.before event.action = .ok effect)
    (after : event.after = ⟨effect.state, record event.before.clients effect.value event.action⟩)
    (outcome : event.outcome = ⟨effect.value, effect.woken⟩) : Matched build start' past' event := by
  obtain ⟨before, action, _, _⟩ := event
  dsimp only at *
  subst called after outcome
  have able' : enabled s'.clients (.tryReserve via) = true := mirrors.able able
  have room : before.queue.extra.reserved + 1 ≤ usizeMax := few
  cases operated
  rcases trySend_eq before.queue elem with ⟨semaphore, acquired, same⟩ | ⟨error, refused, same⟩
  · have reserved : operate build s' (.tryReserve via) =
        .ok ⟨{ before.queue with extra.semaphore := semaphore, extra.reserved := before.queue.extra.reserved + 1 },
          .tryReserved (.ok s'.clients.permits.size), []⟩ := by
      simp only [operate, mirrors.queue, BoundedQueue.tryReserve, acquired, checkedAdd_of_le room, ok_bind]
      rfl
    have half := calls run' able' reserved
    obtain ⟨sent, whole, action, outcome, after⟩ := permit_sends half (Arena.get?_alloc_self ..) (Nat.le_add_left ..) elem
    refine ⟨names, [sent, _], _, whole, ?_, .send names mirrors rfl ?_ rfl action ?_⟩
    · rw [after, same]
      exact ⟨by simp [Effect.map], mirrors.handles, mirrors.ownedPermits, mirrors.futures, mirrors.permits.spent via⟩
    · simp [accepted, same, Effect.map]
    · constructor <;> simp [gathered, accepted, received, action, outcome, same, Effect.map]
  · have reserved : operate build s' (.tryReserve via) =
        .ok ⟨before.queue, .tryReserved (.error (.ofAcquire error ())), []⟩ := by
      simp only [operate, mirrors.queue, BoundedQueue.tryReserve, refused, ok_bind]
      rfl
    refine ⟨names, [_], _, calls run' able' reserved, ?_, .call names mirrors rfl ?_⟩
    · rw [same]
      exact ⟨rfl, mirrors.handles, mirrors.ownedPermits, mirrors.futures, mirrors.permits⟩
    · constructor <;> simp [gathered, accepted, received, same, Effect.map]

private theorem tryReserve_matched {via : Via} (run' : (system T build).Run start' past' s')
    (mirrors : Mirrors names event.before s') (called : event.action = .tryReserve via)
    (able : enabled event.before.clients event.action = true)
    {effect : Effect (BoundedQueue T) (Reply T)} (operated : operate build event.before event.action = .ok effect)
    (after : event.after = ⟨effect.state, record event.before.clients effect.value event.action⟩)
    (outcome : event.outcome = ⟨effect.value, effect.woken⟩) : Matched build start' past' event := by
  obtain ⟨before, action, _, _⟩ := event
  dsimp only at *
  subst called after outcome
  have able' : enabled s'.clients (.tryReserve via) = true := mirrors.able able
  obtain ⟨tried, done, stored⟩ := bind_ok operated
  cases stored
  have operated' : operate build s' (.tryReserve via) =
      .ok (tried.map fun result => .tryReserved (result.map fun _ => s'.clients.permits.size)) := by
    simp only [operate, mirrors.queue, done, ok_bind]
  rcases tryReserve_ok done with ⟨semaphore, _, rfl⟩ | ⟨error, _, rfl⟩
  · refine ⟨Function.update names before.clients.permits.size s'.clients.permits.size, [_], _, calls run' able' operated', ?_,
      .call names mirrors rfl ⟨rfl, rfl, rfl⟩⟩
    exact ⟨rfl, mirrors.handles, mirrors.ownedPermits, mirrors.futures, mirrors.permits.alloc via⟩
  · refine ⟨names, [_], _, calls run' able' operated', ?_, .call names mirrors rfl ⟨rfl, rfl, rfl⟩⟩
    exact ⟨rfl, mirrors.handles, mirrors.ownedPermits, mirrors.futures, mirrors.permits⟩

section Polls
variable {t : State T} {a : Addr} {waker : Waker} {via : Via} {semaphore : Semaphore} {woken : List Waker}

private theorem reserves (found : t.clients.futures.get? a = some (.reserve via))
    (awaited : t.queue.extra.semaphore.awaitAcquire a waker = .ok ⟨semaphore, .ready (.ok ()), woken⟩)
    (room : t.queue.extra.reserved + 1 ≤ usizeMax) :
    operate build t (.pollFuture a waker) = .ok ⟨{ settled t semaphore with extra.reserved := t.queue.extra.reserved + 1 },
      .reserved via (.ok t.clients.permits.size), woken⟩ := by
  simp only [operate, found, BoundedQueue.reserve, awaited, ok_bind, checkedAdd_of_le room]
  rfl

private theorem refuses (found : t.clients.futures.get? a = some (.reserve via)) {error : AcquireError}
    (awaited : t.queue.extra.semaphore.awaitAcquire a waker = .ok ⟨semaphore, .ready (.error error), woken⟩) :
    operate build t (.pollFuture a waker) = .ok ⟨settled t semaphore, .reserved via (.error ⟨()⟩), woken⟩ := by
  simp only [operate, found, BoundedQueue.reserve, awaited, ok_bind]
  rfl

end Polls

/-- The future is polled alike. A reservation takes a permit where a send takes none. -/
private theorem pollFuture_matched {a : Addr} {waker : Waker} (run' : (system T build).Run start' past' s')
    (mirrors : Mirrors names event.before s') (called : event.action = .pollFuture a waker)
    (able : enabled event.before.clients event.action = true) (few : event.before.queue.extra.reserved < usizeMax)
    {effect : Effect (BoundedQueue T) (Reply T)} (operated : operate build event.before event.action = .ok effect)
    (after : event.after = ⟨effect.state, record event.before.clients effect.value event.action⟩)
    (outcome : event.outcome = ⟨effect.value, effect.woken⟩) : Matched build start' past' event := by
  obtain ⟨before, action, _, _⟩ := event
  dsimp only at *
  subst called after outcome
  have able' : enabled s'.clients (.pollFuture a waker) = true := mirrors.able able
  have seen := mirrors.future a
  have ⟨queue, handles, owned, futures, permits⟩ := mirrors
  have freed : s'.clients.futures.free a = (before.clients.futures.free a).map reserving := by rw [futures, Arena.map_free]
  have room : s'.queue.extra.reserved + 1 ≤ usizeMax := queue ▸ few
  cases pollFuture_ok operated with
  | @pending future semaphore woken found awaited =>
    rw [← queue] at awaited
    have polled : operate build s' (.pollFuture a waker) = .ok ⟨settled s' semaphore, .pending, woken⟩ := by
      rw [found] at seen
      cases future <;> simp only [operate, seen, reserving, Option.map_some, BoundedQueue.reserve, awaited, ok_bind] <;> rfl
    refine ⟨names, [_], _, calls run' able' polled, ?_, .call names mirrors rfl ⟨rfl, rfl, rfl⟩⟩
    exact ⟨by simp only [settled, queue], handles, owned, futures, permits⟩
  | @sent via elem semaphore woken found awaited =>
    rw [← queue] at awaited
    rw [found] at seen
    obtain ⟨sent, whole, action, outcome, after⟩ := permit_sends (calls run' able' (reserves seen awaited room))
      (Arena.get?_alloc_self ..) (Nat.le_add_left ..) elem
    refine ⟨names, [sent, _], _, whole, ?_, .send names mirrors rfl ?_ rfl action ?_⟩
    · rw [after]
      exact ⟨by simp only [queue]; rfl, handles, owned, freed, permits.spent via⟩
    · simp [accepted, offered, found, Suspended.elem]
    · constructor <;> simp [gathered, accepted, received, offered, action, outcome, found, Suspended.elem, queue]
  | @reserved via semaphore woken found awaited =>
    rw [← queue] at awaited
    rw [found] at seen
    refine ⟨Function.update names before.clients.permits.size s'.clients.permits.size, [_], _,
      calls run' able' (reserves seen awaited room), ?_, .call names mirrors rfl ⟨rfl, rfl, rfl⟩⟩
    exact ⟨by simp only [queue], handles, owned, freed, permits.alloc via⟩
  | @unsent via elem semaphore error woken found awaited | @unreserved via semaphore error woken found awaited =>
    rw [← queue] at awaited
    rw [found] at seen
    refine ⟨names, [_], _, calls run' able' (refuses seen awaited), ?_, .call names mirrors rfl ⟨rfl, rfl, rfl⟩⟩
    exact ⟨by simp only [settled, queue], handles, owned, freed, permits⟩
  | @reservedOwned semaphore woken found awaited =>
    rw [← queue] at awaited
    have polled : operate build s' (.pollFuture a waker) =
        .ok ⟨{ settled s' semaphore with extra.reserved := s'.queue.extra.reserved + 1 },
          .reservedOwned (.ok s'.clients.ownedPermits.size), woken⟩ := by
      rw [found] at seen
      simp only [operate, seen, reserving, Option.map_some, BoundedQueue.reserve, awaited, ok_bind, checkedAdd_of_le room]
      rfl
    refine ⟨names, [_], _, calls run' able' polled, ?_, .call names mirrors rfl ⟨rfl, rfl, rfl⟩⟩
    exact ⟨by simp only [queue], handles, by simp only [record, owned], freed, permits⟩
  | @unreservedOwned semaphore error woken found awaited =>
    rw [← queue] at awaited
    have polled : operate build s' (.pollFuture a waker) =
        .ok ⟨settled s' semaphore, .reservedOwned (.error ⟨s'.clients.handles.senders.size⟩), woken⟩ := by
      rw [found] at seen
      simp only [operate, seen, reserving, Option.map_some, BoundedQueue.reserve, awaited, ok_bind]
      rfl
    refine ⟨names, [_], _, calls run' able' polled, ?_, .call names mirrors rfl ⟨rfl, rfl, rfl⟩⟩
    exact ⟨by simp only [settled, queue], by simp only [record, handles], owned, freed, permits⟩

private theorem step_matched (run : (system T build).Run start (event :: past) event.after)
    (run' : (system T build).Run start' past' s') (mirrors : Mirrors names event.before s')
    (few : event.before.queue.extra.reserved < usizeMax) : Matched build start' past' event := by
  obtain ⟨_, able, stepped, _⟩ := run.last
  obtain ⟨effect, operated, after, outcome⟩ := step_ok stepped
  by_cases plain : grants event.action = false
  · exact plain_matched run' mirrors plain able operated after outcome
  · cases called : event.action with
    | trySend via elem => exact trySend_matched run' mirrors called able few operated after outcome
    | tryReserve via => exact tryReserve_matched run' mirrors called able operated after outcome
    | pollFuture a waker => exact pollFuture_matched run' mirrors called able few operated after outcome
    | _ =>
      rw [called] at plain
      exact absurd rfl plain

theorem Mirrors.self (initial : (system T build).Initial start) : Mirrors id start start := by
  obtain ⟨queue, _, rfl⟩ := initial
  exact ⟨rfl, rfl, rfl, rfl, .refl _⟩

/-- Every run has a run beside it in which nobody sends: each `send` is a `reserve`, each `try_send` a
`try_reserve`, and the permit it gives sends the element before anything else happens. Every other call is
the same call. The channel, the wake-ups and the elements are the same. -/
theorem sends_reserved (run : (system T build).Run start history state)
    (few : ∀ event ∈ history, event.before.queue.extra.reserved < usizeMax) :
    ∃ history' state', (system T build).Run start history' state' ∧ Expands Replaces history history' ∧
      (∀ event ∈ history', sends event.action = false) ∧ (∃ names, Mirrors names state state') ∧ Alike history history' := by
  obtain ⟨history', state', run', expands, mirrors⟩ := run.matched (fun s s' => ∃ names, Mirrors names s s') few run.initial
    ⟨id, .self run.initial⟩ (by
      rintro past event past' s' reached room run' ⟨names, mirrors⟩
      obtain ⟨names, more, after', longer, mirrors, replaces⟩ := step_matched reached run' mirrors room
      exact ⟨more, after', longer, replaces, names, mirrors⟩)
  refine ⟨history', state', run', expands, expands.forall_mem fun _ _ => Replaces.sendless, mirrors, ?_, ?_, ?_⟩
  · exact expands.gathered fun _ _ replaces => replaces.alike.woken
  · exact expands.gathered fun _ _ replaces => replaces.alike.accepted
  · exact expands.gathered fun _ _ replaces => replaces.alike.received

/-- A send that waits for a slot, and one that finds none. -/
theorem sends_reserved_blocked :
    ∃ history final, (system Nat .checked).play [] (.new (.fromIter 1 [5]))
        [.send .channel 6, .pollFuture 0 0, .trySend .channel 7, .tryRecv false, .pollFuture 0 0, .pollRecv false 1] =
          some (history, final) ∧
      ∃ history' final', (system Nat .checked).Run (.new (.fromIter 1 [5])) history' final' ∧
        (∀ event ∈ history', sends event.action = false) ∧ gathered accepted history' = [6] ∧
        gathered received history' = [5, 6] ∧ gathered (fun event => event.outcome.woken) history' = [0] ∧
        final'.queue = final.queue := by
  have initial : (system Nat .checked).Initial (.new (.fromIter 1 [5])) :=
    ⟨_, .inr (.inr ⟨1, by decide, [5], by decide, rfl⟩), rfl⟩
  obtain ⟨history, final, played, run, few, woken, entered, left⟩ := (system Nat .checked).exists_run _ initial
    [.send .channel 6, .pollFuture 0 0, .trySend .channel 7, .tryRecv false, .pollFuture 0 0, .pollRecv false 1]
    (fun history _ => (∀ event ∈ history, event.before.queue.extra.reserved < usizeMax) ∧
      gathered (fun event => event.outcome.woken) history = [0] ∧ gathered accepted history = [6] ∧
      gathered received history = [5, 6]) (by decide +kernel)
  obtain ⟨history', final', run', _, none, ⟨_, mirrors⟩, alike⟩ := sends_reserved run few
  exact ⟨history, final, played, history', final', run', none, alike.accepted.trans entered, alike.received.trans left,
    alike.woken.trans woken, mirrors.queue⟩

end Runs
end AsyncUnsync.Proofs.ReservedSends
