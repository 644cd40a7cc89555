import AsyncUnsync.Proofs.CensusCounts
import AsyncUnsync.Proofs.QueueCalls
import AsyncUnsync.UnboundedSystem

/-! What every call of an unbounded channel means to those who count the senders. -/

namespace AsyncUnsync.Proofs.UnboundedCensus
open Memory Transition UnboundedSystem QueueCalls CensusCounts
variable {T : Type}

def census (s : State T) : Census := ⟨s.queue.mask, s.handles.senderCount, s.handles.receiver⟩

/-- Who comes and who goes with a call. -/
def move : Action T → Census.Move
  | .split | .intoSplit => .split
  | .close counted => .close counted
  | .dropReceiver => .retire
  | .forgetReceiver => .abandon
  | .cloneSender _ => .join
  | .dropSender _ => .leave
  | .forgetSender _ => .lose
  | .intoDeque | .tryRecv _ | .pollRecv _ _ | .send _ _ => .stay

variable {build : Build} {start state s : State T} {action : Action T} {effect : Effect (UnboundedQueue T) (Reply T)}
  {past history : History (State T) (Action T) (Outcome T)} {event : Event (State T) (Action T) (Outcome T)}

theorem move_enabled (able : enabled s.handles action = true) : (census s).enabled (move action) = true := by
  have alone : s.handles.unsplit = true → s.handles.receiver = false ∧ s.handles.senderCount = 0 :=
    fun unsplit => (Handles.unsplit_iff.mp unsplit).2
  cases action with
  | split | intoSplit =>
    obtain ⟨receiver, senders⟩ := alone able
    simp [move, census, Census.enabled, receiver, senders]
  | close counted =>
    cases counted with
    | true => exact able
    | false =>
      obtain ⟨receiver, senders⟩ := alone able
      simp [move, census, Census.enabled, receiver, senders]
  | dropReceiver | forgetReceiver => exact able
  | cloneSender id | dropSender id | forgetSender id =>
    have some := Handles.senderCount_pos able
    simp only [move, census, Census.enabled, bne_iff_ne, ne_eq]
    omega
  | intoDeque | tryRecv | pollRecv | send => rfl

private theorem stays (mask : effect.state.mask = s.queue.mask) :
    (census s).step .stay = .ok (census ⟨effect.state, s.handles⟩) := by
  simp only [Census.step, census, mask]

/-- The step lemma: every call is a move of the census. -/
theorem census_step (able : enabled s.handles action = true) (operated : operate build s action = .ok effect) :
    (census s).step (move action) = .ok (census ⟨effect.state, record s.handles action⟩) := by
  cases action with
  | split | intoSplit =>
    obtain ⟨split, done, stored⟩ := bind_ok operated
    obtain ⟨cleared, reset, counted⟩ := setCounted_mask done
    cases unbounded_reset_ok reset
    cases stored
    simp only [move, Census.step, census, counted, ok_bind, record, Handles.senderCount_split, Handles.senderCount_intoSplit]
    rfl
  | intoDeque | forgetReceiver =>
    cases operated
    rfl
  | close mode =>
    obtain ⟨closed, done, stored⟩ := bind_ok operated
    cases unbounded_close_ok done
    cases stored
    rfl
  | dropReceiver =>
    obtain ⟨closed, done, stored⟩ := bind_ok operated
    cases unbounded_close_ok done
    cases stored
    rfl
  | tryRecv mode =>
    obtain ⟨received, done, stored⟩ := bind_ok operated
    cases stored
    rcases unbounded_tryRecv_ok done with ⟨_, _, _, _, _, rfl⟩ | ⟨_, _, _, rfl⟩ <;> exact stays rfl
  | pollRecv mode waker =>
    obtain ⟨polled, done, stored⟩ := bind_ok operated
    obtain ⟨received, tried, rfl⟩ := pollRecv_ok done
    cases stored
    rcases unbounded_tryRecv_ok tried with ⟨_, _, _, _, _, rfl⟩ | ⟨_, _, _, rfl⟩
    · exact stays rfl
    · exact stays (by simp only [Effect.map]; split <;> rfl)
  | send via elem =>
    cases operated
    rcases unbounded_send_eq s.queue via.counted elem with ⟨_, same⟩ | ⟨_, same⟩ <;> exact stays (by rw [same]; rfl)
  | cloneSender id =>
    obtain ⟨queue, done, stored⟩ := bind_ok operated
    have increased := increaseSenderCount_mask done
    cases stored
    simp only [move, Census.step, census, increased, ok_bind, record, Handles.senderCount_addSender]
    rfl
  | dropSender id =>
    have removed := Handles.senderCount_removeSender able
    have count : s.handles.senderCount - 1 = (s.handles.removeSender id).senderCount := by omega
    obtain ⟨dropped, done, stored⟩ := bind_ok operated
    obtain ⟨last, decreased⟩ := decreaseSenderCount_mask done
    cases stored
    simp only [move, Census.step, census, decreased, ok_bind, record, count]
    rfl
  | forgetSender id =>
    have removed := Handles.senderCount_removeSender able
    have count : s.handles.senderCount - 1 = (s.handles.removeSender id).senderCount := by omega
    cases operated
    simp only [move, Census.step, census, record, count]
    rfl

theorem run_step (run : (system T build).Run start (event :: past) event.after) :
    (system T build).Run start past event.before ∧ enabled event.before.handles event.action = true ∧
      ∃ effect, operate build event.before event.action = .ok effect ∧
        event.after = ⟨effect.state, record event.before.handles event.action⟩ ∧
        event.outcome = ⟨effect.value, effect.woken⟩ := by
  obtain ⟨earlier, able, stepped, _⟩ := run.last
  exact ⟨earlier, able, step_ok stepped⟩

/-- A step of the channel, as the census sees it. -/
def told : Event (State T) (Action T) (Outcome T) → Event Census Census.Move Unit :=
  Event.image census (fun event => move event.action) fun _ => ()

theorem run_census (run : (system T build).Run start history state) :
    Census.system.Run (census start) (history.map told) (census state) := by
  apply run.image
  · rintro ⟨queue, rfl | ⟨_, rfl⟩ | ⟨_, rfl⟩, rfl⟩ <;> rfl
  · intro past event reached
    obtain ⟨_, able, effect, operated, after, _⟩ := run_step reached
    refine ⟨move_enabled able, ?_⟩
    rw [after]
    simp only [Census.system, census_step able operated, Except.map]

end AsyncUnsync.Proofs.UnboundedCensus
