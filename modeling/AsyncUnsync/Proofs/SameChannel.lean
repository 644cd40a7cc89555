import AsyncUnsync.Placement

/-! What `same_channel` answers. An owned handle keeps its queue where it is, so that
the pointers to it name the channel; the places of borrowed handles name the handles. -/

namespace AsyncUnsync.Proofs.SameChannel
open Memory Transition Placement

/-- Every handle points to the queue of its own channel, and no two values share a place. -/
structure Placed (s : State) : Prop where
  points : ∀ a handle, s.handles.get? a = some handle →
    ∃ channel, s.channels.get? handle.channel = some channel ∧ handle.queue = channel.place
  channels : ∀ c c' channel other, s.channels.get? c = some channel → s.channels.get? c' = some other →
    channel.place = other.place → c = c'
  handles : ∀ a b handle other, s.handles.get? a = some handle → s.handles.get? b = some other →
    handle.place = other.place → a = b

variable {s s' : State} {a b c : Addr} {place : Place} {handle other : Handle} {channel : Channel} {action : Action}

section Free

theorem place_ne_of_free (free : s.occupied place = false) :
    (∀ c channel, s.channels.get? c = some channel → channel.place ≠ place) ∧
      ∀ a handle, s.handles.get? a = some handle → handle.place ≠ place := by
  simp only [State.occupied, Bool.or_eq_false_iff, bne_eq_false_iff_eq] at free
  constructor
  · intro c channel found same
    have some := Arena.count_pos found (p := fun channel => channel.place == place) (beq_iff_eq.mpr same)
    omega
  · intro a handle found same
    have some := Arena.count_pos found (p := fun handle => handle.place == place) (beq_iff_eq.mpr same)
    omega

theorem channel_ne_of_silent (silent : s.sends c = false) (found : s.handles.get? a = some handle) :
    handle.channel ≠ c := by
  intro same
  simp only [State.sends, bne_eq_false_iff_eq] at silent
  have some := Arena.count_pos found (p := fun handle => handle.channel == c) (beq_iff_eq.mpr same)
  omega

theorem silent_of_exclusive (exclusive : s.exclusive c = true) : s.sends c = false := by
  simp only [State.exclusive, Bool.and_eq_true, Bool.not_eq_true'] at exclusive
  exact exclusive.2

end Free

section Placing

theorem Placed.new : Placed .new := by
  constructor
  · intro a handle found
    cases found
  · intro c c' channel other found
    cases found
  · intro a b handle other found
    cases found

theorem Placed.touch (placed : Placed s) (c : Addr) (f : Channel → Channel) (stays : ∀ channel, (f channel).place = channel.place) :
    Placed { s with channels := s.channels.modify c f } := by
  have before : ∀ c' channel', (s.channels.modify c f).get? c' = some channel' →
      ∃ channel, s.channels.get? c' = some channel ∧ channel'.place = channel.place := by
    intro c' channel' found
    rw [Arena.get?_modify] at found
    split at found
    · obtain ⟨channel, present, rfl⟩ := Option.map_eq_some_iff.mp found
      exact ⟨channel, present, stays channel⟩
    · exact ⟨channel', found, rfl⟩
  refine ⟨?_, ?_, placed.handles⟩
  · intro a handle found
    obtain ⟨channel, present, same⟩ := placed.points a handle found
    by_cases own : handle.channel = c
    · exact ⟨f channel, by simp [Arena.get?_modify, own ▸ present, own], same.trans (stays channel).symm⟩
    · exact ⟨channel, by simpa [Arena.get?_modify, Ne.symm own] using present, same⟩
  · intro c₁ c₂ first second found found' same
    obtain ⟨first', present, place⟩ := before c₁ first found
    obtain ⟨second', present', place'⟩ := before c₂ second found'
    exact placed.channels c₁ c₂ first' second' present present' (by rw [← place, ← place', same])

theorem Placed.relocate (placed : Placed s) (silent : s.sends c = false)
    (free : ∀ c channel, s.channels.get? c = some channel → channel.place ≠ place)
    (f : Channel → Channel) (moves : ∀ channel, (f channel).place = place) :
    Placed { s with channels := s.channels.modify c f } := by
  have before : ∀ c' channel', (s.channels.modify c f).get? c' = some channel' →
      c' = c ∧ channel'.place = place ∨ c' ≠ c ∧ s.channels.get? c' = some channel' := by
    intro c' channel' found
    rw [Arena.get?_modify] at found
    split at found
    next same =>
      obtain ⟨channel, present, rfl⟩ := Option.map_eq_some_iff.mp found
      exact .inl ⟨same.symm, moves channel⟩
    next different => exact .inr ⟨Ne.symm different, found⟩
  refine ⟨?_, ?_, placed.handles⟩
  · intro a handle found
    obtain ⟨channel, present, same⟩ := placed.points a handle found
    have other := channel_ne_of_silent silent found
    exact ⟨channel, by simpa [Arena.get?_modify, Ne.symm other] using present, same⟩
  · intro c₁ c₂ first second found found' same
    rcases before c₁ first found with ⟨rfl, here⟩ | ⟨_, present⟩ <;>
      rcases before c₂ second found' with ⟨rfl, here'⟩ | ⟨_, present'⟩
    · rfl
    · exact absurd (same.symm.trans here) (free c₂ second present')
    · exact absurd (same.trans here') (free c₁ first present)
    · exact placed.channels c₁ c₂ first second present present' same

theorem Placed.create (placed : Placed s) (free : ∀ c channel, s.channels.get? c = some channel → channel.place ≠ place)
    (here : channel.place = place) : Placed { s with channels := s.channels.alloc channel } := by
  have before : ∀ c' channel', (s.channels.alloc channel).get? c' = some channel' →
      c' = s.channels.size ∧ channel'.place = place ∨ s.channels.get? c' = some channel' := by
    intro c' channel' found
    rcases Arena.of_alloc found with ⟨same, rfl⟩ | present
    · exact .inl ⟨same, here⟩
    · exact .inr present
  refine ⟨?_, ?_, placed.handles⟩
  · intro a handle found
    obtain ⟨channel', present, same⟩ := placed.points a handle found
    exact ⟨channel', Arena.get?_alloc_of_live present channel, same⟩
  · intro c₁ c₂ first second found found' same
    rcases before c₁ first found with ⟨rfl, place⟩ | present <;>
      rcases before c₂ second found' with ⟨rfl, place'⟩ | present'
    · rfl
    · exact absurd (same.symm.trans place) (free c₂ second present')
    · exact absurd (same.trans place') (free c₁ first present)
    · exact placed.channels c₁ c₂ first second present present' same

theorem Placed.close (placed : Placed s) (silent : s.sends c = false) :
    Placed { s with channels := s.channels.free c } := by
  refine ⟨?_, ?_, placed.handles⟩
  · intro a handle found
    obtain ⟨channel, present, same⟩ := placed.points a handle found
    exact ⟨channel, (Arena.get?_free_ne _ (channel_ne_of_silent silent found)).trans present, same⟩
  · intro c₁ c₂ first second found found'
    exact placed.channels c₁ c₂ first second (Arena.of_free found).2 (Arena.of_free found').2

theorem Placed.release (placed : Placed s) (c : Addr) : Placed (s.release c) := by
  unfold State.release
  split
  next last =>
    simp only [Bool.and_eq_true, Bool.not_eq_true'] at last
    exact placed.close last.2
  next => exact placed

theorem Placed.add (placed : Placed s) (found : s.channels.get? handle.channel = some channel)
    (points : handle.queue = channel.place) (free : ∀ a other, s.handles.get? a = some other → other.place ≠ handle.place) :
    Placed { s with handles := s.handles.alloc handle } := by
  refine ⟨?_, placed.channels, ?_⟩
  · intro a other present
    rcases Arena.of_alloc present with ⟨_, rfl⟩ | old
    · exact ⟨channel, found, points⟩
    · exact placed.points a other old
  · intro a b first second present present' same
    rcases Arena.of_alloc present with ⟨rfl, rfl⟩ | old <;> rcases Arena.of_alloc present' with ⟨rfl, rfl⟩ | old'
    · rfl
    · exact absurd same.symm (free b second old')
    · exact absurd same (free a first old)
    · exact placed.handles a b first second old old' same

theorem Placed.move (placed : Placed s) (free : ∀ a other, s.handles.get? a = some other → other.place ≠ place) :
    Placed { s with handles := s.handles.modify a fun handle => { handle with place } } := by
  have before : ∀ b other, (s.handles.modify a fun handle => { handle with place }).get? b = some other →
      ∃ old, s.handles.get? b = some old ∧ other = { old with place := if a = b then place else old.place } := by
    intro b other found
    rw [Arena.get?_modify] at found
    split at found
    next same =>
      obtain ⟨old, present, rfl⟩ := Option.map_eq_some_iff.mp found
      exact ⟨old, present, by simp [same]⟩
    next different => exact ⟨other, found, by simp [different]⟩
  refine ⟨?_, placed.channels, ?_⟩
  · intro b other found
    obtain ⟨old, present, rfl⟩ := before b other found
    exact placed.points b old present
  · intro b b' first second found found' same
    obtain ⟨old, present, rfl⟩ := before b first found
    obtain ⟨old', present', rfl⟩ := before b' second found'
    dsimp only at same
    split at same <;> split at same
    next here there => exact here.symm.trans there
    next => exact absurd same.symm (free b' old' present')
    next => exact absurd same (free b old present)
    next => exact placed.handles b b' old old' present present' same

theorem Placed.remove (placed : Placed s) : Placed { s with handles := s.handles.free a } := by
  refine ⟨fun b other found => placed.points b other (Arena.of_free found).2, placed.channels, ?_⟩
  intro b b' first second found found'
  exact placed.handles b b' first second (Arena.of_free found).2 (Arena.of_free found').2

end Placing

section Step

theorem step_placed (placed : Placed s) (able : enabled s action = true) (done : step s action = .ok s') : Placed s' := by
  cases action with
  | create bounded place =>
    cases done
    simp only [enabled, Bool.not_eq_true'] at able
    exact placed.create (place_ne_of_free able).1 rfl
  | moveChannel c place =>
    cases done
    simp only [enabled, Bool.and_eq_true, Bool.not_eq_true'] at able
    exact placed.relocate (silent_of_exclusive able.1) (place_ne_of_free able.2).1 _ fun _ => rfl
  | dropChannel c =>
    cases done
    exact placed.close (silent_of_exclusive able)
  | split c place =>
    simp only [enabled, Bool.and_eq_true, Bool.not_eq_true'] at able
    simp only [step] at done
    split at done
    next => cases done
    next channel found =>
      cases done
      have touched := placed.touch c (fun channel => { channel with receiver := true }) fun _ => rfl
      rw [Arena.modify_eq found] at touched
      exact touched.add (Arena.get?_put_self found _) rfl (place_ne_of_free able.2).2
  | intoSplit c allocation place =>
    simp only [enabled, Bool.and_eq_true, Bool.not_eq_true'] at able
    obtain ⟨⟨⟨exclusive, free⟩, free'⟩, _⟩ := able
    simp only [step] at done
    split at done
    next => cases done
    next channel found =>
      cases done
      have moved := placed.relocate (silent_of_exclusive exclusive) (place_ne_of_free free).1
        (fun channel => { channel with place := allocation, shared := true, receiver := true }) fun _ => rfl
      rw [Arena.modify_eq found] at moved
      exact moved.add (Arena.get?_put_self found _) rfl (place_ne_of_free free').2
  | dropReceiver c =>
    cases done
    exact (placed.touch c (fun channel => { channel with receiver := false }) fun _ => rfl).release c
  | forgetReceiver c =>
    cases done
    exact placed.touch c _ fun _ => rfl
  | clone a place =>
    simp only [enabled, Bool.and_eq_true, Bool.not_eq_true'] at able
    simp only [step] at done
    split at done
    next => cases done
    next handle found =>
      cases done
      obtain ⟨channel, present, points⟩ := placed.points a handle found
      exact placed.add present points (place_ne_of_free able.2).2
  | move a place =>
    cases done
    simp only [enabled, Bool.and_eq_true, Bool.not_eq_true'] at able
    exact placed.move (place_ne_of_free able.2).2
  | drop a =>
    simp only [step] at done
    split at done
    next => cases done
    next handle found =>
      cases done
      exact placed.remove.release handle.channel
  | forget a =>
    simp only [step] at done
    split at done
    next => cases done
    next handle found =>
      cases done
      have touched := placed.touch handle.channel
        (fun channel => { channel with leaked := channel.leaked || channel.shared }) fun _ => rfl
      exact touched.remove

theorem step_handle (done : step s action = .ok s') :
    (∀ a handle handle', s.handles.get? a = some handle → s'.handles.get? a = some handle' →
      handle' = { handle with place := handle'.place }) ∧
    ∀ a place handle, action = .clone a place → s.handles.get? a = some handle →
      s'.handles = s.handles.alloc { handle with place } := by
  have released : ∀ (s : State) c, (s.release c).handles = s.handles := by
    intro s c
    unfold State.release
    split <;> rfl
  have kept : s'.handles = s.handles → ∀ a handle handle', s.handles.get? a = some handle →
      s'.handles.get? a = some handle' → handle' = { handle with place := handle'.place } := by
    intro same a handle handle' found found'
    rw [same, found] at found'
    cases found'
    rfl
  have grown : ∀ new, s'.handles = s.handles.alloc new → ∀ a handle handle', s.handles.get? a = some handle →
      s'.handles.get? a = some handle' → handle' = { handle with place := handle'.place } := by
    intro new same a handle handle' found found'
    rw [same, Arena.get?_alloc_of_live found new] at found'
    cases found'
    rfl
  have shrunk : ∀ b, s'.handles = s.handles.free b → ∀ a handle handle', s.handles.get? a = some handle →
      s'.handles.get? a = some handle' → handle' = { handle with place := handle'.place } := by
    intro b same a handle handle' found found'
    rw [same] at found'
    cases found.symm.trans (Arena.of_free found').2
    rfl
  cases action with
  | create | moveChannel | dropChannel | forgetReceiver =>
    cases done
    exact ⟨kept rfl, fun _ _ _ clones => by cases clones⟩
  | dropReceiver c =>
    cases done
    exact ⟨kept (released _ _), fun _ _ _ clones => by cases clones⟩
  | split | intoSplit =>
    simp only [step] at done
    split at done
    · cases done
    · cases done
      exact ⟨grown _ rfl, fun _ _ _ clones => by cases clones⟩
  | clone b place =>
    simp only [step] at done
    split at done
    next => cases done
    next found =>
      cases done
      refine ⟨grown _ rfl, ?_⟩
      intro a place' handle clones found'
      cases clones
      cases found.symm.trans found'
      rfl
  | move b place =>
    cases done
    refine ⟨?_, fun _ _ _ clones => by cases clones⟩
    intro a handle handle' found found'
    rw [Arena.get?_modify] at found'
    split at found'
    · rw [found] at found'
      cases found'
      rfl
    · cases found.symm.trans found'
      rfl
  | drop b =>
    simp only [step] at done
    split at done
    · cases done
    · cases done
      exact ⟨shrunk b (released _ _), fun _ _ _ clones => by cases clones⟩
  | forget b =>
    simp only [step] at done
    split at done
    · cases done
    · cases done
      exact ⟨shrunk b rfl, fun _ _ _ clones => by cases clones⟩

end Step

section Answers

theorem sameChannel_owned (owned : handle.kind.owned = true) :
    handle.sameChannel other = true ↔ handle.queue = other.queue := by
  unfold Handle.sameChannel
  split
  next => exact beq_iff_eq
  next kind => simp [kind, Kind.owned] at owned
  next => exact beq_iff_eq
  next kind => simp [kind, Kind.owned] at owned

theorem sameChannel_borrowed (borrowed : handle.kind.owned = false) :
    handle.sameChannel other = true ↔ handle.place = other.place := by
  unfold Handle.sameChannel
  split
  next kind => simp [kind, Kind.owned] at borrowed
  next => exact beq_iff_eq
  next kind => simp [kind, Kind.owned] at borrowed
  next => exact beq_iff_eq

/-- All kinds compare one place of each handle. -/
theorem sameChannel_equivalence (kind : Kind) :
    Equivalence fun handle other : { handle : Handle // handle.kind = kind } => handle.val.sameChannel other.val = true := by
  cases owned : kind.owned with
  | true =>
    have places : ∀ handle other : { handle : Handle // handle.kind = kind },
        handle.val.sameChannel other.val = true ↔ handle.val.queue = other.val.queue :=
      fun handle _ => sameChannel_owned (by rw [handle.property, owned])
    simp only [places]
    exact ⟨fun _ => rfl, fun same => same.symm, fun first second => first.trans second⟩
  | false =>
    have places : ∀ handle other : { handle : Handle // handle.kind = kind },
        handle.val.sameChannel other.val = true ↔ handle.val.place = other.val.place :=
      fun handle _ => sameChannel_borrowed (by rw [handle.property, owned])
    simp only [places]
    exact ⟨fun _ => rfl, fun same => same.symm, fun first second => first.trans second⟩

theorem Placed.names (placed : Placed s) (found : s.handles.get? a = some handle) (found' : s.handles.get? b = some other) :
    (handle.queue = other.queue ↔ handle.channel = other.channel) ∧ (handle.place = other.place ↔ a = b) := by
  obtain ⟨channel, present, points⟩ := placed.points a handle found
  obtain ⟨channel', present', points'⟩ := placed.points b other found'
  constructor
  · constructor
    · intro same
      exact placed.channels _ _ channel channel' present present' (by rw [← points, ← points', same])
    · intro same
      rw [same, present'] at present
      cases present
      rw [points, points']
  · constructor
    · exact placed.handles a b handle other found found'
    · rintro rfl
      cases found.symm.trans found'
      rfl

/-- `same_channel` tells the truth about two handles. -/
def Truthful (handle other : Handle) : Prop := handle.sameChannel other = true ↔ handle.channel = other.channel

/-- What a step does to the answers. Those of handles that stay are kept. -/
structure Steady (event : Event State Action Unit) : Prop where
  stays : ∀ a b handle other handle' other', event.before.handles.get? a = some handle →
    event.before.handles.get? b = some other → event.after.handles.get? a = some handle' →
    event.after.handles.get? b = some other' → handle.kind = other.kind →
    handle'.sameChannel other' = handle.sameChannel other
  clones : ∀ a place b handle other clone, event.action = .clone a place → event.before.handles.get? a = some handle →
    event.before.handles.get? b = some other → event.after.handles.get? event.before.handles.size = some clone →
    handle.kind = other.kind →
    (clone.sameChannel other = handle.sameChannel other ↔ handle.kind.owned = true ∨ a ≠ b)

theorem Placed.truthful (placed : Placed s) (found : s.handles.get? a = some handle) (found' : s.handles.get? b = some other) :
    Truthful handle other ↔ handle.kind.owned = true ∨ a = b ∨ handle.channel ≠ other.channel := by
  obtain ⟨queues, places⟩ := placed.names found found'
  unfold Truthful
  cases owned : handle.kind.owned with
  | true => simp [sameChannel_owned owned, queues]
  | false =>
    have own : a = b → handle.channel = other.channel := by
      rintro rfl
      cases found.symm.trans found'
      rfl
    rw [sameChannel_borrowed owned, places]
    by_cases same : a = b
    · simp [same, own same]
    · simp [same]

theorem steady_of_step {s s' : State} {action : Action} (placed : Placed s) (placed' : Placed s')
    (done : step s action = .ok s') : Steady ⟨s, action, (), s'⟩ := by
  obtain ⟨keeps, clones⟩ := step_handle done
  constructor
  · intro a b handle other handle' other' found found' found₁ found₂ kind
    have first := keeps a handle handle' found found₁
    have second := keeps b other other' found' found₂
    have before := placed.names found found'
    have after := placed'.names found₁ found₂
    rw [Bool.eq_iff_iff]
    cases owned : handle.kind.owned with
    | true =>
      have owned' : handle'.kind.owned = true := by rw [first]; exact owned
      rw [sameChannel_owned owned, sameChannel_owned owned', first, second]
    | false =>
      have owned' : handle'.kind.owned = false := by rw [first]; exact owned
      rw [sameChannel_borrowed owned, sameChannel_borrowed owned', before.2, after.2]
  · intro a place b handle other clone action found found' cloned kind
    have grown := clones a place handle action found
    rw [grown, Arena.get?_alloc_self] at cloned
    cases cloned
    have other_kept : s'.handles.get? b = some other := by
      rw [grown]
      exact Arena.get?_alloc_of_live found' _
    have new : s'.handles.get? s.handles.size = some { handle with place } := by
      rw [grown]
      exact Arena.get?_alloc_self ..
    have different : s.handles.size ≠ b := Nat.ne_of_gt (Arena.lt_size found')
    rw [Bool.eq_iff_iff]
    cases owned : handle.kind.owned with
    | true =>
      have owned' : ({ handle with place } : Handle).kind.owned = true := owned
      simp [sameChannel_owned owned, sameChannel_owned owned']
    | false =>
      have owned' : ({ handle with place } : Handle).kind.owned = false := owned
      rw [sameChannel_borrowed owned, sameChannel_borrowed owned', (placed'.names new other_kept).2,
        (placed.names found found').2]
      simp [different]

end Answers

section Run
variable {start final : State} {history : History State Action Unit}

theorem run_placed (run : system.Run start history final) : Placed final := by
  apply run.invariant fun _ s => Placed s
  · rintro rfl
    exact .new
  · intro past before action _ after _ placed able stepped
    exact step_placed placed able (step_ok stepped)

theorem run_steady (run : system.Run start history final) : ∀ event ∈ history, Steady event := by
  intro event member
  obtain ⟨past, reached⟩ := run.reaches member
  obtain ⟨earlier, _, stepped, _⟩ := reached.last
  exact steady_of_step (run_placed earlier) (run_placed reached) (step_ok stepped)

/-- Whatever was split, cloned, moved and dropped before, and wherever it was put: `same_channel`
is right about two handles exactly when they are owned, or one and the same, or of different channels. -/
theorem run_same_channel (run : system.Run start history final) :
    (∀ a b handle other, final.handles.get? a = some handle → final.handles.get? b = some other →
      handle.kind = other.kind →
      (Truthful handle other ↔ handle.kind.owned = true ∨ a = b ∨ handle.channel ≠ other.channel)) ∧
    (∀ kind, Equivalence fun handle other : { handle : Handle // handle.kind = kind } =>
      handle.val.sameChannel other.val = true) ∧
    ∀ event ∈ history, Steady event :=
  ⟨fun _ _ _ _ found found' _ => (run_placed run).truthful found found', sameChannel_equivalence, run_steady run⟩

end Run

/-- Two senders of one `Rc`, after the stack place of the first channel was used again. -/
theorem run_same_channel_owned :
    ∃ history final, system.play [] .new [.create true 10, .intoSplit 0 50 20, .create true 10, .clone 0 21, .move 0 30] =
        some (history, final) ∧
      ∃ handle other, final.handles.get? 0 = some handle ∧ final.handles.get? 1 = some other ∧ Truthful handle other := by
  obtain ⟨history, final, played, run, first, second⟩ := system.exists_run .new rfl
    [.create true 10, .intoSplit 0 50 20, .create true 10, .clone 0 21, .move 0 30]
    (fun _ final => final.handles.get? 0 = some ⟨.sender, 30, 50, 0⟩ ∧ final.handles.get? 1 = some ⟨.sender, 21, 50, 0⟩)
    (by decide)
  exact ⟨history, final, played, _, _, first, second,
    ((run_same_channel run).1 0 1 _ _ first second rfl).mpr (.inl rfl)⟩

/-- A borrowed handle and its clone are of one channel, and deny it. -/
theorem clone_of_other_channel :
    (∃ history final, system.play [] .new [.create true 10, .split 0 20, .clone 0 21] = some (history, final) ∧
      system.Run .new history final ∧
      ∃ handle clone, final.handles.get? 0 = some handle ∧ final.handles.get? 1 = some clone ∧
        handle.kind = .senderRef ∧ clone.kind = .senderRef ∧ handle.channel = clone.channel ∧
        handle.sameChannel clone = false) ∧
    ∃ history final, system.play [] .new [.create false 10, .split 0 20, .clone 0 21] = some (history, final) ∧
      system.Run .new history final ∧
      ∃ handle clone, final.handles.get? 0 = some handle ∧ final.handles.get? 1 = some clone ∧
        handle.kind = .unboundedSenderRef ∧ clone.kind = .unboundedSenderRef ∧ handle.channel = clone.channel ∧
        handle.sameChannel clone = false := by
  constructor
  · obtain ⟨history, final, played, run, first, second⟩ := system.exists_run .new rfl
      [.create true 10, .split 0 20, .clone 0 21] (fun _ final => final.handles.get? 0 = some ⟨.senderRef, 20, 10, 0⟩ ∧
        final.handles.get? 1 = some ⟨.senderRef, 21, 10, 0⟩) (by decide)
    exact ⟨history, final, played, run, _, _, first, second, rfl, rfl, rfl, rfl⟩
  · obtain ⟨history, final, played, run, first, second⟩ := system.exists_run .new rfl
      [.create false 10, .split 0 20, .clone 0 21] (fun _ final =>
        final.handles.get? 0 = some ⟨.unboundedSenderRef, 20, 10, 0⟩ ∧
          final.handles.get? 1 = some ⟨.unboundedSenderRef, 21, 10, 0⟩) (by decide)
    exact ⟨history, final, played, run, _, _, first, second, rfl, rfl, rfl, rfl⟩

end AsyncUnsync.Proofs.SameChannel
