import AsyncUnsync.Proofs.HandoffProgress

/-! What passes between two tasks that share a oneshot channel. -/

namespace AsyncUnsync.Proofs.HandoffTasks
open Transition OneshotSystem Handoff
variable {T : Type} {waker : Nat → Waker} {s s' : State T} {task : Nat} {role role' : Role T} {value : T}
  {action : Action T} {outcome : Outcome T} {start crew : Crew (State T) (Role T)}
  {history : History (Crew (State T) (Role T)) (Turn (Action T)) (Outcome T)}

section Contents

theorem Move.unaccepted (move : Move s (waker task) role role' s' outcome) : role.accepted = none := by cases move <;> rfl

theorem Move.unreceived (move : Move s (waker task) role role' s' outcome) (sends : role.sends = true) :
    role.received = none ∧ role'.received = none := by
  cases move <;> first | exact ⟨rfl, rfl⟩ | cases sends

theorem Move.unsent (move : Move s (waker task) role role' s' outcome) (receives : role.sends = false) :
    role'.accepted = none := by
  cases move <;> first | rfl | cases receives

theorem Move.contents (move : Move s (waker task) role role' s' outcome) (sealed : s.slot.value ≠ none → s.slot.closed = true) :
    role'.received.toList ++ s'.slot.value.toList = role.received.toList ++ s.slot.value.toList ++ role'.accepted.toList := by
  cases move with
  | sends opened =>
    have empty : s.slot.value = none := by
      by_contra stored
      cases opened.symm.trans (sealed stored)
    rw [empty]
    rfl
  | takes stored | finds stored =>
    rw [stored]
    rfl
  | _ => exact (List.append_nil _).symm

end Contents

private theorem run_contents (run : (system T waker).Run start history crew) :
    (crew.place 0).received.toList ++ crew.shared.slot.value.toList =
      start.shared.slot.value.toList ++ (crew.place 1).accepted.toList := by
  apply run.invariant fun _ crew => (crew.place 0).received.toList ++ crew.shared.slot.value.toList =
    start.shared.slot.value.toList ++ (crew.place 1).accepted.toList
  · intro initial
    obtain ⟨⟨_, _, received⟩, _, _, accepted⟩ := start_roles initial.2
    rw [received, accepted]
    exact (List.append_nil _).symm
  · intro past before action outcome after reached balanced able stepped
    obtain ⟨role, s, _, within, _, move, resumed, proceeded⟩ := turn_move (.step reached able stepped)
    have working := run_working reached
    have contents := move.contents working.sealed
    obtain ⟨task, call⟩ := action
    dsimp only at within move resumed proceeded contents
    have self : ((program T waker).proceed before task s outcome).place task = role := (Program.proceed_self ..).trans resumed
    rw [proceeded, Program.proceed_shared]
    rcases working.tasks within with ⟨rfl, receives⟩ | ⟨rfl, sends⟩
    · rw [self, Program.proceed_other Nat.one_ne_zero, contents, move.unsent receives, ← balanced]
      exact List.append_nil _
    · obtain ⟨nothing, still⟩ := move.unreceived sends
      rw [nothing, still, Option.toList_none, List.nil_append, List.nil_append] at contents
      rw [move.unaccepted, Option.toList_none, List.append_nil] at balanced
      rw [self, Program.proceed_other Nat.zero_ne_one, contents, ← List.append_assoc, balanced]

/-- The stages of an exchange: the value is to be sent, or stored, or received. -/
inductive Exchanges (value : T) (crew : Crew (State T) (Role T)) : Prop where
  | waits (receiving : crew.place 0 = .receiving) (sending : crew.place 1 = .sending value)
    (opened : crew.shared.slot.closed = false)
  | stored (receiving : crew.place 0 = .receiving) (sent : crew.place 1 = .sent value (.ok ()))
    (stored : crew.shared.slot.value = some value)
  | taken (received : crew.place 0 = .departing (some value) ∨ crew.place 0 = .departed (some value))
    (sent : crew.place 1 = .sent value (.ok ()))

private theorem run_exchanges (run : (system T waker).Run start history crew) (receiving : start.place 0 = .receiving)
    (sending : start.place 1 = .sending value) (opened : start.shared.slot.closed = false) : Exchanges value crew := by
  apply run.invariant fun _ crew => Exchanges value crew
  · exact fun _ => .waits receiving sending opened
  · intro past before action outcome after reached exchanges able stepped
    obtain ⟨role, s, _, within, _, move, resumed, proceeded⟩ := turn_move (.step reached able stepped)
    have working := run_working reached
    obtain ⟨task, call⟩ := action
    dsimp only at within move resumed proceeded
    rw [proceeded]
    have other : ∀ other, other ≠ task → ((program T waker).proceed before task s outcome).place other = before.place other :=
      fun _ different => Program.proceed_other different
    have self : ((program T waker).proceed before task s outcome).place task = role := (Program.proceed_self ..).trans resumed
    rcases working.tasks within with ⟨rfl, _⟩ | ⟨rfl, _⟩
    · have sends := other 1 Nat.one_ne_zero
      cases exchanges with
      | waits receiving sending opened =>
        rw [receiving] at move
        cases move with
        | listens empty => exact .waits self (sends.trans sending) opened
        | takes stored => cases opened.symm.trans (working.sealed (by simp [stored]))
        | ends _ closed => cases opened.symm.trans closed
      | stored receiving sent stored =>
        rw [receiving] at move
        cases move with
        | takes stored' =>
          obtain rfl := Option.some.inj (stored.symm.trans stored')
          exact .taken (.inl self) (sends.trans sent)
        | listens empty | ends empty => cases stored.symm.trans empty
      | taken received sent =>
        rcases received with received | received <;> rw [received] at move <;> cases move
        exact .taken (.inr self) (sends.trans sent)
    · have receives := other 0 Nat.zero_ne_one
      cases exchanges with
      | waits receiving sending opened =>
        rw [sending] at move
        cases move with
        | sends => exact .stored (receives.trans receiving) self rfl
        | refused closed => cases opened.symm.trans closed
      | stored _ sent | taken _ sent =>
        rw [sent] at move
        cases move

/-- What was stored at first or accepted since is received or still stored. If the channel is open, one task
sends and the other receives, then both succeed, in whatever order they take their turns. -/
theorem handoff_delivers (run : (system T waker).Run start history crew) :
    (crew.place 0).received.toList ++ crew.shared.slot.value.toList =
      start.shared.slot.value.toList ++ (crew.place 1).accepted.toList ∧
    (start.shared.slot.closed = false → start.place 0 = .receiving → ∀ value, start.place 1 = .sending value →
      (∀ turn, ¬ (system T waker).Enabled crew turn) →
        crew.place 0 = .departed (some value) ∧ crew.place 1 = .sent value (.ok ())) := by
  refine ⟨run_contents run, fun opened receiving value sending quiet => ?_⟩
  have done : (crew.place 0).finished = true := by
    by_contra unfinished
    obtain ⟨_, unsent⟩ := left_asleep run quiet Nat.zero_lt_two (Bool.not_eq_true _ ▸ unfinished)
    rw [run_value run, sending] at unsent
    cases unsent
  cases run_exchanges run receiving sending opened with
  | waits receiving | stored receiving =>
    rw [receiving] at done
    cases done
  | taken received sent =>
    rcases received with departing | departed
    · rw [departing] at done
      cases done
    · exact ⟨departed, sent⟩

/-- The receiver polls before the value is sent. -/
theorem handoff_delivers_slept :
    ∃ history final, (system Nat id).play [] (pair split .receiving (.sending 5)) [⟨0, .pollRecv 0⟩, ⟨1, .send 5⟩] =
        some (history, final) ∧
      (final.place 0).received.toList ++ final.shared.slot.value.toList = [5] ∧
      ∃ later ended, (system Nat id).Run (pair split .receiving (.sending 5)) (later ++ history) ended ∧
        ended.place 0 = .departed (some 5) := by
  obtain ⟨history, final, played, run, accepted⟩ := (system Nat id).exists_run _ (split_starts (.inl ⟨5, rfl⟩) id)
    [⟨0, .pollRecv 0⟩, ⟨1, .send 5⟩] (fun _ final => (final.place 1).accepted = some 5) (by decide)
  obtain ⟨later, ended, run', quiet⟩ := run_ended run
  have balanced := (handoff_delivers run).1
  rw [accepted] at balanced
  exact ⟨history, final, played, balanced, later, ended, run', ((handoff_delivers run').2 rfl rfl 5 rfl quiet).1⟩

end AsyncUnsync.Proofs.HandoffTasks
