import AsyncUnsync.Library.Lockstep

/-! Two systems that cannot be told apart from outside: one has the other as its
view, takes the same actions and answers alike. Their runs are then the same. And
systems of which one takes any number of steps for each step of the other. -/

namespace Transition
variable {σ σ' α ω ε : Type*}

def Event.seen (view : σ → σ') (event : Event σ α ω) : Event σ' α ω := event.image view Event.action Event.outcome

namespace System

/-- From a good state, the view takes the same actions to the same outcomes, faults included,
and good states stay good. -/
structure Refines (sys : System σ α ω ε) (sys' : System σ' α ω ε) (view : σ → σ') (good : σ → Prop) : Prop where
  initial : ∀ state, sys.Initial state → good state ∧ sys'.Initial (view state)
  enabled : ∀ state action, good state → (sys.Enabled state action ↔ sys'.Enabled (view state) action)
  step : ∀ state action, good state → sys.Enabled state action →
    Both (fun result result' => result' = (view result.1, result.2) ∧ good result.1)
      (sys.step state action) (sys'.step (view state) action)

variable {sys : System σ α ω ε} {sys' : System σ' α ω ε} {view : σ → σ'} {good : σ → Prop}
  {start state : σ} {history : History σ α ω}

theorem Refines.step_ok (refines : sys.Refines sys' view good) {action : α} {after : σ} {outcome : ω} (fine : good state)
    (able : sys.Enabled state action) (stepped : sys.step state action = .ok (after, outcome)) :
    sys'.step (view state) action = .ok (view after, outcome) ∧ good after := by
  have both := refines.step state action fine able
  rw [stepped] at both
  generalize sys'.step (view state) action = result at both
  obtain ⟨rfl, better⟩ := both
  exact ⟨rfl, better⟩

theorem Refines.step_returns (refines : sys.Refines sys' view good) {action : α} {seen : σ'} {outcome : ω} (fine : good state)
    (able : sys'.Enabled (view state) action) (stepped : sys'.step (view state) action = .ok (seen, outcome)) :
    sys.Enabled state action ∧ ∃ after, sys.step state action = .ok (after, outcome) ∧ seen = view after := by
  have able' := (refines.enabled _ _ fine).mpr able
  have both := refines.step state action fine able'
  rw [stepped] at both
  generalize sys.step state action = result at both
  obtain ⟨same, _⟩ := both
  obtain ⟨rfl, rfl⟩ := Prod.mk.inj same
  exact ⟨able', _, rfl, rfl⟩

theorem Refines.run (refines : sys.Refines sys' view good) (run : sys.Run start history state) :
    good state ∧ sys'.Run (view start) (history.map (Event.seen view)) (view state) := by
  induction run with
  | start initial =>
    obtain ⟨fine, initial'⟩ := refines.initial start initial
    exact ⟨fine, .start initial'⟩
  | step run able stepped ih =>
    obtain ⟨fine, seen⟩ := ih
    obtain ⟨stepped', better⟩ := refines.step_ok fine able stepped
    exact ⟨better, .step seen ((refines.enabled _ _ fine).mp able) stepped'⟩

theorem Refines.faults (refines : sys.Refines sys' view good) (run : sys.Run start history state) {action : α}
    (able : sys.Enabled state action) (fault : ε) :
    sys.step state action = .error fault ↔ sys'.step (view state) action = .error fault :=
  (refines.step state action (refines.run run).1 able).error_iff fault

theorem Refines.realizes (refines : sys.Refines sys' view good) (initial : sys.Initial start)
    {history' : History σ' α ω} {state' : σ'} (run : sys'.Run (view start) history' state') :
    ∃ history state, sys.Run start history state ∧ history' = history.map (Event.seen view) ∧ state' = view state := by
  induction run with
  | start => exact ⟨[], start, .start initial, rfl, rfl⟩
  | step run able stepped ih =>
    obtain ⟨history, state, run', rfl, rfl⟩ := ih
    obtain ⟨able', after, stepped', rfl⟩ := refines.step_returns (refines.run run').1 able stepped
    exact ⟨_, _, .step run' able' stepped', rfl, rfl⟩

end System

/-- Another history, with any number of steps in the place of each step of the first. -/
inductive Expands {α' ω' : Type*} (stands : Event σ α ω → History σ' α' ω' → Prop) :
    History σ α ω → History σ' α' ω' → Prop where
  | start : Expands stands [] []
  | step {past : History σ α ω} {past' more : History σ' α' ω'} {event : Event σ α ω} (expands : Expands stands past past')
      (stand : stands event more) : Expands stands (event :: past) (more ++ past')

section Expansion
variable {α' ω' ε' : Type*} {stands : Event σ α ω → History σ' α' ω' → Prop} {history : History σ α ω}
  {history' : History σ' α' ω'}

theorem Expands.gathered {κ : Type*} {contribution : Event σ α ω → List κ} {contribution' : Event σ' α' ω' → List κ}
    (expands : Expands stands history history')
    (each : ∀ event more, stands event more → Transition.gathered contribution' more = contribution event) :
    Transition.gathered contribution' history' = Transition.gathered contribution history := by
  induction expands with
  | start => rfl
  | step expands stand ih => rw [gathered_append, ih, each _ _ stand, Transition.gathered]

theorem Expands.forall_mem {holds : Event σ' α' ω' → Prop} (expands : Expands stands history history')
    (each : ∀ event more, stands event more → ∀ other ∈ more, holds other) : ∀ other ∈ history', holds other := by
  induction expands with
  | start => exact fun other member => absurd member List.not_mem_nil
  | step expands stand ih =>
    intro other member
    rcases List.mem_append.mp member with new | old
    · exact each _ _ stand other new
    · exact ih other old

/-- Where each step of a run is matched by any number of steps of another system, so is the run. -/
theorem System.Run.matched {sys : System σ α ω ε} {sys' : System σ' α' ω' ε'} {start state : σ} {start' : σ'}
    {regular : Event σ α ω → Prop} (agree : σ → σ' → Prop) (run : sys.Run start history state)
    (each : ∀ event ∈ history, regular event) (initial : sys'.Initial start') (first : agree start start')
    (follow : ∀ past event past' state', sys.Run start (event :: past) event.after → regular event →
      sys'.Run start' past' state' → agree event.before state' →
        ∃ more after', sys'.Run start' (more ++ past') after' ∧ stands event more ∧ agree event.after after') :
    ∃ history' state', sys'.Run start' history' state' ∧ Expands stands history history' ∧ agree state state' := by
  induction run with
  | start => exact ⟨[], start', .start initial, .start, first⟩
  | step run able stepped ih =>
    obtain ⟨past', state', run', expands, agreed⟩ := ih fun event member => each event (List.mem_cons_of_mem _ member)
    obtain ⟨more, after', longer, stand, still⟩ :=
      follow _ _ past' state' (.step run able stepped) (each _ List.mem_cons_self) run' agreed
    exact ⟨more ++ past', after', longer, expands.step stand, still⟩

end Expansion
end Transition
