import AsyncUnsync.Library.History

/-! Two systems side by side, where each action of the first is taken together with
its counterpart of the second; and two plays of the same actions. -/

namespace Transition
variable {σ α ω σ' α' ω' ε : Type*}

def Event.first (event : Event (σ × σ') α (ω × ω')) : Event σ α ω :=
  event.image Prod.fst Event.action fun event => event.outcome.1

def Event.second (label : α → α') (event : Event (σ × σ') α (ω × ω')) : Event σ' α' ω' :=
  event.image Prod.snd (fun event => label event.action) fun event => event.outcome.2

/-- Two calls succeed with related results, or they fail alike. -/
inductive Both {β γ : Type*} (related : β → γ → Prop) : Except ε β → Except ε γ → Prop where
  | ok {value : β} {value' : γ} (holds : related value value') : Both related (.ok value) (.ok value')
  | error (fault : ε) : Both related (.error fault) (.error fault)

theorem Both.bind.{u, v} {β δ : Type u} {γ κ : Type v} {related : β → γ → Prop} {later : δ → κ → Prop} {first : Except ε β}
    {second : Except ε γ} {next : β → Except ε δ} {next' : γ → Except ε κ} (both : Both related first second)
    (follow : ∀ value value', related value value' → Both later (next value) (next' value')) :
    Both later (first >>= next) (second >>= next') := by
  cases both with
  | ok holds => exact follow _ _ holds
  | error fault => exact .error fault

theorem Both.error_iff {β γ : Type*} {related : β → γ → Prop} {first : Except ε β} {second : Except ε γ}
    (both : Both related first second) (fault : ε) : first = .error fault ↔ second = .error fault := by
  cases both with
  | ok => exact iff_of_false nofun nofun
  | error => simp

namespace System

def lockstep (sys : System σ α ω ε) (sys' : System σ' α' ω' ε) (label : α → α') : System (σ × σ') α (ω × ω') ε where
  Initial state := sys.Initial state.1 ∧ sys'.Initial state.2
  Enabled state action := sys.Enabled state.1 action ∧ sys'.Enabled state.2 (label action)
  step state action :=
    match sys.step state.1 action with
    | .error fault => .error fault
    | .ok (after, outcome) =>
      match sys'.step state.2 (label action) with
      | .error fault => .error fault
      | .ok (after', outcome') => .ok ((after, after'), outcome, outcome')

variable {sys : System σ α ω ε} {sys' : System σ' α' ω' ε} {label : α → α'}
  {start state : σ × σ'} {history : History (σ × σ') α (ω × ω')}

instance [∀ state action, Decidable (sys.Enabled state action)] [∀ state action, Decidable (sys'.Enabled state action)]
    (state : σ × σ') (action : α) : Decidable ((sys.lockstep sys' label).Enabled state action) :=
  inferInstanceAs (Decidable (_ ∧ _))

theorem lockstep_ok {action : α} {after : σ × σ'} {outcome : ω × ω'}
    (stepped : (sys.lockstep sys' label).step state action = .ok (after, outcome)) :
    sys.step state.1 action = .ok (after.1, outcome.1) ∧ sys'.step state.2 (label action) = .ok (after.2, outcome.2) := by
  simp only [lockstep] at stepped
  split at stepped
  next => cases stepped
  next done =>
    split at stepped
    next => cases stepped
    next done' =>
      cases stepped
      exact ⟨done, done'⟩

theorem Run.first (run : (sys.lockstep sys' label).Run start history state) :
    sys.Run start.1 (history.map Event.first) state.1 := by
  apply run.image And.left
  intro past event reached
  obtain ⟨_, enabled, stepped, _⟩ := reached.last
  exact ⟨enabled.1, (lockstep_ok stepped).1⟩

theorem Run.second (run : (sys.lockstep sys' label).Run start history state) :
    sys'.Run start.2 (history.map (Event.second label)) state.2 := by
  apply run.image And.right
  intro past event reached
  obtain ⟨_, enabled, stepped, _⟩ := reached.last
  exact ⟨enabled.2, (lockstep_ok stepped).2⟩

/-- Two plays of the same actions, from related states, succeed alike and end in related states. -/
theorem play_both {related : σ → σ → Prop} [∀ state action, Decidable (sys.Enabled state action)] {actions : List α}
    (keeps : ∀ action ∈ actions, ∀ state state', related state state' →
      (sys.Enabled state action ↔ sys.Enabled state' action) ∧
        (sys.Enabled state action → Both (fun result result' => related result.1 result'.1)
          (sys.step state action) (sys.step state' action)))
    {past past' : History σ α ω} {state state' : σ} (start : related state state') :
    Option.Rel (fun result result' => related result.2 result'.2)
      (sys.play past state actions) (sys.play past' state' actions) := by
  induction actions generalizing past past' state state' with
  | nil => exact .some start
  | cons action rest ih =>
    obtain ⟨enabled, stepped⟩ := keeps action (List.mem_cons_self ..) state state' start
    simp only [System.play]
    by_cases able : sys.Enabled state action
    · have both := stepped able
      rw [if_pos able, if_pos (enabled.mp able)]
      generalize sys.step state action = first, sys.step state' action = second at both
      cases both with
      | ok holds => exact ih (fun later member => keeps later (List.mem_cons_of_mem _ member)) holds
      | error => exact .none
    · rw [if_neg able, if_neg (fun able' => able (enabled.mpr able'))]
      exact .none

end System
end Transition
