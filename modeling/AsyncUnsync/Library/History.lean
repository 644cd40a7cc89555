import Mathlib.Logic.Basic

/-! Systems that take one action after another, and the histories of their runs.
A history keeps every state, so that a law may speak about any step together
with everything that happened before it. -/

namespace Transition

structure Event (σ α ω : Type*) where
  before : σ
  action : α
  outcome : ω
  after : σ

/-- The steps of a run, the latest first. -/
abbrev History (σ α ω : Type*) := List (Event σ α ω)

/-- `Enabled` says which actions a client may take; `step` is what they do. -/
structure System (σ α ω ε : Type*) where
  Initial : σ → Prop
  Enabled : σ → α → Prop
  step : σ → α → Except ε (σ × ω)

section
variable {σ α ω : Type*}

/-- A law of single steps holds at every step of a history. -/
def Along (law : History σ α ω → Event σ α ω → Prop) : History σ α ω → Prop
  | [] => True
  | event :: past => law past event ∧ Along law past

def Event.image {σ' α' ω' : Type*} (view : σ → σ') (label : Event σ α ω → α') (answer : Event σ α ω → ω')
    (event : Event σ α ω) : Event σ' α' ω' := ⟨view event.before, label event, answer event, view event.after⟩

variable {law other : History σ α ω → Event σ α ω → Prop} {history : History σ α ω}

instance decidableAlong [∀ past event, Decidable (law past event)] : ∀ history, Decidable (Along law history)
  | [] => .isTrue trivial
  | event :: past =>
    have := decidableAlong past
    inferInstanceAs (Decidable (law past event ∧ Along law past))

/-- What the steps of a history contribute, in the order of the steps. -/
def gathered {κ : Type*} (contribution : Event σ α ω → List κ) : History σ α ω → List κ
  | [] => []
  | event :: past => gathered contribution past ++ contribution event

/-- The last value that a step set. A step may also clear it, or leave it alone. -/
def latest {κ : Type*} (setting : Event σ α ω → Option (Option κ)) : History σ α ω → Option κ
  | [] => none
  | event :: past => (setting event).getD (latest setting past)

theorem gathered_append {κ : Type*} (contribution : Event σ α ω → List κ) (later earlier : History σ α ω) :
    gathered contribution (later ++ earlier) = gathered contribution earlier ++ gathered contribution later := by
  induction later with
  | nil => simp [gathered]
  | cons event later ih => simp only [List.cons_append, gathered, ih, List.append_assoc]

theorem along_iff_forall {law : Event σ α ω → Prop} :
    Along (fun _ event => law event) history ↔ ∀ event ∈ history, law event := by
  induction history with
  | nil => simp [Along]
  | cons event past ih => simp [Along, ih]

theorem Along.each {holds : Event σ α ω → Prop} (along : Along law history)
    (implies : ∀ past event, law past event → holds event) : ∀ event ∈ history, holds event := by
  induction history with
  | nil => simp
  | cons event past ih =>
    intro other member
    rcases List.mem_cons.mp member with rfl | earlier
    · exact implies past _ along.1
    · exact ih along.2 other earlier

end

namespace System
variable {σ α ω ε : Type*} (sys : System σ α ω ε)

/-- Every run from `start`: any number of steps, in any order the clients choose. -/
inductive Run (start : σ) : History σ α ω → σ → Prop where
  | start (initial : sys.Initial start) : Run start [] start
  | step {past : History σ α ω} {state after : σ} {action : α} {outcome : ω} (run : Run start past state)
      (enabled : sys.Enabled state action) (stepped : sys.step state action = .ok (after, outcome)) :
      Run start (⟨state, action, outcome, after⟩ :: past) after

variable {sys} {start state : σ} {history past : History σ α ω} {event : Event σ α ω}

theorem Run.last (run : sys.Run start (event :: past) state) :
    sys.Run start past event.before ∧ sys.Enabled event.before event.action ∧
      sys.step event.before event.action = .ok (event.after, event.outcome) ∧ state = event.after := by
  cases run with
  | step run enabled stepped => exact ⟨run, enabled, stepped, rfl⟩

theorem Run.initial (run : sys.Run start history state) : sys.Initial start := by
  induction run with
  | start initial => exact initial
  | step _ _ _ ih => exact ih

/-- The image of a run is a run of the smaller system, when each step is one of its steps. -/
theorem Run.image {σ' α' ω' ε' : Type*} {sys' : System σ' α' ω' ε'} {view : σ → σ'} {label : Event σ α ω → α'}
    {answer : Event σ α ω → ω'} (run : sys.Run start history state)
    (initially : sys.Initial start → sys'.Initial (view start))
    (simulates : ∀ past event, sys.Run start (event :: past) event.after →
      sys'.Enabled (view event.before) (label event) ∧
        sys'.step (view event.before) (label event) = .ok (view event.after, answer event)) :
    sys'.Run (view start) (history.map (Event.image view label answer)) (view state) := by
  induction run with
  | start initial => exact .start (initially initial)
  | step run enabled stepped ih =>
    obtain ⟨enabled', stepped'⟩ := simulates _ _ (.step run enabled stepped)
    exact .step ih enabled' stepped'

theorem Run.reaches (run : sys.Run start history state) (member : event ∈ history) :
    ∃ past, sys.Run start (event :: past) event.after := by
  induction run with
  | start => cases member
  | step run enabled stepped ih =>
    rcases List.mem_cons.mp member with rfl | earlier
    · exact ⟨_, .step run enabled stepped⟩
    · exact ih earlier

/-- A run up to one of its steps is a run. -/
theorem Run.upTo {later : History σ α ω} {pivot : Event σ α ω} (run : sys.Run start (later ++ pivot :: past) state) :
    sys.Run start (pivot :: past) pivot.after := by
  induction later generalizing state with
  | nil =>
    obtain ⟨earlier, enabled, stepped, _⟩ := run.last
    exact .step earlier enabled stepped
  | cons latest later ih => exact ih run.last.1

/-- What every step does is proved for the last step of a run. All events may be assumed regular. -/
theorem Run.each {regular holds : Event σ α ω → Prop} (run : sys.Run start history state)
    (regulars : ∀ event ∈ history, regular event)
    (last : ∀ past event, sys.Run start (event :: past) event.after → (∀ other ∈ event :: past, regular other) → holds event) :
    ∀ event ∈ history, holds event := by
  intro event member
  obtain ⟨later, past, rfl⟩ := List.append_of_mem member
  exact last past event run.upTo fun other earlier => regulars other (List.mem_append_right _ earlier)

/-- An invariant of states and their history, proved once for one step. -/
theorem Run.invariant (run : sys.Run start history state) (holds : History σ α ω → σ → Prop)
    (initially : sys.Initial start → holds [] start)
    (preserved : ∀ past state action outcome after, sys.Run start past state → holds past state →
      sys.Enabled state action → sys.step state action = .ok (after, outcome) →
      holds (⟨state, action, outcome, after⟩ :: past) after) : holds history state := by
  induction run with
  | start initial => exact initially initial
  | step run enabled stepped ih => exact preserved _ _ _ _ _ run ih enabled stepped

/-- What holds after one step of a run, and is kept by every later one, holds at the end.
All events may be assumed regular. -/
theorem Run.kept {later : History σ α ω} {pivot : Event σ α ω} (run : sys.Run start (later ++ pivot :: past) state)
    (regular : Event σ α ω → Prop) (regulars : ∀ event ∈ later ++ pivot :: past, regular event)
    (holds : σ → Prop) (initially : holds pivot.after)
    (preserved : ∀ past event, sys.Run start (event :: past) event.after → (∀ other ∈ event :: past, regular other) →
      holds event.before → holds event.after) : holds state := by
  induction later generalizing state with
  | nil =>
    obtain ⟨_, _, _, rfl⟩ := run.last
    exact initially
  | cons latest later ih =>
    obtain ⟨earlier, enabled, stepped, rfl⟩ := run.last
    have before := ih earlier fun event member => regulars event (List.mem_cons_of_mem _ member)
    exact preserved _ latest run regulars before

/-- What every step of some kind brings about, and every step keeps, holds before each step
that comes later than one of that kind. -/
theorem Run.since {later : History σ α ω} (run : sys.Run start (later ++ past) state)
    (regular : Event σ α ω → Prop) (regulars : ∀ event ∈ later ++ past, regular event)
    (begins : Event σ α ω → Prop) (begun : ∃ event ∈ past, begins event) (holds : σ → Prop)
    (initially : ∀ past event, sys.Run start (event :: past) event.after → (∀ other ∈ event :: past, regular other) →
      begins event → holds event.after)
    (preserved : ∀ past event, sys.Run start (event :: past) event.after → (∀ other ∈ event :: past, regular other) →
      holds event.before → holds event.after) :
    ∀ event ∈ later, ∃ past, sys.Run start (event :: past) event.after ∧
      (∀ other ∈ event :: past, regular other) ∧ holds event.before := by
  intro event member
  obtain ⟨pivot, inside, starts⟩ := begun
  obtain ⟨middle, earlier, rfl⟩ := List.append_of_mem inside
  obtain ⟨recent, between, rfl⟩ := List.append_of_mem member
  rw [List.append_assoc, List.cons_append, ← List.append_assoc] at run regulars
  have reached := run.upTo
  have regulars := fun other inside => regulars other (List.mem_append_right recent inside)
  have before := reached.last.1
  have earlier := fun other inside => regulars other (List.mem_cons_of_mem event inside)
  have settled := initially _ pivot before.upTo (fun other inside => earlier other (List.mem_append_right _ inside)) starts
  exact ⟨_, reached, regulars, before.kept regular earlier holds settled preserved⟩

/-- A stream that every step conserves is conserved by every run. -/
theorem Run.conserved {κ : Type*} (run : sys.Run start history state) (contents : σ → List κ)
    (entering leaving : Event σ α ω → List κ)
    (conserves : ∀ event ∈ history, contents event.before ++ entering event = leaving event ++ contents event.after) :
    contents start ++ gathered entering history = gathered leaving history ++ contents state := by
  induction run with
  | start => simp [gathered]
  | step run enabled stepped ih =>
    have earlier := ih fun event member => conserves event (List.mem_cons_of_mem _ member)
    have last := conserves _ (List.mem_cons_self ..)
    simp only [gathered, List.append_assoc] at earlier last ⊢
    rw [← List.append_assoc, earlier, List.append_assoc, last]

/-- What holds when a value is set, and is kept while it stays set, holds of the latest value. -/
theorem Run.latest {κ : Type*} {setting : Event σ α ω → Option (Option κ)} (run : sys.Run start history state)
    (holds : κ → σ → Prop)
    (sets : ∀ past event value, sys.Run start (event :: past) event.after → setting event = some (some value) →
      holds value event.after)
    (keeps : ∀ past event value, sys.Run start (event :: past) event.after → setting event = none →
      holds value event.before → holds value event.after)
    {value : κ} (found : latest setting history = some value) : holds value state := by
  induction run with
  | start => cases found
  | step run enabled stepped ih =>
    have reached := Run.step run enabled stepped
    unfold Transition.latest at found
    cases set : setting _ with
    | none =>
      rw [set, Option.getD_none] at found
      exact keeps _ _ _ reached set (ih found)
    | some now =>
      rw [set, Option.getD_some] at found
      apply sets _ _ _ reached
      rw [set, found]

/-- A state that stores every value when it is set, and keeps it as long, stores the latest value. -/
theorem Run.latest_stored {κ : Type*} {setting : Event σ α ω → Option (Option κ)} {stored : σ → Option κ}
    (run : sys.Run start history state)
    (stores : ∀ past event, sys.Run start (event :: past) event.after →
      (∀ value, setting event = some (some value) → stored event.after = some value) ∧
        (setting event = none → stored event.after = stored event.before))
    {value : κ} (found : Transition.latest setting history = some value) : stored state = some value := by
  apply run.latest (fun value state => stored state = some value) _ _ found
  · intro past event value reached set
    exact (stores past event reached).1 value set
  · intro past event value reached keeps held
    exact ((stores past event reached).2 keeps).trans held

theorem Run.along {law : History σ α ω → Event σ α ω → Prop} (run : sys.Run start history state)
    (lawful : ∀ past event, sys.Run start (event :: past) event.after → law past event) : Along law history := by
  induction run with
  | start => trivial
  | step run enabled stepped ih => exact ⟨lawful _ _ (.step run enabled stepped), ih⟩

/-- A law holds along a run exactly when a condition does, provided the two agree at
each step whose own past met the condition. All events may be assumed regular. -/
theorem Run.along_iff_of {law condition : History σ α ω → Event σ α ω → Prop} {regular : Event σ α ω → Prop}
    (run : sys.Run start history state) (regulars : ∀ event ∈ history, regular event)
    (agree : ∀ past event, sys.Run start (event :: past) event.after → (∀ other ∈ event :: past, regular other) →
      Along condition past → (law past event ↔ condition past event)) :
    Along law history ↔ Along condition history := by
  induction run with
  | start => exact Iff.rfl
  | step run enabled stepped ih =>
    have earlier := ih fun event member => regulars event (List.mem_cons_of_mem _ member)
    constructor
    · intro ⟨holds, lawful⟩
      have met := earlier.mp lawful
      exact ⟨(agree _ _ (.step run enabled stepped) regulars met).mp holds, met⟩
    · intro ⟨holds, met⟩
      exact ⟨(agree _ _ (.step run enabled stepped) regulars met).mpr holds, earlier.mpr met⟩

theorem Run.along_iff {law condition : History σ α ω → Event σ α ω → Prop} (run : sys.Run start history state)
    (agree : ∀ past event, sys.Run start (event :: past) event.after → Along condition past →
      (law past event ↔ condition past event)) : Along law history ↔ Along condition history :=
  run.along_iff_of (fun _ _ => trivial) fun past event reached _ => agree past event reached

/-- Plays a list of actions on top of a history. -/
def play (sys : System σ α ω ε) [∀ state action, Decidable (sys.Enabled state action)] :
    History σ α ω → σ → List α → Option (History σ α ω × σ)
  | past, state, [] => some (past, state)
  | past, state, action :: rest =>
    if sys.Enabled state action then
      match sys.step state action with
      | .ok (after, outcome) => play sys (⟨state, action, outcome, after⟩ :: past) after rest
      | .error _ => none
    else none

theorem Run.play [∀ state action, Decidable (sys.Enabled state action)] {actions : List α} {final : σ}
    (run : sys.Run start past state) (played : sys.play past state actions = some (history, final)) :
    sys.Run start history final := by
  induction actions generalizing past state with
  | nil =>
    obtain ⟨rfl, rfl⟩ := Prod.mk.inj (Option.some.inj played)
    exact run
  | cons action rest ih =>
    unfold System.play at played
    split at played
    next enabled =>
      split at played
      next after outcome stepped => exact ih (.step run enabled stepped) played
      next => cases played
    next => cases played

theorem play_cons (sys : System σ α ω ε) [∀ state action, Decidable (sys.Enabled state action)] (past : History σ α ω)
    {state after : σ} {action : α} {outcome : ω} (enabled : sys.Enabled state action)
    (stepped : sys.step state action = .ok (after, outcome)) (rest : List α) :
    sys.play past state (action :: rest) = sys.play (⟨state, action, outcome, after⟩ :: past) after rest := by
  simp only [System.play, if_pos enabled, stepped]

theorem play_append (sys : System σ α ω ε) [∀ state action, Decidable (sys.Enabled state action)]
    (past : History σ α ω) (state : σ) (first second : List α) :
    sys.play past state (first ++ second) = (sys.play past state first).bind fun result => sys.play result.1 result.2 second := by
  induction first generalizing past state with
  | nil => rfl
  | cons action rest ih =>
    simp only [List.cons_append, System.play]
    split
    · split
      · exact ih _ _
      · rfl
    · rfl

/-- A run can be shown to exist by playing its actions. -/
theorem exists_run (sys : System σ α ω ε) [∀ state action, Decidable (sys.Enabled state action)] (start : σ)
    (initial : sys.Initial start) (actions : List α) (holds : History σ α ω → σ → Prop)
    [∀ history state, Decidable (holds history state)]
    (checked : (sys.play [] start actions).any (fun result => decide (holds result.1 result.2)) = true) :
    ∃ history final, sys.play [] start actions = some (history, final) ∧ sys.Run start history final ∧
      holds history final := by
  cases played : sys.play [] start actions with
  | none => simp [played] at checked
  | some result =>
    rw [played, Option.any_some, decide_eq_true_iff] at checked
    exact ⟨result.1, result.2, rfl, .play (.start initial) played, checked⟩

end System
end Transition
