import AsyncUnsync.Library.Refinement
import AsyncUnsync.Proofs.LedgerSimulation

/-! The semaphore cannot be told apart from its ledger. As no turn of the ledger faults,
no call of the semaphore does. -/

namespace AsyncUnsync.Proofs.LedgerRuns
open Memory Transition SemaphoreSystem LedgerSystem LedgerSimulation

private theorem enabled_view (s : State) (action : Action) : (view s).enabled action = enabled s action := by
  cases action <;> simp [View.enabled, enabled, view, Semaphore.ledger]

theorem refines : system.Refines View.system view fun s => Sound s.sem where
  initial := by
    rintro _ ⟨permits, rfl⟩
    exact ⟨(Sound.new permits).2, permits, rfl⟩
  enabled s action _ := by
    simp only [system, View.system, enabled_view]
  step s action sound able := by
    obtain ⟨after, stepped, same, sound'⟩ := step_spec sound able
    rw [show system.step s action = .ok (after, (turn (view s) action).2) from stepped]
    exact .ok ⟨by rw [same], sound'⟩

/-- The runs of the ledger are exactly the views of the runs of the semaphore: the same calls,
answers and wake-ups. In each state they reach, every call that a client can make returns. -/
theorem ledger_runs (permits : Nat) (seen : History View Action Outcome) (v : View) :
    View.system.Run (view (.new permits)) seen v ↔
      ∃ history final, system.Run (.new permits) history final ∧
        seen = history.map (Event.seen view) ∧ v = view final ∧
        ∀ action, system.Enabled final action →
          ∃ after, system.step final action = .ok after := by
  constructor
  · intro run
    obtain ⟨history, final, run', rfl, rfl⟩ := refines.realizes ⟨permits, rfl⟩ run
    refine ⟨history, final, run', rfl, rfl, fun action able => ?_⟩
    obtain ⟨after, stepped, _⟩ := step_spec (run_sound run') able
    exact ⟨_, stepped⟩
  · rintro ⟨history, final, run, rfl, rfl, _⟩
    exact (refines.run run).2

end AsyncUnsync.Proofs.LedgerRuns
