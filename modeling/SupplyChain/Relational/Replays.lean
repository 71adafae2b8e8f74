import SupplyChain.Relational.Runs

/-!
Runs that can be computed. Where a function makes steps of a relation, what it makes of a list
of labels is the end of a run.
-/

namespace Relational

variable {State Label : Type} {step : State → Label → State → Prop}
  {next : State → Label → Option State}

/-- The state after labels that can all be followed. -/
def replay (next : State → Label → Option State) (s : State) : List Label → Option State
  | [] => some s
  | label :: rest => (next s label).bind fun mid => replay next mid rest

theorem replay_run (sound : ∀ s label s', next s label = some s' → step s label s')
    {s s' : State} {labels : List Label} (replayed : replay next s labels = some s') :
    Run step s labels s' := by
  induction labels generalizing s with
  | nil =>
      cases replayed
      exact Run.done
  | cons label rest ih =>
      obtain ⟨mid, made, later⟩ := Option.bind_eq_some_iff.mp replayed
      exact Run.next (sound s label mid made) (ih later)

theorem replay_reaches (next : State → Label → Option State)
    (sound : ∀ s label s', next s label = some s' → step s label s')
    (s : State) (labels : List Label) (seen : State → Bool)
    (passes : (replay next s labels).any seen = true) :
    ∃ s', Run step s labels s' ∧ seen s' = true := by
  obtain ⟨s', replayed, holds⟩ := (Option.any_eq_true _ _).mp passes
  exact ⟨s', replay_run sound replayed, holds⟩

end Relational
