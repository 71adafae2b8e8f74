import Mathlib.Tactic.Common

/-!
Runs of a labelled step relation. A property that every step preserves is
preserved by a run of any length, and a run whose steps all satisfy more is a
run of the stronger relation.
-/

namespace Relational

variable {State Label : Type}

inductive Run (step : State → Label → State → Prop) : State → List Label → State → Prop
  | done {s : State} : Run step s [] s
  | next {s mid s' : State} {label : Label} {rest : List Label}
      (first : step s label mid) (later : Run step mid rest s') : Run step s (label :: rest) s'

namespace Run

variable {step step' : State → Label → State → Prop} {s mid s' : State}
  {labels labels' : List Label} {label : Label}

theorem single (first : step s label s') : Run step s [label] s' :=
  next first done

theorem append (first : Run step s labels mid) (second : Run step mid labels' s') :
    Run step s (labels ++ labels') s' := by
  induction first with
  | done => exact second
  | next head _ ih => exact next head (ih second)

theorem preserves (run : Run step s labels s') (invariant : State → Prop)
    (preserved : ∀ {a label b}, step a label b → invariant a → invariant b)
    (holds : invariant s) : invariant s' := by
  induction run with
  | done => exact holds
  | next head _ ih => exact ih (preserved head holds)

/-- A relation between the ends of every step holds between the ends of a run
when it is reflexive and transitive. -/
theorem relates {relation : State → State → Prop} (run : Run step s labels s')
    (refl : ∀ a, relation a a) (trans : ∀ {a b c}, relation a b → relation b c → relation a c)
    (stepwise : ∀ {a label b}, step a label b → relation a b) : relation s s' := by
  induction run with
  | done => exact refl _
  | next head _ ih => exact trans (stepwise head) ih

theorem imp (run : Run step s labels s')
    (weaker : ∀ {a label b}, step a label b → step' a label b) : Run step' s labels s' := by
  induction run with
  | done => exact done
  | next head _ ih => exact next (weaker head) ih

/-- A run whose labels are names of others is a run of the others. -/
theorem rename {Name : Type} {name : Name → Label} {names : List Name}
    (run : Run (fun a label b => step a (name label) b) s names s') :
    Run step s (names.map name) s' := by
  induction run with
  | done => exact done
  | next head _ ih => exact next head ih

theorem read {Value : Type} {step : Value → Label → Value → Prop} (value : State → Value)
    (run : Run (fun a label b => step (value a) label (value b)) s labels s') :
    Run step (value s) labels (value s') := by
  induction run with
  | done => exact done
  | next head _ ih => exact next head ih

/-- A step may use an invariant that the run preserves and that its label is
one of the run. -/
theorem imp_under (run : Run step s labels s') (invariant : State → Prop)
    (preserved : ∀ {a label b}, step a label b → invariant a → invariant b)
    (weaker : ∀ {a label b}, label ∈ labels → invariant a → step a label b → step' a label b)
    (holds : invariant s) : Run step' s labels s' := by
  induction run with
  | done => exact done
  | next head _ ih =>
      refine next (weaker List.mem_cons_self holds head) (ih ?_ (preserved head holds))
      exact fun member => weaker (List.mem_cons_of_mem _ member)

/-- An invariant of the states may speak of the labels that came before. -/
theorem traced {past : List Label} (run : Run step s labels s')
    (invariant : List Label → State → Prop)
    (preserved : ∀ {past a label b}, step a label b → invariant past a →
      invariant (past ++ [label]) b)
    (holds : invariant past s) : invariant (past ++ labels) s' := by
  induction run generalizing past with
  | done => rwa [List.append_nil]
  | @next _ _ _ label rest head _ ih =>
      have later := ih (preserved head holds)
      rwa [List.append_assoc, List.singleton_append] at later

/-- A run is a run up to any of its labels, the step of that label, and a run. -/
theorem split {past rest : List Label} (run : Run step s (past ++ label :: rest) s') :
    ∃ a b, Run step s past a ∧ step a label b ∧ Run step b rest s' := by
  induction past generalizing s with
  | nil =>
      cases run with
      | next first later => exact ⟨s, _, done, first, later⟩
  | cons head past ih =>
      cases run with
      | next first later =>
          obtain ⟨a, b, before, here, after⟩ := ih later
          exact ⟨a, b, next first before, here, after⟩

/-- Two side conditions that agree on the steps from a state with an invariant
allow the same runs. -/
theorem iff_under {holds holds' : State → Label → State → Prop} (invariant : State → Prop)
    (preserved : ∀ {a label b}, step a label b → holds a label b → invariant a → invariant b)
    (agree : ∀ {a label b}, step a label b → invariant a →
      (holds a label b ↔ holds' a label b)) (opens : invariant s) :
    Run (fun a label b => step a label b ∧ holds a label b) s labels s' ↔
      Run (fun a label b => step a label b ∧ holds' a label b) s labels s' := by
  constructor
  · intro run
    apply run.imp_under invariant _ _ opens
    · rintro a label b ⟨first, held⟩ inside
      exact preserved first held inside
    · rintro a label b - inside ⟨first, held⟩
      exact ⟨first, (agree first inside).mp held⟩
  · intro run
    apply run.imp_under invariant _ _ opens
    · rintro a label b ⟨first, held⟩ inside
      exact preserved first ((agree first inside).mpr held) inside
    · rintro a label b - inside ⟨first, held⟩
      exact ⟨first, (agree first inside).mpr held⟩

end Run

end Relational
