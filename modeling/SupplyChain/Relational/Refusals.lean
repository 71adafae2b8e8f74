import SupplyChain.Relational.Transaction

/-!
Which errors a transaction can fail with. `Never e m` says that no store makes
`m` fail with `e`; statement by statement it follows the shape of `m`, and a
failure of a sequence is one of its first statement or of what comes after it.
-/

namespace Relational.Transaction

variable {T : Type} {Row : T → Type} {μ ε α β : Type} {writes : List T}

section

variable {s : Store Row} {e e' : ε}

theorem fails_bind {m : Transaction Row μ ε writes α} {f : α → Transaction Row μ ε writes β} :
    (m >>= f).Fails s e ↔
      m.Fails s e ∨ ∃ a sent mid, m.Returns s a sent mid ∧ (f a).Fails mid e := by
  simp only [Fails, Returns, Bind.bind, Transaction.bind]
  constructor
  · intro runs
    cases one : m.run s with
    | error other =>
        simp only [one, Except.error.injEq] at runs
        exact Or.inl (by rw [runs])
    | ok head =>
        cases two : (f head.value).run head.store with
        | error other =>
            simp only [one, two, Except.error.injEq] at runs
            exact Or.inr ⟨head.value, head.sent, head.store, rfl, by rw [two, runs]⟩
        | ok tail => simp [one, two] at runs
  · rintro (one | ⟨a, sent, mid, one, two⟩)
    · simp [one]
    · simp [one, two]

/-- No store makes `m` fail with `e`. -/
def Never (e : ε) (m : Transaction Row μ ε writes α) : Prop :=
  ∀ s, ¬ m.Fails s e

theorem never_pure {a : α} : Never e (Pure.pure a : Transaction Row μ ε writes α) := by
  intro s failed
  cases failed

theorem never_query {read : Store Row → α} :
    Never e (query read : Transaction Row μ ε writes α) := by
  intro s failed
  cases failed

theorem never_select {t : T} {id : Nat} :
    Never e (select t id : Transaction Row μ ε writes (Option (Row t))) :=
  never_query

theorem never_send {message : μ} :
    Never e (send message : Transaction Row μ ε writes Unit) := by
  intro s failed
  cases failed

theorem never_fail (differ : e' ≠ e) : Never e (fail e' : Transaction Row μ ε writes α) := by
  intro s failed
  exact differ (Except.error.inj failed)

theorem never_bind {m : Transaction Row μ ε writes α} {f : α → Transaction Row μ ε writes β}
    (first : Never e m) (later : ∀ a, Never e (f a)) : Never e (m >>= f) := by
  intro s failed
  rcases fails_bind.mp failed with failed | ⟨a, sent, mid, -, failed⟩
  · exact first s failed
  · exact later a mid failed

theorem never_ite {condition : Prop} [Decidable condition] {m n : Transaction Row μ ε writes α}
    (left : condition → Never e m) (right : ¬ condition → Never e n) :
    Never e (if condition then m else n) := by
  by_cases holds : condition
  · rw [if_pos holds]
    exact left holds
  · rw [if_neg holds]
    exact right holds

theorem never_refuseIf {bad : Prop} [Decidable bad] (differ : e' ≠ e) :
    Never e (refuseIf bad e' : Transaction Row μ ε writes Unit) :=
  never_ite (fun _ => never_fail differ) fun _ => never_pure

theorem never_orThrow {x : Option α} (differ : e' ≠ e) :
    Never e (orThrow x e' : Transaction Row μ ε writes α) := by
  cases x with
  | none => exact never_fail differ
  | some a => exact never_pure

theorem never_whenever {condition : Prop} [Decidable condition]
    {m : Transaction Row μ ε writes Unit} (never : Never e m) : Never e (whenever condition m) :=
  never_ite (fun _ => never) fun _ => never_pure

theorem never_widen {outer : List T} {m : Transaction Row μ ε writes α}
    {within : ∀ t ∈ writes, t ∈ outer} (never : Never e m) :
    Never e (m.widen within : Transaction Row μ ε outer α) :=
  never

theorem never_forEach {f : α → Transaction Row μ ε writes Unit} {items : List α}
    (round : ∀ item ∈ items, Never e (f item)) : Never e (forEach f items) := by
  induction items with
  | nil => exact never_pure
  | cons item rest ih =>
      refine never_bind (round item List.mem_cons_self) fun _ => ih ?_
      exact fun other member => round other (List.mem_cons_of_mem item member)

@[simp]
theorem fails_query {read : Store Row → α} :
    (query read : Transaction Row μ ε writes α).Fails s e ↔ False :=
  iff_false_intro (never_query s)

@[simp]
theorem fails_fail : (fail e' : Transaction Row μ ε writes α).Fails s e ↔ e' = e := by
  simp [Fails, fail]

@[simp]
theorem fails_bind_query {read : Store Row → α} {f : α → Transaction Row μ ε writes β} :
    (query read >>= f).Fails s e ↔ (f (read s)).Fails s e := by
  simp [fails_bind]

@[simp]
theorem fails_bind_select {t : T} {id : Nat} {f : Option (Row t) → Transaction Row μ ε writes β} :
    (select t id >>= f).Fails s e ↔ (f ((s t).find? id)).Fails s e :=
  fails_bind_query

theorem fails_ite {condition : Prop} [Decidable condition]
    {m n : Transaction Row μ ε writes α} :
    (if condition then m else n).Fails s e ↔
      (condition ∧ m.Fails s e) ∨ (¬ condition ∧ n.Fails s e) := by
  by_cases holds : condition <;> simp [holds]

@[simp]
theorem fails_refuseIf {bad : Prop} [Decidable bad] :
    (refuseIf bad e' : Transaction Row μ ε writes Unit).Fails s e ↔ bad ∧ e' = e := by
  rw [refuseIf, fails_ite, fails_fail]
  simp [never_pure s]

@[simp]
theorem fails_bind_refuseIf {bad : Prop} [Decidable bad]
    {f : Unit → Transaction Row μ ε writes β} :
    (refuseIf bad e' >>= f).Fails s e ↔ (bad ∧ e' = e) ∨ (¬ bad ∧ (f ()).Fails s e) := by
  simp [fails_bind, Unique.exists_iff]

theorem fails_bind_ofExcept {x : Except ε α} {f : α → Transaction Row μ ε writes β} :
    (ofExcept x >>= f).Fails s e ↔ x = .error e ∨ ∃ y, x = .ok y ∧ (f y).Fails s e := by
  cases x with
  | error error => simp [fails_bind, ofExcept]
  | ok y => simp [fails_bind, ofExcept, never_pure s]

@[simp]
theorem fails_bind_orThrow {x : Option α} {f : α → Transaction Row μ ε writes β} :
    (orThrow x e' >>= f).Fails s e ↔
      (x = none ∧ e' = e) ∨ ∃ y, x = some y ∧ (f y).Fails s e := by
  cases x with
  | none => simp [fails_bind, orThrow]
  | some y =>
      have none : ¬ (orThrow (some y) e' : Transaction Row μ ε writes α).Fails s e :=
        never_pure s
      simp [fails_bind, none]

/-- A failure with `e` comes after a statement that never fails with it. -/
theorem Never.continues {m : Transaction Row μ ε writes α} (never : Never e m)
    {f : α → Transaction Row μ ε writes β} (failed : (m >>= f).Fails s e) :
    ∃ a sent mid, m.Returns s a sent mid ∧ (f a).Fails mid e := by
  rcases fails_bind.mp failed with failed | later
  · exact absurd failed (never s)
  · exact later

variable [DecidableEq T]

theorem never_write {t : T} [Writes t writes] {change : Table (Row t) → Table (Row t)}
    {value : Table (Row t) → α} :
    Never e (write t change value : Transaction Row μ ε writes α) := by
  intro s failed
  cases failed

theorem never_insertInto {t : T} [Writes t writes] {row : Row t} :
    Never e (insertInto t row : Transaction Row μ ε writes Nat) :=
  never_write

theorem never_insertRow {t : T} [Writes t writes] {row : Row t} :
    Never e (insertRow t row : Transaction Row μ ε writes Unit) :=
  never_write

theorem never_insertUnique {t : T} [Writes t writes] {clash : Row t → Bool} {row : Row t}
    (differ : e' ≠ e) : Never e (insertUnique t clash row e' : Transaction Row μ ε writes Nat) :=
  never_bind never_query fun _ => never_bind (never_refuseIf differ) fun _ => never_write

theorem never_updateRow {t : T} [Writes t writes] {id : Nat} {guard : Row t → Bool}
    {change : Row t → Row t} (differ : e' ≠ e) :
    Never e (updateRow t id guard change e' : Transaction Row μ ε writes Unit) :=
  never_bind never_query fun _ => never_bind (never_refuseIf differ) fun _ => never_write

theorem never_updateWhere {t : T} [Writes t writes] {guard : Nat → Row t → Bool}
    {change : Row t → Row t} :
    Never e (updateWhere t guard change : Transaction Row μ ε writes Unit) :=
  never_write

end

end Relational.Transaction
