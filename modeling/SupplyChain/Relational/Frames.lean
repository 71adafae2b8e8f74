import SupplyChain.Relational.Transaction

/-!
What transactions may do. A contract relates the store before, the messages
sent and the store after, and `Obeys contract m` says that whatever `m` commits
is within the contract; statement by statement it follows the shape of `m`. A
law on one table is such a contract, and a statement on another table keeps it.
-/

namespace Relational

/-- A relation between the states before and after, for any number of steps. -/
structure Law (State : Type) where
  allows : State → State → Prop
  refl : ∀ s, allows s s
  trans : ∀ {a b c}, allows a b → allows b c → allows a c

theorem Law.over {State Label : Type} {step : State → Label → State → Prop} {s s' : State}
    {labels : List Label} (law : Law State) (run : Run step s labels s')
    (stepwise : ∀ {a label b}, step a label b → law.allows a b) : law.allows s s' :=
  run.relates law.refl law.trans stepwise

/-- A law of what is read off a state. -/
def Law.through {State Value : Type} (read : State → Value) (law : Law Value) : Law State where
  allows s s' := law.allows (read s) (read s')
  refl s := law.refl (read s)
  trans first second := law.trans first second

/-- The value that is read off a state stays as it is. -/
def Law.fixes {State Value : Type} (read : State → Value) : Law State where
  allows s s' := read s' = read s
  refl _ := rfl
  trans first second := second.trans first

/-- No row is lost or changed; rows are only added. -/
def Law.adds (Row : Type) : Law (Table Row) where
  allows := Table.Evolves fun _ old row => old = row
  refl _ := Table.Evolves.refl fun _ _ => rfl
  trans first second := first.trans (fun _ _ _ _ one two => one.trans two) second

theorem Law.adds_insert {Row : Type} (table : Table Row) (row : Row) :
    (Law.adds Row).allows table (table.insert row) :=
  Table.evolves_insert (fun _ _ => rfl) row

/-- No row is lost or changed, and the rows that are added are of a kind. -/
def Law.gains {Row : Type} (kind : Row → Prop) : Law (Table Row) where
  allows t u := (Law.adds Row).allows t u ∧
    ∀ id row, u.find? id = some row → t.find? id = some row ∨ kind row
  refl t := ⟨(Law.adds Row).refl t, fun _ _ found => Or.inl found⟩
  trans first second := by
    refine ⟨(Law.adds Row).trans first.1 second.1, ?_⟩
    intro id row found
    rcases second.2 id row found with old | new
    · exact first.2 id row old
    · exact Or.inr new

theorem Law.gains_insert {Row : Type} {kind : Row → Prop} (table : Table Row) {row : Row}
    (new : kind row) : (Law.gains kind).allows table (table.insert row) := by
  refine ⟨Law.adds_insert table row, ?_⟩
  intro id other found
  rcases Table.find?_insert_cases found with ⟨-, rfl⟩ | old
  · exact Or.inr new
  · exact Or.inl old

/-- Rows are added or changed in a way that keeps what is read off them; none is
lost. -/
def Law.retains {Row Value : Type} (read : Row → Value) : Law (Table Row) where
  allows := Table.Evolves fun _ old row => read row = read old
  refl _ := Table.Evolves.refl fun _ _ => rfl
  trans first second := first.trans (fun _ _ _ _ one two => two.trans one) second

theorem Law.retains_insert {Row Value : Type} {read : Row → Value} (table : Table Row) (row : Row) :
    (Law.retains read).allows table (table.insert row) := by
  have reflexive : ∀ (_ : Nat) (old : Row), read old = read old := fun _ _ => rfl
  exact Table.evolves_insert reflexive row

theorem Law.retains_update {Row Value : Type} {read : Row → Value} (table : Table Row)
    {guard : Nat → Row → Bool} {change : Row → Row} (kept : ∀ row, read (change row) = read row) :
    (Law.retains read).allows table (table.update guard change) := by
  refine (Table.revises_update ?_).evolves
  intro id old found
  split
  · exact kept old
  · rfl

/-- The same rows stay, changed in a way that keeps what is read off them. -/
def Law.revises {Row Value : Type} (read : Row → Value) : Law (Table Row) where
  allows := Table.Revises fun _ old row => read row = read old
  refl _ := Table.Revises.refl fun _ _ => rfl
  trans first second := first.trans second fun _ _ _ _ one two => two.trans one

theorem Law.revises_update {Row Value : Type} {read : Row → Value} (table : Table Row)
    {guard : Nat → Row → Bool} {change : Row → Row} (kept : ∀ row, read (change row) = read row) :
    (Law.revises read).allows table (table.update guard change) := by
  change Table.Revises (fun _ old row => read row = read old) table _
  apply Table.revises_update
  intro id old found
  split
  · exact kept old
  · rfl

namespace Transaction

variable {T : Type} {Row : T → Type} {μ ε α β : Type} {writes : List T} {t : T}

structure Contract (Row : T → Type) (μ : Type) where
  allows : Store Row → List μ → Store Row → Prop
  idle : ∀ s, allows s [] s
  append : ∀ {a b c sent more}, allows a sent b → allows b more c → allows a (sent ++ more) c

structure Obeys (contract : Contract Row μ) (m : Transaction Row μ ε writes α) : Prop where
  obeyed : ∀ {s a sent s'}, m.Returns s a sent s' → contract.allows s sent s'

/-- A law of one table. -/
def onTable (t : T) (law : Law (Table (Row t))) : Contract Row μ where
  allows s _ s' := law.allows (s t) (s' t)
  idle s := law.refl (s t)
  append first second := law.trans first second

/-- No message is sent. -/
def silent : Contract Row μ where
  allows _ sent _ := sent = []
  idle _ := rfl
  append first second := by rw [first, second, List.append_nil]

/-- Nothing is written and no message is sent. -/
def idle : Contract Row μ where
  allows s sent s' := sent = [] ∧ s' = s
  idle _ := ⟨rfl, rfl⟩
  append first second := ⟨by rw [first.1, second.1, List.append_nil], second.2.trans first.2⟩

/-- Both contracts at once. -/
def Contract.and (one two : Contract Row μ) : Contract Row μ where
  allows s sent s' := one.allows s sent s' ∧ two.allows s sent s'
  idle s := ⟨one.idle s, two.idle s⟩
  append first second := ⟨one.append first.1 second.1, two.append first.2 second.2⟩

section

variable {contract : Contract Row μ}

theorem obeys_pure {a : α} : Obeys contract (Pure.pure a : Transaction Row μ ε writes α) := by
  constructor
  intro s b sent s' returns
  obtain ⟨-, rfl, rfl⟩ := returns_pure.mp returns
  exact contract.idle _

theorem obeys_query {read : Store Row → α} :
    Obeys contract (query read : Transaction Row μ ε writes α) := by
  constructor
  intro s a sent s' returns
  obtain ⟨-, rfl, rfl⟩ := returns_query.mp returns
  exact contract.idle _

theorem obeys_select {u : T} {id : Nat} :
    Obeys contract (select u id : Transaction Row μ ε writes (Option (Row u))) :=
  obeys_query

theorem obeys_send {message : μ} (allowed : ∀ s, contract.allows s [message] s) :
    Obeys contract (send message : Transaction Row μ ε writes Unit) := by
  constructor
  intro s a sent s' returns
  obtain ⟨rfl, rfl⟩ := returns_send.mp returns
  exact allowed _

theorem obeys_fail {e : ε} : Obeys contract (fail e : Transaction Row μ ε writes α) := by
  constructor
  intro s a sent s' returns
  exact (returns_fail.mp returns).elim

theorem obeys_bind {m : Transaction Row μ ε writes α} {f : α → Transaction Row μ ε writes β}
    (first : Obeys contract m) (later : ∀ a, Obeys contract (f a)) :
    Obeys contract (m >>= f) := by
  constructor
  intro s b sent s' returns
  obtain ⟨a, _, mid, _, one, two, rfl⟩ := returns_bind.mp returns
  exact contract.append (first.obeyed one) ((later a).obeyed two)

theorem obeys_ite {condition : Prop} [Decidable condition] {m n : Transaction Row μ ε writes α}
    (left : condition → Obeys contract m) (right : ¬ condition → Obeys contract n) :
    Obeys contract (if condition then m else n) := by
  by_cases holds : condition
  · rw [if_pos holds]
    exact left holds
  · rw [if_neg holds]
    exact right holds

theorem obeys_refuseIf {bad : Prop} [Decidable bad] {e : ε} :
    Obeys contract (refuseIf bad e : Transaction Row μ ε writes Unit) :=
  obeys_ite (fun _ => obeys_fail) fun _ => obeys_pure

theorem obeys_orThrow {x : Option α} {e : ε} :
    Obeys contract (orThrow x e : Transaction Row μ ε writes α) := by
  cases x with
  | none => exact obeys_fail
  | some a => exact obeys_pure

theorem obeys_whenever {condition : Prop} [Decidable condition]
    {m : Transaction Row μ ε writes Unit} (obeys : Obeys contract m) :
    Obeys contract (whenever condition m) :=
  obeys_ite (fun _ => obeys) fun _ => obeys_pure

theorem obeys_widen {outer : List T} {m : Transaction Row μ ε writes α}
    {within : ∀ t ∈ writes, t ∈ outer} (obeys : Obeys contract m) :
    Obeys contract (m.widen within : Transaction Row μ ε outer α) :=
  ⟨fun returns => obeys.obeyed (returns_widen.mp returns)⟩

theorem obeys_forEach {f : α → Transaction Row μ ε writes Unit} {items : List α}
    (round : ∀ item ∈ items, Obeys contract (f item)) : Obeys contract (forEach f items) := by
  induction items with
  | nil => exact obeys_pure
  | cons item rest ih =>
      refine obeys_bind (round item List.mem_cons_self) fun _ => ih ?_
      exact fun other member => round other (List.mem_cons_of_mem item member)

theorem obeys_collect {f : α → Transaction Row μ ε writes β} {items : List α}
    (round : ∀ item ∈ items, Obeys contract (f item)) : Obeys contract (collect f items) := by
  induction items with
  | nil => exact obeys_pure
  | cons item rest ih =>
      refine obeys_bind (round item List.mem_cons_self) fun _ => ?_
      refine obeys_bind (ih ?_) fun _ => obeys_pure
      exact fun other member => round other (List.mem_cons_of_mem item member)

end

theorem keeps_unwritten {law : Law (Table (Row t))} {m : Transaction Row μ ε writes α}
    (absent : t ∉ writes) : Obeys (onTable t law) m := by
  constructor
  intro s a sent s' returns
  change law.allows (s t) (s' t)
  rw [returns.unwritten t absent]
  exact law.refl _

section

variable [DecidableEq T] {u : T} {contract : Contract Row μ}

/-- What the statements on the table `u` write is within the contract. -/
def Free (contract : Contract Row μ) (u : T) : Prop :=
  ∀ s table, contract.allows s [] (s.put u table)

theorem onTable_free {law : Law (Table (Row t))} (differ : t ≠ u) :
    Free (onTable t law : Contract Row μ) u := by
  intro s table
  change law.allows (s t) ((s.put u table) t)
  rw [Store.put_other _ _ differ]
  exact law.refl _

theorem silent_free : Free (silent : Contract Row μ) u :=
  fun _ _ => rfl

theorem obeys_write [Writes u writes] {change : Table (Row u) → Table (Row u)}
    {value : Table (Row u) → α} (allowed : ∀ s, contract.allows s [] (s.put u (change (s u)))) :
    Obeys contract (write u change value : Transaction Row μ ε writes α) := by
  constructor
  intro s a sent s' returns
  obtain ⟨-, rfl, rfl⟩ := returns_write.mp returns
  exact allowed s

theorem obeys_insertInto [Writes u writes] {row : Row u} (free : Free contract u) :
    Obeys contract (insertInto u row : Transaction Row μ ε writes Nat) :=
  obeys_write fun s => free s _

theorem obeys_insertRow [Writes u writes] {row : Row u} (free : Free contract u) :
    Obeys contract (insertRow u row : Transaction Row μ ε writes Unit) :=
  obeys_write fun s => free s _

theorem obeys_insertUnique [Writes u writes] {clash : Row u → Bool} {row : Row u} {e : ε}
    (free : Free contract u) :
    Obeys contract (insertUnique u clash row e : Transaction Row μ ε writes Nat) :=
  obeys_bind obeys_query fun _ => obeys_bind obeys_refuseIf fun _ => obeys_write fun s => free s _

theorem obeys_updateRow [Writes u writes] {id : Nat} {guard : Row u → Bool}
    {change : Row u → Row u} {e : ε} (free : Free contract u) :
    Obeys contract (updateRow u id guard change e : Transaction Row μ ε writes Unit) :=
  obeys_bind obeys_query fun _ => obeys_bind obeys_refuseIf fun _ => obeys_write fun s => free s _

theorem obeys_updateWhere [Writes u writes] {guard : Nat → Row u → Bool}
    {change : Row u → Row u} (free : Free contract u) :
    Obeys contract (updateWhere u guard change : Transaction Row μ ε writes Unit) :=
  obeys_write fun s => free s _

/-! ## Statements on the table of the law -/

variable {law : Law (Table (Row t))}

theorem keeps_write [Writes t writes] {change : Table (Row t) → Table (Row t)}
    {value : Table (Row t) → α} (allowed : ∀ table, law.allows table (change table)) :
    Obeys (onTable t law) (write t change value : Transaction Row μ ε writes α) := by
  refine obeys_write fun s => ?_
  change law.allows (s t) ((s.put t (change (s t))) t)
  rw [Store.put_same]
  exact allowed _

theorem keeps_insertUnique [Writes t writes] {clash : Row t → Bool} {row : Row t} {e : ε}
    (allowed : ∀ table, law.allows table (table.insert row)) :
    Obeys (onTable t law) (insertUnique t clash row e : Transaction Row μ ε writes Nat) :=
  obeys_bind obeys_query fun _ => obeys_bind obeys_refuseIf fun _ => keeps_write allowed

theorem keeps_updateRow [Writes t writes] {id : Nat} {guard : Row t → Bool}
    {change : Row t → Row t} {e : ε} (allowed : ∀ table, law.allows table (table.modify id change)) :
    Obeys (onTable t law) (updateRow t id guard change e : Transaction Row μ ε writes Unit) :=
  obeys_bind obeys_query fun _ => obeys_bind obeys_refuseIf fun _ => keeps_write allowed

theorem keeps_updateWhere [Writes t writes] {guard : Nat → Row t → Bool}
    {change : Row t → Row t} (allowed : ∀ table, law.allows table (table.update guard change)) :
    Obeys (onTable t law) (updateWhere t guard change : Transaction Row μ ε writes Unit) :=
  keeps_write allowed

end

end Transaction

end Relational
