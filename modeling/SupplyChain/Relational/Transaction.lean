import SupplyChain.Relational.Table
import SupplyChain.Relational.Runs

/-!
Transactions over a store of tables. A transaction either fails and leaves
nothing behind or commits a value, the messages it sent and the new store.
Its type names the tables it may write, and the frame, that every other table
is as it was, is a field of the transaction, so that a caller never proves it.
-/

namespace Relational

variable {T : Type} {Row : T → Type} {μ ε : Type} {writes : List T} {α β : Type}

abbrev Store (Row : T → Type) := (t : T) → Table (Row t)

section Put

variable [DecidableEq T]

def Store.put (s : Store Row) (t : T) (table : Table (Row t)) : Store Row :=
  Function.update s t table

@[simp]
theorem Store.put_same (s : Store Row) (t : T) (table : Table (Row t)) :
    s.put t table t = table := by
  simp [Store.put]

@[simp]
theorem Store.put_other (s : Store Row) {t u : T} (table : Table (Row t)) (differ : u ≠ t) :
    s.put t table u = s u := by
  simp [Store.put, differ]

@[simp]
theorem Store.put_put (s : Store Row) (t : T) (table table' : Table (Row t)) :
    (s.put t table).put t table' = s.put t table' := by
  simp [Store.put]

theorem Store.put_self (s : Store Row) (t : T) : s.put t (s t) = s := by
  simp [Store.put]

end Put

structure Committed (Row : T → Type) (μ α : Type) where
  value : α
  sent : List μ
  store : Store Row

/-- A unit of work that may write the tables `writes` and no others. -/
structure Transaction (Row : T → Type) (μ ε : Type) (writes : List T) (α : Type) where
  run : Store Row → Except ε (Committed Row μ α)
  frame : ∀ {s c}, run s = .ok c → ∀ t, t ∉ writes → c.store t = s t

/-- The table `t` may be written. The instances search the list of a
transaction's type, so that writing a table it does not name is a type error. -/
class Writes (t : T) (writes : List T) : Type where
  allowed : t ∈ writes

instance (t : T) (rest : List T) : Writes t (t :: rest) := ⟨List.mem_cons_self⟩

instance (t u : T) (rest : List T) [inner : Writes t rest] : Writes t (u :: rest) :=
  ⟨List.mem_cons_of_mem u inner.allowed⟩

namespace Transaction

protected def pure (a : α) : Transaction Row μ ε writes α where
  run s := .ok ⟨a, [], s⟩
  frame same t _ := by
    cases same
    rfl

protected def bind (m : Transaction Row μ ε writes α) (f : α → Transaction Row μ ε writes β) :
    Transaction Row μ ε writes β where
  run s :=
    match m.run s with
    | .error e => .error e
    | .ok first =>
        match (f first.value).run first.store with
        | .error e => .error e
        | .ok second => .ok ⟨second.value, first.sent ++ second.sent, second.store⟩
  frame := by
    intro s c same t unwritten
    cases one : m.run s with
    | error e => simp [one] at same
    | ok first =>
        cases two : (f first.value).run first.store with
        | error e => simp [one, two] at same
        | ok second =>
            simp only [one, two, Except.ok.injEq] at same
            rw [← same]
            exact (frame _ two t unwritten).trans (frame _ one t unwritten)

instance : Monad (Transaction Row μ ε writes) where
  pure := Transaction.pure
  bind := Transaction.bind

def fail (e : ε) : Transaction Row μ ε writes α where
  run _ := .error e
  frame same := by cases same

/-- A query reads the store and changes nothing. -/
def query (read : Store Row → α) : Transaction Row μ ε writes α where
  run s := .ok ⟨read s, [], s⟩
  frame same t _ := by
    cases same
    rfl

def send (message : μ) : Transaction Row μ ε writes Unit where
  run s := .ok ⟨(), [message], s⟩
  frame same t _ := by
    cases same
    rfl

/-- A transaction run where more tables may be written. -/
def widen {outer : List T} (m : Transaction Row μ ε writes α)
    (within : ∀ t ∈ writes, t ∈ outer := by decide) : Transaction Row μ ε outer α where
  run := m.run
  frame same t unwritten := m.frame same t fun member => unwritten (within t member)

def refuseIf (bad : Prop) [Decidable bad] (e : ε) : Transaction Row μ ε writes Unit :=
  if bad then fail e else return ()

def orThrow (x : Option α) (e : ε) : Transaction Row μ ε writes α :=
  match x with
  | some a => return a
  | none => fail e

/-- A computation outside the store that may fail. -/
def ofExcept (x : Except ε α) : Transaction Row μ ε writes α :=
  match x with
  | .ok a => return a
  | .error e => fail e

/-- A statement that runs only under a condition. -/
def whenever (condition : Prop) [Decidable condition] (m : Transaction Row μ ε writes Unit) :
    Transaction Row μ ε writes Unit :=
  if condition then m else return ()

def select (t : T) (id : Nat) : Transaction Row μ ε writes (Option (Row t)) :=
  query fun s => (s t).find? id

/-- Runs `f` on every item in order and collects the values. -/
def collect (f : α → Transaction Row μ ε writes β) : List α → Transaction Row μ ε writes (List β)
  | [] => return []
  | item :: rest => do
      let value ← f item
      let values ← collect f rest
      return value :: values

def forEach (f : α → Transaction Row μ ε writes Unit) : List α → Transaction Row μ ε writes Unit
  | [] => return ()
  | item :: rest => do
      f item
      forEach f rest

section Statements

variable [DecidableEq T]

/-- Replaces the table `t`; the value is computed from the table before. -/
def write (t : T) [Writes t writes] (change : Table (Row t) → Table (Row t))
    (value : Table (Row t) → α) : Transaction Row μ ε writes α where
  run s := .ok ⟨value (s t), [], s.put t (change (s t))⟩
  frame same u unwritten := by
    cases same
    refine Store.put_other _ _ ?_
    intro equal
    rw [equal] at unwritten
    exact unwritten Writes.allowed

def insertInto (t : T) [Writes t writes] (row : Row t) : Transaction Row μ ε writes Nat :=
  write t (fun table => table.insert row) (fun table => table.nextId)

/-- An insert whose caller does not ask for the key. -/
def insertRow (t : T) [Writes t writes] (row : Row t) : Transaction Row μ ε writes Unit :=
  write t (fun table => table.insert row) (fun _ => ())

/-- An insert under a unique key: `clash` finds the rows with the same key. -/
def insertUnique (t : T) [Writes t writes] (clash : Row t → Bool) (row : Row t) (e : ε) :
    Transaction Row μ ε writes Nat := do
  let taken ← query fun s => (s t).any fun _ other => clash other
  refuseIf (taken = true) e
  insertInto t row

/-- The guarded update of one row whose caller insists on one affected row. -/
def updateRow (t : T) [Writes t writes] (id : Nat) (guard : Row t → Bool)
    (change : Row t → Row t) (e : ε) : Transaction Row μ ε writes Unit := do
  let found ← query fun s => (s t).find? id
  refuseIf (found.any guard = false) e
  write t (fun table => table.modify id change) (fun _ => ())

/-- The set-oriented update whose caller does not look at the affected rows. -/
def updateWhere (t : T) [Writes t writes] (guard : Nat → Row t → Bool)
    (change : Row t → Row t) : Transaction Row μ ε writes Unit :=
  write t (fun table => table.update guard change) (fun _ => ())

end Statements

/-! ## What a committed transaction did -/

def Returns (m : Transaction Row μ ε writes α) (s : Store Row) (a : α) (sent : List μ)
    (s' : Store Row) : Prop :=
  m.run s = .ok ⟨a, sent, s'⟩

def Fails (m : Transaction Row μ ε writes α) (s : Store Row) (e : ε) : Prop :=
  m.run s = .error e

section Returns

variable {s s' : Store Row} {a : α} {b : β} {sent : List μ}

theorem Returns.unwritten {m : Transaction Row μ ε writes α} (returns : m.Returns s a sent s')
    (t : T) (unwritten : t ∉ writes) : s' t = s t :=
  m.frame returns t unwritten

@[simp]
theorem returns_pure {x : α} :
    (Pure.pure x : Transaction Row μ ε writes α).Returns s a sent s' ↔
      a = x ∧ sent = [] ∧ s' = s := by
  simp only [Returns, Pure.pure, Transaction.pure, Except.ok.injEq, Committed.mk.injEq, eq_comm]

theorem returns_bind {m : Transaction Row μ ε writes α} {f : α → Transaction Row μ ε writes β} :
    (m >>= f).Returns s b sent s' ↔
      ∃ x first mid rest, m.Returns s x first mid ∧ (f x).Returns mid b rest s' ∧
        sent = first ++ rest := by
  simp only [Returns, Bind.bind, Transaction.bind]
  constructor
  · intro runs
    cases one : m.run s with
    | error e => simp [one] at runs
    | ok head =>
        cases two : (f head.value).run head.store with
        | error e => simp [one, two] at runs
        | ok tail =>
            simp only [one, two, Except.ok.injEq, Committed.mk.injEq] at runs
            obtain ⟨rfl, rfl, rfl⟩ := runs
            exact ⟨head.value, head.sent, head.store, tail.sent, rfl, two, rfl⟩
  · rintro ⟨x, first, mid, rest, one, two, rfl⟩
    simp [one, two]

/-- Two transactions run alike when they begin alike and go on alike. -/
theorem run_bind_congr {m n : Transaction Row μ ε writes α}
    {f g : α → Transaction Row μ ε writes β} (head : m.run s = n.run s)
    (tail : ∀ x first mid, m.Returns s x first mid → (f x).run mid = (g x).run mid) :
    (m >>= f).run s = (n >>= g).run s := by
  simp only [Bind.bind, Transaction.bind, ← head]
  cases one : m.run s with
  | error e => rfl
  | ok committed =>
      simp only
      rw [tail committed.value committed.sent committed.store one]

@[simp]
theorem returns_bind_pure {x : α} {f : α → Transaction Row μ ε writes β} :
    ((Pure.pure x : Transaction Row μ ε writes α) >>= f).Returns s b sent s' ↔
      (f x).Returns s b sent s' := by
  simp [returns_bind, returns_pure]

theorem returns_bind_of_reads {m : Transaction Row μ ε writes α}
    {f : α → Transaction Row μ ε writes β}
    (reads : ∀ {s x first mid}, m.Returns s x first mid → first = [] ∧ mid = s) :
    (m >>= f).Returns s b sent s' ↔ ∃ x, m.Returns s x [] s ∧ (f x).Returns s b sent s' := by
  rw [returns_bind]
  constructor
  · rintro ⟨x, first, mid, rest, head, tail, rfl⟩
    obtain ⟨rfl, rfl⟩ := reads head
    exact ⟨x, head, tail⟩
  · rintro ⟨x, head, tail⟩
    exact ⟨x, [], s, sent, head, tail, rfl⟩

@[simp]
theorem returns_fail {e : ε} :
    (fail e : Transaction Row μ ε writes α).Returns s a sent s' ↔ False := by
  simp [Returns, fail]

@[simp]
theorem returns_query {read : Store Row → α} :
    (query read : Transaction Row μ ε writes α).Returns s a sent s' ↔
      a = read s ∧ sent = [] ∧ s' = s := by
  simp only [Returns, query, Except.ok.injEq, Committed.mk.injEq, eq_comm]

@[simp]
theorem returns_bind_query {read : Store Row → α} {f : α → Transaction Row μ ε writes β} :
    (query read >>= f).Returns s b sent s' ↔ (f (read s)).Returns s b sent s' := by
  simp [returns_bind, returns_query]

@[simp]
theorem returns_select {t : T} {id : Nat} {found : Option (Row t)} :
    (select t id : Transaction Row μ ε writes (Option (Row t))).Returns s found sent s' ↔
      found = (s t).find? id ∧ sent = [] ∧ s' = s :=
  returns_query

@[simp]
theorem returns_bind_select {t : T} {id : Nat}
    {f : Option (Row t) → Transaction Row μ ε writes β} :
    (select t id >>= f).Returns s b sent s' ↔ (f ((s t).find? id)).Returns s b sent s' :=
  returns_bind_query

@[simp]
theorem returns_send {message : μ} {u : Unit} :
    (send message : Transaction Row μ ε writes Unit).Returns s u sent s' ↔
      sent = [message] ∧ s' = s := by
  simp only [Returns, send, Except.ok.injEq, Committed.mk.injEq, eq_comm, true_and]

@[simp]
theorem returns_bind_send {message : μ} {f : Unit → Transaction Row μ ε writes β} :
    (send message >>= f).Returns s b sent s' ↔
      ∃ rest, (f ()).Returns s b rest s' ∧ sent = message :: rest := by
  simp only [returns_bind, returns_send]
  constructor
  · rintro ⟨x, first, mid, rest, ⟨rfl, rfl⟩, tail, rfl⟩
    exact ⟨rest, tail, rfl⟩
  · rintro ⟨rest, tail, rfl⟩
    exact ⟨(), [message], s, rest, ⟨rfl, rfl⟩, tail, rfl⟩

@[simp]
theorem returns_widen {outer : List T} {m : Transaction Row μ ε writes α}
    {within : ∀ t ∈ writes, t ∈ outer} :
    (m.widen within : Transaction Row μ ε outer α).Returns s a sent s' ↔
      m.Returns s a sent s' :=
  Iff.rfl

@[simp]
theorem returns_bind_widen {outer : List T} {m : Transaction Row μ ε writes α}
    {within : ∀ t ∈ writes, t ∈ outer} {f : α → Transaction Row μ ε outer β} :
    (m.widen within >>= f).Returns s b sent s' ↔
      ∃ x first mid rest, m.Returns s x first mid ∧ (f x).Returns mid b rest s' ∧
        sent = first ++ rest :=
  returns_bind

@[simp]
theorem returns_refuseIf {bad : Prop} [Decidable bad] {e : ε} {u : Unit} :
    (refuseIf bad e : Transaction Row μ ε writes Unit).Returns s u sent s' ↔
      ¬ bad ∧ sent = [] ∧ s' = s := by
  by_cases holds : bad
  · simp [refuseIf, holds, returns_fail]
  · simp only [refuseIf, holds, if_false]
    exact returns_pure.trans (by simp)

@[simp]
theorem returns_bind_refuseIf {bad : Prop} [Decidable bad] {e : ε}
    {f : Unit → Transaction Row μ ε writes β} :
    (refuseIf bad e >>= f).Returns s b sent s' ↔ ¬ bad ∧ (f ()).Returns s b sent s' := by
  simp only [returns_bind, returns_refuseIf]
  constructor
  · rintro ⟨x, first, mid, rest, ⟨fine, rfl, rfl⟩, tail, rfl⟩
    exact ⟨fine, tail⟩
  · rintro ⟨fine, tail⟩
    exact ⟨(), [], s, sent, ⟨fine, rfl, rfl⟩, tail, rfl⟩

@[simp]
theorem returns_orThrow {x : Option α} {e : ε} :
    (orThrow x e : Transaction Row μ ε writes α).Returns s a sent s' ↔
      x = some a ∧ sent = [] ∧ s' = s := by
  cases x with
  | none => simp [orThrow, returns_fail]
  | some y => exact returns_pure.trans (by simp [eq_comm])

@[simp]
theorem returns_bind_orThrow {x : Option α} {e : ε} {f : α → Transaction Row μ ε writes β} :
    (orThrow x e >>= f).Returns s b sent s' ↔ ∃ y, x = some y ∧ (f y).Returns s b sent s' := by
  simp only [returns_bind, returns_orThrow]
  constructor
  · rintro ⟨y, first, mid, rest, ⟨found, rfl, rfl⟩, tail, rfl⟩
    exact ⟨y, found, tail⟩
  · rintro ⟨y, found, tail⟩
    exact ⟨y, [], s, sent, ⟨found, rfl, rfl⟩, tail, rfl⟩

@[simp]
theorem returns_ofExcept {x : Except ε α} :
    (ofExcept x : Transaction Row μ ε writes α).Returns s a sent s' ↔
      x = .ok a ∧ sent = [] ∧ s' = s := by
  cases x with
  | error e => simp [ofExcept, returns_fail]
  | ok y => exact returns_pure.trans (by simp [eq_comm])

@[simp]
theorem returns_bind_ofExcept {x : Except ε α} {f : α → Transaction Row μ ε writes β} :
    (ofExcept x >>= f).Returns s b sent s' ↔ ∃ y, x = .ok y ∧ (f y).Returns s b sent s' := by
  simp only [returns_bind, returns_ofExcept]
  constructor
  · rintro ⟨y, first, mid, rest, ⟨found, rfl, rfl⟩, tail, rfl⟩
    exact ⟨y, found, tail⟩
  · rintro ⟨y, found, tail⟩
    exact ⟨y, [], s, sent, ⟨found, rfl, rfl⟩, tail, rfl⟩

theorem returns_whenever {condition : Prop} [Decidable condition]
    {m : Transaction Row μ ε writes Unit} {u : Unit} :
    (whenever condition m).Returns s u sent s' ↔
      (condition ∧ m.Returns s u sent s') ∨ (¬ condition ∧ sent = [] ∧ s' = s) := by
  by_cases holds : condition
  · simp [whenever, holds]
  · simp only [whenever, holds, if_false, false_and, not_false_eq_true, true_and, false_or]
    exact returns_pure.trans (by simp)

theorem returns_ite {condition : Prop} [Decidable condition]
    {m n : Transaction Row μ ε writes α} :
    (if condition then m else n).Returns s a sent s' ↔
      (condition ∧ m.Returns s a sent s') ∨ (¬ condition ∧ n.Returns s a sent s') := by
  by_cases holds : condition <;> simp [holds]

theorem returns_forEach_nil {f : α → Transaction Row μ ε writes Unit} {u : Unit} :
    (forEach f []).Returns s u sent s' ↔ sent = [] ∧ s' = s :=
  returns_pure.trans (by simp)

theorem returns_forEach_cons {f : α → Transaction Row μ ε writes Unit} {item : α}
    {rest : List α} {u : Unit} :
    (forEach f (item :: rest)).Returns s u sent s' ↔
      ∃ first mid later, (f item).Returns s () first mid ∧
        (forEach f rest).Returns mid u later s' ∧ sent = first ++ later := by
  refine returns_bind.trans ?_
  constructor
  · rintro ⟨_, first, mid, later, parts⟩
    exact ⟨first, mid, later, parts⟩
  · rintro ⟨first, mid, later, parts⟩
    exact ⟨(), first, mid, later, parts⟩

theorem returns_collect_nil {f : α → Transaction Row μ ε writes β} {values : List β} :
    (collect f []).Returns s values sent s' ↔ values = [] ∧ sent = [] ∧ s' = s :=
  returns_pure

theorem returns_collect_cons {f : α → Transaction Row μ ε writes β} {item : α} {rest : List α}
    {values : List β} :
    (collect f (item :: rest)).Returns s values sent s' ↔
      ∃ value first mid others later, (f item).Returns s value first mid ∧
        (collect f rest).Returns mid others later s' ∧ values = value :: others ∧
        sent = first ++ later := by
  refine returns_bind.trans ?_
  simp only [returns_bind, returns_pure]
  constructor
  · rintro ⟨value, first, mid, _, head, ⟨others, later, _, _, tail, ⟨rfl, rfl, rfl⟩, rfl⟩, rfl⟩
    exact ⟨value, first, mid, others, later, head, tail, rfl, by simp⟩
  · rintro ⟨value, first, mid, others, later, head, tail, rfl, rfl⟩
    exact ⟨value, first, mid, later, head, ⟨others, later, s', [], tail, ⟨rfl, rfl, rfl⟩, by simp⟩,
      rfl⟩

/-- A collection that only reads gives each item its value in the one store. -/
theorem collect_of_reads {f : α → Transaction Row μ ε writes β}
    (reads : ∀ {item s value first mid}, (f item).Returns s value first mid → first = [] ∧ mid = s)
    {items : List α} {values : List β} {s s' : Store Row} {sent : List μ}
    (returns : (collect f items).Returns s values sent s') :
    sent = [] ∧ s' = s ∧ List.Forall₂ (fun item value => (f item).Returns s value [] s) items values := by
  induction items generalizing values sent with
  | nil =>
      obtain ⟨rfl, rfl, rfl⟩ := returns_collect_nil.mp returns
      exact ⟨rfl, rfl, List.Forall₂.nil⟩
  | cons item rest ih =>
      obtain ⟨value, first, mid, others, later, head, tail, rfl, rfl⟩ :=
        returns_collect_cons.mp returns
      obtain ⟨rfl, rfl⟩ := reads head
      obtain ⟨rfl, rfl, all⟩ := ih tail
      exact ⟨rfl, rfl, List.Forall₂.cons head all⟩

/-- What every round of a loop preserves, the whole loop preserves. -/
theorem forEach_preserves {f : α → Transaction Row μ ε writes Unit}
    (relation : Store Row → Store Row → Prop) (refl : ∀ s, relation s s)
    (trans : ∀ {s mid s'}, relation s mid → relation mid s' → relation s s') {items : List α}
    (round : ∀ item ∈ items, ∀ {s first mid}, (f item).Returns s () first mid → relation s mid)
    {s s' : Store Row} {sent : List μ} {u : Unit}
    (returns : (forEach f items).Returns s u sent s') : relation s s' := by
  induction items generalizing s sent with
  | nil =>
      obtain ⟨-, rfl⟩ := returns_forEach_nil.mp returns
      exact refl s'
  | cons item rest ih =>
      obtain ⟨first, mid, later, head, tail, -⟩ := returns_forEach_cons.mp returns
      exact trans (round item List.mem_cons_self head)
        (ih (fun other member => round other (List.mem_cons_of_mem item member)) tail)

theorem forEach_run {f : α → Transaction Row μ ε writes Unit} {items : List α} {s s' : Store Row}
    {sent : List μ} {u : Unit} (returns : (forEach f items).Returns s u sent s') :
    Run (fun a item b => ∃ first, (f item).Returns a () first b) s items s' := by
  induction items generalizing s sent with
  | nil =>
      obtain ⟨-, rfl⟩ := returns_forEach_nil.mp returns
      exact Run.done
  | cons item rest ih =>
      obtain ⟨first, mid, later, head, tail, -⟩ := returns_forEach_cons.mp returns
      exact Run.next ⟨first, head⟩ (ih tail)

theorem forEach_sends_nothing {f : α → Transaction Row μ ε writes Unit} {items : List α}
    (round : ∀ item ∈ items, ∀ {s first mid}, (f item).Returns s () first mid → first = [])
    {s s' : Store Row} {sent : List μ} {u : Unit}
    (returns : (forEach f items).Returns s u sent s') : sent = [] := by
  induction items generalizing s sent with
  | nil => exact (returns_forEach_nil.mp returns).1
  | cons item rest ih =>
      obtain ⟨first, mid, later, head, tail, rfl⟩ := returns_forEach_cons.mp returns
      rw [round item List.mem_cons_self head,
        ih (fun other member => round other (List.mem_cons_of_mem item member)) tail]
      rfl

variable [DecidableEq T]

theorem returns_write {t : T} [Writes t writes] {change : Table (Row t) → Table (Row t)}
    {value : Table (Row t) → α} :
    (write t change value : Transaction Row μ ε writes α).Returns s a sent s' ↔
      a = value (s t) ∧ sent = [] ∧ s' = s.put t (change (s t)) := by
  simp only [Returns, write, Except.ok.injEq, Committed.mk.injEq, eq_comm]

@[simp]
theorem returns_insertInto {t : T} [Writes t writes] {row : Row t} {id : Nat} :
    (insertInto t row : Transaction Row μ ε writes Nat).Returns s id sent s' ↔
      id = (s t).nextId ∧ sent = [] ∧ s' = s.put t ((s t).insert row) :=
  returns_write

@[simp]
theorem returns_bind_insertInto {t : T} [Writes t writes] {row : Row t}
    {f : Nat → Transaction Row μ ε writes β} :
    (insertInto t row >>= f).Returns s b sent s' ↔
      (f (s t).nextId).Returns (s.put t ((s t).insert row)) b sent s' := by
  simp [returns_bind, returns_insertInto]

@[simp]
theorem returns_insertRow {t : T} [Writes t writes] {row : Row t} {u : Unit} :
    (insertRow t row : Transaction Row μ ε writes Unit).Returns s u sent s' ↔
      sent = [] ∧ s' = s.put t ((s t).insert row) :=
  returns_write.trans (by simp)

@[simp]
theorem returns_bind_insertRow {t : T} [Writes t writes] {row : Row t}
    {f : Unit → Transaction Row μ ε writes β} :
    (insertRow t row >>= f).Returns s b sent s' ↔
      (f ()).Returns (s.put t ((s t).insert row)) b sent s' := by
  simp only [returns_bind, returns_insertRow]
  constructor
  · rintro ⟨x, first, mid, rest, ⟨rfl, rfl⟩, tail, rfl⟩
    exact tail
  · intro tail
    exact ⟨(), [], _, sent, ⟨rfl, rfl⟩, tail, rfl⟩

@[simp]
theorem returns_insertUnique {t : T} [Writes t writes] {clash : Row t → Bool} {row : Row t}
    {e : ε} {id : Nat} :
    (insertUnique t clash row e : Transaction Row μ ε writes Nat).Returns s id sent s' ↔
      ((s t).any fun _ other => clash other) = false ∧
        id = (s t).nextId ∧ sent = [] ∧ s' = s.put t ((s t).insert row) := by
  simp [insertUnique, returns_bind_query, returns_bind_refuseIf, returns_insertInto]

@[simp]
theorem returns_bind_insertUnique {t : T} [Writes t writes] {clash : Row t → Bool} {row : Row t}
    {e : ε} {f : Nat → Transaction Row μ ε writes β} :
    (insertUnique t clash row e >>= f).Returns s b sent s' ↔
      ((s t).any fun _ other => clash other) = false ∧
        (f (s t).nextId).Returns (s.put t ((s t).insert row)) b sent s' := by
  simp only [returns_bind, returns_insertUnique]
  constructor
  · rintro ⟨x, first, mid, rest, ⟨free, rfl, rfl, rfl⟩, tail, rfl⟩
    exact ⟨free, tail⟩
  · rintro ⟨free, tail⟩
    exact ⟨_, [], _, sent, ⟨free, rfl, rfl, rfl⟩, tail, rfl⟩

@[simp]
theorem returns_updateRow {t : T} [Writes t writes] {id : Nat} {guard : Row t → Bool}
    {change : Row t → Row t} {e : ε} {u : Unit} :
    (updateRow t id guard change e : Transaction Row μ ε writes Unit).Returns s u sent s' ↔
      (∃ row, (s t).find? id = some row ∧ guard row = true) ∧
        sent = [] ∧ s' = s.put t ((s t).modify id change) := by
  simp only [updateRow, returns_bind_query, returns_bind_refuseIf, returns_write, true_and,
    Bool.not_eq_false, Option.any_eq_true]

@[simp]
theorem returns_bind_updateRow {t : T} [Writes t writes] {id : Nat} {guard : Row t → Bool}
    {change : Row t → Row t} {e : ε} {f : Unit → Transaction Row μ ε writes β} :
    (updateRow t id guard change e >>= f).Returns s b sent s' ↔
      (∃ row, (s t).find? id = some row ∧ guard row = true) ∧
        (f ()).Returns (s.put t ((s t).modify id change)) b sent s' := by
  simp only [returns_bind, returns_updateRow]
  constructor
  · rintro ⟨x, first, mid, rest, ⟨found, rfl, rfl⟩, tail, rfl⟩
    exact ⟨found, tail⟩
  · rintro ⟨found, tail⟩
    exact ⟨(), [], _, sent, ⟨found, rfl, rfl⟩, tail, rfl⟩

@[simp]
theorem returns_updateWhere {t : T} [Writes t writes] {guard : Nat → Row t → Bool}
    {change : Row t → Row t} {u : Unit} :
    (updateWhere t guard change : Transaction Row μ ε writes Unit).Returns s u sent s' ↔
      sent = [] ∧ s' = s.put t ((s t).update guard change) :=
  returns_write.trans (by simp)

@[simp]
theorem returns_bind_updateWhere {t : T} [Writes t writes] {guard : Nat → Row t → Bool}
    {change : Row t → Row t} {f : Unit → Transaction Row μ ε writes β} :
    (updateWhere t guard change >>= f).Returns s b sent s' ↔
      (f ()).Returns (s.put t ((s t).update guard change)) b sent s' := by
  simp only [returns_bind, returns_updateWhere]
  constructor
  · rintro ⟨x, first, mid, rest, ⟨rfl, rfl⟩, tail, rfl⟩
    exact tail
  · intro tail
    exact ⟨(), [], _, sent, ⟨rfl, rfl⟩, tail, rfl⟩

end Returns

end Transaction

end Relational
