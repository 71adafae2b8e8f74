import SupplyChain.Stocktakes.Steps
import SupplyChain.Relational.Keys

/-!
The recount cycle. While a stocktake waits for its approval, its pending
adjustments are the differences between its snapshot and its second counts, each
once; a rejection sends it back to counting, and a variance that is raised again
is the next revision of its adjustment.
-/

namespace SupplyChain.Stocktakes

open Relational Transaction TableName

variable {effects : Approvals.ProcurementEffects} {db db' mid : Database} {event : Event} {id : Nat}

/-! ## The pending set -/

/-- A target of a stocktake: a row of its round-0 snapshot. -/
def Snapshot (counts : Table StocktakeCount) (id : Nat) (snapshot : StocktakeCount) : Prop :=
  (∃ key, counts.find? key = some snapshot) ∧ snapshot.stocktakeId = id ∧ snapshot.countRound = 0

/-- The count of a target in a round. -/
structure CountOf (counts : Table StocktakeCount) (snapshot : StocktakeCount) (round key : Nat)
    (count : StocktakeCount) : Prop where
  found : counts.find? key = some count
  stocktake : count.stocktakeId = snapshot.stocktakeId
  inRound : count.countRound = round
  sku : count.sku = snapshot.sku
  batch : count.batchId = snapshot.batchId

/-- The adjustment is of a bucket of a count and carries the quantities of the
snapshot, of the count and their difference. -/
structure Records (snapshot count : StocktakeCount) (countId : Nat) (bucket : Bucket)
    (adjustment : StocktakeAdjustment) : Prop where
  stocktake : adjustment.stocktakeId = snapshot.stocktakeId
  countKey : adjustment.stocktakeCountId = countId
  inBucket : adjustment.bucket = bucket
  snapshotQuantity : adjustment.snapshotQuantity = snapshot.quantity bucket
  countedQuantity : adjustment.countedQuantity = count.quantity bucket
  varianceQuantity : adjustment.varianceQuantity = count.quantity bucket - snapshot.quantity bucket

/-- The pending adjustments of a stocktake are its differences, each once. -/
structure Exact (db : Database) (id : Nat) : Prop where
  sound : ∀ key adjustment, (db stocktakeAdjustments).find? key = some adjustment →
    adjustment.stocktakeId = id → adjustment.decision = .pending →
      ∃ snapshot countId count, Snapshot (db stocktakeCounts) id snapshot ∧
        CountOf (db stocktakeCounts) snapshot 2 countId count ∧
        snapshot.quantity adjustment.bucket ≠ count.quantity adjustment.bucket ∧
        Records snapshot count countId adjustment.bucket adjustment
  complete : ∀ snapshot countId count bucket, Snapshot (db stocktakeCounts) id snapshot →
    CountOf (db stocktakeCounts) snapshot 2 countId count →
      snapshot.quantity bucket ≠ count.quantity bucket →
        ∃ key adjustment, (db stocktakeAdjustments).find? key = some adjustment ∧
          adjustment.decision = .pending ∧ Records snapshot count countId bucket adjustment
  separate : ∀ snapshot, Snapshot (db stocktakeCounts) id snapshot →
    ∃ key first key' second, CountOf (db stocktakeCounts) snapshot 1 key first ∧
      CountOf (db stocktakeCounts) snapshot 2 key' second ∧ second.countedBy ≠ first.countedBy

/-! ## The invariant -/

/-- An adjustment of the same bucket of the same count. -/
def SameBucket (a b : StocktakeAdjustment) : Prop :=
  a.stocktakeId = b.stocktakeId ∧ a.stocktakeCountId = b.stocktakeCountId ∧ a.bucket = b.bucket

def Unique (counts : Table StocktakeCount) : Prop :=
  ∀ key key' row row', counts.find? key = some row → counts.find? key' = some row' →
    SameTarget row row' → key = key'

def Single (adjustments : Table StocktakeAdjustment) : Prop :=
  ∀ key key' row row', adjustments.find? key = some row → adjustments.find? key' = some row' →
    SameBucket row row' → key = key'

structure Kept (db : Database) : Prop where
  unique : Unique (db stocktakeCounts)
  single : Single (db stocktakeAdjustments)
  joined : ∀ key adjustment, (db stocktakeAdjustments).find? key = some adjustment →
    ∃ count, (db stocktakeCounts).find? adjustment.stocktakeCountId = some count
  waiting : ∀ key adjustment, (db stocktakeAdjustments).find? key = some adjustment →
    adjustment.decision = .pending → ∃ task, (db stocktakes).find? adjustment.stocktakeId =
      some task ∧ task.status = .pendingApproval
  first : ∀ id task, (db stocktakes).find? id = some task →
    task.status = .recount ∨ task.status = .pendingApproval →
      ∀ snapshot, Snapshot (db stocktakeCounts) id snapshot →
        ∃ key count, CountOf (db stocktakeCounts) snapshot 1 key count
  exact : ∀ id task, (db stocktakes).find? id = some task → task.status = .pendingApproval →
    Exact db id

/-! ## Counts -/

variable {round : Nat} {t t' : Table StocktakeCount}

theorem CountWrite.unique (write : CountWrite id round t t') (unique : Unique t) : Unique t' := by
  cases write with
  | added written stocktake inRound free =>
      intro key key' row row' found found' same
      rw [written] at found found'
      rcases Table.find?_insert_cases found with ⟨rfl, rfl⟩ | old
      · rcases Table.find?_insert_cases found' with ⟨rfl, -⟩ | old'
        · rfl
        · exact absurd same.symm (free key' row' old')
      · rcases Table.find?_insert_cases found' with ⟨rfl, rfl⟩ | old'
        · exact absurd same (free key row old)
        · exact unique key key' row row' old old' same
  | @revised target old change written foundOld stocktake inRound kept =>
      -- the revised row keeps its target, so it can stand for the old row
      have origin : ∀ {key row}, t'.find? key = some row →
          ∃ before, t.find? key = some before ∧ SameTarget row before := by
        intro key row found
        rw [written] at found
        rcases Table.find?_modify_cases found with ⟨rfl, before, foundBefore, rfl⟩ | ⟨-, there⟩
        · rw [foundOld] at foundBefore
          cases foundBefore
          exact ⟨old, foundOld, kept⟩
        · exact ⟨row, there, rfl, rfl, rfl, rfl⟩
      intro key key' row row' found found' same
      obtain ⟨before, there, alike⟩ := origin found
      obtain ⟨before', there', alike'⟩ := origin found'
      exact unique key key' before before' there there' (alike.symm.trans (same.trans alike'))

/-- The counts of the other stocktakes and of the other rounds are as they were. -/
theorem CountWrite.apart (write : CountWrite id round t t') {key : Nat} {row : StocktakeCount}
    (other : row.stocktakeId ≠ id ∨ row.countRound ≠ round) :
    t'.find? key = some row ↔ t.find? key = some row := by
  cases write with
  | added written stocktake inRound free =>
      rw [written]
      constructor
      · intro found
        rcases Table.find?_insert_cases found with ⟨-, rfl⟩ | old
        · rcases other with differs | differs
          · exact absurd stocktake differs
          · exact absurd inRound differs
        · exact old
      · exact Table.find?_insert_of_some
  | @revised target old change written foundOld stocktake inRound kept =>
      rw [written]
      by_cases here : key = target
      · subst here
        rw [Table.find?_modify_self _ foundOld, foundOld]
        constructor
        · intro same
          cases same
          rcases other with differs | differs
          · exact absurd (kept.1.trans stocktake) differs
          · exact absurd (kept.2.1.trans inRound) differs
        · intro same
          cases same
          rcases other with differs | differs
          · exact absurd stocktake differs
          · exact absurd inRound differs
      · rw [Table.find?_modify_ne _ _ here]

theorem CountWrite.stays (write : CountWrite id round t t') {key : Nat} {row : StocktakeCount}
    (found : t.find? key = some row) : ∃ row', t'.find? key = some row' ∧ SameTarget row' row := by
  cases write with
  | added written stocktake inRound free =>
      rw [written]
      exact ⟨row, Table.find?_insert_of_some found, rfl, rfl, rfl, rfl⟩
  | @revised target old change written foundOld stocktake inRound kept =>
      rw [written]
      by_cases here : key = target
      · subst here
        rw [foundOld] at found
        cases found
        exact ⟨change row, Table.find?_modify_self _ foundOld, kept⟩
      · rw [Table.find?_modify_ne _ _ here]
        exact ⟨row, found, rfl, rfl, rfl, rfl⟩

/-! ## The variances of a round -/

theorem CountOf.unique {counts : Table StocktakeCount} (unique : Unique counts)
    {snapshot count count' : StocktakeCount} {key key' : Nat}
    (one : CountOf counts snapshot round key count)
    (other : CountOf counts snapshot round key' count') : key = key' ∧ count = count' := by
  have same : key = key' := by
    apply unique key key' count count' one.found other.found
    exact ⟨one.stocktake.trans other.stocktake.symm, one.inRound.trans other.inRound.symm,
      one.sku.trans other.sku.symm, one.batch.trans other.batch.symm⟩
  subst same
  exact ⟨rfl, Option.some.inj (one.found.symm.trans other.found)⟩

theorem countAt_countOf {counts : Table StocktakeCount} {snapshot : StocktakeCount}
    {found : Nat × StocktakeCount} (stocktake : snapshot.stocktakeId = id)
    (answer : countAt counts id round snapshot.sku snapshot.batchId = some found) :
    CountOf counts snapshot round found.1 found.2 := by
  obtain ⟨row, there, inRound, sku, batch⟩ := countAt_some answer
  exact ⟨row, there.trans stocktake.symm, inRound, sku, batch⟩

theorem countOf_countAt {counts : Table StocktakeCount} (unique : Unique counts)
    {snapshot count : StocktakeCount} {key : Nat} (stocktake : snapshot.stocktakeId = id)
    (counted : CountOf counts snapshot round key count) :
    countAt counts id round snapshot.sku snapshot.batchId = some (key, count) := by
  cases answer : countAt counts id round snapshot.sku snapshot.batchId with
  | none =>
      have absent := countAt_none answer counted.found
      exact absurd ⟨counted.stocktake.trans stocktake, counted.inRound, counted.sku, counted.batch⟩
        absent
  | some found =>
      obtain ⟨rfl, rfl⟩ := counted.unique unique (countAt_countOf stocktake answer)
      rfl

theorem mem_roundCounts {counts : Table StocktakeCount} {row : RoundCount} :
    row ∈ roundCounts counts id round ↔ Snapshot counts id row.snapshot ∧
      row.counted = countAt counts id round row.snapshot.sku row.snapshot.batchId ∧
      row.round1 = countAt counts id 1 row.snapshot.sku row.snapshot.batchId := by
  simp only [roundCounts, List.mem_map, Table.mem_select, Bool.and_eq_true, beq_iff_eq]
  constructor
  · rintro ⟨⟨key, snapshot⟩, ⟨found, stocktake, inRound⟩, rfl⟩
    exact ⟨⟨⟨key, found⟩, stocktake, inRound⟩, rfl, rfl⟩
  · rintro ⟨⟨⟨key, found⟩, stocktake, inRound⟩, counted, first⟩
    refine ⟨(key, row.snapshot), ⟨found, stocktake, inRound⟩, ?_⟩
    simp only [← counted, ← first]

theorem roundCount_listed {counts : Table StocktakeCount} {snapshot : StocktakeCount}
    (target : Snapshot counts id snapshot) :
    (⟨snapshot, countAt counts id round snapshot.sku snapshot.batchId,
      countAt counts id 1 snapshot.sku snapshot.batchId⟩ : RoundCount) ∈
        roundCounts counts id round :=
  mem_roundCounts.mpr ⟨target, rfl, rfl⟩

/-- A variance is a bucket in which the count of a target differs from its
snapshot. -/
theorem mem_roundVariances {counts : Table StocktakeCount} (unique : Unique counts)
    {variance : Variance} :
    variance ∈ roundVariances counts id round ↔ ∃ snapshot count, Snapshot counts id snapshot ∧
      CountOf counts snapshot round variance.countId count ∧
      snapshot.quantity variance.bucket ≠ count.quantity variance.bucket ∧
      variance = ⟨variance.countId, snapshot.batchId, variance.bucket,
        snapshot.quantity variance.bucket, count.quantity variance.bucket⟩ := by
  simp only [roundVariances, List.mem_flatMap]
  constructor
  · rintro ⟨row, member, varies⟩
    obtain ⟨snapshot, counted, -⟩ := mem_roundCounts.mp member
    unfold variancesOf at varies
    cases answer : row.counted with
    | none =>
        rw [answer] at varies
        cases varies
    | some found =>
        rw [answer] at varies counted
        simp only [List.mem_map, List.mem_filter, decide_eq_true_eq] at varies
        obtain ⟨bucket, ⟨-, differs⟩, rfl⟩ := varies
        exact ⟨row.snapshot, found.2, snapshot, countAt_countOf snapshot.2.1 counted.symm, differs,
          rfl⟩
  · rintro ⟨snapshot, count, target, counted, differs, shape⟩
    have answer := countOf_countAt unique target.2.1 counted
    refine ⟨_, roundCount_listed target, ?_⟩
    simp only [variancesOf, answer, List.mem_map, List.mem_filter, decide_eq_true_eq]
    refine ⟨variance.bucket, ⟨?_, differs⟩, shape.symm⟩
    cases variance.bucket with
    | available => decide
    | locked => decide
    | defective => decide
    | pendingInspection => decide

theorem variance_listed {counts : Table StocktakeCount} (unique : Unique counts)
    {snapshot count : StocktakeCount} {countId : Nat} {bucket : Bucket}
    (target : Snapshot counts id snapshot) (counted : CountOf counts snapshot round countId count)
    (differs : snapshot.quantity bucket ≠ count.quantity bucket) :
    (⟨countId, snapshot.batchId, bucket, snapshot.quantity bucket,
      count.quantity bucket⟩ : Variance) ∈ roundVariances counts id round :=
  (mem_roundVariances unique).mpr ⟨snapshot, count, target, counted, differs, rfl⟩

/-! ## Adjustments -/

/-- What a step does to an adjustment that stays where it is: a rejected one is
raised again as its next revision, and every other one is as it was. -/
def Rises (_ : Nat) (old new : StocktakeAdjustment) : Prop :=
  new = old ∨ old.decision = .rejected ∧ new.decision = .pending ∧ SameBucket new old ∧
    new.revision = old.revision + 1

theorem Rises.refl (key : Nat) (adjustment : StocktakeAdjustment) :
    Rises key adjustment adjustment :=
  Or.inl rfl

theorem Rises.trans {key : Nat} {old mid new : StocktakeAdjustment} (first : Rises key old mid)
    (second : Rises key mid new) : Rises key old new := by
  rcases first with rfl | ⟨rejected, pending, same, revision⟩
  · exact second
  · rcases second with rfl | ⟨again, -, -, -⟩
    · exact Or.inr ⟨rejected, pending, same, revision⟩
    · rw [pending] at again
      cases again

variable {a a' : Table StocktakeAdjustment} {variance : Variance}

theorem Carries.sameBucket {one other : StocktakeAdjustment} (carries : Carries id variance one)
    (concerns : Concerns id variance other) : SameBucket one other :=
  ⟨carries.concerns.1.trans concerns.1.symm, carries.concerns.2.1.trans concerns.2.1.symm,
    carries.concerns.2.2.trans concerns.2.2.symm⟩

theorem Raised.evolves (raised : Raised id a variance a') : Table.Evolves Rises a a' := by
  cases raised with
  | added written carries free =>
      rw [written]
      exact Table.evolves_insert Rises.refl _
  | revised written found concerns rejected carries revision =>
      rw [written]
      apply Table.evolves_modify Rises.refl
      intro old foundOld
      rw [found] at foundOld
      cases foundOld
      exact Or.inr ⟨rejected, carries.pending, carries.sameBucket concerns, revision⟩

theorem Raised.here (raised : Raised id a variance a') :
    ∃ key row, a'.find? key = some row ∧ Carries id variance row := by
  cases raised with
  | added written carries free =>
      rw [written]
      exact ⟨_, _, Table.find?_insert_nextId _ _, carries⟩
  | revised written found concerns rejected carries revision =>
      rw [written]
      exact ⟨_, _, Table.find?_modify_self _ found, carries⟩

theorem Raised.origin (raised : Raised id a variance a') {key : Nat} {row : StocktakeAdjustment}
    (found : a'.find? key = some row) : a.find? key = some row ∨ Carries id variance row := by
  cases raised with
  | added written carries free =>
      rw [written] at found
      rcases Table.find?_insert_cases found with ⟨-, rfl⟩ | old
      · exact Or.inr carries
      · exact Or.inl old
  | revised written foundOld concerns rejected carries revision =>
      rw [written] at found
      rcases Table.find?_modify_cases found with ⟨-, old, there, rfl⟩ | ⟨-, there⟩
      · rw [foundOld] at there
        cases there
        exact Or.inr carries
      · exact Or.inl there

theorem Raised.single (raised : Raised id a variance a') (single : Single a) : Single a' := by
  cases raised with
  | added written carries free =>
      intro key key' row row' found found' same
      rw [written] at found found'
      rcases Table.find?_insert_cases found with ⟨rfl, rfl⟩ | old
      · rcases Table.find?_insert_cases found' with ⟨rfl, -⟩ | old'
        · rfl
        · refine absurd ⟨?_, ?_, ?_⟩ (free key' row' old')
          · exact same.1.symm.trans carries.concerns.1
          · exact same.2.1.symm.trans carries.concerns.2.1
          · exact same.2.2.symm.trans carries.concerns.2.2
      · rcases Table.find?_insert_cases found' with ⟨rfl, rfl⟩ | old'
        · refine absurd ⟨?_, ?_, ?_⟩ (free key row old)
          · exact same.1.trans carries.concerns.1
          · exact same.2.1.trans carries.concerns.2.1
          · exact same.2.2.trans carries.concerns.2.2
        · exact single key key' row row' old old' same
  | @revised target old change written foundOld concerns rejected carries revision =>
      have origin : ∀ {key row}, a'.find? key = some row →
          ∃ before, a.find? key = some before ∧ SameBucket row before := by
        intro key row found
        rw [written] at found
        rcases Table.find?_modify_cases found with ⟨rfl, before, foundBefore, rfl⟩ | ⟨-, there⟩
        · rw [foundOld] at foundBefore
          cases foundBefore
          exact ⟨old, foundOld, carries.sameBucket concerns⟩
        · exact ⟨row, there, rfl, rfl, rfl⟩
      intro key key' row row' found found' same
      obtain ⟨before, there, alike⟩ := origin found
      obtain ⟨before', there', alike'⟩ := origin found'
      apply single key key' before before' there there'
      exact ⟨alike.1.symm.trans (same.1.trans alike'.1),
        alike.2.1.symm.trans (same.2.1.trans alike'.2.1),
        alike.2.2.symm.trans (same.2.2.trans alike'.2.2)⟩

section

variable {variances : List Variance}

theorem raised_evolves (run : Run (Raised id) a variances a') : Table.Evolves Rises a a' :=
  run.relates (fun _ => Table.Evolves.refl Rises.refl)
    (fun first second => first.trans (fun _ _ _ _ => Rises.trans) second) Raised.evolves

theorem raised_single (run : Run (Raised id) a variances a') (single : Single a) : Single a' :=
  run.preserves Single (fun raised single => raised.single single) single

theorem raised_complete (run : Run (Raised id) a variances a') {variance : Variance}
    (listed : variance ∈ variances) :
    ∃ key row, a'.find? key = some row ∧ Carries id variance row := by
  induction run with
  | done => cases listed
  | next head later ih =>
      rcases List.mem_cons.mp listed with rfl | inside
      · obtain ⟨key, row, found, carries⟩ := head.here
        obtain ⟨new, foundNew, same | ⟨rejected, -⟩⟩ := (raised_evolves later).kept key row found
        · exact ⟨key, new, foundNew, same ▸ carries⟩
        · rw [carries.pending] at rejected
          cases rejected
      · exact ih inside

/-- An adjustment after the round was there before or waits for a variance. -/
theorem raised_origin (run : Run (Raised id) a variances a') {key : Nat}
    {row : StocktakeAdjustment} (found : a'.find? key = some row) :
    a.find? key = some row ∨ ∃ variance ∈ variances, Carries id variance row := by
  induction run with
  | done => exact Or.inl found
  | next head _ ih =>
      rcases ih found with there | ⟨variance, member, carries⟩
      · rcases head.origin there with old | carries
        · exact Or.inl old
        · exact Or.inr ⟨_, List.mem_cons_self, carries⟩
      · exact Or.inr ⟨variance, List.mem_cons_of_mem _ member, carries⟩

end

/-! ## What each step preserves -/

variable {task : Stocktake}

/-- What a stocktake that waits promises reads its own counts and adjustments. -/
theorem Exact.congr (exact : Exact db id)
    (counts : ∀ key row, row.stocktakeId = id →
      ((db' stocktakeCounts).find? key = some row ↔ (db stocktakeCounts).find? key = some row))
    (adjustments : ∀ key row, row.stocktakeId = id →
      ((db' stocktakeAdjustments).find? key = some row ↔
        (db stocktakeAdjustments).find? key = some row)) : Exact db' id := by
  have target : ∀ snapshot, Snapshot (db' stocktakeCounts) id snapshot ↔
      Snapshot (db stocktakeCounts) id snapshot := by
    intro snapshot
    constructor
    · rintro ⟨⟨key, found⟩, stocktake, inRound⟩
      exact ⟨⟨key, (counts key snapshot stocktake).mp found⟩, stocktake, inRound⟩
    · rintro ⟨⟨key, found⟩, stocktake, inRound⟩
      exact ⟨⟨key, (counts key snapshot stocktake).mpr found⟩, stocktake, inRound⟩
  have counted : ∀ {snapshot round key count}, snapshot.stocktakeId = id →
      (CountOf (db' stocktakeCounts) snapshot round key count ↔
        CountOf (db stocktakeCounts) snapshot round key count) := by
    intro snapshot round key count stocktake
    constructor
    · rintro ⟨found, same, inRound, sku, batch⟩
      exact ⟨(counts key count (same.trans stocktake)).mp found, same, inRound, sku, batch⟩
    · rintro ⟨found, same, inRound, sku, batch⟩
      exact ⟨(counts key count (same.trans stocktake)).mpr found, same, inRound, sku, batch⟩
  constructor
  · intro key adjustment found stocktake pending
    obtain ⟨snapshot, countId, count, there, second, differs, records⟩ :=
      exact.sound key adjustment ((adjustments key adjustment stocktake).mp found) stocktake pending
    exact ⟨snapshot, countId, count, (target snapshot).mpr there, (counted there.2.1).mpr second,
      differs, records⟩
  · intro snapshot countId count bucket there second differs
    have before := (target snapshot).mp there
    obtain ⟨key, adjustment, found, pending, records⟩ :=
      exact.complete snapshot countId count bucket before ((counted there.2.1).mp second) differs
    refine ⟨key, adjustment, ?_, pending, records⟩
    exact (adjustments key adjustment (records.stocktake.trans there.2.1)).mpr found
  · intro snapshot there
    obtain ⟨key, first, key', second, one, two, differs⟩ :=
      exact.separate snapshot ((target snapshot).mp there)
    exact ⟨key, first, key', second, (counted there.2.1).mpr one, (counted there.2.1).mpr two,
      differs⟩

theorem Snapshot.counted (counted : CountWrite id round t t') (later : round ≠ 0) {other : Nat}
    {snapshot : StocktakeCount} : Snapshot t' other snapshot ↔ Snapshot t other snapshot := by
  have same : ∀ key, snapshot.countRound = 0 →
      (t'.find? key = some snapshot ↔ t.find? key = some snapshot) := by
    intro key inRound
    apply counted.apart (Or.inr _)
    rw [inRound]
    exact later.symm
  constructor
  · rintro ⟨⟨key, found⟩, stocktake, inRound⟩
    exact ⟨⟨key, (same key inRound).mp found⟩, stocktake, inRound⟩
  · rintro ⟨⟨key, found⟩, stocktake, inRound⟩
    exact ⟨⟨key, (same key inRound).mpr found⟩, stocktake, inRound⟩

theorem CountOf.counted {first : Nat} {snapshot count : StocktakeCount} {key : Nat}
    (one : CountOf t snapshot first key count) (counted : CountWrite id round t t') :
    ∃ count', CountOf t' snapshot first key count' := by
  obtain ⟨count', found, same⟩ := counted.stays one.found
  exact ⟨count', found, same.1.trans one.stocktake, same.2.1.trans one.inRound,
    same.2.2.1.trans one.sku, same.2.2.2.trans one.batch⟩

theorem roundOf_ne_zero : roundOf task ≠ 0 := by
  unfold roundOf
  split
  · decide
  · decide

theorem Kept.counted (kept : Kept db) (found : (db stocktakes).find? id = some task)
    (taken : CountTaken task id db db') : Kept db' := by
  have tasks := taken.tasks
  have adjustments := taken.adjustments
  constructor
  · exact taken.written.unique kept.unique
  · rw [adjustments]
    exact kept.single
  · rw [adjustments]
    intro key adjustment there
    obtain ⟨count, counted⟩ := kept.joined key adjustment there
    obtain ⟨count', counted', -⟩ := taken.written.stays counted
    exact ⟨count', counted'⟩
  · rw [adjustments, tasks]
    exact kept.waiting
  · rw [tasks]
    intro other otherTask there status snapshot target
    have before := (Snapshot.counted taken.written roundOf_ne_zero).mp target
    obtain ⟨key, count, one⟩ := kept.first other otherTask there status snapshot before
    obtain ⟨count', one'⟩ := one.counted taken.written
    exact ⟨key, count', one'⟩
  · rw [tasks]
    intro other otherTask there status
    apply (kept.exact other otherTask there status).congr
    · intro key row stocktake
      apply taken.written.apart (Or.inl _)
      rw [stocktake]
      -- the counted stocktake is not the one that waits
      rintro rfl
      rw [found] at there
      cases there
      have countable := taken.countable
      rw [status] at countable
      cases countable
    · intro key row _
      rw [adjustments]

section

variable {targets : List (Nat × InventoryBatch)}

theorem snapshots_apart (run : Run (fun t _ t' => CountWrite id round t t') t targets t')
    {key : Nat} {row : StocktakeCount} (other : row.stocktakeId ≠ id) :
    t'.find? key = some row ↔ t.find? key = some row := by
  induction run with
  | done => exact Iff.rfl
  | next head _ ih => exact ih.trans (head.apart (Or.inl other))

theorem snapshots_stay (run : Run (fun t _ t' => CountWrite id round t t') t targets t')
    {key : Nat} {row : StocktakeCount} (found : t.find? key = some row) :
    ∃ row', t'.find? key = some row' ∧ SameTarget row' row := by
  induction run generalizing row with
  | done => exact ⟨row, found, rfl, rfl, rfl, rfl⟩
  | next head _ ih =>
      obtain ⟨mid, there, same⟩ := head.stays found
      obtain ⟨row', last, alike⟩ := ih there
      exact ⟨row', last, alike.trans same⟩

theorem snapshots_unique (run : Run (fun t _ t' => CountWrite id round t t') t targets t')
    (unique : Unique t) : Unique t' :=
  run.preserves Unique (fun write unique => write.unique unique) unique

end

theorem Kept.opened (kept : Kept db) (opened : Opened db db') : Kept db' := by
  obtain ⟨⟨task, status, tasks⟩, ⟨targets, snapshot⟩, adjustments⟩ := opened
  have old : ∀ {other otherTask}, (db' stocktakes).find? other = some otherTask →
      otherTask.status ≠ .firstCount → (db stocktakes).find? other = some otherTask := by
    intro other otherTask there later
    rw [tasks] at there
    rcases Table.find?_insert_cases there with ⟨-, rfl⟩ | before
    · exact absurd status later
    · exact before
  -- the snapshot is of the new stocktake, and no other one has its key
  have apart : ∀ {other otherTask}, (db stocktakes).find? other = some otherTask →
      ∀ key row, row.stocktakeId = other →
        ((db' stocktakeCounts).find? key = some row ↔
          (db stocktakeCounts).find? key = some row) := by
    rintro other otherTask there key row rfl
    exact snapshots_apart snapshot (Nat.ne_of_lt (Table.find?_lt_nextId there))
  constructor
  · exact snapshots_unique snapshot kept.unique
  · rw [adjustments]
    exact kept.single
  · rw [adjustments]
    intro key adjustment there
    obtain ⟨count, counted⟩ := kept.joined key adjustment there
    obtain ⟨count', counted', -⟩ := snapshots_stay snapshot counted
    exact ⟨count', counted'⟩
  · rw [adjustments, tasks]
    intro key adjustment there pending
    obtain ⟨waiting, before, status'⟩ := kept.waiting key adjustment there pending
    exact ⟨waiting, Table.find?_insert_of_some before, status'⟩
  · intro other otherTask there later shot target
    have before := old there (by rcases later with same | same <;> rw [same] <;> decide)
    obtain ⟨⟨shotKey, found⟩, stocktake, inRound⟩ := target
    have target : Snapshot (db stocktakeCounts) other shot :=
      ⟨⟨shotKey, (apart before shotKey shot stocktake).mp found⟩, stocktake, inRound⟩
    obtain ⟨key, count, one⟩ := kept.first other otherTask before later shot target
    have same := (apart before key count (one.stocktake.trans stocktake)).mpr one.found
    exact ⟨key, count, same, one.stocktake, one.inRound, one.sku, one.batch⟩
  · intro other otherTask there later
    have before := old there (by rw [later]; decide)
    apply (kept.exact other otherTask before later).congr (apart before)
    intro key row _
    rw [adjustments]

theorem moved_task {next : StocktakeStatus}
    (tasks : db' stocktakes = (db stocktakes).modify id fun row => { row with status := next })
    {other : Nat} {otherTask : Stocktake} (found : (db' stocktakes).find? other = some otherTask) :
    (other = id ∧ otherTask.status = next) ∨
      (other ≠ id ∧ (db stocktakes).find? other = some otherTask) := by
  rw [tasks] at found
  rcases Table.find?_modify_cases found with ⟨rfl, old, -, rfl⟩ | ⟨differ, there⟩
  · exact Or.inl ⟨rfl, rfl⟩
  · exact Or.inr ⟨differ, there⟩

theorem Kept.none_waits (kept : Kept db) (found : (db stocktakes).find? id = some task)
    (status : task.status ≠ .pendingApproval) {key : Nat} {adjustment : StocktakeAdjustment}
    (there : (db stocktakeAdjustments).find? key = some adjustment)
    (pending : adjustment.decision = .pending) : adjustment.stocktakeId ≠ id := by
  rintro rfl
  obtain ⟨waiting, foundWaiting, waits⟩ := kept.waiting key adjustment there pending
  rw [found] at foundWaiting
  cases foundWaiting
  exact status waits

theorem Kept.closed {next : StocktakeStatus} (kept : Kept db)
    (found : (db stocktakes).find? id = some task) (status : task.status ≠ .pendingApproval)
    (counts : db' stocktakeCounts = db stocktakeCounts)
    (adjustments : db' stocktakeAdjustments = db stocktakeAdjustments)
    (tasks : db' stocktakes = (db stocktakes).modify id fun row => { row with status := next })
    (unapproved : next ≠ .pendingApproval)
    (first : next = .recount → ∀ snapshot, Snapshot (db stocktakeCounts) id snapshot →
      ∃ key count, CountOf (db stocktakeCounts) snapshot 1 key count) : Kept db' := by
  constructor
  · rw [counts]
    exact kept.unique
  · rw [adjustments]
    exact kept.single
  · rw [counts, adjustments]
    exact kept.joined
  · rw [adjustments, tasks]
    intro key adjustment there pending
    obtain ⟨waiting, before, waits⟩ := kept.waiting key adjustment there pending
    rw [Table.find?_modify_ne _ _ (kept.none_waits found status there pending)]
    exact ⟨waiting, before, waits⟩
  · rw [counts]
    intro other otherTask there later
    rcases moved_task tasks there with ⟨rfl, now⟩ | ⟨-, before⟩
    · rcases later with recount | pending
      · exact first (now.symm.trans recount)
      · exact absurd (now.symm.trans pending) unapproved
    · exact kept.first other otherTask before later
  · intro other otherTask there waits
    rcases moved_task tasks there with ⟨-, now⟩ | ⟨-, before⟩
    · exact absurd (now.symm.trans waits) unapproved
    · apply (kept.exact other otherTask before waits).congr
      · intro key row _
        rw [counts]
      · intro key row _
        rw [adjustments]

theorem countable_not_pending (countable : task.status.countable = true) :
    task.status ≠ .pendingApproval := by
  intro pending
  rw [pending] at countable
  cases countable

theorem AllCounted.countOf {counts : Table StocktakeCount} (all : AllCounted counts id round)
    {snapshot : StocktakeCount} (target : Snapshot counts id snapshot) :
    ∃ key count, CountOf counts snapshot round key count := by
  have there := all _ (roundCount_listed target)
  obtain ⟨found, answer⟩ := Option.isSome_iff_exists.mp there
  exact ⟨found.1, found.2, countAt_countOf target.2.1 answer⟩

/-- A stocktake whose second counts differ waits for just these differences. -/
theorem Kept.submitted (kept : Kept db) (found : (db stocktakes).find? id = some task)
    (recount : task.status = .recount) (counts : db' stocktakeCounts = db stocktakeCounts)
    (all : AllCounted (db stocktakeCounts) id 2)
    (separate : ∀ row ∈ roundCounts (db stocktakeCounts) id 2,
      row.counted.map (·.2.countedBy) ≠ row.round1.map (·.2.countedBy))
    (tasks : db' stocktakes =
      (db stocktakes).modify id fun row => { row with status := .pendingApproval })
    (raised : Run (Raised id) (db stocktakeAdjustments)
      (roundVariances (db stocktakeCounts) id 2) (db' stocktakeAdjustments)) : Kept db' := by
  have status : task.status ≠ .pendingApproval := by
    rw [recount]
    decide
  have here : (db' stocktakes).find? id = some { task with status := .pendingApproval } := by
    rw [tasks]
    exact Table.find?_modify_self _ found
  have listed : ∀ {variance}, variance ∈ roundVariances (db stocktakeCounts) id 2 → _ :=
    fun member => (mem_roundVariances kept.unique).mp member
  -- what waits now was raised in this round
  have fresh : ∀ {key adjustment}, (db' stocktakeAdjustments).find? key = some adjustment →
      adjustment.stocktakeId = id → adjustment.decision = .pending →
        ∃ variance ∈ roundVariances (db stocktakeCounts) id 2, Carries id variance adjustment := by
    intro key adjustment there stocktake pending
    rcases raised_origin raised there with before | carried
    · exact absurd stocktake (kept.none_waits found status before pending)
    · exact carried
  -- the adjustments of the other stocktakes are as they were
  have apart : ∀ key row, row.stocktakeId ≠ id →
      ((db' stocktakeAdjustments).find? key = some row ↔
        (db stocktakeAdjustments).find? key = some row) := by
    intro key row other
    constructor
    · intro there
      rcases raised_origin raised there with before | ⟨variance, -, carries⟩
      · exact before
      · exact absurd carries.concerns.1 other
    · intro before
      obtain ⟨new, there, rfl | ⟨-, pending, same, -⟩⟩ := (raised_evolves raised).kept key row before
      · exact there
      · rcases raised_origin raised there with old | ⟨variance, -, carries⟩
        · rw [before] at old
          cases old
          exact there
        · exact absurd (same.1.symm.trans carries.concerns.1) other
  constructor
  · rw [counts]
    exact kept.unique
  · exact raised_single raised kept.single
  · rw [counts]
    intro key adjustment there
    rcases raised_origin raised there with before | ⟨variance, member, carries⟩
    · exact kept.joined key adjustment before
    · obtain ⟨snapshot, count, -, counted, -, -⟩ := listed member
      rw [carries.concerns.2.1]
      exact ⟨count, counted.found⟩
  · intro key adjustment there pending
    by_cases stocktake : adjustment.stocktakeId = id
    · rw [stocktake]
      exact ⟨_, here, rfl⟩
    · have before := (apart key adjustment stocktake).mp there
      obtain ⟨waiting, foundWaiting, waits⟩ := kept.waiting key adjustment before pending
      rw [tasks, Table.find?_modify_ne _ _ stocktake]
      exact ⟨waiting, foundWaiting, waits⟩
  · rw [counts]
    intro other otherTask there later
    rcases moved_task tasks there with ⟨rfl, -⟩ | ⟨-, before⟩
    · exact kept.first other task found (Or.inl recount)
    · exact kept.first other otherTask before later
  · intro other otherTask there waits
    rcases moved_task tasks there with ⟨rfl, -⟩ | ⟨differ, before⟩
    · constructor
      · intro key adjustment held stocktake pending
        obtain ⟨variance, member, carries⟩ := fresh held stocktake pending
        obtain ⟨snapshot, count, target, counted, differs, shape⟩ := listed member
        rw [counts, carries.concerns.2.2]
        refine ⟨snapshot, variance.countId, count, target, counted, differs, ?_⟩
        rw [shape] at carries
        exact ⟨carries.concerns.1.trans target.2.1.symm, carries.concerns.2.1,
          carries.concerns.2.2, carries.snapshot, carries.counted, carries.difference⟩
      · rw [counts]
        intro snapshot countId count bucket target counted differs
        have member := variance_listed kept.unique target counted differs
        obtain ⟨key, adjustment, held, carries⟩ := raised_complete raised member
        refine ⟨key, adjustment, held, carries.pending, ?_⟩
        exact ⟨carries.concerns.1.trans target.2.1.symm, carries.concerns.2.1,
          carries.concerns.2.2, carries.snapshot, carries.counted, carries.difference⟩
      · rw [counts]
        intro snapshot target
        obtain ⟨key, first, one⟩ := kept.first other task found (Or.inl recount) snapshot target
        obtain ⟨key', second, two⟩ := all.countOf target
        refine ⟨key, first, key', second, one, two, ?_⟩
        have apartBy := separate _ (roundCount_listed target)
        rw [countOf_countAt kept.unique target.2.1 two,
          countOf_countAt kept.unique target.2.1 one] at apartBy
        exact fun same => apartBy (congrArg some same)
    · apply (kept.exact other otherTask before waits).congr
      · intro key row _
        rw [counts]
      · intro key row stocktake
        apply apart
        rw [stocktake]
        exact differ

theorem Kept.finished (kept : Kept db) (found : (db stocktakes).find? id = some task)
    (finished : RoundFinished task id db db') : Kept db' := by
  have status := countable_not_pending finished.countable
  have all := finished.counted
  cases finished.outcome with
  | recounts first varies tasks adjustments =>
      apply kept.closed found status finished.counts adjustments tasks (by decide)
      intro _ snapshot target
      have round : roundOf task = 1 := by
        rw [roundOf, first]
        rfl
      rw [round] at all
      exact all.countOf target
  | completes agrees tasks adjustments =>
      exact kept.closed found status finished.counts adjustments tasks (by decide) (by rintro ⟨⟩)
  | submits recount varies separate tasks raised =>
      have round : roundOf task = 2 := if_pos recount
      rw [round] at all
      exact kept.submitted found recount finished.counts all separate tasks raised

/-! ## Decisions -/

variable {decision : Decision}

theorem mem_pendingAdjustments {row : ApprovalEffects.AdjustmentRow} :
    row ∈ ApprovalEffects.pendingAdjustments db id ↔
      (db stocktakeAdjustments).find? row.id = some row.adjustment ∧
        row.adjustment.stocktakeId = id ∧ row.adjustment.decision = .pending ∧
        (db stocktakeCounts).find? row.adjustment.stocktakeCountId = some row.count := by
  simp only [ApprovalEffects.pendingAdjustments, List.mem_filterMap, Table.mem_select,
    Bool.and_eq_true, beq_iff_eq, Option.map_eq_some_iff]
  constructor
  · rintro ⟨⟨key, adjustment⟩, ⟨found, stocktake, pending⟩, count, counted, rfl⟩
    exact ⟨found, stocktake, pending, counted⟩
  · rintro ⟨found, stocktake, pending, counted⟩
    exact ⟨(row.id, row.adjustment), ⟨found, stocktake, pending⟩, row.count, counted, rfl⟩

/-- A decision settles every pending adjustment of its stocktake and no other. -/
theorem Judged.settles (judged : Judged id decision db db') (kept : Kept db) {key : Nat}
    {old : StocktakeAdjustment} (found : (db stocktakeAdjustments).find? key = some old) :
    (db' stocktakeAdjustments).find? key = some
      (if old.stocktakeId = id ∧ old.decision = .pending then settled decision old else old) := by
  rw [judged.adjustments, found, Option.map_some]
  by_cases pending : old.decision = .pending
  · by_cases stocktake : old.stocktakeId = id
    · obtain ⟨count, counted⟩ := kept.joined key old found
      have listed : ∃ row ∈ ApprovalEffects.pendingAdjustments db id, row.id = key :=
        ⟨⟨key, old, count⟩, mem_pendingAdjustments.mpr ⟨found, stocktake, pending, counted⟩, rfl⟩
      rw [if_pos ⟨listed, pending⟩, if_pos ⟨stocktake, pending⟩]
    · rw [if_neg, if_neg (fun both => stocktake both.1)]
      rintro ⟨⟨row, listed, rfl⟩, -⟩
      obtain ⟨there, same, -, -⟩ := mem_pendingAdjustments.mp listed
      rw [found] at there
      cases there
      exact stocktake same
  · rw [if_neg (fun both => pending both.2), if_neg (fun both => pending both.2)]

theorem Judged.origin (judged : Judged id decision db db') (kept : Kept db) {key : Nat}
    {new : StocktakeAdjustment} (found : (db' stocktakeAdjustments).find? key = some new) :
    ∃ old, (db stocktakeAdjustments).find? key = some old ∧ SameBucket new old ∧
      (new = old ∨ old.stocktakeId = id ∧ new.decision = decision.status) := by
  cases before : (db stocktakeAdjustments).find? key with
  | none =>
      rw [judged.adjustments, before] at found
      cases found
  | some old =>
      have after := judged.settles kept before
      rw [found] at after
      cases after
      refine ⟨old, rfl, ?_, ?_⟩
      · split
        · exact ⟨rfl, rfl, rfl⟩
        · exact ⟨rfl, rfl, rfl⟩
      · split
        · next both => exact Or.inr ⟨both.1, rfl⟩
        · exact Or.inl rfl

theorem Decision.status_ne_pending : decision.status ≠ .pending := by
  cases decision with
  | approved => decide
  | rejected => decide

theorem Kept.judged (kept : Kept db) (judged : Judged id decision db db') : Kept db' := by
  obtain ⟨task, found, waits⟩ := judged.waiting
  have tasks := judged.tasks
  have counts := judged.counts
  have next : (if decision = .approved then StocktakeStatus.completed else .recount) ≠
      .pendingApproval := by
    split
    · decide
    · decide
  -- the adjustments of the other stocktakes are as they were
  have apart : ∀ key row, row.stocktakeId ≠ id →
      ((db' stocktakeAdjustments).find? key = some row ↔
        (db stocktakeAdjustments).find? key = some row) := by
    intro key row other
    constructor
    · intro there
      obtain ⟨old, before, same, rfl | ⟨stocktake, -⟩⟩ := judged.origin kept there
      · exact before
      · exact absurd (same.1.trans stocktake) other
    · intro before
      rw [judged.settles kept before, if_neg fun both => other both.1]
  constructor
  · rw [counts]
    exact kept.unique
  · intro key key' row row' there there' same
    obtain ⟨old, before, alike, -⟩ := judged.origin kept there
    obtain ⟨old', before', alike', -⟩ := judged.origin kept there'
    apply kept.single key key' old old' before before'
    exact ⟨alike.1.symm.trans (same.1.trans alike'.1),
      alike.2.1.symm.trans (same.2.1.trans alike'.2.1),
      alike.2.2.symm.trans (same.2.2.trans alike'.2.2)⟩
  · rw [counts]
    intro key adjustment there
    obtain ⟨old, before, same, -⟩ := judged.origin kept there
    rw [same.2.1]
    exact kept.joined key old before
  · intro key adjustment there pending
    obtain ⟨old, before, same, rfl | ⟨-, decided⟩⟩ := judged.origin kept there
    · have other : adjustment.stocktakeId ≠ id := by
        intro stocktake
        rw [judged.settles kept before, if_pos ⟨stocktake, pending⟩, Option.some.injEq] at there
        rw [← there] at pending
        exact Decision.status_ne_pending pending
      obtain ⟨waiting, foundWaiting, status⟩ := kept.waiting key adjustment before pending
      rw [tasks, Table.find?_modify_ne _ _ other]
      exact ⟨waiting, foundWaiting, status⟩
    · rw [pending] at decided
      exact absurd decided.symm Decision.status_ne_pending
  · rw [counts]
    intro other otherTask there later
    rcases moved_task tasks there with ⟨rfl, -⟩ | ⟨-, before⟩
    · exact kept.first other task found (Or.inr waits)
    · exact kept.first other otherTask before later
  · intro other otherTask there status
    rcases moved_task tasks there with ⟨rfl, now⟩ | ⟨differ, before⟩
    · exact absurd (now.symm.trans status) next
    · apply (kept.exact other otherTask before status).congr
      · intro key row _
        rw [counts]
      · intro key row stocktake
        apply apart
        rw [stocktake]
        exact differ

/-- The invariant reads the stocktakes, their counts and their adjustments. -/
theorem Kept.same (kept : Kept db) (tasks : db' stocktakes = db stocktakes)
    (counts : db' stocktakeCounts = db stocktakeCounts)
    (adjustments : db' stocktakeAdjustments = db stocktakeAdjustments) : Kept db' := by
  constructor
  · rw [counts]
    exact kept.unique
  · rw [adjustments]
    exact kept.single
  · rw [counts, adjustments]
    exact kept.joined
  · rw [adjustments, tasks]
    exact kept.waiting
  · rw [counts, tasks]
    exact kept.first
  · intro other task found waits
    rw [tasks] at found
    apply (kept.exact other task found waits).congr
    · intro key row _
      rw [counts]
    · intro key row _
      rw [adjustments]

theorem Kept.taken (kept : Kept db) (taken : Taken db event db') : Kept db' := by
  cases taken with
  | opened opened => exact kept.opened opened
  | transitioned found transitioned =>
      cases transitioned with
      | counted taken => exact kept.counted found taken
      | finished finished => exact kept.finished found finished
  | judged foundApproval workflow judged => exact kept.judged judged
  | elsewhere tasks counts adjustments undecided =>
      exact kept.same tasks counts adjustments

theorem step_kept (step : Step effects db event db') (kept : Kept db) : Kept db' := by
  obtain ⟨mid, taken, apart⟩ := step_taken step
  exact (kept.taken taken).same (apart _ (by decide)) (apart _ (by decide)) (apart _ (by decide))

/-! ## The life of an adjustment -/

/-- What a step does to an adjustment: nothing, a rejected one is raised again, or a
pending one is decided. -/
inductive Progress (old new : StocktakeAdjustment) : Prop
  | same (same : new = old)
  | raised (rejected : old.decision = .rejected) (pending : new.decision = .pending)
      (alike : SameBucket new old) (revision : new.revision = old.revision + 1)
  | decided {decision : Decision} (pending : old.decision = .pending)
      (settles : new = settled decision old)

theorem Rises.progress {key : Nat} {old new : StocktakeAdjustment} (rises : Rises key old new) :
    Progress old new := by
  rcases rises with same | ⟨rejected, pending, alike, revision⟩
  · exact Progress.same same
  · exact Progress.raised rejected pending alike revision

theorem step_progress (step : Step effects db event db') (kept : Kept db) {key : Nat}
    {old : StocktakeAdjustment} (found : (db stocktakeAdjustments).find? key = some old) :
    ∃ new, (db' stocktakeAdjustments).find? key = some new ∧ Progress old new := by
  obtain ⟨mid, taken, apart⟩ := step_taken step
  rw [apart _ (by decide)]
  cases taken with
  | opened opened =>
      rw [opened.adjustments]
      exact ⟨old, found, Progress.same rfl⟩
  | transitioned foundTask transitioned =>
      cases transitioned with
      | counted taken =>
          rw [taken.adjustments]
          exact ⟨old, found, Progress.same rfl⟩
      | finished finished =>
          cases finished.outcome with
          | recounts first varies tasks adjustments =>
              rw [adjustments]
              exact ⟨old, found, Progress.same rfl⟩
          | completes agrees tasks adjustments =>
              rw [adjustments]
              exact ⟨old, found, Progress.same rfl⟩
          | submits recount varies separate tasks raised =>
              obtain ⟨new, there, rises⟩ := (raised_evolves raised).kept key old found
              exact ⟨new, there, rises.progress⟩
  | judged foundApproval workflow judged =>
      refine ⟨_, judged.settles kept found, ?_⟩
      split
      · next both => exact Progress.decided both.2 rfl
      · exact Progress.same rfl
  | elsewhere tasks counts adjustments undecided =>
      rw [adjustments]
      exact ⟨old, found, Progress.same rfl⟩

theorem run_approved {events : List Event} (run : Run (Step effects) db events db')
    (kept : Kept db) {key : Nat} {adjustment : StocktakeAdjustment}
    (found : (db stocktakeAdjustments).find? key = some adjustment)
    (approved : adjustment.decision = .approved) :
    (db' stocktakeAdjustments).find? key = some adjustment := by
  induction run with
  | done => exact found
  | next first _ ih =>
      apply ih (step_kept first kept)
      obtain ⟨new, there, progress⟩ := step_progress first kept found
      cases progress with
      | same same =>
          rw [same] at there
          exact there
      | raised rejected pending alike revision =>
          rw [approved] at rejected
          cases rejected
      | decided pending settles =>
          rw [approved] at pending
          cases pending

/-! ## The keys of the booked movements -/

/-- The source keys that an event books: an approval books the pending
adjustments of its stocktake. -/
def bookedKeys (db : Database) (event : Event) : List String :=
  match event with
  | .command ⟨_, .decideApproval body⟩ =>
      match (db approvalRequests).find? body.id with
      | none => []
      | some approval =>
          if approval.workflowType = .stocktakeVariance ∧ body.decision = .approved then
            (ApprovalEffects.pendingAdjustments db approval.entityId).map fun row =>
              movementKey approval.entityId row.id row.adjustment.revision
          else []
  | _ => []

theorem mem_bookedKeys {key : String} (booked : key ∈ bookedKeys db event) :
    ∃ command body approval row, event = .command ⟨command, .decideApproval body⟩ ∧
      (db approvalRequests).find? body.id = some approval ∧
      approval.workflowType = .stocktakeVariance ∧ body.decision = .approved ∧
      row ∈ ApprovalEffects.pendingAdjustments db approval.entityId ∧
      key = movementKey approval.entityId row.id row.adjustment.revision := by
  unfold bookedKeys at booked
  split at booked
  · next command body =>
      split at booked
      · cases booked
      · next approval found =>
          split at booked
          · next both =>
              obtain ⟨row, listed, rfl⟩ := List.mem_map.mp booked
              exact ⟨command, body, approval, row, rfl, found, both.1, both.2, listed, rfl⟩
          · cases booked
  · cases booked

theorem movementKey_injective {stocktakeId stocktakeId' key key' revision revision' : Nat}
    (same : movementKey stocktakeId key revision = movementKey stocktakeId' key' revision') :
    stocktakeId = stocktakeId' ∧ key = key' ∧ revision = revision' := by
  have texts := congrArg String.toList same
  simp only [movementKey, String.toList_append, List.append_assoc, List.append_cancel_left_eq]
    at texts
  have separator : ':'.isDigit = false := by decide
  obtain ⟨tasks, texts⟩ := numbered_eq separator texts
  obtain ⟨keys, texts⟩ := numbered_eq separator (List.append_cancel_left texts)
  exact ⟨tasks, keys, toString_injective (String.toList_inj.mp (List.append_cancel_left texts))⟩

theorem step_books (step : Step effects db event db') {key : String}
    (booked : key ∈ bookedKeys db event) :
    ∃ id movement, (db' inventoryMovements).find? id = some movement ∧ movement.sourceKey = key := by
  obtain ⟨command, body, approval, row, rfl, found, workflow, approved, listed, rfl⟩ :=
    mem_bookedKeys booked
  obtain ⟨mid, taken, apart⟩ := step_taken step
  cases taken with
  | judged foundApproval _ judged =>
      rw [found] at foundApproval
      cases foundApproval
      rw [apart _ (by decide)]
      exact (judged.books approved).2 row listed
  | elsewhere tasks counts adjustments undecided =>
      exact absurd workflow (undecided command body approval rfl found)

theorem step_approves (step : Step effects db event db') (kept : Kept db) {key : String}
    (booked : key ∈ bookedKeys db event) :
    ∃ stocktakeId adjustmentId revision adjustment,
      key = movementKey stocktakeId adjustmentId revision ∧
      (db' stocktakeAdjustments).find? adjustmentId = some adjustment ∧
      adjustment.decision = .approved := by
  obtain ⟨command, body, approval, row, rfl, found, workflow, approved, listed, rfl⟩ :=
    mem_bookedKeys booked
  obtain ⟨mid, taken, apart⟩ := step_taken step
  obtain ⟨there, stocktake, pending, -⟩ := mem_pendingAdjustments.mp listed
  cases taken with
  | judged foundApproval _ judged =>
      rw [found] at foundApproval
      cases foundApproval
      have settles := judged.settles kept there
      rw [if_pos ⟨stocktake, pending⟩, approved] at settles
      rw [apart _ (by decide)]
      exact ⟨_, row.id, _, _, rfl, settles, rfl⟩
  | elsewhere tasks counts adjustments undecided =>
      exact absurd workflow (undecided command body approval rfl found)

theorem pendingAdjustments_ascending :
    (ApprovalEffects.pendingAdjustments db id).Pairwise fun a b => a.id < b.id := by
  unfold ApprovalEffects.pendingAdjustments
  apply List.Pairwise.filterMap _ _ (Table.select_ascending _ _)
  intro one other before row joined row' joined'
  obtain ⟨_, -, rfl⟩ := Option.map_eq_some_iff.mp joined
  obtain ⟨_, -, rfl⟩ := Option.map_eq_some_iff.mp joined'
  exact before

theorem bookedKeys_nodup : (bookedKeys db event).Nodup := by
  unfold bookedKeys
  split
  · split
    · exact List.nodup_nil
    · split
      · apply List.pairwise_map.mpr
        apply pendingAdjustments_ascending.imp
        intro one other before same
        exact Nat.ne_of_lt before (movementKey_injective same).2.1
      · exact List.nodup_nil
  · exact List.nodup_nil

/-- A database without stocktakes. -/
structure Opens (db : Database) : Prop where
  tasks : db stocktakes = Table.empty
  counts : db stocktakeCounts = Table.empty
  adjustments : db stocktakeAdjustments = Table.empty

/-- What holds of the recount cycle in a state and of every step from there. -/
structure Recounted (effects : Approvals.ProcurementEffects) (db : Database) : Prop where
  exact : ∀ id task, (db stocktakes).find? id = some task → task.status = .pendingApproval →
    Exact db id
  oneCount : Unique (db stocktakeCounts)
  oneAdjustment : Single (db stocktakeAdjustments)
  revised : ∀ event db', Step effects db event db' → ∀ key old,
    (db stocktakeAdjustments).find? key = some old →
      ∃ new, (db' stocktakeAdjustments).find? key = some new ∧ SameBucket new old ∧
        old.revision ≤ new.revision ∧
        (old.decision ≠ .pending → new.decision = .pending → old.revision < new.revision)
  booked : ∀ event db', Step effects db event db' → ∀ key ∈ bookedKeys db event,
    ∃ id movement, (db' inventoryMovements).find? id = some movement ∧ movement.sourceKey = key
  apart : ∀ event, (bookedKeys db event).Nodup
  fresh : ∀ event mid events db' event', Step effects db event mid →
    Run (Step effects) mid events db' → ∀ key ∈ bookedKeys db event, key ∉ bookedKeys db' event'

theorem Opens.kept (opens : Opens db) : Kept db := by
  have none : ∀ {Row : Type} (key : Nat) (row : Row),
      (Table.empty : Table Row).find? key ≠ some row := by
    rintro Row key row ⟨⟩
  constructor
  · rw [opens.counts]
    exact fun key _ row _ found => absurd found (none key row)
  · rw [opens.adjustments]
    exact fun key _ row _ found => absurd found (none key row)
  · rw [opens.adjustments]
    exact fun key row found => absurd found (none key row)
  · rw [opens.adjustments]
    exact fun key row found => absurd found (none key row)
  · rw [opens.tasks]
    exact fun id task found => absurd found (none id task)
  · rw [opens.tasks]
    exact fun id task found => absurd found (none id task)

/-- In every state that a run reaches, what waits for an approval is what differs,
and whatever is rejected and counted again, a variance is raised as a later revision
and no movement key is booked twice. -/
theorem recount_cycle {opening : Database} {events : List Event} (opens : Opens opening)
    (run : Run (Step effects) opening events db) : Recounted effects db := by
  have kept : Kept db := run.preserves Kept step_kept opens.kept
  constructor
  · exact kept.exact
  · exact kept.unique
  · exact kept.single
  · intro event db' step key old found
    obtain ⟨new, there, progress⟩ := step_progress step kept found
    refine ⟨new, there, ?_⟩
    cases progress with
    | same same =>
        rw [same]
        exact ⟨⟨rfl, rfl, rfl⟩, Nat.le_refl _, fun decided pending => absurd pending decided⟩
    | raised rejected pending alike revision =>
        rw [revision]
        exact ⟨alike, Nat.le_succ _, fun _ _ => Nat.lt_succ_self _⟩
    | decided pending settles =>
        rw [settles]
        exact ⟨⟨rfl, rfl, rfl⟩, Nat.le_refl _, fun decided _ => absurd pending decided⟩
  · exact fun event db' step key booked => step_books step booked
  · exact fun event => bookedKeys_nodup
  · intro event mid events db' event' step later key booked again
    obtain ⟨stocktakeId, adjustmentId, revision, adjustment, rfl, found, approved⟩ :=
      step_approves step kept booked
    have stays := run_approved later (step_kept step kept) found approved
    obtain ⟨_, _, _, row, -, -, -, -, listed, same⟩ := mem_bookedKeys again
    obtain ⟨there, -, pending, -⟩ := mem_pendingAdjustments.mp listed
    rw [← (movementKey_injective same).2.1, stays] at there
    cases there
    rw [approved] at pending
    cases pending

/-! ## A recount to replay -/

/-- A warehouse with ten units of a batch. -/
def shelvedDatabase : Database :=
  (emptyDatabase.put warehouses (Table.empty.insert
    { code := "WH-1", name := "Main", type := .company, factoryId := none, status := .active })).put
    inventoryBatches (Table.empty.insert
      { batchNo := "B-1", warehouseId := 1, sku := "SKU-1", inboundDate := "2024-01-01",
        availableQuantity := 10 })

def opensCount (time : Nat) : Request :=
  requestAt time 1 [.admin] (.openStocktake
    { warehouseId := 1, scope := .fullWarehouse, dueDate := "2024-02-01" })

/-- The available units that a user counts in the batch. -/
def counts (time userId : Nat) (available : Int) : Request :=
  requestAt time userId [.admin] (.transitionStocktake
    { id := 1, action := .submitCount
        { batchId := some 1, sku := "SKU-1", availableQuantity := available, lockedQuantity := 0,
          defectiveQuantity := 0, pendingInspectionQuantity := 0 } })

def finishes (time : Nat) : Request :=
  requestAt time 1 [.admin] (.transitionStocktake { id := 1, action := .finishRound {} })

theorem shelvedDatabase_opens : Opens shelvedDatabase :=
  ⟨rfl, rfl, rfl⟩

/-- Two counts of eight units leave one adjustment of the ten that waits. -/
theorem recount_cycle_waiting :
    ∃ db task adjustment, (db stocktakes).find? 1 = some task ∧ task.status = .pendingApproval ∧
      (db stocktakeAdjustments).find? 1 = some adjustment ∧ adjustment.decision = .pending ∧
      adjustment.varianceQuantity = -2 ∧ Recounted noProcurement db := by
  obtain ⟨db, run, seen⟩ := replay_reaches noProcurement
    [opensCount 1, counts 2 1 8, finishes 3, counts 4 2 8, finishes 5] shelvedDatabase
    (fun db => ((db stocktakes).find? 1).any (fun task => task.status == .pendingApproval) &&
      ((db stocktakeAdjustments).find? 1).any fun adjustment =>
        adjustment.decision == .pending && adjustment.varianceQuantity == -2) (by decide +kernel)
  simp only [Bool.and_eq_true, Option.any_eq_true, beq_iff_eq] at seen
  obtain ⟨⟨task, found, waits⟩, adjustment, there, pending, variance⟩ := seen
  exact ⟨db, task, adjustment, found, waits, there, pending, variance,
    recount_cycle shelvedDatabase_opens run⟩

end SupplyChain.Stocktakes
