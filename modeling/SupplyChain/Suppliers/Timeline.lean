import SupplyChain.Suppliers.Outcomes

/-!
The agreed prices of a supplier and a sku as a timeline. Every agreement but the
last ends on the day before the next one starts, so that their periods share no
day and leave none out. The lookup of an order reads the active agreements alone
and so loses the days of an agreement that another one followed.
-/

namespace SupplyChain.Suppliers

open Relational Transaction TableName Supply Procurement
open PurchaseOrders (priceOn)

variable {db db' : Database} {event : SupplyEvent} {prices : Table CorePriceAgreement}

/-! ## The timeline -/

/-- Two agreements with one supplier on one sku. -/
def SameGoods (a b : CorePriceAgreement) : Prop :=
  a.supplierId = b.supplierId ∧ a.sku = b.sku

/-- The day is one of the agreement's period. -/
def Covers (row : CorePriceAgreement) (day : String) : Prop :=
  row.effectiveFrom ≤ day ∧ ∀ last, row.effectiveTo = some last → day ≤ last

/-- The agreements on the same goods start in the order of their keys, and each
of them that has ended is followed by one that starts on the next day. -/
structure Timeline (prices : Table CorePriceAgreement) : Prop where
  dated : ∀ id row, prices.find? id = some row →
    (Calendar.parse row.effectiveFrom).isSome = true
  current : ∀ id row, prices.find? id = some row → (row.active = true ↔ row.effectiveTo = none)
  ordered : ∀ i j a b, prices.find? i = some a → prices.find? j = some b → SameGoods a b → i < j →
    a.effectiveFrom < b.effectiveFrom ∧
      ∃ last, a.effectiveTo = some last ∧ last < b.effectiveFrom
  followed : ∀ i a last, prices.find? i = some a → a.effectiveTo = some last →
    ∃ j b, prices.find? j = some b ∧ SameGoods a b ∧ i < j ∧
      previousDay b.effectiveFrom = some last

theorem Timeline.open_unique (timeline : Timeline prices) {i j : Nat} {a b : CorePriceAgreement}
    (foundA : prices.find? i = some a) (foundB : prices.find? j = some b) (same : SameGoods a b)
    (openA : a.effectiveTo = none) (openB : b.effectiveTo = none) : i = j := by
  rcases Nat.lt_trichotomy i j with before | equal | after
  · obtain ⟨-, last, ended, -⟩ := timeline.ordered i j a b foundA foundB same before
    rw [openA] at ended
    cases ended
  · exact equal
  · obtain ⟨-, last, ended, -⟩ :=
      timeline.ordered j i b a foundB foundA ⟨same.1.symm, same.2.symm⟩ after
    rw [openB] at ended
    cases ended

theorem Timeline.disjoint (timeline : Timeline prices) {i j : Nat} {a b : CorePriceAgreement}
    {day : String} (foundA : prices.find? i = some a) (foundB : prices.find? j = some b)
    (same : SameGoods a b) (coversA : Covers a day) (coversB : Covers b day) : i = j := by
  have apart : ∀ {i j : Nat} {a b : CorePriceAgreement}, prices.find? i = some a →
      prices.find? j = some b → SameGoods a b → Covers a day → Covers b day → ¬ i < j := by
    intro i j a b foundA foundB same coversA coversB before
    obtain ⟨-, last, ended, earlier⟩ := timeline.ordered i j a b foundA foundB same before
    have inside := String.le_trans coversB.1 (coversA.2 last ended)
    exact String.not_lt.mpr inside earlier
  have notBefore := apart foundA foundB same coversA coversB
  have notAfter := apart foundB foundA ⟨same.1.symm, same.2.symm⟩ coversB coversA
  omega

/-- No day after the first is left out: the last agreement that has started by
then covers it, since the next one starts later. -/
theorem Timeline.covered (timeline : Timeline prices) {id : Nat} {first : CorePriceAgreement}
    {day : String} (found : prices.find? id = some first)
    (valid : (Calendar.parse day).isSome = true) (started : first.effectiveFrom ≤ day) :
    ∃ key row, prices.find? key = some row ∧ SameGoods first row ∧ Covers row day := by
  obtain ⟨key, row, foundRow, passes, greatest⟩ := Table.exists_greatest
    (fun _ row => row.supplierId == first.supplierId && row.sku == first.sku &&
      decide (row.effectiveFrom ≤ day))
    ⟨id, first, found, by simp [started]⟩
  simp only [Bool.and_eq_true, beq_iff_eq, decide_eq_true_eq] at passes
  obtain ⟨⟨sameSupplier, sameSku⟩, begun⟩ := passes
  refine ⟨key, row, foundRow, ⟨sameSupplier.symm, sameSku.symm⟩, begun, ?_⟩
  intro last ended
  obtain ⟨next, other, foundOther, same, later, before⟩ :=
    timeline.followed key row last foundRow ended
  apply previousDay_greatest before valid
  apply String.not_le.mp
  intro otherBegun
  have bound := greatest next other foundOther (by
    simp [← same.1, ← same.2, sameSupplier, sameSku, otherBegun])
  omega

/-! ## A new agreement -/

/-- The active agreement, when there is one, is the only one that is. -/
def Current (prices : Table CorePriceAgreement) (supplierId : Nat) (sku : String) :
    Option (Nat × CorePriceAgreement) → Prop
  | none => ∀ id row, prices.find? id = some row → row.supplierId = supplierId → row.sku = sku →
      row.active = false
  | some r => prices.find? r.1 = some r.2 ∧ r.2.supplierId = supplierId ∧ r.2.sku = sku ∧
      r.2.active = true

theorem activePrice_current (db : Database) (supplierId : Nat) (sku : String) :
    Current (db corePriceAgreements) supplierId sku (activePrice db supplierId sku) := by
  cases chosen : activePrice db supplierId sku with
  | none =>
      have empty := Table.nil_of_head?_insertionSort chosen
      rw [Table.select_eq_nil] at empty
      intro id row foundRow sameSupplier sameSku
      have none := empty id row foundRow
      simpa [sameSupplier, sameSku] using none
  | some r =>
      obtain ⟨foundRow, passes⟩ := Table.mem_select.mp (Table.mem_of_head?_insertionSort chosen)
      simp only [Bool.and_eq_true, beq_iff_eq] at passes
      exact ⟨foundRow, passes.1.1, passes.1.2, passes.2⟩

/-- Without an active agreement there is none at all: the last one never ended. -/
theorem Timeline.none_agreed (timeline : Timeline prices) {supplierId : Nat} {sku : String}
    (current : Current prices supplierId sku none) {id : Nat} {row : CorePriceAgreement}
    (found : prices.find? id = some row) : ¬ (row.supplierId = supplierId ∧ row.sku = sku) := by
  rintro ⟨sameSupplier, sameSku⟩
  obtain ⟨key, last, foundLast, passes, greatest⟩ := Table.exists_greatest
    (fun _ row => row.supplierId == supplierId && row.sku == sku)
    ⟨id, row, found, by simp [sameSupplier, sameSku]⟩
  simp only [Bool.and_eq_true, beq_iff_eq] at passes
  have inactive := current key last foundLast passes.1 passes.2
  cases ended : last.effectiveTo with
  | none =>
      rw [(timeline.current key last foundLast).mpr ended] at inactive
      cases inactive
  | some day =>
      obtain ⟨next, other, foundOther, same, later, -⟩ :=
        timeline.followed key last day foundLast ended
      have bound := greatest next other foundOther (by simp [← same.1, ← same.2, passes])
      omega

theorem Timeline.current_last (timeline : Timeline prices) {supplierId : Nat} {sku : String}
    {r : Nat × CorePriceAgreement} (current : Current prices supplierId sku (some r)) {id : Nat}
    {row : CorePriceAgreement} (found : prices.find? id = some row)
    (sameSupplier : row.supplierId = supplierId) (sameSku : row.sku = sku) : id ≤ r.1 := by
  obtain ⟨foundCurrent, currentSupplier, currentSku, active⟩ := current
  apply Nat.not_lt.mp
  intro later
  obtain ⟨-, last, ended, -⟩ := timeline.ordered r.1 id r.2 row foundCurrent found
    ⟨currentSupplier.trans sameSupplier.symm, currentSku.trans sameSku.symm⟩ later
  rw [(timeline.current _ _ foundCurrent).mp active] at ended
  cases ended

variable {supplierId : Nat} {sku effectiveFrom before : String} {price : Int}
  {active : Option (Nat × CorePriceAgreement)}

/-- What an agreement was before the active one ended: only the active one has
changed. -/
theorem retired_backward (current : Current prices supplierId sku active)
    (precedes : previousDay effectiveFrom = some before) {id : Nat} {row : CorePriceAgreement}
    (found : (retiredPrices prices (active.map (·.1)) effectiveFrom).find? id = some row) :
    ∃ old, prices.find? id = some old ∧ SameGoods old row ∧
      row.effectiveFrom = old.effectiveFrom ∧
      (row = old ∨ active = some (id, old) ∧ row.active = false ∧
        row.effectiveTo = some before) := by
  cases active with
  | none => exact ⟨row, found, ⟨rfl, rfl⟩, rfl, Or.inl rfl⟩
  | some r =>
      rcases Table.find?_modify_cases found with ⟨rfl, old, foundOld, rfl⟩ | ⟨-, same⟩
      · have unique : old = r.2 := Option.some.inj (foundOld.symm.trans current.1)
        subst unique
        exact ⟨r.2, foundOld, ⟨rfl, rfl⟩, rfl, Or.inr ⟨rfl, rfl, precedes⟩⟩
      · exact ⟨row, same, ⟨rfl, rfl⟩, rfl, Or.inl rfl⟩

theorem retired_forward {current : Option Nat} {id : Nat} {old : CorePriceAgreement}
    (found : prices.find? id = some old) :
    ∃ row, (retiredPrices prices current effectiveFrom).find? id = some row ∧
      SameGoods old row ∧ row.effectiveFrom = old.effectiveFrom ∧
      (old.active = false → row.active = false) := by
  cases current with
  | none => exact ⟨old, found, ⟨rfl, rfl⟩, rfl, fun inactive => inactive⟩
  | some key =>
      by_cases same : id = key
      · subst same
        exact ⟨_, Table.find?_modify_self _ found, ⟨rfl, rfl⟩, rfl, fun _ => rfl⟩
      · refine ⟨old, ?_, ⟨rfl, rfl⟩, rfl, fun inactive => inactive⟩
        rw [retiredPrices, Table.find?_modify_ne _ _ same, found]

/-- Every earlier agreement on the goods of a new one ends before it starts. -/
theorem Timeline.ended_before (timeline : Timeline prices)
    (current : Current prices supplierId sku active)
    (later : ∀ r, active = some r → r.2.effectiveFrom < effectiveFrom)
    (precedes : previousDay effectiveFrom = some before) {id : Nat} {row : CorePriceAgreement}
    (found : (retiredPrices prices (active.map (·.1)) effectiveFrom).find? id = some row)
    (same : SameGoods row (agreementOf supplierId sku price effectiveFrom)) :
    row.effectiveFrom < effectiveFrom ∧
      ∃ last, row.effectiveTo = some last ∧ last < effectiveFrom := by
  obtain ⟨old, foundOld, goods, starts, shape⟩ := retired_backward current precedes found
  have sameSupplier : old.supplierId = supplierId := goods.1.trans same.1
  have sameSku : old.sku = sku := goods.2.trans same.2
  cases active with
  | none => exact absurd ⟨sameSupplier, sameSku⟩ (timeline.none_agreed current foundOld)
  | some r =>
      have bound := timeline.current_last current foundOld sameSupplier sameSku
      rcases Nat.lt_or_eq_of_le bound with earlier | equal
      · obtain ⟨sooner, last, ended, sooner'⟩ := timeline.ordered id r.1 old r.2 foundOld current.1
          ⟨sameSupplier.trans current.2.1.symm, sameSku.trans current.2.2.1.symm⟩ earlier
        have after := later r rfl
        refine ⟨by rw [starts]; exact String.lt_trans sooner after, last, ?_,
          String.lt_trans sooner' after⟩
        rcases shape with rfl | ⟨here, -, -⟩
        · exact ended
        · cases here
          omega
      · subst equal
        obtain rfl : old = r.2 := Option.some.inj (foundOld.symm.trans current.1)
        refine ⟨by rw [starts]; exact later r rfl, before, ?_, previousDay_lt precedes⟩
        rw [Option.map_some, retiredPrices, Table.find?_modify_self _ current.1] at found
        rw [← Option.some.inj found]
        exact precedes

/-- An agreement that starts after the active one, which ends the day before,
continues the timeline. -/
theorem Timeline.replace (timeline : Timeline prices)
    (current : Current prices supplierId sku active)
    (later : ∀ r, active = some r → r.2.effectiveFrom < effectiveFrom)
    (valid : (Calendar.parse effectiveFrom).isSome = true) :
    Timeline ((retiredPrices prices (active.map (·.1)) effectiveFrom).insert
      (agreementOf supplierId sku price effectiveFrom)) := by
  obtain ⟨before, precedes⟩ := previousDay_isSome valid
  refine ⟨?_, ?_, ?_, ?_⟩
  · intro id row found
    rcases Table.find?_insert_cases found with ⟨-, rfl⟩ | old
    · exact valid
    · obtain ⟨earlier, foundEarlier, -, starts, -⟩ := retired_backward current precedes old
      rw [starts]
      exact timeline.dated id earlier foundEarlier
  · intro id row found
    rcases Table.find?_insert_cases found with ⟨-, rfl⟩ | old
    · simp [agreementOf]
    · obtain ⟨earlier, foundEarlier, -, -, rfl | ⟨-, inactive, ended⟩⟩ := retired_backward current precedes old
      · exact timeline.current id row foundEarlier
      · simp [inactive, ended]
  · intro i j a b foundA foundB same lower
    rcases Table.find?_insert_cases foundB with ⟨rfl, rfl⟩ | oldB
    · rcases Table.find?_insert_cases foundA with ⟨rfl, -⟩ | oldA
      · omega
      · exact timeline.ended_before current later precedes oldA same
    · rcases Table.find?_insert_cases foundA with ⟨rfl, -⟩ | oldA
      · have bound := Table.find?_lt_nextId oldB
        omega
      · obtain ⟨earlierA, fromA, goodsA, startsA, shape⟩ := retired_backward current precedes oldA
        obtain ⟨earlierB, fromB, goodsB, startsB, -⟩ := retired_backward current precedes oldB
        have goods : SameGoods earlierA earlierB :=
          ⟨goodsA.1.trans (same.1.trans goodsB.1.symm), goodsA.2.trans (same.2.trans goodsB.2.symm)⟩
        obtain ⟨sooner, last, ended, sooner'⟩ :=
          timeline.ordered i j earlierA earlierB fromA fromB goods lower
        rw [startsA, startsB]
        refine ⟨sooner, ?_⟩
        rcases shape with rfl | ⟨rfl, -, -⟩
        · exact ⟨last, ended, sooner'⟩
        · have bound := timeline.current_last current fromB (goods.1.symm.trans current.2.1)
            (goods.2.symm.trans current.2.2.1)
          omega
  · intro i a last found ended
    rcases Table.find?_insert_cases found with ⟨-, rfl⟩ | old
    · cases ended
    · obtain ⟨earlier, fromA, goods, -, rfl | ⟨here, -, closed⟩⟩ := retired_backward current precedes old
      · obtain ⟨j, b, fromB, same, lower, precedesB⟩ := timeline.followed i a last fromA ended
        obtain ⟨row, foundRow, kept, starts, -⟩ := retired_forward fromB
        exact ⟨j, row, Table.find?_insert_of_some foundRow,
          ⟨same.1.trans kept.1, same.2.trans kept.2⟩, lower, by rw [starts]; exact precedesB⟩
      · subst here
        rw [closed] at ended
        cases ended
        refine ⟨_, _, Table.find?_insert_nextId _ _, ⟨?_, ?_⟩, Table.find?_lt_nextId old, precedes⟩
        · exact goods.1.symm.trans current.2.1
        · exact goods.2.symm.trans current.2.2.1

end SupplyChain.Suppliers
