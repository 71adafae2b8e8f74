import SupplyChain.Suppliers.Soundness

/-!
What a reader of the ranking cannot learn. Two inputs are alike for a scope when
they differ only in who the hidden suppliers are and in what is written about
them; the response is then the same.
-/

namespace SupplyChain.Suppliers

/-! ## Alike inputs -/

/-- No id is renamed to two, and no two to one. -/
def OneToOne (renamed : Nat → Nat → Prop) : Prop :=
  ∀ {a a' b b'}, renamed a a' → renamed b b' → (a = b ↔ a' = b')

/-- The same supplier, or two hidden ones that differ in id, code and name. -/
structure AlikeSupplier (scope : DataScope) (renamed : Nat → Nat → Prop)
    (supplier other : PerformanceSupplierRow) : Prop where
  id : renamed supplier.id other.id
  tier : supplier.tier = other.tier
  managed : supplier.managedByFactoryId = other.managedByFactoryId
  shown : supplier = other ∨ reveal scope supplier = false ∧ reveal scope other = false

def HiddenId (scope : DataScope) (supplierRows : List PerformanceSupplierRow) (id : Nat) : Prop :=
  ∀ supplier ∈ supplierRows, supplier.id = id → reveal scope supplier = false

/-- The same review, up to the words about a hidden supplier. -/
structure AlikeReview (scope : DataScope) (renamed : Nat → Nat → Prop)
    (supplierRows : List PerformanceSupplierRow) (review other : PerformanceReviewRow) : Prop where
  supplier : renamed review.supplierId other.supplierId
  reviewType : review.reviewType = other.reviewType
  score : review.score = other.score
  words : review.comment = other.comment ∧ review.tags = other.tags ∨
    HiddenId scope supplierRows review.supplierId

structure AlikeDelivery (renamed : Nat → Nat → Prop) (delivery other : PerformanceDeliveryRow) :
    Prop where
  planned : delivery.plannedShipAt = other.plannedShipAt
  shipped : delivery.shippedAt = other.shippedAt
  supplier : Option.Rel renamed delivery.supplierId other.supplierId

/-- The rows of two inputs, in the same order, are alike for a scope. -/
structure Alike (scope : DataScope) (renamed : Nat → Nat → Prop)
    (supplierRows supplierRows' : List PerformanceSupplierRow)
    (reviewRows reviewRows' : List PerformanceReviewRow)
    (deliveryRows deliveryRows' : List PerformanceDeliveryRow) : Prop where
  consistent : OneToOne renamed
  suppliers : List.Forall₂ (AlikeSupplier scope renamed) supplierRows supplierRows'
  reviews : List.Forall₂ (AlikeReview scope renamed supplierRows) reviewRows reviewRows'
  deliveries : List.Forall₂ (AlikeDelivery renamed) deliveryRows deliveryRows'

variable {scope : DataScope} {renamed : Nat → Nat → Prop} {dates : Dates} {quarter : Quarter}
  {today : String} {supplierRows supplierRows' : List PerformanceSupplierRow}
  {reviewRows reviewRows' : List PerformanceReviewRow}
  {deliveryRows deliveryRows' : List PerformanceDeliveryRow}
  {weightRows : List (Tier × SupplierPerformanceWeights)}

/-! ## Deliveries -/

/-- Statistics that agree up to the renaming. -/
def AlikeStats (renamed : Nat → Nat → Prop) (stats other : DeliveryBySupplier) : Prop :=
  ∀ {a a'}, renamed a a' → stats a = other a'

/-- What a row counts for, up to the renaming. -/
def AlikeCount (renamed : Nat → Nat → Prop) : Option (Nat × Bool) → Option (Nat × Bool) → Prop :=
  Option.Rel fun count other => renamed count.1 other.1 ∧ count.2 = other.2

theorem AlikeStats.count {stats other : DeliveryBySupplier} {evaluated evaluated' : Option (Nat × Bool)}
    (consistent : OneToOne renamed) (alike : AlikeStats renamed stats other)
    (counts : AlikeCount renamed evaluated evaluated') :
    AlikeStats renamed (countDelivery stats evaluated) (countDelivery other evaluated') := by
  cases counts with
  | none => exact alike
  | @some count count' same =>
      obtain ⟨supplier, onTime⟩ := count
      obtain ⟨supplier', onTime'⟩ := count'
      obtain ⟨renamedSupplier, equal⟩ := same
      dsimp only at renamedSupplier equal
      subst equal
      intro a a' renamedId
      simp only [countDelivery]
      by_cases here : a = supplier
      · have here' := (consistent renamedId renamedSupplier).mp here
        subst here here'
        rw [Function.update_self, Function.update_self, alike renamedId]
      · have apart : a' ≠ supplier' := fun equal =>
          here ((consistent renamedId renamedSupplier).mpr equal)
        rw [Function.update_of_ne here, Function.update_of_ne apart]
        exact alike renamedId

theorem AlikeDelivery.evaluate {delivery other : PerformanceDeliveryRow}
    (alike : AlikeDelivery renamed delivery other) :
    (∃ error, evaluateDelivery dates quarter today delivery = .error error ∧
        evaluateDelivery dates quarter today other = .error error) ∨
      ∃ evaluated evaluated', evaluateDelivery dates quarter today delivery = .ok evaluated ∧
        evaluateDelivery dates quarter today other = .ok evaluated' ∧
          AlikeCount renamed evaluated evaluated' := by
  obtain ⟨planned, shipped, supplier⟩ := alike
  obtain ⟨plannedShipAt, shippedAt, supplierId⟩ := delivery
  obtain ⟨plannedShipAt', shippedAt', supplierId'⟩ := other
  dsimp only at planned shipped supplier
  subst planned shipped
  cases supplier with
  | none => exact .inr ⟨none, none, rfl, rfl, .none⟩
  | some renamedSupplier =>
      simp only [evaluateDelivery]
      cases plannedDateOf dates plannedShipAt with
      | error error => exact .inl ⟨error, rfl, rfl⟩
      | ok plannedDate =>
          by_cases elsewhere : quarterFromDate plannedDate ≠ quarter.text
          · simp only [bind, Except.bind, if_pos elsewhere]
            exact .inr ⟨none, none, rfl, rfl, .none⟩
          · simp only [bind, Except.bind, if_neg elsewhere]
            cases shippedDateOf dates shippedAt with
            | error error => exact .inl ⟨error, rfl, rfl⟩
            | ok shippedDate =>
                by_cases early : shippedDate = none ∧ today ≤ plannedDate.shown
                · simp only [if_pos early]
                  exact .inr ⟨none, none, rfl, rfl, .none⟩
                · simp only [if_neg early]
                  exact .inr ⟨_, _, rfl, rfl, .some ⟨renamedSupplier, rfl⟩⟩

theorem deliveryBySupplier_alike (consistent : OneToOne renamed)
    (rows : List.Forall₂ (AlikeDelivery renamed) deliveryRows deliveryRows')
    {stats other : DeliveryBySupplier} (alike : AlikeStats renamed stats other) :
    (∃ error, deliveryBySupplier dates quarter today deliveryRows stats = .error error ∧
        deliveryBySupplier dates quarter today deliveryRows' other = .error error) ∨
      ∃ result result', deliveryBySupplier dates quarter today deliveryRows stats = .ok result ∧
        deliveryBySupplier dates quarter today deliveryRows' other = .ok result' ∧
          AlikeStats renamed result result' := by
  induction rows generalizing stats other with
  | nil => exact .inr ⟨stats, other, rfl, rfl, alike⟩
  | cons row _ ih =>
      simp only [deliveryBySupplier]
      rcases @AlikeDelivery.evaluate renamed dates quarter today _ _ row with
        ⟨error, first, second⟩ | ⟨evaluated, evaluated', first, second, counts⟩
      · rw [first, second]
        exact .inl ⟨error, rfl, rfl⟩
      · rw [first, second]
        exact ih (alike.count consistent counts)

/-! ## Reviews -/

theorem ownReviews_alike (consistent : OneToOne renamed)
    (rows : List.Forall₂ (AlikeReview scope renamed supplierRows) reviewRows reviewRows')
    {id id' : Nat} (renamedId : renamed id id') :
    List.Forall₂ (fun review other => AlikeReview scope renamed supplierRows review other ∧
      review.supplierId = id) (ownReviews reviewRows id) (ownReviews reviewRows' id') := by
  induction rows with
  | nil => exact .nil
  | @cons review other _ _ row _ ih =>
      by_cases own : review.supplierId = id
      · have own' := (consistent row.supplier renamedId).mp own
        simp only [ownReviews, List.filter_cons, own, own', beq_self_eq_true, if_true]
        exact .cons ⟨row, own⟩ ih
      · have foreign : other.supplierId ≠ id' := fun equal =>
          own ((consistent row.supplier renamedId).mpr equal)
        simp only [ownReviews, List.filter_cons, own, foreign, beq_iff_eq, if_false]
        exact ih

section

variable {own own' : List PerformanceReviewRow} {id : Nat}

theorem scoresOf_alike (reviewType : SupplierReviewType)
    (rows : List.Forall₂ (fun review other => AlikeReview scope renamed supplierRows review other ∧
      review.supplierId = id) own own') : scoresOf reviewType own = scoresOf reviewType own' := by
  induction rows with
  | nil => rfl
  | @cons review other _ _ row _ ih =>
      simp only [scoresOf, List.filter_cons, row.1.reviewType] at ih ⊢
      split
      · rw [List.map_cons, List.map_cons, row.1.score, ih]
      · exact ih

theorem commentsOf_alike (shown : ¬ HiddenId scope supplierRows id)
    (rows : List.Forall₂ (fun review other => AlikeReview scope renamed supplierRows review other ∧
      review.supplierId = id) own own') : commentsOf own = commentsOf own' := by
  induction rows with
  | nil => rfl
  | @cons review other _ _ row _ ih =>
      obtain ⟨⟨-, reviewType, -, words⟩, owned⟩ := row
      rcases words with ⟨comment, tags⟩ | hidden
      · simp only [commentsOf, List.filter_cons, comment] at ih ⊢
        split
        · rw [List.map_cons, List.map_cons, ih, reviewType, comment, tags]
        · exact ih
      · rw [owned] at hidden
        exact absurd hidden shown

end

/-! ## The response -/

theorem performanceOf_alike (alike : Alike scope renamed supplierRows supplierRows' reviewRows
      reviewRows' deliveryRows deliveryRows')
    {stats other : DeliveryBySupplier} (deliveries : AlikeStats renamed stats other)
    {supplier supplier' : PerformanceSupplierRow} (listed : supplier ∈ supplierRows)
    (row : AlikeSupplier scope renamed supplier supplier') :
    performanceOf scope reviewRows weightRows stats supplier =
      performanceOf scope reviewRows' weightRows other supplier' := by
  have own := ownReviews_alike alike.consistent alike.reviews row.id
  have satisfaction := scoresOf_alike .satisfaction own
  have sampling := scoresOf_alike .sampling own
  have metrics : metricsOf supplier.tier (ownReviews reviewRows supplier.id) (stats supplier.id) =
      metricsOf supplier'.tier (ownReviews reviewRows' supplier'.id) (other supplier'.id) := by
    rw [metricsOf, metricsOf, satisfaction, sampling, row.tier, deliveries row.id]
  unfold performanceOf
  dsimp only
  rw [metrics, satisfaction, sampling, deliveries row.id, row.tier]
  rcases row.shown with same | ⟨hidden, hidden'⟩
  · cases shown : reveal scope supplier with
    | false =>
        rw [← same, shown]
        simp only [Bool.false_eq_true, if_false]
    | true =>
        have seen : ¬ HiddenId scope supplierRows supplier.id := by
          intro hidden
          rw [hidden supplier listed rfl] at shown
          cases shown
        rw [commentsOf_alike seen own, ← same, shown]
  · rw [hidden, hidden']
    simp only [Bool.false_eq_true, if_false]

/-- Who the hidden suppliers are, and what is written about them, leaves no trace
in the response. -/
theorem performanceResponse_anonymous {dates : Dates} {roles : List Role} {scope : DataScope}
    {quarter : Quarter} {supplierRows supplierRows' : List PerformanceSupplierRow}
    {reviewRows reviewRows' : List PerformanceReviewRow}
    {weightRows : List (Tier × SupplierPerformanceWeights)}
    {deliveryRows deliveryRows' : List PerformanceDeliveryRow} {today : String}
    {renamed : Nat → Nat → Prop}
    (alike : Alike scope renamed supplierRows supplierRows' reviewRows reviewRows' deliveryRows
      deliveryRows') :
    performanceResponse dates roles scope quarter supplierRows reviewRows weightRows deliveryRows
        today =
      performanceResponse dates roles scope quarter supplierRows' reviewRows' weightRows
        deliveryRows' today := by
  have start : AlikeStats renamed (fun _ => none) fun _ => none := fun _ => rfl
  rcases @deliveryBySupplier_alike renamed dates quarter today _ _ alike.consistent
      alike.deliveries _ _ start with
    ⟨error, first, second⟩ | ⟨stats, other, first, second, deliveries⟩
  · rw [performanceResponse, performanceResponse, first, second]
    simp only [bind, Except.bind]
  · have entries : supplierRows.map (performanceOf scope reviewRows weightRows stats) =
        supplierRows'.map (performanceOf scope reviewRows' weightRows other) := by
      rw [← List.forall₂_eq_eq_eq, List.forall₂_map_left_iff, List.forall₂_map_right_iff]
      have listed := (List.forall₂_and_left supplierRows supplierRows').mpr
        ⟨fun supplier member => member, alike.suppliers⟩
      refine listed.imp ?_
      rintro supplier other ⟨member, row⟩
      exact performanceOf_alike alike deliveries member row
    rw [performanceResponse, performanceResponse, first, second]
    simp only [bind, Except.bind, entries]

/-! ## Two suppliers -/

/-- The supplier of the reader, and another under some id and name. -/
def rivals (id : Nat) (name : String) : List PerformanceSupplierRow :=
  [⟨1, "S1", none, "Own", .two⟩, ⟨id, name, none, name, .two⟩]

theorem fourStars : 1 ≤ 4 ∧ 4 ≤ 5 := by decide

def rivalReview (id : Nat) (comment : String) : PerformanceReviewRow :=
  ⟨comment, .sampling, 4, id, [comment], fourStars⟩

def rivalDelivery (id : Nat) : PerformanceDeliveryRow :=
  ⟨"2026-01-05T08:00:00Z", some "2026-01-05T09:00:00Z", some id⟩

/-- The second supplier gets another id, and the first keeps its own. -/
def rivalRenamed (id id' a a' : Nat) : Prop := a = 1 ∧ a' = 1 ∨ a = id ∧ a' = id'

theorem rivals_alike : Alike (.supplier 1) (rivalRenamed 2 9) (rivals 2 "B") (rivals 9 "Z")
    [rivalReview 2 "late"] [rivalReview 9 "fine"] [rivalDelivery 2] [rivalDelivery 9] where
  consistent := by
    intro a a' b b' first second
    unfold rivalRenamed at first second
    omega
  suppliers := .cons ⟨.inl ⟨rfl, rfl⟩, rfl, rfl, .inl rfl⟩
    (.cons ⟨.inr ⟨rfl, rfl⟩, rfl, rfl, .inr ⟨rfl, rfl⟩⟩ .nil)
  reviews := by
    refine .cons ⟨.inr ⟨rfl, rfl⟩, rfl, rfl, .inr ?_⟩ .nil
    intro supplier listed named
    simp only [rivals, List.mem_cons, List.not_mem_nil, or_false] at listed
    rcases listed with rfl | rfl
    · cases named
    · rfl
  deliveries := .cons ⟨rfl, rfl, .some (.inr ⟨rfl, rfl⟩)⟩ .nil

theorem rivals_anonymous :
    performanceResponse eastern [] (.supplier 1) openingQuarter (rivals 2 "B")
        [rivalReview 2 "late"] [] [rivalDelivery 2] "2026-02-01" =
      performanceResponse eastern [] (.supplier 1) openingQuarter (rivals 9 "Z")
        [rivalReview 9 "fine"] [] [rivalDelivery 9] "2026-02-01" :=
  performanceResponse_anonymous rivals_alike

end SupplyChain.Suppliers
