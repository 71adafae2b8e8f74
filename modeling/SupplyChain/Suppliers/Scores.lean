import SupplyChain.Rounding
import SupplyChain.Suppliers.Closure
import SupplyChain.Suppliers.Performance

/-!
The performance of the suppliers in a quarter: the metrics and the score of each,
the ranking, and what of it a reader of some scope is shown. Numbers are exact.
-/

namespace SupplyChain.Suppliers

/-! ## Rows -/

inductive Tier
  | one | two | three
  deriving DecidableEq

def Tier.number : Tier → Nat
  | .one => 1
  | .two => 2
  | .three => 3

/-- `integer(row.tier, { maximum: 3 })` -/
def tierOf (value : Int) : Except PerformanceError Tier :=
  if value = 1 then .ok .one
  else if value = 2 then .ok .two
  else if value = 3 then .ok .three
  else .error .invalidData

structure PerformanceSupplierRow where
  id : Nat
  code : String
  managedByFactoryId : Option Nat
  name : String
  tier : Tier
  deriving DecidableEq

inductive SupplierReviewType
  | satisfaction | sampling
  deriving DecidableEq

structure PerformanceReviewRow where
  comment : String
  reviewType : SupplierReviewType
  score : Nat
  supplierId : Nat
  tags : List String
  scored : 1 ≤ score ∧ score ≤ 5
  deriving DecidableEq

inductive SupplierMetricKey
  | delivery | quality | exception | preparation | satisfaction | sampling
  deriving DecidableEq

def metricKeys : List SupplierMetricKey :=
  [.delivery, .quality, .exception, .preparation, .satisfaction, .sampling]

structure SupplierPerformanceWeights where
  delivery : Nat
  quality : Nat
  exception : Nat
  preparation : Nat
  satisfaction : Nat
  sampling : Nat
  deriving DecidableEq

def SupplierPerformanceWeights.of (weights : SupplierPerformanceWeights) : SupplierMetricKey → Nat
  | .delivery => weights.delivery
  | .quality => weights.quality
  | .exception => weights.exception
  | .preparation => weights.preparation
  | .satisfaction => weights.satisfaction
  | .sampling => weights.sampling

/-- `DEFAULT_WEIGHTS` -/
def defaultWeights : Tier → SupplierPerformanceWeights
  | .one => ⟨2500, 2000, 1500, 1000, 1500, 1500⟩
  | .two => ⟨3000, 2500, 1500, 1500, 0, 1500⟩
  | .three => ⟨3000, 2500, 2000, 1000, 0, 1500⟩

/-! ## Weight versions -/

/-- A row of `supplier_performance_weight_versions`. -/
structure WeightVersion where
  id : Nat
  tier : Int
  active : Bool
  effectiveFrom : String
  deliveryWeightBps : Int
  qualityWeightBps : Int
  exceptionWeightBps : Int
  preparationWeightBps : Int
  satisfactionWeightBps : Int
  samplingWeightBps : Int
  deriving DecidableEq

/-- `integer(value, { allowZero: true })` -/
def weightOf (value : Int) : Except PerformanceError Nat :=
  if 0 ≤ value then .ok value.toNat else .error .invalidData

def performanceWeights (row : WeightVersion) :
    Except PerformanceError (Tier × SupplierPerformanceWeights) := do
  let tier ← tierOf row.tier
  let delivery ← weightOf row.deliveryWeightBps
  let quality ← weightOf row.qualityWeightBps
  let exception ← weightOf row.exceptionWeightBps
  let preparation ← weightOf row.preparationWeightBps
  let satisfaction ← weightOf row.satisfactionWeightBps
  let sampling ← weightOf row.samplingWeightBps
  if delivery + quality + exception + preparation + satisfaction + sampling ≠ 10000 ∨
      tier ≠ .one ∧ satisfaction ≠ 0 then
    throw .invalidData
  else return (tier, ⟨delivery, quality, exception, preparation, satisfaction, sampling⟩)

def weightLimit : Nat := 100

/-- `status = 'active' AND effective_from <= ?` -/
def inForce (today : String) (version : WeightVersion) : Bool :=
  version.active && decide (version.effectiveFrom ≤ today)

/-- `ORDER BY effective_from DESC, id DESC` -/
def newerWeights (a b : WeightVersion) : Bool :=
  decide (b.effectiveFrom < a.effectiveFrom ∨ a.effectiveFrom = b.effectiveFrom ∧ b.id ≤ a.id)

/-- The newest versions in force, up to the limit of the read. -/
def newestWeights (versions : List WeightVersion) (today : String) : List WeightVersion :=
  ((versions.filter (inForce today)).mergeSort newerWeights).take weightLimit

def readWeights (versions : List WeightVersion) (today : String) :
    Except PerformanceError (List (Tier × SupplierPerformanceWeights)) :=
  (newestWeights versions today).mapM performanceWeights

abbrev SelectedWeights := Tier → Option SupplierPerformanceWeights

/-- The loop over the weight rows: the first row of a tier counts. -/
def selectWeights : List (Tier × SupplierPerformanceWeights) → SelectedWeights → SelectedWeights
  | [], selected => selected
  | row :: rest, selected =>
      selectWeights rest
        (if (selected row.1).isSome then selected else Function.update selected row.1 (some row.2))

/-- `selectedWeights.get(tier) ?? DEFAULT_WEIGHTS[tier]` -/
def weightsFor (weightRows : List (Tier × SupplierPerformanceWeights)) (tier : Tier) :
    SupplierPerformanceWeights :=
  (selectWeights weightRows (fun _ => none) tier).getD (defaultWeights tier)

/-! ## Metrics and scores -/

structure SupplierMetrics where
  delivery : Option Rat
  quality : Option Rat
  exception : Option Rat
  preparation : Option Rat
  satisfaction : Option Rat
  sampling : Option Rat
  deriving DecidableEq

def SupplierMetrics.of (metrics : SupplierMetrics) : SupplierMetricKey → Option Rat
  | .delivery => metrics.delivery
  | .quality => metrics.quality
  | .exception => metrics.exception
  | .preparation => metrics.preparation
  | .satisfaction => metrics.satisfaction
  | .sampling => metrics.sampling

def average (values : List Nat) : Option Rat :=
  if 0 < values.length then
    some (round ((values.sum : Rat) / (values.length : Rat) * 20 * 10) / 10)
  else none

/-- The scores of one kind of review. -/
def scoresOf (reviewType : SupplierReviewType) (own : List PerformanceReviewRow) : List Nat :=
  (own.filter fun row => row.reviewType == reviewType).map (·.score)

def deliveryMetric (stats : Option DeliveryStats) : Option Rat :=
  match stats with
  | some stats =>
      if 0 < stats.total then
        some (round ((stats.onTime : Rat) / (stats.total : Rat) * 1000) / 10)
      else none
  | none => none

def metricsOf (tier : Tier) (own : List PerformanceReviewRow) (stats : Option DeliveryStats) :
    SupplierMetrics where
  delivery := deliveryMetric stats
  quality := none
  exception := none
  preparation := none
  satisfaction := if tier = .one then average (scoresOf .satisfaction own) else none
  sampling := average (scoresOf .sampling own)

/-- The metrics that count: those that are there and weigh something. -/
def available (metrics : SupplierMetrics) (weights : SupplierPerformanceWeights) :
    List SupplierMetricKey :=
  metricKeys.filter fun key => (metrics.of key).isSome && decide (0 < weights.of key)

def scoreOf (metrics : SupplierMetrics) (weights : SupplierPerformanceWeights) : Option Rat :=
  let denominator := Rounding.total weights.of (available metrics weights)
  if 0 < denominator then
    some (round (Rounding.weighted (fun key => (metrics.of key).getD 0) weights.of
      (available metrics weights) / (denominator : Rat) * 10) / 10)
  else none

/-! ## What is shown -/

def reveal (scope : DataScope) (supplier : PerformanceSupplierRow) : Bool :=
  match scope with
  | .internal => true
  | .factory factoryId => supplier.managedByFactoryId == some factoryId
  | .supplier supplierId => supplierId == supplier.id
  | .factorySupplier factoryId supplierId =>
      supplierId == supplier.id || supplier.managedByFactoryId == some factoryId

structure SupplierPerformanceComment where
  type : SupplierReviewType
  comment : String
  tags : List String
  deriving DecidableEq

structure ReviewCounts where
  satisfaction : Nat
  sampling : Nat
  deriving DecidableEq

/-- An entry before it is ranked. -/
structure SupplierPerformance where
  supplierId : Option Nat
  supplierCode : Option String
  supplierName : Option String
  tier : Tier
  score : Option Rat
  metrics : SupplierMetrics
  evaluatedBatches : Nat
  onTimeBatches : Nat
  reviewCounts : ReviewCounts
  comments : List SupplierPerformanceComment
  reveal : Bool
  deriving DecidableEq

structure SupplierPerformanceRanking extends SupplierPerformance where
  rank : Nat
  displayName : String
  deriving DecidableEq

def ownReviews (reviewRows : List PerformanceReviewRow) (supplierId : Nat) :
    List PerformanceReviewRow :=
  reviewRows.filter fun row => row.supplierId == supplierId

def commentsOf (own : List PerformanceReviewRow) : List SupplierPerformanceComment :=
  (own.filter fun row => decide (trim row.comment ≠ "")).map fun row =>
    ⟨row.reviewType, row.comment, row.tags⟩

/-- The entry of a supplier. -/
def performanceOf (scope : DataScope) (reviewRows : List PerformanceReviewRow)
    (weightRows : List (Tier × SupplierPerformanceWeights)) (deliveries : DeliveryBySupplier)
    (supplier : PerformanceSupplierRow) : SupplierPerformance :=
  let own := ownReviews reviewRows supplier.id
  let metrics := metricsOf supplier.tier own (deliveries supplier.id)
  let shown := reveal scope supplier
  { supplierId := if shown then some supplier.id else none
    supplierCode := if shown then some supplier.code else none
    supplierName := if shown then some supplier.name else none
    tier := supplier.tier
    score := scoreOf metrics (weightsFor weightRows supplier.tier)
    metrics := metrics
    evaluatedBatches := ((deliveries supplier.id).map (·.total)).getD 0
    onTimeBatches := ((deliveries supplier.id).map (·.onTime)).getD 0
    reviewCounts :=
      { satisfaction := (scoresOf .satisfaction own).length
        sampling := (scoresOf .sampling own).length }
    comments := if shown then commentsOf own else []
    reveal := shown }

/-- The comparison of the sort: a missing score counts as -1. -/
def rankedBefore (left right : SupplierPerformance) : Bool :=
  decide (right.score.getD (-1) ≤ left.score.getD (-1))

def rankingAt (index : Nat) (row : SupplierPerformance) : SupplierPerformanceRanking where
  toSupplierPerformance := row
  rank := index + 1
  displayName :=
    match row.reveal, row.supplierName with
    | true, some name => name
    | _, _ => "第" ++ toString (index + 1) ++ "名企业"

def rankingsOf (raw : List SupplierPerformance) : List SupplierPerformanceRanking :=
  (raw.mergeSort rankedBefore).mapIdx rankingAt

structure SupplierPerformanceResponse where
  quarter : Quarter
  rankings : List SupplierPerformanceRanking
  weights : List (Tier × SupplierPerformanceWeights)
  canConfigure : Bool
  canReview : Bool
  automaticMetricsPending : Bool
  deriving DecidableEq

def performanceConfigurationRoles : List Role := [.admin, .supplyChain]

def performanceReviewRoles : List Role := [.admin, .supplyChain, .companyQc]

def performanceResponse (dates : Dates) (roles : List Role) (scope : DataScope) (quarter : Quarter)
    (supplierRows : List PerformanceSupplierRow) (reviewRows : List PerformanceReviewRow)
    (weightRows : List (Tier × SupplierPerformanceWeights))
    (deliveryRows : List PerformanceDeliveryRow) (today : String) :
    Except PerformanceError SupplierPerformanceResponse := do
  let deliveries ← deliveryBySupplier dates quarter today deliveryRows fun _ => none
  return {
    quarter := quarter
    rankings := rankingsOf
      (supplierRows.map (performanceOf scope reviewRows weightRows deliveries))
    weights := [Tier.one, .two, .three].map fun tier => (tier, weightsFor weightRows tier)
    canConfigure := roles.any fun role => performanceConfigurationRoles.contains role
    canReview := roles.any fun role => performanceReviewRoles.contains role
    automaticMetricsPending := true }

end SupplyChain.Suppliers
