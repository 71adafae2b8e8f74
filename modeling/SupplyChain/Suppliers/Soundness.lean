import SupplyChain.Suppliers.Punctuality
import SupplyChain.Suppliers.Scores
import Mathlib.Data.String.Basic

/-!
What the scores and the ranking promise: the metrics are percentages, a score is
between the metrics it is taken of, the ranking orders all suppliers by their
scores, and the order in which reviews and deliveries are read shows in the
comments only.
-/

namespace SupplyChain.Suppliers

open Rounding

variable {dates : Dates} {quarter : Quarter} {today : String} {scope : DataScope}
  {metrics : SupplierMetrics} {weights : SupplierPerformanceWeights}
  {reviewRows reviewRows' : List PerformanceReviewRow}
  {weightRows : List (Tier × SupplierPerformanceWeights)}

/-! ## Metrics -/

/-- A percentage with one decimal. -/
structure Percentage (value : ℚ) : Prop where
  low : 0 ≤ value
  high : value ≤ 100
  tenths : Tenths value

theorem tenths_intCast (n : ℤ) : Tenths n := ⟨n * 10, by push_cast; ring⟩

theorem percentage_round {x : ℚ} (low : 0 ≤ x) (high : x ≤ 100) :
    Percentage (round (x * 10) / 10) := by
  have zero : Tenths 0 := tenths_intCast 0
  have hundred : Tenths 100 := tenths_intCast 100
  exact ⟨zero.le_round low, hundred.round_le high, tenths_round _⟩

theorem sum_le_five {values : List Nat} (scored : ∀ value ∈ values, value ≤ 5) :
    values.sum ≤ values.length * 5 := by
  induction values with
  | nil => rfl
  | cons value rest ih =>
      have first := scored value List.mem_cons_self
      have others := ih fun other member => scored other (List.mem_cons_of_mem _ member)
      rw [List.sum_cons, List.length_cons]
      omega

theorem average_percentage {values : List Nat} (scored : ∀ value ∈ values, value ≤ 5)
    {value : ℚ} (averaged : average values = some value) : Percentage value := by
  unfold average at averaged
  split at averaged
  · rename_i counted
    cases averaged
    have positive : (0 : ℚ) < values.length := by exact_mod_cast counted
    have bound : (values.sum : ℚ) ≤ values.length * 5 := by exact_mod_cast sum_le_five scored
    refine percentage_round (by positivity) ?_
    have mean : (values.sum : ℚ) / values.length ≤ 5 := by
      rw [div_le_iff₀ positive]
      linarith
    linarith
  · cases averaged

theorem scoresOf_le {reviewType : SupplierReviewType} {own : List PerformanceReviewRow} :
    ∀ value ∈ scoresOf reviewType own, value ≤ 5 := by
  intro value member
  obtain ⟨review, -, rfl⟩ := List.mem_map.mp member
  exact review.scored.2

theorem deliveryMetric_percentage {stats : Option DeliveryStats}
    (counted : (stats.getD ⟨0, 0⟩).onTime ≤ (stats.getD ⟨0, 0⟩).total) {value : ℚ}
    (measured : deliveryMetric stats = some value) : Percentage value := by
  unfold deliveryMetric at measured
  split at measured
  · rename_i stats
    split at measured
    · rename_i some
      cases measured
      have positive : (0 : ℚ) < stats.total := by exact_mod_cast some
      have bound : (stats.onTime : ℚ) ≤ stats.total := by exact_mod_cast counted
      have scaled : (stats.onTime : ℚ) / stats.total * 1000 = stats.onTime / stats.total * 100 * 10 := by
        ring
      rw [scaled]
      refine percentage_round (by positivity) ?_
      have rate : (stats.onTime : ℚ) / stats.total ≤ 1 := by
        rw [div_le_iff₀ positive]
        linarith
      linarith
    · cases measured
  · cases measured

theorem onTime_le {deliveryRows : List PerformanceDeliveryRow} {deliveries : DeliveryBySupplier}
    (read : deliveryBySupplier dates quarter today deliveryRows (fun _ => none) = .ok deliveries)
    (supplierId : Nat) : ((deliveries supplierId).getD ⟨0, 0⟩).onTime ≤
      ((deliveries supplierId).getD ⟨0, 0⟩).total := by
  rw [(deliveryBySupplier_counts read).2 supplierId]
  refine Nat.add_le_add_left (List.countP_mono_left ?_) _
  intro row _ early
  unfold counted at early ⊢
  split
  · rename_i evaluated
    rw [evaluated] at early
    simp only [Bool.and_eq_true] at early ⊢
    exact ⟨early.1, trivial⟩
  · rename_i unread
    split at early
    · rename_i evaluated
      exact absurd evaluated (unread _ _)
    · cases early

theorem metricsOf_percentage {tier : Tier} {own : List PerformanceReviewRow}
    {stats : Option DeliveryStats}
    (counted : (stats.getD ⟨0, 0⟩).onTime ≤ (stats.getD ⟨0, 0⟩).total) {key : SupplierMetricKey}
    {value : ℚ} (measured : (metricsOf tier own stats).of key = some value) : Percentage value := by
  cases key with
  | delivery => exact deliveryMetric_percentage counted measured
  | quality | exception | preparation => cases measured
  | satisfaction =>
      simp only [SupplierMetrics.of, metricsOf] at measured
      split at measured
      · exact average_percentage scoresOf_le measured
      · cases measured
  | sampling => exact average_percentage scoresOf_le measured

/-! ## Scores -/

/-- A metric that is there and weighs something. -/
structure Counts (metrics : SupplierMetrics) (weights : SupplierPerformanceWeights)
    (key : SupplierMetricKey) (value : ℚ) : Prop where
  measured : metrics.of key = some value
  heavy : 0 < weights.of key

/-- The score is missing when nothing counts, and else lies between the metrics
that count. -/
structure ScoredBy (metrics : SupplierMetrics) (weights : SupplierPerformanceWeights)
    (score : Option ℚ) : Prop where
  missing : score = none ↔ ∀ key value, ¬ Counts metrics weights key value
  least : ∀ value ∈ score, ∃ key low, Counts metrics weights key low ∧ low ≤ value
  greatest : ∀ value ∈ score, ∃ key high, Counts metrics weights key high ∧ value ≤ high

theorem mem_metricKeys (key : SupplierMetricKey) : key ∈ metricKeys := by
  cases key <;> decide

theorem mem_available {key : SupplierMetricKey} : key ∈ available metrics weights ↔
    Counts metrics weights key ((metrics.of key).getD 0) := by
  rw [available, List.mem_filter, Bool.and_eq_true, decide_eq_true_eq]
  constructor
  · rintro ⟨-, measured, heavy⟩
    obtain ⟨value, measured⟩ := Option.isSome_iff_exists.mp measured
    exact ⟨by rw [measured]; rfl, heavy⟩
  · rintro ⟨measured, heavy⟩
    exact ⟨mem_metricKeys key, Option.isSome_iff_exists.mpr ⟨_, measured⟩, heavy⟩

theorem counts_available {key : SupplierMetricKey} {value : ℚ}
    (counts : Counts metrics weights key value) : key ∈ available metrics weights := by
  rw [mem_available, counts.measured]
  exact counts

theorem available_heavy : 0 < total weights.of (available metrics weights) ↔
    ∃ key value, Counts metrics weights key value := by
  rw [total_pos_iff]
  constructor
  · rintro ⟨key, member, -⟩
    exact ⟨key, _, mem_available.mp member⟩
  · rintro ⟨key, value, counts⟩
    exact ⟨key, counts_available counts, counts.heavy⟩

theorem scoreOf_scored
    (percentages : ∀ key value, metrics.of key = some value → Percentage value) :
    ScoredBy metrics weights (scoreOf metrics weights) := by
  by_cases heavy : 0 < total weights.of (available metrics weights)
  · have tenths : ∀ key ∈ available metrics weights, Tenths ((metrics.of key).getD 0) :=
      fun key member => (percentages key _ (mem_available.mp member).measured).tenths
    obtain ⟨⟨low, lowIn, least⟩, high, highIn, greatest⟩ := mean_between tenths heavy
    have scored : scoreOf metrics weights = some _ := if_pos heavy
    rw [scored]
    refine ⟨?_, ?_, ?_⟩
    · obtain ⟨key, value, counts⟩ := available_heavy.mp heavy
      constructor
      · intro absent
        cases absent
      · intro nothing
        exact absurd counts (nothing key value)
    · rintro value ⟨⟩
      exact ⟨low, _, mem_available.mp lowIn, least⟩
    · rintro value ⟨⟩
      exact ⟨high, _, mem_available.mp highIn, greatest⟩
  · have unscored : scoreOf metrics weights = none := if_neg heavy
    rw [unscored]
    refine ⟨?_, ?_, ?_⟩
    · constructor
      · intro _ key value counts
        exact heavy (available_heavy.mpr ⟨key, value, counts⟩)
      · intro _
        rfl
    · rintro value ⟨⟩
    · rintro value ⟨⟩

theorem ScoredBy.nonneg {score : Option ℚ} (scored : ScoredBy metrics weights score)
    (percentages : ∀ key value, metrics.of key = some value → Percentage value) {value : ℚ}
    (present : score = some value) : 0 ≤ value := by
  obtain ⟨key, low, counts, below⟩ := scored.least value present
  exact (percentages key low counts.measured).low.trans below

/-! ## The ranking -/

/-- No lower than the other, which may be missing. -/
def NoLower (score other : Option ℚ) : Prop := ∀ value ∈ other, ∃ higher ∈ score, value ≤ higher

/-- The rankings are the entries, sorted, and numbered from 1. -/
structure RankedFrom (entries : List SupplierPerformance)
    (rankings : List SupplierPerformanceRanking) : Prop where
  permutation : (rankings.map (·.toSupplierPerformance)).Perm entries
  sorted : rankings.Pairwise fun earlier later => NoLower earlier.score later.score
  ranks : rankings.map (·.rank) = List.range' 1 entries.length

theorem rankedBefore_trans (a b c : SupplierPerformance) :
    rankedBefore a b = true → rankedBefore b c = true → rankedBefore a c = true := by
  simp only [rankedBefore, decide_eq_true_eq]
  exact fun first second => second.trans first

theorem rankedBefore_total (a b : SupplierPerformance) :
    (rankedBefore a b || rankedBefore b a) = true := by
  simp only [rankedBefore, Bool.or_eq_true, decide_eq_true_eq]
  exact le_total _ _

theorem noLower_of_rankedBefore {left right : SupplierPerformance}
    (nonneg : ∀ value, right.score = some value → 0 ≤ value)
    (before : rankedBefore left right = true) : NoLower left.score right.score := by
  rintro value present
  rw [rankedBefore, decide_eq_true_eq, present, Option.getD_some] at before
  cases scored : left.score with
  | none =>
      rw [scored, Option.getD_none] at before
      have := nonneg value present
      linarith
  | some higher =>
      rw [scored, Option.getD_some] at before
      exact ⟨higher, rfl, before⟩

theorem rankings_entries (sorted : List SupplierPerformance) :
    (sorted.mapIdx rankingAt).map (·.toSupplierPerformance) = sorted := by
  refine List.ext_getElem (by simp) ?_
  intro index _ _
  simp [rankingAt]

theorem rankingsOf_ranked {entries : List SupplierPerformance}
    (nonneg : ∀ entry ∈ entries, ∀ value, entry.score = some value → 0 ≤ value) :
    RankedFrom entries (rankingsOf entries) where
  permutation := by
    rw [rankingsOf, rankings_entries]
    exact List.mergeSort_perm _ _
  sorted := by
    have ordered := List.pairwise_mergeSort rankedBefore_trans rankedBefore_total entries
    have entriesOrdered : (entries.mergeSort rankedBefore).Pairwise fun earlier later =>
        NoLower earlier.score later.score := by
      refine ordered.imp_of_mem ?_
      intro earlier later _ member before
      exact noLower_of_rankedBefore (nonneg later (List.mem_mergeSort.mp member)) before
    rw [← rankings_entries (entries.mergeSort rankedBefore), List.pairwise_map] at entriesOrdered
    exact entriesOrdered
  ranks := by
    refine List.ext_getElem (by simp [rankingsOf]) ?_
    intro index _ _
    simp [rankingsOf, rankingAt, Nat.add_comm]

/-! ## Weights -/

/-- The weights of the latest version of the tier in force, where one is among the
versions read; else the default. -/
def LatestWeights (versions : List WeightVersion) (today : String) (tier : Tier)
    (weights : SupplierPerformanceWeights) : Prop :=
  (∃ version ∈ newestWeights versions today, performanceWeights version = .ok (tier, weights) ∧
    ∀ other ∈ versions, inForce today other = true → other.tier = tier.number →
      newerWeights version other = true) ∨
  (∀ version ∈ newestWeights versions today, version.tier ≠ tier.number) ∧
    weights = defaultWeights tier

theorem selectWeights_eq (rows : List (Tier × SupplierPerformanceWeights))
    (selected : SelectedWeights) (tier : Tier) : selectWeights rows selected tier =
      (selected tier).or ((rows.find? fun row => row.1 == tier).map (·.2)) := by
  induction rows generalizing selected with
  | nil => simp [selectWeights]
  | cons row rest ih =>
      rw [selectWeights, ih, List.find?_cons]
      by_cases taken : (selected row.1).isSome = true
      · rw [if_pos taken]
        by_cases same : row.1 = tier
        · rw [same] at taken
          obtain ⟨weights, held⟩ := Option.isSome_iff_exists.mp taken
          rw [held, Option.some_or, Option.some_or]
        · rw [beq_false_of_ne same]
      · rw [if_neg taken]
        by_cases same : row.1 = tier
        · subst same
          have none : selected row.1 = none := by simpa using taken
          simp [none]
        · rw [beq_false_of_ne same, Function.update_of_ne (Ne.symm same)]

theorem Tier.number_injective : Function.Injective Tier.number := by
  intro a b equal
  cases a <;> cases b <;> first | rfl | cases equal

theorem performanceWeights_tier {version : WeightVersion}
    {row : Tier × SupplierPerformanceWeights} (accepted : performanceWeights version = .ok row) :
    version.tier = row.1.number := by
  unfold performanceWeights at accepted
  simp only [bind, Except.bind] at accepted
  cases tiered : tierOf version.tier with
  | error error =>
      rw [tiered] at accepted
      cases accepted
  | ok tier =>
      have number : version.tier = tier.number := by
        unfold tierOf at tiered
        split at tiered
        · cases tiered; assumption
        · split at tiered
          · cases tiered; assumption
          · split at tiered
            · cases tiered; assumption
            · cases tiered
      rw [tiered] at accepted
      dsimp only at accepted
      repeat' split at accepted
      all_goals cases accepted
      exact number

theorem newerWeights_trans (a b c : WeightVersion) :
    newerWeights a b = true → newerWeights b c = true → newerWeights a c = true := by
  simp only [newerWeights, decide_eq_true_eq]
  rintro (later | ⟨same, id⟩) (later' | ⟨same', id'⟩)
  · exact .inl (lt_trans later' later)
  · exact .inl (same' ▸ later)
  · exact .inl (same ▸ later')
  · exact .inr ⟨same.trans same', id'.trans id⟩

theorem newerWeights_total (a b : WeightVersion) :
    (newerWeights a b || newerWeights b a) = true := by
  simp only [newerWeights, Bool.or_eq_true, decide_eq_true_eq]
  rcases lt_trichotomy a.effectiveFrom b.effectiveFrom with earlier | same | later
  · exact .inr (.inl earlier)
  · rcases le_total b.id a.id with id | id
    · exact .inl (.inr ⟨same, id⟩)
    · exact .inr (.inr ⟨same.symm, id⟩)
  · exact .inl (.inl later)

/-- The first version of a tier among those read gives the first row of the tier. -/
theorem firstOfTier {versions : List WeightVersion} {rows : List (Tier × SupplierPerformanceWeights)}
    (accepted : versions.mapM performanceWeights = Except.ok rows) (tier : Tier) :
    (∃ before version after weights, versions = before ++ version :: after ∧
      performanceWeights version = .ok (tier, weights) ∧
        (∀ other : WeightVersion, other ∈ before → other.tier ≠ tier.number) ∧
          rows.find? (fun row => row.1 == tier) = some (tier, weights)) ∨
      (∀ version ∈ versions, version.tier ≠ tier.number) ∧
        rows.find? (fun row => row.1 == tier) = none := by
  induction versions generalizing rows with
  | nil =>
      cases accepted
      exact .inr ⟨fun version member => absurd member List.not_mem_nil, rfl⟩
  | cons first rest ih =>
      rw [List.mapM_cons] at accepted
      cases decoded : performanceWeights first with
      | error error =>
          rw [decoded] at accepted
          cases accepted
      | ok row =>
          cases others : rest.mapM performanceWeights with
          | error error =>
              rw [decoded, others] at accepted
              cases accepted
          | ok rows' =>
              rw [decoded, others] at accepted
              cases accepted
              obtain ⟨own, weights⟩ := row
              have number := performanceWeights_tier decoded
              rw [List.find?_cons]
              by_cases same : own = tier
              · subst same
                refine .inl ⟨[], first, rest, weights, rfl, decoded, ?_, ?_⟩
                · exact fun other member => absurd member List.not_mem_nil
                · simp
              · have apart : first.tier ≠ tier.number := by
                  rw [number]
                  exact fun equal => same (Tier.number_injective (Int.natCast_inj.mp equal))
                rw [beq_false_of_ne same]
                rcases ih others with
                  ⟨before, version, after, weights', cut, row, none, found⟩ | ⟨none, found⟩
                · refine .inl ⟨first :: before, version, after, weights', ?_, row, ?_, found⟩
                  · rw [cut, List.cons_append]
                  · intro other member
                    rcases List.mem_cons.mp member with rfl | member
                    · exact apart
                    · exact none other member
                · refine .inr ⟨?_, found⟩
                  intro version member
                  rcases List.mem_cons.mp member with rfl | member
                  · exact apart
                  · exact none version member

theorem weightsFor_latest {versions : List WeightVersion}
    (read : readWeights versions today = .ok weightRows) (tier : Tier) :
    LatestWeights versions today tier (weightsFor weightRows tier) := by
  have selected : selectWeights weightRows (fun _ => none) tier =
      (weightRows.find? fun row => row.1 == tier).map (·.2) := by
    rw [selectWeights_eq, Option.none_or]
  rcases firstOfTier read tier with
    ⟨before, version, after, weights, cut, row, none, found⟩ | ⟨none, found⟩
  · have used : weightsFor weightRows tier = weights := by
      rw [weightsFor, selected, found]
      rfl
    refine .inl ⟨version, by simp [cut], by rw [used]; exact row, ?_⟩
    intro other member force tiered
    -- in the order of the read, the first version of the tier stands before the other
    have listed : other ∈ (versions.filter (inForce today)).mergeSort newerWeights :=
      List.mem_mergeSort.mpr (List.mem_filter.mpr ⟨member, force⟩)
    have ordered := List.pairwise_mergeSort newerWeights_trans newerWeights_total
      (versions.filter (inForce today))
    rw [← List.take_append_drop weightLimit
      ((versions.filter (inForce today)).mergeSort newerWeights)] at listed ordered
    change other ∈ newestWeights versions today ++ _ at listed
    change (newestWeights versions today ++ _).Pairwise _ at ordered
    rw [cut, List.append_assoc, List.cons_append] at listed ordered
    rcases List.mem_append.mp listed with early | late
    · exact absurd tiered (none other early)
    · rcases List.mem_cons.mp late with rfl | late
      · simp [newerWeights]
      · exact (List.pairwise_cons.mp (List.pairwise_append.mp ordered).2.1).1 other late
  · have used : weightsFor weightRows tier = defaultWeights tier := by
      rw [weightsFor, selected, found]
      rfl
    exact .inr ⟨none, used⟩

/-! ## The order of the rows -/

/-- Equal up to the order of the comments. -/
structure Reordered (entry other : SupplierPerformance) : Prop where
  comments : entry.comments.Perm other.comments
  rest : other = { entry with comments := other.comments }

structure ReorderedRanking (ranking other : SupplierPerformanceRanking) : Prop where
  entry : Reordered ranking.toSupplierPerformance other.toSupplierPerformance
  rank : ranking.rank = other.rank
  displayName : ranking.displayName = other.displayName

structure ReorderedResponse (response other : SupplierPerformanceResponse) : Prop where
  rankings : List.Forall₂ ReorderedRanking response.rankings other.rankings
  rest : other = { response with rankings := other.rankings }

theorem average_perm {values values' : List Nat} (perm : values.Perm values') :
    average values = average values' := by
  rw [average, average, perm.length_eq, perm.sum_eq]

theorem deliveryMetric_getD (stats : Option DeliveryStats) :
    deliveryMetric stats = deliveryMetric (some (stats.getD ⟨0, 0⟩)) := by
  cases stats <;> rfl

theorem performanceOf_reordered (reviews : reviewRows.Perm reviewRows')
    {deliveries deliveries' : DeliveryBySupplier}
    (counts : ∀ id, (deliveries id).getD ⟨0, 0⟩ = (deliveries' id).getD ⟨0, 0⟩)
    (supplier : PerformanceSupplierRow) :
    Reordered (performanceOf scope reviewRows weightRows deliveries supplier)
      (performanceOf scope reviewRows' weightRows deliveries' supplier) := by
  have own : (ownReviews reviewRows supplier.id).Perm (ownReviews reviewRows' supplier.id) :=
    reviews.filter _
  have scores : ∀ reviewType, (scoresOf reviewType (ownReviews reviewRows supplier.id)).Perm
      (scoresOf reviewType (ownReviews reviewRows' supplier.id)) :=
    fun reviewType => (own.filter _).map _
  have metrics : metricsOf supplier.tier (ownReviews reviewRows supplier.id)
        (deliveries supplier.id) =
      metricsOf supplier.tier (ownReviews reviewRows' supplier.id) (deliveries' supplier.id) := by
    rw [metricsOf, metricsOf, average_perm (scores .satisfaction), average_perm (scores .sampling),
      deliveryMetric_getD, counts, ← deliveryMetric_getD]
  have stats : ∀ stats : Option DeliveryStats, (stats.map (·.total)).getD 0 = (stats.getD ⟨0, 0⟩).total ∧
      (stats.map (·.onTime)).getD 0 = (stats.getD ⟨0, 0⟩).onTime := by
    rintro (_ | _) <;> exact ⟨rfl, rfl⟩
  constructor
  · unfold performanceOf
    dsimp only
    split
    · exact (own.filter _).map _
    · exact .refl _
  · unfold performanceOf
    dsimp only
    rw [metrics, (scores .satisfaction).length_eq, (scores .sampling).length_eq,
      (stats (deliveries supplier.id)).1, (stats (deliveries supplier.id)).2, counts,
      (stats (deliveries' supplier.id)).1, (stats (deliveries' supplier.id)).2]

theorem rankingsOf_reordered {supplierRows : List PerformanceSupplierRow}
    {f g : PerformanceSupplierRow → SupplierPerformance}
    (alike : ∀ supplier, Reordered (f supplier) (g supplier)) :
    List.Forall₂ ReorderedRanking (rankingsOf (supplierRows.map f))
      (rankingsOf (supplierRows.map g)) := by
  have scores : ∀ supplier, (g supplier).score = (f supplier).score := by
    intro supplier
    rw [(alike supplier).rest]
  -- both sorts order the suppliers in the same way
  have sorted : ∀ h : PerformanceSupplierRow → SupplierPerformance,
      (∀ supplier, (h supplier).score = (f supplier).score) →
        (supplierRows.map h).mergeSort rankedBefore =
          (supplierRows.mergeSort fun a b => rankedBefore (f a) (f b)).map h := by
    intro h same
    refine (List.map_mergeSort ?_).symm
    intro a _ b _
    rw [rankedBefore, rankedBefore, same, same]
  rw [rankingsOf, rankingsOf, sorted f fun _ => rfl, sorted g scores, List.forall₂_iff_get]
  refine ⟨by simp, ?_⟩
  intro index _ _
  simp only [List.get_eq_getElem, List.getElem_mapIdx, List.getElem_map]
  refine ⟨alike _, rfl, ?_⟩
  rw [rankingAt, rankingAt, (alike _).rest]

theorem deliveryBySupplier_perm {deliveryRows deliveryRows' : List PerformanceDeliveryRow}
    (perm : deliveryRows.Perm deliveryRows') {deliveries : DeliveryBySupplier}
    (read : deliveryBySupplier dates quarter today deliveryRows (fun _ => none) = .ok deliveries) :
    ∃ deliveries', deliveryBySupplier dates quarter today deliveryRows' (fun _ => none) =
        .ok deliveries' ∧
      ∀ id, (deliveries id).getD ⟨0, 0⟩ = (deliveries' id).getD ⟨0, 0⟩ := by
  obtain ⟨readable, counts⟩ := deliveryBySupplier_counts read
  obtain ⟨deliveries', read'⟩ := @deliveryBySupplier_total dates quarter today deliveryRows'
    (fun _ => none) fun row member => readable row (perm.mem_iff.mpr member)
  refine ⟨deliveries', read', ?_⟩
  intro id
  rw [counts id, (deliveryBySupplier_counts read').2 id, perm.countP_eq, perm.countP_eq]

/-! ## The response -/

section

variable {roles : List Role} {supplierRows : List PerformanceSupplierRow}
  {deliveryRows deliveryRows' : List PerformanceDeliveryRow} {response : SupplierPerformanceResponse}

theorem performanceResponse_ok
    (responded : performanceResponse dates roles scope quarter supplierRows reviewRows weightRows
      deliveryRows today = .ok response) :
    ∃ deliveries, deliveryBySupplier dates quarter today deliveryRows (fun _ => none) =
        .ok deliveries ∧
      response.rankings = rankingsOf
        (supplierRows.map (performanceOf scope reviewRows weightRows deliveries)) ∧
      response.weights = [Tier.one, .two, .three].map fun tier => (tier, weightsFor weightRows tier) := by
  unfold performanceResponse at responded
  cases read : deliveryBySupplier dates quarter today deliveryRows fun _ => none with
  | error error =>
      rw [read] at responded
      cases responded
  | ok deliveries =>
      rw [read] at responded
      cases responded
      exact ⟨deliveries, rfl, rfl, rfl⟩

theorem performanceResponse_reordered (reviews : reviewRows.Perm reviewRows')
    (deliveries : deliveryRows.Perm deliveryRows')
    (responded : performanceResponse dates roles scope quarter supplierRows reviewRows weightRows
      deliveryRows today = .ok response) :
    ∃ other, performanceResponse dates roles scope quarter supplierRows reviewRows' weightRows
        deliveryRows' today = .ok other ∧ ReorderedResponse response other := by
  unfold performanceResponse at responded ⊢
  cases read : deliveryBySupplier dates quarter today deliveryRows fun _ => none with
  | error error =>
      rw [read] at responded
      cases responded
  | ok stats =>
      obtain ⟨stats', read', counts⟩ := deliveryBySupplier_perm deliveries read
      rw [read] at responded
      cases responded
      rw [read']
      refine ⟨_, rfl, ?_, rfl⟩
      exact rankingsOf_reordered fun supplier => performanceOf_reordered reviews counts supplier

/-- What a response promises of its inputs. -/
structure SoundResponse (dates : Dates) (scope : DataScope) (quarter : Quarter)
    (supplierRows : List PerformanceSupplierRow) (reviewRows : List PerformanceReviewRow)
    (versions : List WeightVersion) (weightRows : List (Tier × SupplierPerformanceWeights))
    (deliveryRows : List PerformanceDeliveryRow) (today : String)
    (response : SupplierPerformanceResponse) : Prop where
  percentages : ∀ ranking ∈ response.rankings, ∀ key value,
    ranking.metrics.of key = some value → 0 ≤ value ∧ value ≤ 100
  scored : ∀ ranking ∈ response.rankings, ∃ weights,
    (ranking.tier, weights) ∈ response.weights ∧ ScoredBy ranking.metrics weights ranking.score
  ranked : ∃ deliveries,
    deliveryBySupplier dates quarter today deliveryRows (fun _ => none) = .ok deliveries ∧
      RankedFrom (supplierRows.map (performanceOf scope reviewRows weightRows deliveries))
        response.rankings
  tiers : response.weights.map (·.1) = [.one, .two, .three]
  latest : ∀ tier weights, (tier, weights) ∈ response.weights →
    LatestWeights versions today tier weights

theorem mem_weights {tier : Tier} :
    (tier, weightsFor weightRows tier) ∈
      [Tier.one, .two, .three].map fun tier => (tier, weightsFor weightRows tier) := by
  cases tier <;> simp

/-- The scores and the ranking are sound, and of the order of the rows only the
comments tell. -/
theorem performanceResponse_sound {versions : List WeightVersion}
    (read : readWeights versions today = .ok weightRows)
    (responded : performanceResponse dates roles scope quarter supplierRows reviewRows weightRows
      deliveryRows today = .ok response) :
    SoundResponse dates scope quarter supplierRows reviewRows versions weightRows deliveryRows today
        response ∧
      ∀ reviewRows' deliveryRows', reviewRows.Perm reviewRows' → deliveryRows.Perm deliveryRows' →
        ∃ other, performanceResponse dates roles scope quarter supplierRows reviewRows' weightRows
          deliveryRows' today = .ok other ∧ ReorderedResponse response other := by
  obtain ⟨deliveries, counted, rankings, weights⟩ := performanceResponse_ok responded
  have percentages : ∀ supplier key value,
      (performanceOf scope reviewRows weightRows deliveries supplier).metrics.of key = some value →
        Percentage value :=
    fun supplier key value measured => metricsOf_percentage (onTime_le counted supplier.id) measured
  have scored : ∀ supplier, ScoredBy
      (performanceOf scope reviewRows weightRows deliveries supplier).metrics
      (weightsFor weightRows supplier.tier)
      (performanceOf scope reviewRows weightRows deliveries supplier).score :=
    fun supplier => scoreOf_scored (percentages supplier)
  have ranked : RankedFrom (supplierRows.map (performanceOf scope reviewRows weightRows deliveries))
      response.rankings := by
    rw [rankings]
    refine rankingsOf_ranked ?_
    intro entry member value present
    obtain ⟨supplier, -, rfl⟩ := List.mem_map.mp member
    exact (scored supplier).nonneg (percentages supplier) present
  -- every ranking is the entry of a supplier
  have entry : ∀ ranking ∈ response.rankings, ∃ supplier, ranking.toSupplierPerformance =
      performanceOf scope reviewRows weightRows deliveries supplier := by
    intro ranking member
    have listed := ranked.permutation.mem_iff.mp (List.mem_map_of_mem member)
    obtain ⟨supplier, -, equal⟩ := List.mem_map.mp listed
    exact ⟨supplier, equal.symm⟩
  refine ⟨⟨?_, ?_, ⟨deliveries, counted, ranked⟩, ?_, ?_⟩, ?_⟩
  · intro ranking member key value measured
    obtain ⟨supplier, equal⟩ := entry ranking member
    rw [equal] at measured
    have percentage := percentages supplier key value measured
    exact ⟨percentage.low, percentage.high⟩
  · intro ranking member
    obtain ⟨supplier, equal⟩ := entry ranking member
    refine ⟨weightsFor weightRows ranking.tier, ?_, ?_⟩
    · rw [weights]
      exact mem_weights
    · rw [equal]
      exact scored supplier
  · rw [weights]
    rfl
  · intro tier own member
    rw [weights] at member
    obtain ⟨tier, -, equal⟩ := List.mem_map.mp member
    cases equal
    exact weightsFor_latest read tier
  · intro reviewRows' deliveryRows' reviews reordered
    exact performanceResponse_reordered reviews reordered responded

end

/-! ## One supplier -/

def reviewed : PerformanceSupplierRow := ⟨1, "S1", none, "Own", .one⟩

theorem threeStars : 1 ≤ 3 ∧ 3 ≤ 5 := by decide

def reviewOf (comment : String) : PerformanceReviewRow :=
  ⟨comment, .satisfaction, 3, 1, [], threeStars⟩

theorem year2026 : 2026 < 10000 := by decide

theorem firstQuarter : 1 ≤ 1 ∧ 1 ≤ 4 := by decide

def openingQuarter : Quarter := ⟨2026, 1, year2026, firstQuarter⟩

def evenWeights : WeightVersion := ⟨1, 1, true, "2026-01-01", 5000, 1000, 1000, 1000, 1000, 1000⟩

theorem performanceResponse_sound_one : ∃ response,
    performanceResponse eastern [] .internal openingQuarter [reviewed]
        [reviewOf "late", reviewOf "fine"] [(.one, ⟨5000, 1000, 1000, 1000, 1000, 1000⟩)] []
        "2026-02-01" = .ok response ∧
      SoundResponse eastern .internal openingQuarter [reviewed] [reviewOf "late", reviewOf "fine"]
        [evenWeights] [(.one, ⟨5000, 1000, 1000, 1000, 1000, 1000⟩)] [] "2026-02-01" response :=
  ⟨_, rfl, (performanceResponse_sound (by decide +kernel) rfl).1⟩

/-- The comments are listed in the order of the reviews. -/
theorem comments_follow_rows :
    [reviewOf "late", reviewOf "fine"].Perm [reviewOf "fine", reviewOf "late"] ∧
      performanceResponse eastern [] .internal openingQuarter [reviewed]
          [reviewOf "late", reviewOf "fine"] [] [] "2026-02-01" ≠
        performanceResponse eastern [] .internal openingQuarter [reviewed]
          [reviewOf "fine", reviewOf "late"] [] [] "2026-02-01" := by
  refine ⟨List.Perm.swap _ _ _, ?_⟩
  intro same
  have comments := congrArg (fun response =>
    response.toOption.map fun response => response.rankings.map (·.comments)) same
  revert comments
  decide +kernel

end SupplyChain.Suppliers
