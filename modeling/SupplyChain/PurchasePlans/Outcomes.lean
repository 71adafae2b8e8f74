import SupplyChain.PurchaseOrders.Outcomes

/-!
What the commands on the purchase plans and the decisions about plans and orders
did when they committed.
-/

namespace SupplyChain.PurchasePlans

open Relational Transaction TableName Supply Procurement SupplyApprovalEffects
open PurchaseOrders (Complete requestDeviation_returns latestPlan_found)

variable {db db' : Database} {writes : List TableName} {command : SupplyContext}

/-! ## Creation -/

/-- An item as a new version of a plan starts with it. -/
structure Unordered (planId : Nat) (row : PurchasePlanItem) : Prop where
  plan : row.purchasePlanId = planId
  ordered : row.orderedQuantity = 0
  status : row.completionStatus = .notOrdered
  planned : 0 < row.plannedQuantity

/-- What a committed plan did. -/
structure PlanCreated (body : CreatePurchasePlan) (plan : PurchasePlan) (db db' : Database) :
    Prop where
  planNo : plan.planNo = trim body.planNo
  version : plan.version = (latestPlan db plan.planNo).elim 1 fun last => last.2.version + 1
  status : plan.status = .pendingApproval ∨ plan.status = .awaitingFactoryConfirmation
  plans : db' purchasePlans = (db purchasePlans).insert plan
  planItems : (Law.gains (Unordered (db purchasePlans).nextId)).allows
    (db purchasePlanItems) (db' purchasePlanItems)

theorem prepareLine_planned {seen : List (String × Nat × Nat × String)} {input : PlanLine}
    {item : PreparedLine} {sent : List String}
    (returns : (prepareLine seen input : SupplyTx writes _).Returns db item sent db') :
    0 < item.line.plannedQuantity := by
  simp only [prepareLine, returns_bind_date, returns_bind_positiveKey, returns_bind_text,
    returns_bind_positiveInteger, returns_bind_refuseIf, returns_bind_query, returns_bind_select,
    returns_bind_orThrow, returns_pure] at returns
  obtain ⟨-, -, -, -, -, -, -, positive, -, -, -, _, -, -, rfl, -, -⟩ := returns
  exact positive.2

theorem prepareLines_planned {seen : List (String × Nat × Nat × String)} {inputs : List PlanLine}
    {prepared : List PreparedLine} {sent : List String}
    (returns : (prepareLines seen inputs : SupplyTx writes _).Returns db prepared sent db') :
    ∀ item ∈ prepared, 0 < item.line.plannedQuantity := by
  induction inputs generalizing seen prepared sent db db' with
  | nil =>
      obtain ⟨rfl, -, -⟩ := returns_pure.mp returns
      simp
  | cons input rest ih =>
      obtain ⟨item, _, mid, _, first, later, rfl⟩ := returns_bind.mp returns
      obtain ⟨others, _, last, _, more, done, rfl⟩ := returns_bind.mp later
      obtain ⟨rfl, -, -⟩ := returns_pure.mp done
      intro one member
      rcases List.mem_cons.mp member with rfl | member
      · exact prepareLine_planned first
      · exact ih more one member

theorem insertPlanItem_gains {planId : Nat} {item : PreparedLine}
    (planned : 0 < item.line.plannedQuantity) :
    Obeys (onTable purchasePlanItems (Law.gains (Unordered planId))) (insertPlanItem planId item) := by
  refine obeys_bind (keeps_insertUnique fun table => ?_) fun _ => obeys_pure
  exact Law.gains_insert table ⟨rfl, rfl, rfl, planned⟩

theorem createPurchasePlan_returns {body : CreatePurchasePlan} {reply : JsonValue}
    {sent : List String} (returns : (createPurchasePlan command body).Returns db reply sent db') :
    ∃ plan, PlanCreated body plan db db' := by
  simp only [createPurchasePlan, returns_bind_refuseIf, returns_bind_text] at returns
  obtain ⟨-, -, -, returns⟩ := returns
  rw [returns_bind_of_reads (obeys_optionalText : Obeys idle _).obeyed] at returns
  obtain ⟨sourceFileKey, -, returns⟩ := returns
  rw [returns_bind_of_reads (obeys_requireSourceFile : Obeys idle _).obeyed] at returns
  obtain ⟨_, -, returns⟩ := returns
  simp only [returns_bind_query] at returns
  rw [returns_bind_of_reads (prepareLines_obeys : Obeys idle _).obeyed] at returns
  obtain ⟨prepared, prepares, returns⟩ := returns
  simp only [returns_bind_insertUnique] at returns
  obtain ⟨-, returns⟩ := returns
  obtain ⟨_, _, filled, _, fills, rest, rfl⟩ := returns_bind.mp returns
  have unfilled := (returns_widen.mp fills).unwritten
  have gained := (obeys_forEach fun item member =>
    insertPlanItem_gains (prepareLines_planned prepares item member)).obeyed (returns_widen.mp fills)
  have told : ∀ t, t ≠ approvalRequests → t ≠ procurementVersions → t ≠ reminderSchedules →
      db' t = filled t := by
    rcases returns_ite.mp rest with ⟨-, asks⟩ | ⟨-, reminds⟩
    · obtain ⟨_, _, asked, _, ask, more, rfl⟩ := returns_bind.mp asks
      obtain ⟨_, _, _, _, notifies, done, rfl⟩ := returns_bind.mp more
      obtain rfl := approvalNotification_returns notifies
      obtain ⟨-, -, rfl⟩ := returns_pure.mp done
      obtain ⟨-, -, -, others⟩ := createApproval_returns ask
      exact fun t notRequests notVersions _ => others t notRequests notVersions
    · simp only [createReminder, returns_bind_insertRow] at reminds
      obtain ⟨_, _, _, _, notifies, done, rfl⟩ := returns_bind.mp reminds
      obtain ⟨-, -, rfl⟩ := returns_send.mp notifies
      obtain ⟨-, -, rfl⟩ := returns_pure.mp done
      exact fun t _ _ notReminders => Store.put_other _ _ notReminders
  refine ⟨{ planNo := trim body.planNo,
            version := (latestPlan db (trim body.planNo)).elim 1 fun last => last.2.version + 1,
            status := if (latestPlan db (trim body.planNo)).isSome then .pendingApproval
              else .awaitingFactoryConfirmation,
            updatedAt := command.now }, rfl, rfl, ?_, ?_, ?_⟩
  · dsimp only
    split
    · exact Or.inl rfl
    · exact Or.inr rfl
  · rw [told _ (by decide) (by decide) (by decide), unfilled _ (by decide), Store.put_same]
  · rw [told _ (by decide) (by decide) (by decide)]
    simpa [onTable] using gained

/-! ## The end of ordering -/

/-- An item at the end of ordering. -/
def finalizedItem (item : PurchasePlanItem) : PurchasePlanItem :=
  { item with completionStatus := if underPlan item then .underPlanPending else .withinTolerance }

theorem finalizeItem_loop {items : List (Nat × PurchasePlanItem)}
    (distinct : (items.map (·.1)).Nodup)
    (found : ∀ r ∈ items, (db purchasePlanItems).find? r.1 = some r.2) {u : Unit}
    {sent : List String} (returns : (forEach finalizeItem items).Returns db u sent db') :
    (∀ r ∈ items, (db' purchasePlanItems).find? r.1 = some (finalizedItem r.2)) ∧
      ∀ id, id ∉ items.map (·.1) →
        (db' purchasePlanItems).find? id = (db purchasePlanItems).find? id := by
  induction items generalizing db sent with
  | nil =>
      obtain ⟨-, rfl⟩ := returns_forEach_nil.mp returns
      exact ⟨by simp, fun _ _ => rfl⟩
  | cons head rest ih =>
      obtain ⟨_, mid, _, first, later, rfl⟩ := returns_forEach_cons.mp returns
      obtain ⟨-, -, rfl⟩ := returns_updateRow.mp first
      rw [List.map_cons, List.nodup_cons] at distinct
      have apart : ∀ r ∈ rest, r.1 ≠ head.1 := by
        intro r member same
        exact distinct.1 (same ▸ List.mem_map.mpr ⟨r, member, rfl⟩)
      obtain ⟨done, kept⟩ := ih distinct.2 (fun r member => by
        rw [Store.put_same, Table.find?_modify_ne _ _ (apart r member)]
        exact found r (List.mem_cons_of_mem _ member)) later
      constructor
      · intro r member
        rcases List.mem_cons.mp member with rfl | member
        · rw [kept _ distinct.1, Store.put_same,
            Table.find?_modify_self _ (found _ List.mem_cons_self)]
          rfl
        · exact done r member
      · intro id absent
        rw [List.map_cons, List.mem_cons, not_or] at absent
        rw [kept id absent.2, Store.put_same, Table.find?_modify_ne _ _ absent.1]

/-- The items below their plan, with their deviations. -/
def underDeviations (db : Database) (id : Nat) : List JsonValue :=
  ((planItems db id).filter fun item => underPlan item.2).map fun item =>
    deviation item.1 item.2.sku "under_plan" (rateBps item.2.orderedQuantity item.2.plannedQuantity)

/-- What the end of ordering did to a plan and its items. -/
structure Finalized (command : SupplyContext) (id : Nat) (db db' : Database) : Prop where
  orderable : ∃ plan, (db purchasePlans).find? id = some plan ∧
    (plan.status = .confirmed ∨ plan.status = .ordering)
  items : ∀ key, (db' purchasePlanItems).find? key = ((db purchasePlanItems).find? key).map
    fun row => if row.purchasePlanId = id then finalizedItem row else row
  plans : ∃ now status, (status = .orderedComplete ∧ underDeviations db id = [] ∨
      status = .ordering ∧ underDeviations db id ≠ []) ∧
    db' purchasePlans = (db purchasePlans).modify id fun row => { row with status, updatedAt := now }
  requests : db' approvalRequests =
    if underDeviations db id = [] then db approvalRequests
    else (db approvalRequests).insert (requestOf command "purchase_plan_deviation" "purchase_plan"
      id (.array (underDeviations db id)))

theorem nodup_planItems (db : Database) (id : Nat) : ((planItems db id).map (·.1)).Nodup :=
  List.pairwise_map.mpr ((Table.select_ascending _ _).imp fun below => Nat.ne_of_lt below)

theorem finalizeItems_find {id : Nat} {u : Unit} {sent : List String}
    (returns : (forEach finalizeItem (planItems db id)).Returns db u sent db') (key : Nat) :
    (db' purchasePlanItems).find? key = ((db purchasePlanItems).find? key).map
      fun row => if row.purchasePlanId = id then finalizedItem row else row := by
  have listed : ∀ r, r ∈ planItems db id ↔
      (db purchasePlanItems).find? r.1 = some r.2 ∧ r.2.purchasePlanId = id := by
    intro r
    rw [planItems, Table.mem_select, beq_iff_eq]
  obtain ⟨done, kept⟩ :=
    finalizeItem_loop (nodup_planItems db id) (fun r member => ((listed r).mp member).1) returns
  by_cases member : key ∈ (planItems db id).map (·.1)
  · obtain ⟨r, isItem, rfl⟩ := List.mem_map.mp member
    obtain ⟨found, own⟩ := (listed r).mp isItem
    rw [done r isItem, found, Option.map_some, if_pos own]
  · rw [kept key member]
    cases found : (db purchasePlanItems).find? key with
    | none => rfl
    | some row =>
        have other : row.purchasePlanId ≠ id := by
          intro own
          exact member (List.mem_map.mpr ⟨(key, row), (listed (key, row)).mpr ⟨found, own⟩, rfl⟩)
        rw [Option.map_some, if_neg other]

theorem finalizeOrdering_returns {id expectedUpdatedAt : Nat} {plan : PurchasePlan}
    {reply : JsonValue} {sent : List String}
    (found : (db purchasePlans).find? id = some plan)
    (orderable : plan.status = .confirmed ∨ plan.status = .ordering)
    (returns : (finalizeOrdering command id plan expectedUpdatedAt (planItems db id)).Returns
      db reply sent db') : Finalized command id db db' := by
  obtain ⟨_, _, marked, _, marks, rest, rfl⟩ := returns_bind.mp returns
  obtain ⟨approvalId, _, asked, _, asks, more, rfl⟩ := returns_bind.mp rest
  obtain ⟨requests, others⟩ := requestDeviation_returns asks
  have unmarked := (returns_widen.mp marks).unwritten
  obtain ⟨_, _, updated, _, updates, last, rfl⟩ := returns_bind.mp more
  obtain ⟨-, -, rfl⟩ := returns_updateRow.mp updates
  have told : db' = asked.put purchasePlans ((asked purchasePlans).modify id fun row =>
      { row with
        status := if ((planItems db id).filter fun item => underPlan item.2) = [] then
          .orderedComplete else .ordering
        updatedAt := command.now }) := by
    cases approvalId with
    | none =>
        obtain ⟨_, _, _, _, notifies, done, rfl⟩ := returns_bind.mp last
        obtain ⟨-, -, rfl⟩ := returns_send.mp notifies
        exact (returns_pure.mp done).2.2
    | some approvalId =>
        obtain ⟨_, _, _, _, notifies, done, rfl⟩ := returns_bind.mp last
        obtain rfl := approvalNotification_returns notifies
        exact (returns_pure.mp done).2.2
  have requested : ∀ t, t ≠ approvalRequests → t ≠ procurementVersions → t ≠ purchasePlans →
      db' t = marked t := by
    intro t notRequests notVersions notPlans
    rw [told, Store.put_other _ _ notPlans, others t notRequests notVersions]
  have empty : underDeviations db id = [] ↔
      ((planItems db id).filter fun item => underPlan item.2) = [] := List.map_eq_nil_iff
  refine ⟨⟨plan, found, orderable⟩, fun key => ?_, ⟨command.now, if ((planItems db id).filter
    fun item => underPlan item.2) = [] then .orderedComplete else .ordering, ?_, ?_⟩, ?_⟩
  · rw [requested _ (by decide) (by decide) (by decide)]
    exact finalizeItems_find (returns_widen.mp marks) key
  · rw [ne_eq, empty]
    exact (em _).imp (fun none => ⟨if_pos none, none⟩) fun some => ⟨if_neg some, some⟩
  · rw [told, Store.put_same, others _ (by decide) (by decide), unmarked _ (by decide)]
  · rw [told, Store.put_other _ _ (by decide), requests, unmarked _ (by decide)]
    rfl

/-! ## The answer of a factory -/

/-- What a committed answer of a factory did to its plan. -/
structure PlanAnswered (id : Nat) (db db' : Database) : Prop where
  plans : ∃ now status, (status = .confirmed ∨ status = .disputed) ∧
    db' purchasePlans = (db purchasePlans).modify id fun row => { row with status, updatedAt := now }
  items : db' purchasePlanItems = db purchasePlanItems

theorem answerPlan_returns {id expectedUpdatedAt factoryId : Nat}
    {items : List (Nat × PurchasePlanItem)} {body : FactoryAnswer} {reply : JsonValue}
    {sent : List String}
    (returns : (answerPlan command id expectedUpdatedAt items factoryId body).Returns
      db reply sent db') : PlanAnswered id db db' := by
  have unwritten := returns.unwritten
  simp only [answerPlan, returns_bind_refuseIf, returns_bind_date] at returns
  obtain ⟨-, -, -, -, -, -, -, returns⟩ := returns
  rw [returns_bind_of_reads (proposedDate_obeys : Obeys idle _).obeyed] at returns
  obtain ⟨due, -, returns⟩ := returns
  rw [returns_bind_of_reads (statedReason_obeys : Obeys idle _).obeyed] at returns
  obtain ⟨reason, -, returns⟩ := returns
  simp only [returns_bind_insertInto, returns_bind_updateRow] at returns
  obtain ⟨-, returns⟩ := returns
  have plans : db' purchasePlans = (db purchasePlans).modify id fun row =>
      { row with
        status := if body.decision = .confirmed then .confirmed else .disputed
        updatedAt := command.now } := by
    rcases returns_ite.mp returns with ⟨-, asks⟩ | ⟨-, tells⟩
    · obtain ⟨_, _, asked, _, ask, rest, rfl⟩ := returns_bind.mp asks
      obtain ⟨_, _, _, _, notifies, done, rfl⟩ := returns_bind.mp rest
      obtain rfl := approvalNotification_returns notifies
      obtain ⟨-, -, rfl⟩ := returns_pure.mp done
      obtain ⟨-, -, -, others⟩ := createApproval_returns ask
      rw [others _ (by decide) (by decide), Store.put_same, Store.put_other _ _ (by decide)]
    · obtain ⟨_, _, _, _, notifies, done, rfl⟩ := returns_bind.mp tells
      obtain ⟨-, -, rfl⟩ := returns_send.mp notifies
      obtain ⟨-, -, rfl⟩ := returns_pure.mp done
      rw [Store.put_same, Store.put_other _ _ (by decide)]
  refine ⟨⟨_, _, ?_, plans⟩, unwritten _ (by decide)⟩
  split
  · exact Or.inl rfl
  · exact Or.inr rfl

/-- What a committed update of a plan did. -/
inductive PlanUpdated (command : SupplyContext) (body : UpdatePurchasePlan) (db db' : Database) :
    Prop
  | finalized (action : body.action = .finalizeOrdering)
      (finalized : Finalized command body.id db db')
  | answered {answer : FactoryAnswer} (action : body.action = .answer answer)
      (answered : PlanAnswered body.id db db')

theorem updatePurchasePlan_returns {body : UpdatePurchasePlan} {reply : JsonValue}
    {sent : List String} (returns : (updatePurchasePlan command body).Returns db reply sent db') :
    PlanUpdated command body db db' := by
  unfold updatePurchasePlan at returns
  simp only [returns_bind_positiveKey] at returns
  obtain ⟨-, returns⟩ := returns
  cases action : body.action with
  | finalizeOrdering =>
      simp only [action, returns_bind_refuseIf, returns_bind_select, returns_bind_orThrow,
        returns_bind_query, returns_widen] at returns
      obtain ⟨-, plan, found, -, orderable, -, returns⟩ := returns
      refine PlanUpdated.finalized action (finalizeOrdering_returns found ?_ returns)
      by_contra neither
      exact orderable ⟨fun confirmed => neither (Or.inl confirmed),
        fun ordering => neither (Or.inr ordering)⟩
  | answer answer =>
      simp only [action, returns_bind_refuseIf, returns_bind_select, returns_bind_orThrow,
        returns_bind_query, returns_widen] at returns
      obtain ⟨-, plan, found, -, -, -, factoryId, -, returns⟩ := returns
      exact PlanUpdated.answered action (answerPlan_returns returns)

end SupplyChain.PurchasePlans
