import SupplyChain.PurchasePlans.Decisions
import SupplyChain.Worker.Notifications

/-!
The daily reminders of the purchase plans and the purchase orders: which
confirmations are awaited, who creates the reminder of one, and what the sweep of
the worker leaves of it.
-/

namespace SupplyChain.Procurement

open Relational Transaction TableName Supply
open SupplyApprovalEffects PurchasePlans PurchaseOrders

variable {db db' : Database} {event : SupplyEvent} {command : SupplyContext}
  {context : CommandContext} {approval : ApprovalRequest} {decision : Decision}

/-! ## What is awaited -/

def awaiting (plan : PurchasePlan) : Prop := plan.status = .awaitingFactoryConfirmation

def confirming (order : PurchaseOrder) : Prop := order.status = .factoryConfirmation

/-- The confirmation that a reminder of this type is about is still to be given. -/
def Awaited (db : Database) : ReminderType → Nat → Prop
  | .purchasePlanConfirmation, id => (db purchasePlans).Holds awaiting id
  | .purchaseOrderConfirmation, id => (db purchaseOrders).Holds confirming id

/-- Nothing is awaited but what was. -/
def SameAwaited (db db' : Database) : Prop :=
  ∀ type id, Awaited db' type id ↔ Awaited db type id

/-- What a step does that no factory answers in: nothing to the confirmations and the
reminders, or a confirmation is awaited from now on and a reminder of it is created. -/
inductive Attends (db db' : Database) : Prop
  | kept (awaited : SameAwaited db db') (same : db' reminderSchedules = db reminderSchedules)
  | begun {type : ReminderType} {id : Nat} (before : ¬ Awaited db type id)
      (awaited : ∀ other key, Awaited db' other key ↔
        Awaited db other key ∨ (other = type ∧ key = id))
      (created : ∃ businessNo dueAt, db' reminderSchedules = (db reminderSchedules).insert
        { reminderType := type, entityId := id, businessNo, dueAt })

/-- What the answer of a factory does: a confirmation is no longer awaited. -/
def Ends (db db' : Database) : Prop :=
  db' reminderSchedules = db reminderSchedules ∧
    ∃ type id, Awaited db type id ∧ ¬ Awaited db' type id

theorem sameAwaited_of_tables (plans : db' purchasePlans = db purchasePlans)
    (orders : db' purchaseOrders = db purchaseOrders) : SameAwaited db db' := by
  intro type id
  cases type with
  | purchasePlanConfirmation => rw [Awaited, Awaited, plans]
  | purchaseOrderConfirmation => rw [Awaited, Awaited, orders]

/-- A plan that is not awaiting its confirmation changes, and is not after that. -/
theorem sameAwaited_modifyPlan {id : Nat} {plan : PurchasePlan}
    {change : PurchasePlan → PurchasePlan} (found : (db purchasePlans).find? id = some plan)
    (before : ¬ awaiting plan) (later : ¬ awaiting (change plan))
    (plans : db' purchasePlans = (db purchasePlans).modify id change)
    (orders : db' purchaseOrders = db purchaseOrders) : SameAwaited db db' := by
  intro type key
  cases type with
  | purchasePlanConfirmation =>
      rw [Awaited, Awaited, plans]
      exact Table.holds_modify_same found (iff_of_false later before)
  | purchaseOrderConfirmation => rw [Awaited, Awaited, orders]

theorem sameAwaited_modifyOrder {id : Nat} {order : PurchaseOrder}
    {change : PurchaseOrder → PurchaseOrder} (found : (db purchaseOrders).find? id = some order)
    (before : ¬ confirming order) (later : ¬ confirming (change order))
    (orders : db' purchaseOrders = (db purchaseOrders).modify id change)
    (plans : db' purchasePlans = db purchasePlans) : SameAwaited db db' := by
  intro type key
  cases type with
  | purchasePlanConfirmation => rw [Awaited, Awaited, plans]
  | purchaseOrderConfirmation =>
      rw [Awaited, Awaited, orders]
      exact Table.holds_modify_same found (iff_of_false later before)

theorem SameAwaited.trans {mid : Database} (first : SameAwaited db mid)
    (second : SameAwaited mid db') : SameAwaited db db' :=
  fun type id => (second type id).trans (first type id)

theorem SameAwaited.attends {mid : Database} (first : SameAwaited db mid)
    (reminders : mid reminderSchedules = db reminderSchedules) (later : Attends mid db') :
    Attends db db' := by
  cases later with
  | kept awaited same => exact Attends.kept (first.trans awaited) (same.trans reminders)
  | begun before awaited created =>
      refine Attends.begun (fun was => before ((first _ _).mpr was)) ?_ (reminders ▸ created)
      intro other key
      rw [awaited, first]

/-! ## The commands -/

theorem createPurchasePlan_attends {body : CreatePurchasePlan} {reply : JsonValue}
    {sent : List String} (returns : (createPurchasePlan command body).Returns db reply sent db') :
    Attends db db' := by
  have unwritten := returns.unwritten
  simp only [createPurchasePlan, returns_bind_refuseIf, returns_bind_text] at returns
  obtain ⟨-, -, -, returns⟩ := returns
  rw [returns_bind_of_reads (obeys_optionalText : Obeys idle _).obeyed] at returns
  obtain ⟨sourceFileKey, -, returns⟩ := returns
  rw [returns_bind_of_reads (obeys_requireSourceFile : Obeys idle _).obeyed] at returns
  obtain ⟨_, -, returns⟩ := returns
  simp only [returns_bind_query] at returns
  rw [returns_bind_of_reads (prepareLines_obeys : Obeys idle _).obeyed] at returns
  obtain ⟨prepared, -, returns⟩ := returns
  simp only [returns_bind_insertUnique] at returns
  obtain ⟨-, returns⟩ := returns
  obtain ⟨_, _, filled, _, fills, rest, rfl⟩ := returns_bind.mp returns
  have unfilled := (returns_widen.mp fills).unwritten
  rcases returns_ite.mp rest with ⟨versioned, asks⟩ | ⟨first, reminds⟩
  · -- a further version waits for its approval, not for the factory
    obtain ⟨_, _, asked, _, ask, more, rfl⟩ := returns_bind.mp asks
    obtain ⟨_, _, _, _, notifies, done, rfl⟩ := returns_bind.mp more
    obtain rfl := approvalNotification_returns notifies
    obtain ⟨-, -, rfl⟩ := returns_pure.mp done
    obtain ⟨-, -, -, others⟩ := createApproval_returns ask
    refine Attends.kept (fun type id => ?_) ?_
    · cases type with
      | purchasePlanConfirmation =>
          rw [Awaited, Awaited, others _ (by decide) (by decide), unfilled _ (by decide),
            Store.put_same, Table.holds_insert]
          simp [awaiting, versioned]
      | purchaseOrderConfirmation => rw [Awaited, Awaited, unwritten _ (by decide)]
    · rw [others _ (by decide) (by decide), unfilled _ (by decide), Store.put_other _ _ (by decide)]
  · simp only [createReminder, returns_bind_insertRow] at reminds
    obtain ⟨_, _, _, _, notifies, done, rfl⟩ := returns_bind.mp reminds
    obtain ⟨-, -, rfl⟩ := returns_send.mp notifies
    obtain ⟨-, -, rfl⟩ := returns_pure.mp done
    refine @Attends.begun _ _ .purchasePlanConfirmation _ Table.not_holds_nextId
      (fun type id => ?_) ?_
    · cases type with
      | purchasePlanConfirmation =>
          rw [Awaited, Awaited, Store.put_other _ _ (by decide), unfilled _ (by decide),
            Store.put_same, Table.holds_insert]
          simp [awaiting, first]
      | purchaseOrderConfirmation =>
          rw [Awaited, Awaited, unwritten _ (by decide)]
          simp
    · rw [Store.put_same, unfilled _ (by decide), Store.put_other _ _ (by decide)]
      exact ⟨_, _, rfl⟩

theorem not_awaiting_of_orderable {plan : PurchasePlan}
    (orderable : plan.status = .confirmed ∨ plan.status = .ordering) : ¬ awaiting plan := by
  intro awaits
  rcases orderable with status | status <;> rw [awaiting, status] at awaits <;> cases awaits

theorem updatePurchasePlan_attends {body : UpdatePurchasePlan} {reply : JsonValue}
    {sent : List String} (action : body.action = .finalizeOrdering)
    (returns : (updatePurchasePlan command body).Returns db reply sent db') : Attends db db' := by
  have unwritten := returns.unwritten
  cases updatePurchasePlan_returns returns with
  | answered answers => rw [action] at answers; cases answers
  | finalized _ finalized =>
      obtain ⟨plan, found, orderable⟩ := finalized.orderable
      obtain ⟨now, status, statuses, plans⟩ := finalized.plans
      refine Attends.kept ?_ (unwritten _ (by decide))
      apply sameAwaited_modifyPlan found (not_awaiting_of_orderable orderable) _ plans
        (unwritten _ (by decide))
      rcases statuses with ⟨rfl, -⟩ | ⟨rfl, -⟩ <;> simp [awaiting]

theorem updatePurchasePlan_ends {body : UpdatePurchasePlan} {answer : FactoryAnswer}
    {reply : JsonValue} {sent : List String} (action : body.action = .answer answer)
    (returns : (updatePurchasePlan command body).Returns db reply sent db') : Ends db db' := by
  have unwritten := returns.unwritten
  refine ⟨unwritten _ (by decide), .purchasePlanConfirmation, body.id, ?_⟩
  cases updatePurchasePlan_returns returns with
  | finalized finalizes => rw [action] at finalizes; cases finalizes
  | answered _ answered =>
      unfold updatePurchasePlan at returns
      simp only [action, returns_bind_positiveKey, returns_bind_refuseIf, returns_bind_select,
        returns_bind_orThrow, returns_bind_query] at returns
      obtain ⟨-, -, plan, found, -, pending, -⟩ := returns
      obtain ⟨now, status, statuses, plans⟩ := answered.plans
      refine ⟨⟨plan, found, not_not.mp pending⟩, ?_⟩
      rw [Awaited, plans, Table.holds_modify found, if_pos rfl]
      rcases statuses with rfl | rfl <;> simp [awaiting]

theorem updatePurchaseOrder_ends {body : UpdatePurchaseOrder} {reply : JsonValue}
    {sent : List String} (returns : (updatePurchaseOrder command body).Returns db reply sent db') :
    Ends db db' := by
  have answered := updatePurchaseOrder_returns returns
  obtain ⟨order, found, pending⟩ := answered.found
  obtain ⟨now, status, statuses, orders⟩ := answered.orders
  refine ⟨returns.unwritten _ (by decide), .purchaseOrderConfirmation, body.id,
    ⟨order, found, pending⟩, ?_⟩
  rw [Awaited, orders, Table.holds_modify found, if_pos rfl]
  rcases statuses with rfl | rfl <;> simp [confirming]

theorem settlePlans_same {plans : List (Nat × PurchasePlan)} {u : Unit} {sent : List String}
    (orderable : ∀ plan ∈ plans, plan.2.status = .confirmed ∨ plan.2.status = .ordering)
    (returns : (forEach (settlePlan command) plans).Returns db u sent db') :
    SameAwaited db db' ∧ db' purchaseOrders = db purchaseOrders := by
  refine forEach_preserves (fun s s' => SameAwaited s s' ∧ s' purchaseOrders = s purchaseOrders)
    (fun s => ⟨fun _ _ => Iff.rfl, rfl⟩) ?_ ?_ returns
  · exact fun first second => ⟨first.1.trans second.1, second.2.trans first.2⟩
  · intro plan member s sent s' settles
    simp only [settlePlan, returns_bind_query, returns_updateRow] at settles
    obtain ⟨⟨row, found, guarded⟩, -, rfl⟩ := settles
    simp only [Bool.and_eq_true, beq_iff_eq] at guarded
    refine ⟨?_, Store.put_other _ _ (by decide)⟩
    apply sameAwaited_modifyPlan found _ _ (Store.put_same _ _ _) (Store.put_other _ _ (by decide))
    · apply not_awaiting_of_orderable
      rw [guarded.1]
      exact orderable plan member
    · dsimp only [awaiting]
      split <;> simp

theorem mem_withPlan {items : List PreparedItem} {plans : List (Nat × PurchasePlan)}
    {plan : Nat × PurchasePlan} (member : plan ∈ items.foldl withPlan plans) :
    plan ∈ plans ∨ ∃ item ∈ items, plan.2 = item.plan := by
  induction items generalizing plans with
  | nil => exact Or.inl member
  | cons head tail ih =>
      rcases ih member with before | ⟨item, listed, same⟩
      · unfold withPlan at before
        split at before
        · exact Or.inl before
        · rcases List.mem_append.mp before with known | new
          · exact Or.inl known
          · obtain rfl := List.mem_singleton.mp new
            exact Or.inr ⟨head, List.mem_cons_self, rfl⟩
      · exact Or.inr ⟨item, List.mem_cons_of_mem _ listed, same⟩

theorem deviationsOf_eq_nil {items : List PreparedItem} :
    deviationsOf items = [] ↔ items.any (·.outside) = false := by
  simp [deviationsOf, List.filter_eq_nil_iff]

theorem createPurchaseOrder_attends {body : CreatePurchaseOrder} {reply : JsonValue}
    {sent : List String} (returns : (createPurchaseOrder command body).Returns db reply sent db') :
    Attends db db' := by
  simp only [createPurchaseOrder, returns_bind_refuseIf, returns_bind_text,
    returns_bind_date] at returns
  obtain ⟨-, -, -, -, -, returns⟩ := returns
  rw [returns_bind_of_reads (obeys_optionalText : Obeys idle _).obeyed] at returns
  obtain ⟨sourceFileKey, -, returns⟩ := returns
  rw [returns_bind_of_reads (obeys_requireSourceFile : Obeys idle _).obeyed] at returns
  obtain ⟨_, -, returns⟩ := returns
  simp only [returns_bind_query, returns_bind_refuseIf] at returns
  obtain ⟨-, -, returns⟩ := returns
  rw [returns_bind_of_reads (prepareItems_obeys : Obeys idle _).obeyed] at returns
  obtain ⟨prepared, prepares, returns⟩ := returns
  obtain ⟨-, checked⟩ := prepareItems_returns prepares
  simp only [returns_bind_refuseIf, returns_bind_insertUnique] at returns
  obtain ⟨-, -, returns⟩ := returns
  obtain ⟨_, _, allocated, _, allocates, rest, rfl⟩ := returns_bind.mp returns
  obtain ⟨_, _, settled, _, settles, more, rfl⟩ := returns_bind.mp rest
  obtain ⟨approvalId, _, asked, _, asks, last, rfl⟩ := returns_bind.mp more
  have unallocated := (returns_widen.mp allocates).unwritten
  have unsettled := (returns_widen.mp settles).unwritten
  obtain ⟨-, others⟩ := requestDeviation_returns asks
  have orderable : ∀ plan ∈ affectedPlans prepared,
      plan.2.status = .confirmed ∨ plan.2.status = .ordering := by
    intro plan member
    rcases mem_withPlan member with none | ⟨item, listed, same⟩
    · cases none
    · rw [same]
      exact (checked item listed).orderable
  obtain ⟨settledSame, settledOrders⟩ := settlePlans_same orderable (returns_widen.mp settles)
  -- up to the reminder, a plan is awaited as before, and an order unless it is the new one
  have awaited : ∀ type id, Awaited asked type id ↔ Awaited db type id ∨
      (type = .purchaseOrderConfirmation ∧ id = (db purchaseOrders).nextId ∧
        deviationsOf prepared = []) := by
    intro type id
    cases type with
    | purchasePlanConfirmation =>
        have plans := settledSame .purchasePlanConfirmation id
        rw [Awaited, Awaited, unallocated _ (by decide), Store.put_other _ _ (by decide)] at plans
        rw [Awaited, others _ (by decide) (by decide), plans, Awaited]
        simp
    | purchaseOrderConfirmation =>
        rw [Awaited, others _ (by decide) (by decide), settledOrders, unallocated _ (by decide),
          Store.put_same, Table.holds_insert, deviationsOf_eq_nil, Awaited]
        cases prepared.any (·.outside) <;> simp [confirming]
  have reminders : asked reminderSchedules = db reminderSchedules := by
    rw [others _ (by decide) (by decide), unsettled _ (by decide), unallocated _ (by decide),
      Store.put_other _ _ (by decide)]
  rcases returns_ite.mp asks with ⟨within, done⟩ | ⟨outside, asks⟩
  · obtain ⟨rfl, -, -⟩ := returns_pure.mp done
    simp only [createReminder, returns_bind_insertRow] at last
    obtain ⟨_, _, _, _, notifies, done, rfl⟩ := returns_bind.mp last
    obtain ⟨-, -, rfl⟩ := returns_send.mp notifies
    obtain ⟨-, -, rfl⟩ := returns_pure.mp done
    refine @Attends.begun _ _ .purchaseOrderConfirmation _ Table.not_holds_nextId
      (fun type id => ?_) ?_
    · have apart : SameAwaited asked (asked.put reminderSchedules
          ((asked reminderSchedules).insert ⟨.purchaseOrderConfirmation,
            (db purchaseOrders).nextId, trim body.orderNo, command.clock + day, true⟩)) :=
        sameAwaited_of_tables (Store.put_other _ _ (by decide)) (Store.put_other _ _ (by decide))
      rw [apart type id, awaited]
      simp [within]
    · rw [Store.put_same, reminders]
      exact ⟨_, _, rfl⟩
  · obtain ⟨_, _, _, _, -, named, -⟩ := returns_bind.mp asks
    obtain ⟨rfl, -, -⟩ := returns_pure.mp named
    obtain ⟨_, _, _, _, notifies, done, rfl⟩ := returns_bind.mp last
    obtain rfl := approvalNotification_returns notifies
    obtain ⟨-, -, rfl⟩ := returns_pure.mp done
    refine Attends.kept (fun type id => ?_) reminders
    rw [awaited]
    simp [outside]

/-! ## The decisions -/

theorem applyPlanVersion_attends {u : Unit} {sent : List DomainEvent}
    (returns : (applyPlanVersion context approval decision).Returns db u sent db') :
    Attends db db' := by
  obtain ⟨_, _, mid, _, updates, reminds, rfl⟩ := returns_bind.mp returns
  obtain ⟨⟨plan, found, guarded⟩, -, rfl⟩ := returns_updateRow.mp updates
  have before : ¬ awaiting plan := by
    rw [awaiting, beq_iff_eq.mp guarded]
    intro same
    cases same
  rcases returns_whenever.mp reminds with ⟨approved, reminded⟩ | ⟨rejected, -, rfl⟩
  · obtain ⟨-, rfl⟩ := returns_insertRow.mp reminded
    refine @Attends.begun _ _ .purchasePlanConfirmation approval.entityId ?_
      (fun type id => ?_) ?_
    · rintro ⟨row, there, awaits⟩
      obtain rfl := Option.some.inj (found.symm.trans there)
      exact before awaits
    · cases type with
      | purchasePlanConfirmation =>
          rw [Awaited, Awaited, Store.put_other _ _ (by decide), Store.put_same,
            Table.holds_modify found]
          by_cases own : id = approval.entityId
          · simp [own, approved, awaiting]
          · simp [own]
      | purchaseOrderConfirmation =>
          rw [Awaited, Awaited, Store.put_other _ _ (by decide), Store.put_other _ _ (by decide)]
          simp
    · rw [Store.put_same, Store.put_other _ _ (by decide)]
      exact ⟨_, _, rfl⟩
  · refine Attends.kept ?_ (Store.put_other _ _ (by decide))
    apply sameAwaited_modifyPlan found before _ (Store.put_same _ _ _)
      (Store.put_other _ _ (by decide))
    simp [awaiting, rejected]

theorem decideOrder_attends {id : Nat} {u : Unit} {sent : List DomainEvent}
    (returns : (decideOrder context id decision).Returns db u sent db') : Attends db db' := by
  simp only [decideOrder, returns_bind_select, returns_bind_orThrow, returns_bind_refuseIf,
    returns_bind_updateRow] at returns
  obtain ⟨order, found, pending, -, reminds⟩ := returns
  have before : ¬ confirming order := by
    rw [confirming, not_not.mp pending]
    intro same
    cases same
  rcases returns_whenever.mp reminds with ⟨approved, reminded⟩ | ⟨rejected, -, rfl⟩
  · obtain ⟨-, rfl⟩ := returns_insertRow.mp reminded
    refine @Attends.begun _ _ .purchaseOrderConfirmation id ?_ (fun type key => ?_) ?_
    · rintro ⟨row, there, confirms⟩
      obtain rfl := Option.some.inj (found.symm.trans there)
      exact before confirms
    · cases type with
      | purchasePlanConfirmation =>
          rw [Awaited, Awaited, Store.put_other _ _ (by decide), Store.put_other _ _ (by decide)]
          simp
      | purchaseOrderConfirmation =>
          rw [Awaited, Awaited, Store.put_other _ _ (by decide), Store.put_same,
            Table.holds_modify found]
          by_cases own : key = id
          · simp [own, approved, confirming]
          · simp [own]
    · rw [Store.put_same, Store.put_other _ _ (by decide)]
      exact ⟨_, _, rfl⟩
  · refine Attends.kept ?_ (Store.put_other _ _ (by decide))
    apply sameAwaited_modifyOrder found before _ (Store.put_same _ _ _)
      (Store.put_other _ _ (by decide))
    simp [confirming, rejected]

/-- The recomputed plans were ordered from, and still are or are complete. -/
theorem decidePlans_same {ids : List Nat} {u : Unit} {sent : List DomainEvent}
    (returns : (forEach (decidePlan context) ids).Returns db u sent db') : SameAwaited db db' := by
  refine forEach_preserves SameAwaited (fun s type id => Iff.rfl) SameAwaited.trans ?_ returns
  intro id member s sent s' decides
  simp only [decidePlan, returns_bind_query, returns_bind_select, returns_bind_orThrow,
    returns_bind_refuseIf, returns_updateRow] at decides
  obtain ⟨plan, found, ordering, -, -, rfl⟩ := decides
  apply sameAwaited_modifyPlan found _ _ (Store.put_same _ _ _) (Store.put_other _ _ (by decide))
  · exact not_awaiting_of_orderable (Or.inr (not_not.mp ordering))
  · dsimp only [awaiting]
    split <;> simp

theorem Attends.sameAwaited {mid : Database} (first : Attends db mid) (later : SameAwaited mid db')
    (reminders : db' reminderSchedules = mid reminderSchedules) : Attends db db' := by
  cases first with
  | kept awaited same => exact Attends.kept (awaited.trans later) (reminders.trans same)
  | begun before awaited created =>
      refine Attends.begun before ?_ (reminders ▸ created)
      intro other key
      rw [later, awaited]

theorem applyPlanDeviation_attends {u : Unit} {sent : List DomainEvent}
    (returns : (applyPlanDeviation context approval decision).Returns db u sent db') :
    Attends db db' := by
  obtain ⟨entries, _, read, _, reads, rest, rfl⟩ := returns_bind.mp returns
  have same : read = db := by
    unfold deviationEntries at reads
    split at reads
    · exact (returns_pure.mp reads).2.2
    · exact (returns_fail.mp reads).elim
  subst same
  obtain ⟨planIds, _, marked, _, marks, more, rfl⟩ := returns_bind.mp rest
  have unmarked := (returns_widen.mp marks).unwritten
  obtain ⟨_, _, ordered, _, orders, last, rfl⟩ := returns_bind.mp more
  have before : SameAwaited read marked :=
    sameAwaited_of_tables (unmarked _ (by decide)) (unmarked _ (by decide))
  have plans := decidePlans_same (returns_widen.mp last)
  have unreminded := (returns_widen.mp last).unwritten reminderSchedules (by decide)
  apply before.attends (unmarked _ (by decide))
  rcases returns_whenever.mp orders with ⟨-, decided⟩ | ⟨-, -, rfl⟩
  · exact (decideOrder_attends (returns_widen.mp decided)).sameAwaited plans unreminded
  · exact Attends.kept plans unreminded

/-! ## Steps -/

/-- The event is the answer of a factory, about a plan or about an order. -/
def answers : SupplyEvent → Bool
  | .supply ⟨_, .updatePurchasePlan ⟨_, _, .answer _⟩⟩ => true
  | .supply ⟨_, .updatePurchaseOrder _⟩ => true
  | _ => false

def exceptionWorkflows : List String :=
  ["purchase_plan_factory_exception", "purchase_order_factory_exception"]

/-- No exception of a factory waits for its decision. -/
def NoExceptions (db : Database) : Prop :=
  ∀ id row, (db approvalRequests).find? id = some row → row.status = .pending →
    ∀ name ∈ exceptionWorkflows, row.workflowType ≠ .procurement name

theorem attends_of_unwritten {writes : List TableName} (unwritten : ∀ t, t ∉ writes → db' t = db t)
    (apart : ∀ t ∈ [purchasePlans, purchaseOrders, reminderSchedules], t ∉ writes) :
    Attends db db' :=
  Attends.kept
    (sameAwaited_of_tables (unwritten _ (apart _ (by decide))) (unwritten _ (apart _ (by decide))))
    (unwritten _ (apart _ (by decide)))

theorem ran_attends {name : String} (named : name ∉ exceptionWorkflows)
    (ran : Ran context approval decision db db' name) : Attends db db' := by
  cases ran with
  | planVersion returns => exact applyPlanVersion_attends returns
  | planDeviation returns => exact applyPlanDeviation_attends returns
  | planException => exact absurd (by decide) named
  | orderException => exact absurd (by decide) named
  | unknown other same =>
      subst same
      exact Attends.kept (fun _ _ => Iff.rfl) rfl
  | _ =>
      rename_i returns
      exact attends_of_unwritten returns.unwritten (by decide)

theorem applied_attends {body : Approvals.DecideApproval} {name : String} (quiet : NoExceptions db)
    (applied : Applied context body name approval db db') : Attends db db' := by
  obtain ⟨claimed, mid, after, same, before, ran, last⟩ := applied.effect
  have named : name ∉ exceptionWorkflows := by
    intro listed
    exact quiet _ _ applied.found applied.pending name listed applied.workflow
  have first : SameAwaited db mid :=
    sameAwaited_of_tables (before _ (by decide) (by decide)) (before _ (by decide) (by decide))
  have final : SameAwaited after db' :=
    sameAwaited_of_tables (last _ (by decide)) (last _ (by decide))
  apply first.attends (before _ (by decide) (by decide))
  exact (ran_attends named ran).sameAwaited final (last _ (by decide))

theorem runSupply_attends {request : SupplyRequest} {reply : JsonValue} {sent : List String}
    (returns : (runSupply request).Returns db reply sent db') :
    if answers (.supply request) then Ends db db' else Attends db db' := by
  obtain ⟨command, body⟩ := request
  unfold runSupply at returns
  cases body with
  | createPurchasePlan body => exact createPurchasePlan_attends (returns_widen.mp returns)
  | createPurchaseOrder body => exact createPurchaseOrder_attends (returns_widen.mp returns)
  | updatePurchaseOrder body => exact updatePurchaseOrder_ends (returns_widen.mp returns)
  | updatePurchasePlan body =>
      obtain ⟨id, expectedUpdatedAt, action⟩ := body
      cases action with
      | finalizeOrdering => exact updatePurchasePlan_attends rfl (returns_widen.mp returns)
      | answer answer => exact updatePurchasePlan_ends rfl (returns_widen.mp returns)
  | _ => exact attends_of_unwritten (returns_widen.mp returns).unwritten (by decide)

/-- Nothing but the modelled commands and effects creates a reminder. -/
def CreatesNone (db : Database) (event : SupplyEvent) (db' : Database) : Prop :=
  match event with
  | .elsewhere => db' reminderSchedules = db reminderSchedules
  | _ => True

theorem work_attends (work : SupplyWork db event db') (quiet : NoExceptions db)
    (creates : CreatesNone db event db') :
    if answers event then Ends db db' else Attends db db' := by
  cases work with
  | supply returns => exact runSupply_attends returns
  | elsewhere own =>
      exact Attends.kept (sameAwaited_of_tables (own _ (by decide)) (own _ (by decide))) creates
  | operations own work =>
      cases work with
      | @command _ request reply sent returns =>
          obtain ⟨command, body⟩ := request
          unfold runCommand at returns
          cases body with
          | decideApproval body =>
              obtain ⟨-, approval, mid, decided⟩ :=
                Approvals.decideApproval_returns (returns_widen.mp returns)
              cases named : approval.workflowType with
              | procurement name => exact applied_attends quiet (decideApproval_applied decided named)
              | _ =>
                  obtain ⟨outcome, effect⟩ := decided.effect
                  have same := decided.kept
                  unfold Approvals.approvalEffect at effect
                  simp only [named, returns_widen] at effect
                  have unwritten := effect.unwritten
                  apply Attends.kept
                  · exact sameAwaited_of_tables (by simp [unwritten, same])
                      (by simp [unwritten, same])
                  · simp [unwritten, same]
          | _ => exact attends_of_unwritten (returns_widen.mp returns).unwritten (by decide)
      | warnInvoiceRisk warned => exact attends_of_unwritten warned.unwritten (by decide)
      | procurement => exact own.elim
      | approvalRequest =>
          exact Attends.kept (sameAwaited_of_tables (Store.put_other _ _ (by decide))
            (Store.put_other _ _ (by decide))) (Store.put_other _ _ (by decide))
      | outboxMessage => exact Attends.kept (fun _ _ => Iff.rfl) rfl

theorem work_noExceptions (work : SupplyWork db event db') (silent : answers event = false)
    (quiet : NoExceptions db) : NoExceptions db' := by
  intro id row found pending name listed named
  rcases work_pendingKept work id row found pending with old | requested
  · exact quiet id row old pending name listed named
  · have member := requested name named
    cases work with
    | operations own work =>
        rw [requestedBy_unsupplied rfl name member] at listed
        exact absurd listed (by decide)
    | elsewhere => cases member
    | @supply _ request _ _ returns =>
        obtain ⟨command, body⟩ := request
        cases body with
        | updatePurchaseOrder => cases silent
        | updatePurchasePlan body =>
            obtain ⟨planId, expectedUpdatedAt, action⟩ := body
            cases action with
            | answer => cases silent
            | finalizeOrdering =>
                -- the end of ordering asks for no more than a deviation
                unfold runSupply at returns
                cases updatePurchasePlan_returns (returns_widen.mp returns) with
                | answered action => cases action
                | finalized _ finalized =>
                    rw [finalized.requests] at found
                    split at found
                    · exact quiet id row found pending name listed named
                    · rcases Table.find?_insert_cases found with ⟨-, rfl⟩ | old
                      · cases named
                        exact absurd listed (by decide)
                      · exact quiet id row old pending name listed named
        | _ =>
            obtain rfl := List.mem_singleton.mp member
            exact absurd listed (by decide)

end SupplyChain.Procurement
