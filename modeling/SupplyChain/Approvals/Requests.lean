import SupplyChain.Operations
import SupplyChain.Platform.Frames
import SupplyChain.Inventory.Outcomes
import SupplyChain.Shipments.Outcomes
import SupplyChain.ProductionOrders.Outcomes
import SupplyChain.Finance.Outcomes
import SupplyChain.Approvals.Outcomes

/-!
The approval requests: every command but a decision only adds requests, and a
request that is decided stays so.
-/

namespace SupplyChain.Approvals

open Relational Transaction TableName

variable {effects : ProcurementEffects} {command : CommandContext} {db db' : Database}
  {event : Event} {reply : JsonValue} {sent : List DomainEvent}

abbrev addsRequests : Law (Table ApprovalRequest) := Law.adds ApprovalRequest

/-- The requests of the operations commands, none of which is a procurement
workflow. -/
abbrev gainsOwn : Law (Table ApprovalRequest) :=
  Law.gains fun row => ∀ name, row.workflowType ≠ .procurement name

theorem insertApproval_gains {writes : List TableName} [Writes approvalRequests writes]
    {requestNo entityType : String} {workflow : Workflow} {entityId : Nat} {payload : JsonValue}
    {highRisk : Bool} (own : ∀ name, workflow ≠ .procurement name) :
    Obeys (onTable approvalRequests gainsOwn)
      (insertApproval command requestNo workflow entityType entityId payload highRisk :
        Tx writes Nat) :=
  keeps_insertApproval fun table => Law.gains_insert table own

theorem requestTransfer_gains {body : Inventory.RequestTransfer} :
    Obeys (onTable approvalRequests gainsOwn) (Inventory.requestTransfer command body) := by
  constructor
  intro db reply sent db' returns
  obtain ⟨-, -, -, _, _, inserted⟩ := Inventory.requestTransfer_returns returns
  change gainsOwn.allows (db approvalRequests) (db' approvalRequests)
  rw [inserted]
  apply Law.gains_insert
  intro name own
  cases own

theorem completeOrder_gains {id version : Nat} {order : ExecutionOrder} {sku : String}
    {actual : Int} {deviates : Bool} :
    Obeys (onTable approvalRequests gainsOwn)
      (ProductionOrders.completeOrder command id order sku actual deviates version) := by
  refine obeys_bind obeys_refuseIf fun _ => obeys_bind obeys_integer fun quantity => ?_
  refine obeys_bind obeys_query fun skuRow => ?_
  refine obeys_bind (obeys_insertInto (onTable_free (by decide))) fun reportId => ?_
  refine obeys_bind (obeys_updateRow (onTable_free (by decide))) fun _ => ?_
  refine obeys_bind (obeys_ite (fun _ => obeys_widen ?_) fun _ => ?_) fun approvalId => ?_
  · refine obeys_bind (insertApproval_gains ?_) fun _ => obeys_pure
    intro name own
    cases own
  · exact obeys_widen (keeps_unwritten (by decide))
  · refine obeys_bind (obeys_bumpVersion (onTable_free (by decide))) fun _ => ?_
    exact obeys_bind keeps_domainEvent fun _ => obeys_pure

theorem transitionProductionOrder_gains {body : ProductionOrders.TransitionProductionOrder} :
    Obeys (onTable approvalRequests gainsOwn)
      (ProductionOrders.transitionProductionOrder command body) := by
  refine obeys_bind obeys_requireRole fun _ => obeys_bind obeys_identifier fun id => ?_
  refine obeys_bind obeys_query fun found => obeys_bind obeys_orThrow fun current => ?_
  obtain ⟨order, sku⟩ := current
  refine obeys_bind obeys_refuseIf fun _ => ?_
  refine obeys_bind (obeys_lockVersion (onTable_free (by decide))) fun version => ?_
  cases body.action with
  | releaseMaterials =>
      refine obeys_bind obeys_refuseIf fun _ => ?_
      refine obeys_bind (obeys_widen (keeps_unwritten (by decide))) fun released => ?_
      refine obeys_bind (obeys_bumpVersion (onTable_free (by decide))) fun _ => ?_
      exact obeys_bind keeps_domainEvent fun _ => obeys_pure
  | start =>
      refine obeys_bind (obeys_updateRow (onTable_free (by decide))) fun _ => ?_
      refine obeys_bind (obeys_bumpVersion (onTable_free (by decide))) fun _ => ?_
      exact obeys_bind keeps_domainEvent fun _ => obeys_pure
  | materials lines =>
      refine obeys_bind (obeys_widen (keeps_unwritten (by decide))) fun deviates => ?_
      refine obeys_bind (obeys_bumpVersion (onTable_free (by decide))) fun _ => ?_
      exact obeys_bind keeps_domainEvent fun _ => obeys_pure
  | complete actual lines =>
      refine obeys_bind (obeys_widen (keeps_unwritten (by decide))) fun deviates => ?_
      exact obeys_widen completeOrder_gains

theorem requestDeviation_gains {id version : Nat} {current : Shipments.ShipmentRow}
    {reason : Option String} {shippedAt : String} :
    Obeys (onTable approvalRequests gainsOwn)
      (Shipments.requestDeviation command id current version reason shippedAt) := by
  refine obeys_bind obeys_string fun _ => obeys_bind obeys_query fun existing => ?_
  refine obeys_bind (obeys_widen ?_) fun approvalId => ?_
  · unfold Shipments.deviationApproval
    split
    · exact obeys_pure
    · apply insertApproval_gains
      intro name own
      cases own
  · refine obeys_bind (obeys_updateWhere (onTable_free (by decide))) fun _ => ?_
    refine obeys_bind (obeys_bumpVersion (onTable_free (by decide))) fun _ => ?_
    exact obeys_bind keeps_domainEvent fun _ => obeys_pure

theorem shipShipment_gains {id version : Nat} {current : Shipments.ShipmentRow}
    {body : Shipments.ShipShipment} :
    Obeys (onTable approvalRequests gainsOwn)
      (Shipments.shipShipment command id current version body) := by
  refine obeys_bind obeys_requireRole fun _ => obeys_bind obeys_refuseIf fun _ => ?_
  refine obeys_bind obeys_refuseIf fun _ => obeys_bind obeys_string fun shippedAt => ?_
  refine obeys_bind obeys_string fun carrier => obeys_bind obeys_string fun logisticsNo => ?_
  refine obeys_bind obeys_identifier fun fileId => obeys_bind obeys_requireCleanFile fun file => ?_
  refine obeys_ite (fun _ => obeys_widen requestDeviation_gains) fun _ => ?_
  refine obeys_bind (obeys_widen (keeps_unwritten (by decide))) fun _ => ?_
  refine obeys_bind obeys_optionalString fun fileName => ?_
  refine obeys_bind (obeys_insertRow (onTable_free (by decide))) fun _ => ?_
  refine obeys_bind (obeys_bumpVersion (onTable_free (by decide))) fun _ => ?_
  refine obeys_bind keeps_domainEvent fun _ => ?_
  exact obeys_bind keeps_domainEvent fun _ => obeys_pure

theorem shipmentCommand_gains {body : Shipments.ShipmentCommand} :
    Obeys (onTable approvalRequests gainsOwn) (Shipments.shipmentCommand command body) := by
  have current : ∀ id, Obeys (onTable approvalRequests gainsOwn)
      (Shipments.requireShipmentRow id : Tx [resourceVersions, deliveryBatches, approvalRequests,
        inventoryBatches, inventoryMovements, shipmentEvidence, shipmentReceipts,
        logisticsExceptions] _) :=
    fun id => obeys_bind obeys_query fun _ => obeys_orThrow
  unfold Shipments.shipmentCommand
  cases body with
  | create shipment => exact obeys_widen (keeps_unwritten (by decide))
  | resolveException exceptionId resolution => exact obeys_widen (keeps_unwritten (by decide))
  | confirm deliveryBatchId =>
      refine obeys_bind obeys_identifier fun id => obeys_bind (current id) fun row => ?_
      refine obeys_bind (obeys_lockVersion (onTable_free (by decide))) fun version => ?_
      exact obeys_widen (keeps_unwritten (by decide))
  | ship shipment =>
      refine obeys_bind obeys_identifier fun id => obeys_bind (current id) fun row => ?_
      refine obeys_bind (obeys_lockVersion (onTable_free (by decide))) fun version => ?_
      exact obeys_widen shipShipment_gains
  | receive receipt =>
      refine obeys_bind obeys_identifier fun id => obeys_bind (current id) fun row => ?_
      refine obeys_bind (obeys_lockVersion (onTable_free (by decide))) fun version => ?_
      exact obeys_widen (keeps_unwritten (by decide))

theorem financeCommand_gains {body : Finance.FinanceCommand} :
    Obeys (onTable approvalRequests gainsOwn) (Finance.financeCommand command body) := by
  unfold Finance.financeCommand
  cases body with
  | requestRecordCorrection correction =>
      constructor
      intro db reply sent db' returns
      rw [returns_widen] at returns
      obtain ⟨approval, inserted, -, own, -⟩ := Finance.requestRecordCorrection_returns returns
      change gainsOwn.allows (db approvalRequests) (db' approvalRequests)
      rw [inserted]
      apply Law.gains_insert
      intro name other
      rw [own] at other
      cases other
  | _ => exact obeys_widen (keeps_unwritten (by decide))

theorem warehouseCommand_gains {body : Warehouses.WarehouseCommand} :
    Obeys (onTable approvalRequests gainsOwn) (Warehouses.warehouseCommand command body) := by
  refine obeys_bind obeys_requireRole fun _ => ?_
  cases body with
  | create warehouse => exact obeys_widen (keeps_unwritten (by decide))
  | requestMerge merge =>
      refine obeys_bind obeys_identifier fun id => ?_
      refine obeys_bind obeys_select fun found => obeys_bind obeys_orThrow fun warehouse => ?_
      refine obeys_bind (obeys_lockVersion (onTable_free (by decide))) fun version => obeys_widen ?_
      refine obeys_bind obeys_refuseIf fun _ => obeys_bind obeys_identifier fun targetId => ?_
      refine obeys_bind obeys_string fun reason => obeys_bind obeys_refuseIf fun _ => ?_
      refine obeys_bind obeys_select fun other => obeys_bind obeys_orThrow fun target => ?_
      refine obeys_bind obeys_refuseIf fun _ => obeys_bind (insertApproval_gains ?_) fun _ => ?_
      · intro name own
        cases own
      · exact obeys_bind keeps_domainEvent fun _ => obeys_pure
  | deactivate key =>
      refine obeys_bind obeys_identifier fun id => ?_
      refine obeys_bind obeys_select fun found => obeys_bind obeys_orThrow fun warehouse => ?_
      refine obeys_bind (obeys_lockVersion (onTable_free (by decide))) fun version => ?_
      exact obeys_widen (keeps_unwritten (by decide))

theorem transitionStocktake_gains {body : Stocktakes.TransitionStocktake} :
    Obeys (onTable approvalRequests gainsOwn)
      (Stocktakes.transitionStocktake command body) := by
  refine obeys_bind obeys_requireRole fun _ => obeys_bind obeys_identifier fun id => ?_
  refine obeys_bind obeys_select fun found => obeys_bind obeys_orThrow fun task => ?_
  refine obeys_bind (obeys_lockWarehouseFreeze (onTable_free (by decide))) fun _ => ?_
  refine obeys_bind obeys_requireWarehouseScope fun _ => obeys_bind obeys_refuseIf fun _ => ?_
  refine obeys_bind (obeys_lockVersion (onTable_free (by decide))) fun version => ?_
  cases body.action with
  | submitCount count => exact obeys_widen (keeps_unwritten (by decide))
  | finishRound estimates =>
      refine obeys_widen ?_
      refine obeys_bind obeys_requireRole fun _ => obeys_bind obeys_refuseIf fun _ => ?_
      refine obeys_bind obeys_query fun counts => obeys_bind obeys_refuseIf fun _ => ?_
      refine obeys_bind obeys_refuseIf fun _ => ?_
      refine obeys_ite (fun _ => obeys_widen (keeps_unwritten (by decide))) fun _ => ?_
      refine obeys_ite (fun _ => obeys_widen (keeps_unwritten (by decide))) fun _ => ?_
      refine obeys_bind (obeys_widen (keeps_unwritten (by decide))) fun _ => ?_
      refine obeys_bind (insertApproval_gains ?_) fun approvalId => ?_
      · intro name own
        cases own
      · refine obeys_bind (obeys_updateWhere (onTable_free (by decide))) fun _ => ?_
        refine obeys_bind (obeys_bumpVersion (onTable_free (by decide))) fun _ => ?_
        exact obeys_bind keeps_domainEvent fun _ => obeys_pure

/-- Every command but a decision only adds requests, of its own workflows. -/
theorem runCommand_gains {request : Request}
    (other : ∀ body, request.body ≠ .decideApproval body) :
    Obeys (onTable approvalRequests gainsOwn) (runCommand effects request) := by
  obtain ⟨command, body⟩ := request
  unfold runCommand
  cases body with
  | decideApproval body => exact absurd rfl (other body)
  | requestTransfer body => exact obeys_widen requestTransfer_gains
  | transitionProductionOrder body => exact obeys_widen transitionProductionOrder_gains
  | transitionStocktake body => exact obeys_widen transitionStocktake_gains
  | shipmentCommand body => exact obeys_widen shipmentCommand_gains
  | financeCommand body => exact obeys_widen financeCommand_gains
  | warehouseCommand body => exact obeys_widen warehouseCommand_gains
  | _ => exact obeys_widen (keeps_unwritten (by decide))

theorem runCommand_adds {request : Request}
    (other : ∀ body, request.body ≠ .decideApproval body)
    (returns : (runCommand effects request).Returns db reply sent db') :
    addsRequests.allows (db approvalRequests) (db' approvalRequests) :=
  ((runCommand_gains other).obeyed returns).1

end SupplyChain.Approvals
