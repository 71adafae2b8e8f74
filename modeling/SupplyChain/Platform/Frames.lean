import SupplyChain.Relational.Frames
import SupplyChain.Stock

/-!
The helpers of the commands under a contract: a check keeps every contract, and
a helper that writes keeps those that leave its tables free.
-/

namespace SupplyChain

open Relational Transaction TableName

variable {writes : List TableName} {t : TableName} {contract : Contract Row DomainEvent}

/-! ## Checks -/

theorem obeys_requireRole {access : AccessContext} {roles : List Role} :
    Obeys contract (requireRole access roles : Tx writes Unit) :=
  obeys_refuseIf

theorem obeys_integer {value minimum : Int} {name : String} :
    Obeys contract (integer value name minimum : Tx writes Int) :=
  obeys_bind obeys_refuseIf fun _ => obeys_pure

theorem obeys_identifier {value : Nat} {name : String} :
    Obeys contract (identifier value name : Tx writes Nat) :=
  obeys_bind obeys_refuseIf fun _ => obeys_pure

theorem obeys_string {value name : String} {maximum : Nat} :
    Obeys contract (string value name maximum : Tx writes String) :=
  obeys_bind obeys_refuseIf fun _ => obeys_pure

theorem obeys_optionalString {value : Option String} {maximum : Nat} :
    Obeys contract (optionalString value maximum : Tx writes String) :=
  obeys_bind obeys_refuseIf fun _ => obeys_pure

theorem obeys_requireWarehouseScope {access : AccessContext} {warehouseId : Nat} :
    Obeys contract (requireWarehouseScope access warehouseId : Tx writes Warehouse) := by
  refine obeys_bind obeys_select fun found => obeys_bind obeys_orThrow fun warehouse => ?_
  exact obeys_bind obeys_refuseIf fun _ => obeys_pure

theorem obeys_requireCleanFile {access : AccessContext} {fileId : Nat} {category entityType : String}
    {entityId : Nat} :
    Obeys contract (requireCleanFile access fileId category entityType entityId :
      Tx writes FileObject) := by
  refine obeys_bind obeys_select fun found => obeys_bind obeys_orThrow fun file => ?_
  refine obeys_bind obeys_refuseIf fun _ => obeys_bind obeys_refuseIf fun _ => ?_
  exact obeys_bind obeys_refuseIf fun _ => obeys_pure

theorem obeys_domainEvent {type : EventType} {aggregateType : AggregateType} {aggregateId : Nat}
    {suffix : Option String}
    (allowed : ∀ db, contract.allows db [⟨type, aggregateType, aggregateId, suffix⟩] db) :
    Obeys contract (domainEvent type aggregateType aggregateId suffix : Tx writes Unit) :=
  obeys_send allowed

/-! ## Versions -/

theorem obeys_lockVersion [Writes resourceVersions writes] {resourceType : String}
    {resourceId : Nat} (free : Free contract resourceVersions) :
    Obeys contract (lockVersion resourceType resourceId : Tx writes Nat) := by
  refine obeys_bind obeys_query fun known => ?_
  refine obeys_bind (obeys_whenever (obeys_insertRow free)) fun _ => ?_
  refine obeys_bind obeys_query fun rows => obeys_bind obeys_orThrow fun version => ?_
  exact obeys_bind obeys_refuseIf fun _ => obeys_pure

theorem obeys_bumpVersion [Writes resourceVersions writes] {resourceType : String}
    {resourceId version : Nat} (free : Free contract resourceVersions) :
    Obeys contract (bumpVersion resourceType resourceId version : Tx writes Nat) := by
  refine obeys_bind obeys_query fun matched => obeys_bind obeys_refuseIf fun _ => ?_
  exact obeys_bind (obeys_updateWhere free) fun _ => obeys_pure

theorem obeys_lockWarehouseFreeze [Writes resourceVersions writes] {warehouseId : Nat}
    (free : Free contract resourceVersions) :
    Obeys contract (lockWarehouseFreeze warehouseId : Tx writes Unit) :=
  obeys_bind (obeys_lockVersion free) fun _ => obeys_pure

/-! ## A law of one table -/

variable {law : Law (Table (Row t))}

theorem keeps_domainEvent {type : EventType} {aggregateType : AggregateType} {aggregateId : Nat}
    {suffix : Option String} :
    Obeys (onTable t law)
      (domainEvent type aggregateType aggregateId suffix : Tx writes Unit) :=
  obeys_domainEvent fun _ => law.refl _

theorem keeps_insertApproval [Writes approvalRequests writes] {command : CommandContext}
    {requestNo entityType : String} {workflow : Workflow} {entityId : Nat} {payload : JsonValue}
    {highRisk : Bool} {law : Law (Table ApprovalRequest)}
    (allowed : ∀ table, law.allows table (table.insert
      (pendingApproval command requestNo workflow entityType entityId payload highRisk))) :
    Obeys (onTable approvalRequests law)
      (insertApproval command requestNo workflow entityType entityId payload highRisk :
        Tx writes Nat) :=
  keeps_insertUnique allowed

end SupplyChain
