import SupplyChain.Relational.Transaction

/-!
The tables the operations writers read and write, with the columns that some
statement compares, adds up or returns. Quantities and amounts are integers,
keys are the auto-increment naturals, and a status column is the enumeration
of the values the writers store. Audit columns that no statement reads are
left out.
-/

namespace SupplyChain

open Relational

/-! ## Values of the enumerated columns -/

inductive Role
  | admin | supplyChain | factory | finance | companyQc | supplierQc | receiver | supplyChainLead
  deriving DecidableEq

inductive Ownership
  | company | factory
  deriving DecidableEq

inductive ExpiryStatus
  | normal | yellow | red | expiredFrozen
  deriving DecidableEq

inductive ReservationEntity
  | purchaseOrder | productionOrder | shipmentPlan | historical
  deriving DecidableEq

inductive ReservationStatus
  | active | consumed | released
  deriving DecidableEq

inductive TransferStatus
  | pendingSupplyChain | approved | rejected | shipped | received
  deriving DecidableEq

inductive StocktakeScope
  | fullWarehouse | skuSample | batch
  deriving DecidableEq

inductive StocktakeStatus
  | firstCount | recount | pendingApproval | completed
  deriving DecidableEq

inductive Bucket
  | available | locked | defective | pendingInspection
  deriving DecidableEq

inductive Decision
  | approved | rejected
  deriving DecidableEq

/-- A decision column before and after the decision. -/
inductive DecisionStatus
  | pending | approved | rejected
  deriving DecidableEq

inductive ExecutionStatus
  | planned | inProduction | variancePending | completed | completedFactoryOwned | varianceRejected
  deriving DecidableEq

inductive DeviationStatus
  | withinTolerance | pendingApproval | approved | rejected
  deriving DecidableEq

inductive ReportResult
  | withinTolerance | overproductionQuarantined | underproductionPending
  | approved | rejected | rejectedFactoryOwned
  deriving DecidableEq

inductive InspectionStage
  | incoming | finishedGoods
  deriving DecidableEq

inductive InspectionMethod
  | sampling | full
  deriving DecidableEq

inductive InspectorType
  | companyQc | supplierQc
  deriving DecidableEq

inductive InspectionResult
  | passed | failed | conditional | pendingApproval
  deriving DecidableEq

inductive RuleScope
  | sku | itemType
  deriving DecidableEq

inductive DeliveryStatus
  | pendingFactoryConfirmation | planned | pendingSupplyChain | approvedToShip | deviationRejected
  | shipped | received | receivedWithException | cancelled
  deriving DecidableEq

inductive ExceptionStatus
  | pendingSupplyChain | resolved
  deriving DecidableEq

inductive ReturnStatus
  | quarantined | pendingSupplyChain | restocked | inspection
  deriving DecidableEq

inductive DispositionType
  | restock | rework | scrap
  deriving DecidableEq

inductive WarehouseType
  | factory | company | other
  deriving DecidableEq

inductive WarehouseStatus
  | active | inactive | merged (target : Nat)
  deriving DecidableEq

/-- The workflows of the approval effects of the operations side. The
workflows whose effects the procurement side registers are kept by name. -/
inductive Workflow
  | userRoleChange | warehouseTransfer | warehouseMerge | stocktakeVariance | productionVariance
  | shipmentDeviation | financialRecordCorrection | procurement (name : String)
  deriving DecidableEq

inductive PurchaseOrderStatus
  | pendingApproval | approvalRejected | factoryConfirmation | confirmed | disputed
  deriving DecidableEq

inductive PurchasePlanStatus
  | draft | pendingApproval | awaitingFactoryConfirmation | confirmed | disputed | ordering
  | orderedComplete
  deriving DecidableEq

inductive CompletionStatus
  | notOrdered | withinTolerance | overPlanPending | underPlanPending | exceptionApproved
  deriving DecidableEq

inductive PlanResponseStatus
  | accepted | pendingSupplyChain | approved | rejected
  deriving DecidableEq

inductive RelationStatus
  | pending | active | inactive
  deriving DecidableEq

def RelationStatus.name : RelationStatus → String
  | .pending => "pending"
  | .active => "active"
  | .inactive => "inactive"

inductive ReminderType
  | purchasePlanConfirmation | purchaseOrderConfirmation
  deriving DecidableEq

inductive InvoiceStatus
  | pending | received | verified | rejected | invalidated
  deriving DecidableEq

inductive InvoiceType
  | vatSpecial | vatGeneral | other
  deriving DecidableEq

inductive CoverageMode
  | fullOrder | deliveryBatch
  deriving DecidableEq

inductive VerifierRole
  | supplyChain | finance
  deriving DecidableEq

inductive AllocationStatus
  | active | frozen
  deriving DecidableEq

inductive PaymentRequestStatus
  | waitingInvoice | generated | submittedToFinance | partiallyPaid | paid
  | invoiceExceptionFrozen | failed | cancelled
  deriving DecidableEq

inductive InvoiceExceptionType
  | redInvoice | voided
  deriving DecidableEq

inductive InvoiceExceptionStatus
  | awaitingRemediation | riskWarning | resolved
  deriving DecidableEq

inductive RecordType
  | payment | refund | reversal | correction
  deriving DecidableEq

inductive ReviewStatus
  | notRequired | approved
  deriving DecidableEq

inductive BusinessKeyType
  | payment | refund | correction
  deriving DecidableEq

inductive UserRoleStatus
  | pending | active | revoked
  deriving DecidableEq

/-! ## Names and groups of the enumerated values -/

def StocktakeScope.name : StocktakeScope → String
  | .fullWarehouse => "full_warehouse"
  | .skuSample => "sku_sample"
  | .batch => "batch"

def StocktakeStatus.name : StocktakeStatus → String
  | .firstCount => "first_count"
  | .recount => "recount"
  | .pendingApproval => "pending_approval"
  | .completed => "completed"

def StocktakeStatus.open : StocktakeStatus → Bool
  | .firstCount | .recount | .pendingApproval => true
  | .completed => false

def StocktakeStatus.countable : StocktakeStatus → Bool
  | .firstCount | .recount => true
  | _ => false

def Bucket.name : Bucket → String
  | .available => "available"
  | .locked => "locked"
  | .defective => "defective"
  | .pendingInspection => "pending_inspection"

def Decision.name : Decision → String
  | .approved => "approved"
  | .rejected => "rejected"

def Decision.status : Decision → DecisionStatus
  | .approved => .approved
  | .rejected => .rejected

def ExecutionStatus.name : ExecutionStatus → String
  | .planned => "planned"
  | .inProduction => "in_production"
  | .variancePending => "variance_pending"
  | .completed => "completed"
  | .completedFactoryOwned => "completed_factory_owned"
  | .varianceRejected => "variance_rejected"

/-- An execution order whose materials may still be released or completed. -/
def ExecutionStatus.running : ExecutionStatus → Bool
  | .planned | .inProduction => true
  | _ => false

def DeliveryStatus.dispatchable : DeliveryStatus → Bool
  | .planned | .approvedToShip => true
  | _ => false

def DeliveryStatus.name : DeliveryStatus → String
  | .pendingFactoryConfirmation => "pending_factory_confirmation"
  | .planned => "planned"
  | .pendingSupplyChain => "pending_supply_chain"
  | .approvedToShip => "approved_to_ship"
  | .deviationRejected => "deviation_rejected"
  | .shipped => "shipped"
  | .received => "received"
  | .receivedWithException => "received_with_exception"
  | .cancelled => "cancelled"

def DispositionType.name : DispositionType → String
  | .restock => "restock"
  | .rework => "rework"
  | .scrap => "scrap"

def WarehouseType.name : WarehouseType → String
  | .factory => "factory"
  | .company => "company"
  | .other => "other"

def InspectionStage.name : InspectionStage → String
  | .incoming => "incoming"
  | .finishedGoods => "finished_goods"

def InspectionMethod.name : InspectionMethod → String
  | .sampling => "sampling"
  | .full => "full"

def InspectionResult.name : InspectionResult → String
  | .passed => "passed"
  | .failed => "failed"
  | .conditional => "conditional"
  | .pendingApproval => "pending_approval"

def Workflow.name : Workflow → String
  | .userRoleChange => "user_role_change"
  | .warehouseTransfer => "warehouse_transfer"
  | .warehouseMerge => "warehouse_merge"
  | .stocktakeVariance => "stocktake_variance"
  | .productionVariance => "production_variance"
  | .shipmentDeviation => "shipment_deviation"
  | .financialRecordCorrection => "financial_record_correction"
  | .procurement name => name

def PurchaseOrderStatus.name : PurchaseOrderStatus → String
  | .pendingApproval => "pending_approval"
  | .approvalRejected => "approval_rejected"
  | .factoryConfirmation => "factory_confirmation"
  | .confirmed => "confirmed"
  | .disputed => "disputed"

def PurchasePlanStatus.name : PurchasePlanStatus → String
  | .draft => "draft"
  | .pendingApproval => "pending_approval"
  | .awaitingFactoryConfirmation => "awaiting_factory_confirmation"
  | .confirmed => "confirmed"
  | .disputed => "disputed"
  | .ordering => "ordering"
  | .orderedComplete => "ordered_complete"

/-- An item that keeps its plan from being complete no longer. -/
def CompletionStatus.done : CompletionStatus → Bool
  | .withinTolerance | .exceptionApproved => true
  | _ => false

def VerifierRole.name : VerifierRole → String
  | .supplyChain => "supply_chain"
  | .finance => "finance"

def VerifierRole.role : VerifierRole → Role
  | .supplyChain => .supplyChain
  | .finance => .finance

def InvoiceType.name : InvoiceType → String
  | .vatSpecial => "vat_special"
  | .vatGeneral => "vat_general"
  | .other => "other"

def CoverageMode.name : CoverageMode → String
  | .fullOrder => "full_order"
  | .deliveryBatch => "delivery_batch"

def InvoiceExceptionType.name : InvoiceExceptionType → String
  | .redInvoice => "red_invoice"
  | .voided => "voided"

def PaymentRequestStatus.name : PaymentRequestStatus → String
  | .waitingInvoice => "waiting_invoice"
  | .generated => "generated"
  | .submittedToFinance => "submitted_to_finance"
  | .partiallyPaid => "partially_paid"
  | .paid => "paid"
  | .invoiceExceptionFrozen => "invoice_exception_frozen"
  | .failed => "failed"
  | .cancelled => "cancelled"

def RecordType.name : RecordType → String
  | .payment => "payment"
  | .refund => "refund"
  | .reversal => "reversal"
  | .correction => "correction"

/-! ## JSON -/

/-- The JSON values of request payloads and replies; the numbers of the
commands are integers. -/
inductive JsonValue
  | null
  | boolean (value : Bool)
  | number (value : Int)
  | text (value : String)
  | array (items : List JsonValue)
  | object (members : List (String × JsonValue))

/-! ## Rows -/

structure InventoryBatch where
  batchNo : String
  warehouseId : Nat
  sku : String
  productionDate : Option String := none
  inboundDate : String
  expiryDate : Option String := none
  availableQuantity : Int := 0
  lockedQuantity : Int := 0
  defectiveQuantity : Int := 0
  pendingInspectionQuantity : Int := 0
  quarantineQuantity : Int := 0
  ownership : Ownership := .company
  expiryStatus : ExpiryStatus := .normal

def InventoryBatch.quantity (batch : InventoryBatch) : Bucket → Int
  | .available => batch.availableQuantity
  | .locked => batch.lockedQuantity
  | .defective => batch.defectiveQuantity
  | .pendingInspection => batch.pendingInspectionQuantity

def InventoryBatch.withQuantity (batch : InventoryBatch) (bucket : Bucket) (value : Int) :
    InventoryBatch :=
  match bucket with
  | .available => { batch with availableQuantity := value }
  | .locked => { batch with lockedQuantity := value }
  | .defective => { batch with defectiveQuantity := value }
  | .pendingInspection => { batch with pendingInspectionQuantity := value }

structure InventoryReservation where
  batchId : Nat
  entityType : ReservationEntity
  entityId : Option Nat
  requestedQuantity : Int
  reservedQuantity : Int
  shortageQuantity : Int
  priority : Int
  status : ReservationStatus

structure InventoryTransfer where
  transferNo : String
  fromWarehouseId : Nat
  toWarehouseId : Nat
  sku : String
  quantity : Int
  reason : String
  status : TransferStatus

structure InventoryMovement where
  warehouseId : Nat
  sku : String
  type : String
  quantity : Int
  sourceKey : String

structure Stocktake where
  stocktakeNo : String
  warehouseId : Nat
  scope : StocktakeScope
  status : StocktakeStatus
  createdBy : Nat
  assignedFactoryId : Option Nat

structure StocktakeCount where
  stocktakeId : Nat
  batchId : Option Nat
  sku : String
  countRound : Nat
  availableQuantity : Int
  lockedQuantity : Int
  defectiveQuantity : Int
  pendingInspectionQuantity : Int
  totalQuantity : Int
  countedBy : Nat

def StocktakeCount.quantity (count : StocktakeCount) : Bucket → Int
  | .available => count.availableQuantity
  | .locked => count.lockedQuantity
  | .defective => count.defectiveQuantity
  | .pendingInspection => count.pendingInspectionQuantity

structure StocktakeAdjustment where
  stocktakeId : Nat
  stocktakeCountId : Nat
  bucket : Bucket
  snapshotQuantity : Int
  countedQuantity : Int
  varianceQuantity : Int
  revision : Nat
  generatedBatchNo : Option String
  estimatedProductionDate : Option String
  estimatedExpiryDate : Option String
  decision : DecisionStatus

structure ExecutionOrder where
  executionNo : String
  orderItemId : Nat
  factoryId : Nat
  bomId : Nat
  plannedQuantity : Int
  completedQuantity : Int
  status : ExecutionStatus

structure ProductionMaterialLine where
  executionOrderId : Nat
  bomComponentId : Nat
  theoreticalQuantity : Int
  reservedQuantity : Int
  issuedQuantity : Int
  consumedQuantity : Int
  lossQuantity : Int
  deviationStatus : DeviationStatus

structure ProductionReport where
  executionOrderId : Nat
  actualFinishedQuantity : Int
  varianceQuantity : Int
  varianceRateBps : Int
  result : ReportResult
  companyInventoryQuantity : Int
  factoryOwnedQuantity : Int
  batchId : Option Nat

structure PurchaseReceipt where
  receiptNo : String
  purchaseOrderId : Nat
  orderItemId : Nat
  warehouseId : Nat
  batchId : Nat
  receivedQuantity : Int
  receivedAt : String

structure QualityInspection where
  executionOrderId : Option Nat
  batchId : Option Nat
  stage : InspectionStage
  inspectionMethod : InspectionMethod
  batchQuantity : Int
  inspectedQuantity : Int
  passedQuantity : Int
  failedQuantity : Int
  passRateBps : Int
  qualityRuleId : Nat
  systemResult : InspectionResult
  requestedResult : Option InspectionResult
  finalResult : InspectionResult
  fullInspectionRequired : Bool
  releasedQuantity : Int
  inspectorType : InspectorType

structure DeliveryBatch where
  executionOrderId : Nat
  batchNo : String
  quantity : Int
  plannedShipAt : String
  shippedAt : Option String
  carrier : String
  logisticsNo : String
  destination : String
  requiresApproval : Bool
  deviationReason : Option String
  status : DeliveryStatus

structure ShipmentEvidence where
  deliveryBatchId : Nat
  fileKey : String
  fileName : String

structure ShipmentReceipt where
  deliveryBatchId : Nat
  receivedQuantity : Int
  damagedQuantity : Int
  receivedAt : String

structure LogisticsException where
  executionOrderId : Option Nat
  type : String
  description : String
  status : ExceptionStatus

structure ProductReturn where
  returnNo : String
  sourceDeliveryBatchId : Nat
  warehouseId : Nat
  sku : String
  quantity : Int
  batchId : Nat
  status : ReturnStatus

structure ProductReturnInspection where
  productReturnId : Nat
  inspectedQuantity : Int
  passedQuantity : Int
  failedQuantity : Int

structure ProductReturnDisposition where
  productReturnId : Nat
  type : DispositionType
  quantity : Int
  proposedBy : Nat
  status : DecisionStatus

structure Warehouse where
  code : String
  name : String
  type : WarehouseType
  factoryId : Option Nat
  status : WarehouseStatus

structure ApprovalRequest where
  requestNo : String
  workflowType : Workflow
  entityType : String
  entityId : Nat
  payload : JsonValue
  highRisk : Bool
  status : DecisionStatus
  requestedBy : Nat
  reviewedBy : Option Nat
  reviewComment : String
  updatedAt : Nat

structure ResourceVersion where
  resourceType : String
  resourceId : Nat
  version : Nat

structure FactoryInvoice where
  factoryId : Nat
  purchaseOrderId : Nat
  coverageMode : CoverageMode
  deliveryBatchId : Option Nat
  invoiceNo : String
  invoiceType : InvoiceType
  amountTaxIncludedMinor : Int
  taxAmountMinor : Int
  fileKey : String
  status : InvoiceStatus
  expectedAmountMinor : Int
  amountMatchesExpected : Bool
  mismatchAmountMinor : Int

structure InvoiceVerification where
  invoiceId : Nat
  verifierRole : VerifierRole
  decision : Decision
  rejectionReason : Option String
  verifiedBy : Nat

structure InvoicePaymentAllocation where
  invoiceId : Nat
  paymentRequestId : Nat
  allocatedAmountMinor : Int
  status : AllocationStatus

structure FactoryPaymentRequest where
  requestNo : String
  plannedPaymentDate : String
  totalAmountMinor : Int
  status : PaymentRequestStatus
  invoiceCoveredAmountMinor : Int
  paidAt : Option String
  paymentReference : Option String
  updatedAt : Nat

structure FactoryPaymentRequestItem where
  paymentRequestId : Nat
  purchaseOrderId : Nat

structure InvoiceException where
  invoiceId : Nat
  exceptionType : InvoiceExceptionType
  affectedAmountMinor : Int
  replacementDeadline : String
  replacementCoveredAmountMinor : Int
  refundedAmountMinor : Int
  status : InvoiceExceptionStatus
  riskReleasedBy : Option Nat
  riskReleasedAt : Option Nat
  resolvedAt : Option Nat
  updatedAt : Nat

structure ReplacementInvoiceLink where
  invoiceExceptionId : Nat
  replacementInvoiceId : Nat
  coveredAmountMinor : Int

structure PaymentRecord where
  paymentRequestId : Nat
  amountMinor : Int
  paidAt : String
  bankReference : String
  recordType : RecordType
  reversesPaymentRecordId : Option Nat
  correctsPaymentRecordId : Option Nat
  invoiceExceptionId : Option Nat
  recordedBy : Nat
  reviewedBy : Option Nat
  reviewStatus : ReviewStatus
  updatedAt : Nat

structure BusinessKey where
  keyType : BusinessKeyType
  keyValue : String
  aggregateId : Option Nat

structure Sku where
  code : String
  itemType : Option String
  stockUnit : Option String := none
  overproductionToleranceBps : Int
  purchaseOverToleranceBps : Int := 0
  purchaseUnderToleranceBps : Int := 0
  verificationStatus : DecisionStatus := .pending
  active : Bool := false

structure ProductBom where
  finishedSku : String
  version : String
  active : Bool
  approvalStatus : DecisionStatus
  effectiveFrom : String
  effectiveTo : Option String
  overlapAllowed : Bool := false

structure BomComponent where
  bomId : Nat
  componentSku : String
  quantityPerFinished : Int
  issueToleranceBps : Int
  consumptionToleranceBps : Int
  lossToleranceBps : Int

structure PurchaseOrder where
  orderNo : String
  orderDate : String
  status : PurchaseOrderStatus
  totalTaxIncludedMinor : Int
  updatedAt : Nat := 0

structure OrderItem where
  purchaseOrderId : Nat
  sku : String
  itemType : Option String
  supplierId : Option Nat
  quantity : Int
  receivedQuantity : Int
  unitPriceTaxIncludedMinor : Int

structure PurchasePlan where
  planNo : String
  version : Int
  status : PurchasePlanStatus
  updatedAt : Nat := 0

structure PurchasePlanItem where
  purchasePlanId : Nat
  expectedArrivalDate : String
  factoryId : Nat
  warehouseId : Nat
  sku : String
  bomId : Nat
  plannedQuantity : Int
  orderedQuantity : Int := 0
  overToleranceBps : Int := 0
  underToleranceBps : Int := 0
  completionStatus : CompletionStatus := .notOrdered

structure PurchasePlanOrderLink where
  purchasePlanItemId : Nat
  orderItemId : Nat
  allocatedQuantity : Int

structure FactoryPlanResponse where
  purchasePlanId : Nat
  factoryId : Nat
  proposedArrivalDate : Option String
  status : PlanResponseStatus

/-- The texts of the columns that nothing reads back are left out. -/
structure ReminderSchedule where
  reminderType : ReminderType
  entityId : Nat
  businessNo : String
  dueAt : Nat
  active : Bool := true

structure Factory where
  code : String
  active : Bool := true

structure Supplier where
  code : String
  tier : Option Int
  managedByFactoryId : Option Nat
  verificationStatus : DecisionStatus := .pending
  active : Bool := true

structure SupplierSku where
  factoryId : Nat
  supplierId : Nat
  sku : String
  isPrimary : Bool := false
  priority : Int := 1
  minimumOrderQuantity : Int := 1
  packagingMultiple : Int := 1
  purchaseUnit : String := ""
  leadTimeDays : Option Int := none
  dailyCapacity : Option Int := none
  monthlyCapacity : Option Int := none
  effectiveFrom : String
  status : RelationStatus := .pending
  requestedBy : Nat
  updatedAt : Nat := 0

structure CorePriceAgreement where
  supplierId : Nat
  sku : String
  unitPriceTaxIncludedMinor : Int
  effectiveFrom : String
  effectiveTo : Option String := none
  active : Bool := true

structure CorePriceChangeRequest where
  currentAgreementId : Option Nat
  supplierId : Nat
  sku : String
  proposedTaxIncludedMinor : Int
  proposedEffectiveFrom : String
  decision : DecisionStatus := .pending

/-- The version of the prices of a supplier and a sku, under the key
`<supplierId>:<sku>`. -/
structure PriceVersion where
  resourceId : String
  version : Nat

/-- A challenge for the activation of a price. -/
structure PriceChallenge where
  challengeNo : String
  userId : Nat
  sessionId : Option Nat
  highRisk : Bool
  action : String
  objectId : String
  objectVersion : Nat
  requestDigest : String
  verified : Bool
  consumedAt : Option Nat
  expiresAt : Nat

structure QualityRule where
  scope : RuleScope
  sku : String
  itemType : String
  stage : InspectionStage
  active : Bool
  minimumPassRateBps : Int
  createdAt : Nat

structure FileObject where
  objectKey : String
  category : String
  entityType : String
  entityId : Option Nat
  ownerUserId : Nat
  factoryId : Option Nat
  supplierId : Option Nat
  clean : Bool

inductive ImportType
  | supplier | purchasePlan | purchaseOrder | sku | openingInventory
  deriving DecidableEq

inductive ImportBatchStatus
  | awaitingMapping | awaitingDuplicateConfirmation | committed
  deriving DecidableEq

structure ImportBatch where
  importNo : String
  type : ImportType
  fileObjectId : Nat
  fileName : String
  fingerprint : String
  businessKey : Option String
  status : ImportBatchStatus
  totalRows : Nat
  validRows : Nat
  warningCount : Nat
  duplicateOfBatchId : Option Nat
  createdBy : Nat
  createdAt : Nat

/-- The row is stored as it was sent, once as normalized and once as raw. -/
structure ImportStagingRow where
  importBatchId : Nat
  sheetName : String
  sourceRowNo : Int
  businessKey : String
  normalizedJson : JsonValue

structure AuthChallenge where
  challengeNo : String
  userId : Nat
  sessionId : Option Nat
  highRisk : Bool
  action : String
  objectType : String
  objectId : Nat
  objectVersion : Nat
  requestDigest : String
  verified : Bool
  consumedAt : Option Nat
  expiresAt : Nat

structure User where
  role : Role
  active : Bool
  email : String := ""
  name : String := ""
  organizationName : String := ""
  factoryId : Option Nat := none
  supplierId : Option Nat := none

structure UserRole where
  userId : Nat
  roleCode : Role
  status : UserRoleStatus
  reviewedBy : Option Nat
  effectiveFrom : String
  effectiveTo : Option String

structure AuthSession where
  tokenHash : String
  userId : Nat
  revokedAt : Option Nat
  expiresAt : Nat

structure OutboxMessage where
  deduplicationKey : String

/-! ## The database -/

/-- The rows of `resource_versions` are kept in three tables: those of the types
that the operations writers version, in `priceVersions` those of the prices,
whose keys are texts, and in `procurementVersions` the others. Likewise the
challenges of the prices are kept in `priceChallenges`. -/
inductive TableName
  | inventoryBatches | inventoryReservations | inventoryTransfers | inventoryMovements
  | stocktakes | stocktakeCounts | stocktakeAdjustments
  | executionOrders | productionMaterialLines | productionReports
  | purchaseReceipts | qualityInspections
  | deliveryBatches | shipmentEvidence | shipmentReceipts | logisticsExceptions
  | productReturns | productReturnInspections | productReturnDispositions
  | warehouses | approvalRequests | resourceVersions
  | factoryInvoices | invoiceVerifications | invoicePaymentAllocations | factoryPaymentRequests
  | factoryPaymentRequestItems | invoiceExceptions | replacementInvoiceLinks | paymentRecords
  | businessKeys
  | skus | productBoms | bomComponents | purchaseOrders | orderItems | purchasePlanItems
  | purchasePlanOrderLinks | purchasePlans | factoryPlanResponses | reminderSchedules | factories
  | suppliers | supplierSkus | corePriceAgreements | corePriceChangeRequests
  | procurementVersions | priceVersions | qualityRules
  | fileObjects | authChallenges | priceChallenges | users | userRoles | outboxMessages
  | importBatches | importStagingRows
  deriving DecidableEq

@[reducible]
def Row : TableName → Type
  | .inventoryBatches => InventoryBatch
  | .inventoryReservations => InventoryReservation
  | .inventoryTransfers => InventoryTransfer
  | .inventoryMovements => InventoryMovement
  | .stocktakes => Stocktake
  | .stocktakeCounts => StocktakeCount
  | .stocktakeAdjustments => StocktakeAdjustment
  | .executionOrders => ExecutionOrder
  | .productionMaterialLines => ProductionMaterialLine
  | .productionReports => ProductionReport
  | .purchaseReceipts => PurchaseReceipt
  | .qualityInspections => QualityInspection
  | .deliveryBatches => DeliveryBatch
  | .shipmentEvidence => ShipmentEvidence
  | .shipmentReceipts => ShipmentReceipt
  | .logisticsExceptions => LogisticsException
  | .productReturns => ProductReturn
  | .productReturnInspections => ProductReturnInspection
  | .productReturnDispositions => ProductReturnDisposition
  | .warehouses => Warehouse
  | .approvalRequests => ApprovalRequest
  | .resourceVersions => ResourceVersion
  | .factoryInvoices => FactoryInvoice
  | .invoiceVerifications => InvoiceVerification
  | .invoicePaymentAllocations => InvoicePaymentAllocation
  | .factoryPaymentRequests => FactoryPaymentRequest
  | .factoryPaymentRequestItems => FactoryPaymentRequestItem
  | .invoiceExceptions => InvoiceException
  | .replacementInvoiceLinks => ReplacementInvoiceLink
  | .paymentRecords => PaymentRecord
  | .businessKeys => BusinessKey
  | .skus => Sku
  | .productBoms => ProductBom
  | .bomComponents => BomComponent
  | .purchaseOrders => PurchaseOrder
  | .orderItems => OrderItem
  | .purchasePlanItems => PurchasePlanItem
  | .purchasePlanOrderLinks => PurchasePlanOrderLink
  | .purchasePlans => PurchasePlan
  | .factoryPlanResponses => FactoryPlanResponse
  | .reminderSchedules => ReminderSchedule
  | .factories => Factory
  | .suppliers => Supplier
  | .supplierSkus => SupplierSku
  | .corePriceAgreements => CorePriceAgreement
  | .corePriceChangeRequests => CorePriceChangeRequest
  | .procurementVersions => ResourceVersion
  | .priceVersions => PriceVersion
  | .qualityRules => QualityRule
  | .fileObjects => FileObject
  | .authChallenges => AuthChallenge
  | .priceChallenges => PriceChallenge
  | .users => User
  | .userRoles => UserRole
  | .outboxMessages => OutboxMessage
  | .importBatches => ImportBatch
  | .importStagingRows => ImportStagingRow

abbrev Database := Store Row

end SupplyChain
