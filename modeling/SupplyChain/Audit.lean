import SupplyChain.Supply.Numbers

/-!
The audit writer, and the events that the commands hand to it. Every command
writes its event in its own transaction, so an event that the writer refuses
takes the command with it.
-/

namespace SupplyChain.Audit

/-! ## The writer -/

/-- `AuditUnavailableError`, answered with 503. -/
inductive AuditError where
  | unavailable
  deriving DecidableEq

structure AuditAccess where
  localPreview : Bool := false
  userId : Nat

inductive EntityId where
  | number (id : Nat)
  | text (id : String)

/-- `String(event.entityId)`; an id is a safe integer. -/
def EntityId.asText : EntityId → String
  | .number id => toString id
  | .text id => id

/-- The snapshots and the request's headers are left out: neither is refused for
its length. -/
structure AuditWriteEvent where
  access : AuditAccess
  action : String
  module : String
  entityType : String
  entityId : EntityId
  businessNo : Option String := none

structure AuditRow where
  actorUserId : Nat
  action : String
  module : String
  entityType : String
  entityId : String
  businessNo : Option String
  deriving DecidableEq

def requiredText (value : String) (maximumLength : Nat := 200) : Except AuditError String :=
  if textLength value = 0 ∨ maximumLength < textLength value then .error .unavailable
  else .ok value

def optionalText (value : Option String) (maximumLength : Nat := 200) :
    Except AuditError (Option String) :=
  match value with
  | none => .ok none
  | some given =>
      if given = "" then .ok none
      else do
        let kept ← requiredText given maximumLength
        return some kept

def auditRow (event : AuditWriteEvent) : Except AuditError AuditRow := do
  let action ← requiredText event.action
  let module ← requiredText event.module
  let entityType ← requiredText event.entityType
  let entityId ← requiredText event.entityId.asText
  let businessNo ← optionalText event.businessNo
  return { actorUserId := event.access.userId, action, module, entityType, entityId, businessNo }

/-- `execute` answers the rows that the statement affected, or nothing where it throws. -/
def createAuditWriter (database : Option (AuditRow → Option Nat)) (event : AuditWriteEvent) :
    Except AuditError Unit :=
  if event.access.localPreview then .ok ()
  else if ¬ isSafeInteger event.access.userId ∨ event.access.userId = 0 then .error .unavailable
  else
    match database with
    | none => .error .unavailable
    | some execute => do
        let row ← auditRow event
        if execute row = some 1 then .ok () else .error .unavailable

/-- A database that stores every row it is given. -/
def storing (_ : AuditRow) : Option Nat := some 1

/-! ## What events are made of -/

/-- What `text` and `string` return within `maximum`. -/
structure Checked (maximum : Nat) where
  value : String
  filled : textLength value ≠ 0
  fits : textLength value ≤ maximum

/-- A row id, or an id that `positiveInteger` or `integer` accepted. -/
structure Key where
  id : Nat
  safe : isSafeInteger id

/-- The columns whose values events carry. -/
inductive Column where
  | userEmail
  | supplierCode
  | factoryCode
  | skuCode
  | planNo
  | orderNo
  | executionNo
  | batchNo
  | invoiceNo
  | paymentRequestNo
  | importNo
  | approvalNo
  | approvalEntityType
  | transferNo
  | returnNo
  | warehouseCode
  | stocktakeNo
  deriving DecidableEq

/-- The columns with values that no command wrote: factories and payment requests
are only seeded, and the first administrator is bootstrapped. -/
def Column.seeded : Column → Bool
  | .userEmail | .factoryCode | .paymentRequestNo => true
  | _ => false

structure Label where
  action : String
  module : String
  entityType : String

/-- The sign-in routes, which write their events about the user's session. -/
inductive SessionAction where
  | loginFailed
  | loginSucceeded
  | loginOtpRequested
  | loginOtpFailed
  | loginOtpSucceeded
  | logout
  | stepUpRequested
  | stepUpFailed
  | stepUpVerified

def SessionAction.name : SessionAction → String
  | loginFailed => "login_failed"
  | loginSucceeded => "login_succeeded"
  | loginOtpRequested => "login_otp_requested"
  | loginOtpFailed => "login_otp_failed"
  | loginOtpSucceeded => "login_otp_succeeded"
  | logout => "logout"
  | stepUpRequested => "step_up_requested"
  | stepUpFailed => "step_up_failed"
  | stepUpVerified => "step_up_verified"

/-- The events without a business number. -/
inductive PlainSite where
  | submitCount
  | finishRound
  | completeStocktake
  | resolveException
  | linkReplacement
  | recordRefund
  | requestCorrection
  | releaseInvoiceRisk
  | submitInspection
  | reserve
  | inspectReturn
  | proposeDisposition
  | setWeights (existing : Bool)
  | uploadFile
  | markRead
  | session (action : SessionAction)

def PlainSite.label : PlainSite → Label
  | submitCount => ⟨"submit_count", "stocktake", "stocktake"⟩
  | finishRound => ⟨"finish_round", "stocktake", "stocktake"⟩
  | completeStocktake => ⟨"complete", "stocktake", "stocktake"⟩
  | resolveException => ⟨"resolve", "shipping", "logistics_exception"⟩
  | linkReplacement => ⟨"link_replacement", "finance", "invoice_exception"⟩
  | recordRefund => ⟨"record_refund", "finance", "payment_record"⟩
  | requestCorrection => ⟨"request_correction", "finance", "payment_record"⟩
  | releaseInvoiceRisk => ⟨"release_warning", "finance", "invoice_exception"⟩
  | submitInspection => ⟨"submit", "quality", "quality_inspection"⟩
  | reserve => ⟨"reserve", "inventory", "inventory_reservation"⟩
  | inspectReturn => ⟨"inspect", "returns", "product_return_inspection"⟩
  | proposeDisposition => ⟨"propose", "returns", "product_return"⟩
  | setWeights existing => ⟨if existing then "update_weights" else "create_weights",
      "supplier_performance", "performance_weights"⟩
  | uploadFile => ⟨"upload_quarantined", "files", "file"⟩
  | markRead => ⟨"mark_read", "notifications", "notification"⟩
  | session action => ⟨action.name, "identity", "session"⟩

/-- The events that carry the number of a row read before. -/
inductive RowSite where
  | confirmShipment
  | requestDeviation
  | ship
  | receiveShipment
  | verifyInvoice
  | invalidateInvoice
  | recordPayment
  | deactivateWarehouse
  | moveTransfer (shipped : Bool)
  | decideReturn (approved : Bool)
  | releaseMaterials
  | startProduction
  | updateMaterials
  | completeProduction
  | resubmitSku
  | finalizePlan
  | answerPlan (confirmed : Bool)
  | updateOrder (confirmed : Bool)
  | deferImport
  | reviewSupplier (existing : Bool)
  | resetPassword
  | disableAccount
  | restoreAccount
  | requestRoleChange
  | requestRoleRevocation
  | unlockAccount

def RowSite.label : RowSite → Label
  | confirmShipment => ⟨"confirm", "shipping", "delivery_batch"⟩
  | requestDeviation => ⟨"request_deviation", "shipping", "delivery_batch"⟩
  | ship => ⟨"ship", "shipping", "delivery_batch"⟩
  | receiveShipment => ⟨"receive", "shipping", "shipment_receipt"⟩
  | verifyInvoice => ⟨"verify", "finance", "invoice"⟩
  | invalidateInvoice => ⟨"invalidate", "finance", "invoice"⟩
  | recordPayment => ⟨"record_payment", "finance", "payment_record"⟩
  | deactivateWarehouse => ⟨"deactivate", "warehouse_master", "warehouse"⟩
  | moveTransfer shipped => ⟨if shipped then "ship" else "receive",
      "inventory", "inventory_transfer"⟩
  | decideReturn approved => ⟨if approved then "approved" else "rejected",
      "returns", "product_return"⟩
  | releaseMaterials => ⟨"release_materials", "production", "execution_order"⟩
  | startProduction => ⟨"start", "production", "execution_order"⟩
  | updateMaterials => ⟨"materials", "production", "execution_order"⟩
  | completeProduction => ⟨"complete", "production", "execution_order"⟩
  | resubmitSku => ⟨"resubmit", "master_data", "sku"⟩
  | finalizePlan => ⟨"finalize_ordering", "purchase_plans", "purchase_plan"⟩
  | answerPlan confirmed => ⟨if confirmed then "factory_confirm" else "factory_dispute",
      "purchase_plans", "purchase_plan"⟩
  | updateOrder confirmed => ⟨if confirmed then "confirm" else "request_exception",
      "purchase_orders", "purchase_order"⟩
  | deferImport => ⟨"defer_import_commit", "imports", "import_batch"⟩
  | reviewSupplier existing => ⟨if existing then "update_review" else "create_review",
      "supplier_performance", "supplier_review"⟩
  | resetPassword => ⟨"reset_password", "identity", "user"⟩
  | disableAccount => ⟨"disable_account", "identity", "user"⟩
  | restoreAccount => ⟨"restore_account", "identity", "user"⟩
  | requestRoleChange => ⟨"request_role_change", "identity", "user_role"⟩
  | requestRoleRevocation => ⟨"request_role_revocation", "identity", "user_role"⟩
  | unlockAccount => ⟨"unlock", "identity", "user"⟩

def RowSite.column : RowSite → Column
  | confirmShipment | requestDeviation | ship | receiveShipment => .batchNo
  | verifyInvoice | invalidateInvoice => .invoiceNo
  | recordPayment => .paymentRequestNo
  | deactivateWarehouse => .warehouseCode
  | moveTransfer _ => .transferNo
  | decideReturn _ => .returnNo
  | releaseMaterials | startProduction | updateMaterials | completeProduction => .executionNo
  | resubmitSku => .skuCode
  | finalizePlan | answerPlan _ => .planNo
  | updateOrder _ => .orderNo
  | deferImport => .importNo
  | reviewSupplier _ => .supplierCode
  | resetPassword | disableAccount | restoreAccount | requestRoleChange | requestRoleRevocation
  | unlockAccount => .userEmail

/-- The events that carry a number entered by the user, as checked. -/
inductive EntrySite where
  | createShipment
  | registerInvoice
  | receiveReturn
  | createSupplier
  | createPlanVersion
  | createOrder

def EntrySite.label : EntrySite → Label
  | createShipment => ⟨"create", "shipping", "delivery_batch"⟩
  | registerInvoice => ⟨"create", "finance", "invoice"⟩
  | receiveReturn => ⟨"receive", "returns", "product_return"⟩
  | createSupplier => ⟨"create", "suppliers", "supplier"⟩
  | createPlanVersion => ⟨"create_version", "purchase_plans", "purchase_plan"⟩
  | createOrder => ⟨"create", "purchase_orders", "purchase_order"⟩

def EntrySite.column : EntrySite → Column
  | createShipment => .batchNo
  | registerInvoice => .invoiceNo
  | receiveReturn => .returnNo
  | createSupplier => .supplierCode
  | createPlanVersion => .planNo
  | createOrder => .orderNo

/-- The events that carry a number made of a prefix and a random identifier. -/
inductive MintSite where
  | openStocktake
  | submitMerge
  | createTransfer
  | createExecution
  | receivePurchase

def MintSite.label : MintSite → Label
  | openStocktake => ⟨"open", "stocktake", "stocktake"⟩
  | submitMerge => ⟨"submit_approval", "warehouse_master", "warehouse_merge"⟩
  | createTransfer => ⟨"create", "inventory", "inventory_transfer"⟩
  | createExecution => ⟨"create", "production", "execution_order"⟩
  | receivePurchase => ⟨"receive", "purchase_receipts", "purchase_receipt"⟩

def MintSite.leader : MintSite → String
  | openStocktake => "ST-"
  | submitMerge => "AP-WHM-"
  | createTransfer => "TR-"
  | createExecution => "MO-"
  | receivePurchase => "RC-"

/-- The number of a purchase receipt is in no later event, and a merge is numbered by
the approval that it opens. -/
def MintSite.column : MintSite → Option Column
  | openStocktake => some .stocktakeNo
  | submitMerge => none
  | createTransfer => some .transferNo
  | createExecution => some .executionNo
  | receivePurchase => none

/-! ## The calls -/

/-- What a command draws its texts from: the user, the idempotency key, the random
identifier of the numbers it makes, the hash and the two cases of a text. -/
structure Source where
  actor : Key
  signedIn : actor.id ≠ 0
  key : String
  admissible : Commands.isIdempotencyKey key = true
  randomUUID : String
  uuidLength : textLength randomUUID = 36
  sha256 : String → String
  toUpperCase : String → String
  toLowerCase : String → String

/-- A call of the audit writer by a command, with what the command has read and checked. -/
inductive AuditCall where
  | plain (site : PlainSite) (entityId : Key)
  | submitVariance (entityId : Key) (stocktakeNo : String)
  | numbered (site : RowSite) (entityId : Key) (number : String)
  | entered (site : EntrySite) (entityId : Key) (number : Checked 191)
  | minted (site : MintSite) (entityId : Key)
  | createSku (entityId : Key) (code : Checked 191)
  | createWarehouse (entityId : Key) (code : Checked 191)
  | createAccount (entityId : Key) (email : String)
  | createBom (entityId : Key) (finishedSku version : Checked 191)
  | writeSupplierSku (existing : Bool) (entityId : Key) (factoryCode : String) (sku : Checked 191)
  | activatePrice (entityId : Key) (supplierCode : String) (sku : Checked 191)
  | requestPrice (entityId : Key) (supplierCode : String) (sku : Checked 191)
  | previewImport (fingerprint : Checked 1000)
  | stageImport (entityId : Key)
  | commitImport (entityId : Key) (importNo : String) (suppliers : List (Key × Checked 191))
  | decideApproval (approved : Bool) (entityId : Key) (requestNo entityType : String)
  | executeEffect (approved : Bool) (entityId : Key) (requestNo entityType : String)

namespace AuditCall

/-- `managedEmail`, past its pattern. -/
def managedEmail (source : Source) (email : String) : String :=
  source.toLowerCase (trim email)

def labelled (source : Source) (label : Label) (entityId : Key) (businessNo : Option String) :
    AuditWriteEvent where
  access := { userId := source.actor.id }
  action := label.action
  module := label.module
  entityType := label.entityType
  entityId := .number entityId.id
  businessNo := businessNo

def event (source : Source) : AuditCall → AuditWriteEvent
  | plain site entityId => labelled source site.label entityId none
  | submitVariance entityId _ =>
      labelled source ⟨"submit_approval", "stocktake", "stocktake"⟩ entityId none
  | numbered site entityId number => labelled source site.label entityId (some number)
  | entered site entityId number => labelled source site.label entityId (some number.value)
  | minted site entityId =>
      labelled source site.label entityId (some (site.leader ++ source.randomUUID))
  | createSku entityId code =>
      labelled source ⟨"create", "master_data", "sku"⟩ entityId
        (some (source.toUpperCase code.value))
  | createWarehouse entityId code =>
      labelled source ⟨"create", "warehouse_master", "warehouse"⟩ entityId
        (some (source.toUpperCase code.value))
  | createAccount entityId email =>
      labelled source ⟨"create_account", "identity", "user"⟩ entityId
        (some (managedEmail source email))
  | createBom entityId finishedSku version =>
      labelled source ⟨"create", "master_data", "bom"⟩ entityId
        (some (source.toUpperCase finishedSku.value ++ "-" ++ version.value))
  | writeSupplierSku existing entityId factoryCode sku =>
      labelled source ⟨if existing then "update" else "create", "suppliers", "supplier_sku"⟩
        entityId (some (factoryCode ++ "-" ++ sku.value))
  | activatePrice entityId supplierCode sku =>
      labelled source ⟨"create", "supplier_prices", "price_agreement"⟩ entityId
        (some (supplierCode ++ "-" ++ sku.value))
  | requestPrice entityId supplierCode sku =>
      labelled source ⟨"create", "supplier_prices", "price_change_request"⟩ entityId
        (some (supplierCode ++ "-" ++ sku.value))
  | previewImport fingerprint =>
      { access := { userId := source.actor.id }, action := "preview_import", module := "imports"
        entityType := "import_preview", entityId := .text fingerprint.value }
  | stageImport entityId =>
      labelled source ⟨"stage_import", "imports", "import_batch"⟩ entityId
        (some (Supply.importNo source.key))
  | commitImport entityId importNo _ =>
      labelled source ⟨"commit_import", "imports", "import_batch"⟩ entityId (some importNo)
  | decideApproval approved entityId requestNo entityType =>
      labelled source ⟨if approved then "approved" else "rejected", "approvals", entityType⟩
        entityId (some requestNo)
  | executeEffect approved entityId requestNo entityType =>
      labelled source
        ⟨if approved then "apply_approval" else "apply_rejection", "r2_approval_effects",
          entityType⟩ entityId (some requestNo)

/-- The stored values that the call was given. -/
def reads : AuditCall → List (Column × String)
  | submitVariance _ stocktakeNo => [(.stocktakeNo, stocktakeNo)]
  | numbered site _ number => [(site.column, number)]
  | writeSupplierSku _ _ factoryCode _ => [(.factoryCode, factoryCode)]
  | activatePrice _ supplierCode _ | requestPrice _ supplierCode _ =>
      [(.supplierCode, supplierCode)]
  | commitImport _ importNo _ => [(.importNo, importNo)]
  | decideApproval _ _ requestNo entityType | executeEffect _ _ requestNo entityType =>
      [(.approvalNo, requestNo), (.approvalEntityType, entityType)]
  | _ => []

/-- The numbers of the rows that the same transaction inserts. -/
def stores (source : Source) : AuditCall → List (Column × String)
  | entered site _ number => [(site.column, number.value)]
  | minted site _ =>
      site.column.toList.map fun column => (column, site.leader ++ source.randomUUID)
  | createSku _ code => [(.skuCode, source.toUpperCase code.value)]
  | createWarehouse _ code => [(.warehouseCode, source.toUpperCase code.value)]
  | createAccount _ email => [(.userEmail, managedEmail source email)]
  | stageImport _ => [(.importNo, Supply.importNo source.key)]
  | commitImport _ _ suppliers =>
      suppliers.map fun supplier => (.supplierCode, supplier.2.value)
  | _ => []

def derived (source : Source) (opened : Supply.Opened) (entityType : String) :
    String × String :=
  (Supply.approvalNo source.sha256 source.key opened.discriminator, entityType)

/-- The approvals that the command may open, by number and entity type. -/
def opens (source : Source) : AuditCall → List (String × String)
  | submitVariance _ stocktakeNo =>
      [("APR-" ++ stocktakeNo ++ "-" ++ source.randomUUID, "stocktake")]
  | plain .requestCorrection _ => [("AP-FINCORR-" ++ source.randomUUID, "payment_record")]
  | numbered .requestDeviation _ _ => [("AP-SHIP-" ++ source.randomUUID, "delivery_batch")]
  | numbered .completeProduction _ _ =>
      [("APR-PROD-" ++ source.randomUUID, "production_report")]
  | numbered .resubmitSku _ _ => [derived source .skuVerification "sku"]
  | numbered .finalizePlan _ _ => [derived source .planDeviation "purchase_plan"]
  | numbered (.answerPlan _) _ _ => [derived source .planException "factory_plan_response"]
  | numbered (.updateOrder _) _ _ => [derived source .orderException "purchase_order"]
  | numbered .requestRoleChange _ _ =>
      [(Supply.roleRequestNo source.actor.id source.key, "user_role")]
  | numbered .requestRoleRevocation _ _ =>
      [(Supply.revocationRequestNo source.actor.id source.key, "user_role")]
  | entered .createSupplier _ _ => [derived source .supplierOnboarding "supplier"]
  | entered .createPlanVersion _ _ => [derived source .planVersion "purchase_plan"]
  | entered .createOrder _ _ => [derived source .orderDeviation "purchase_order"]
  | minted .submitMerge _ => [("AP-WHM-" ++ source.randomUUID, "warehouse")]
  | minted .createTransfer _ =>
      [("APR-" ++ ("TR-" ++ source.randomUUID), "inventory_transfer")]
  | createSku _ _ => [derived source .skuVerification "sku"]
  | createBom _ _ _ => [derived source .bomVersion "bom"]
  | writeSupplierSku _ _ _ _ => [derived source .supplierSkuChange "supplier_sku"]
  | requestPrice _ _ _ => [derived source .supplierPriceChange "supplier_price_change"]
  | commitImport _ _ suppliers =>
      suppliers.map fun supplier => derived source (.importedSupplier supplier.1.id) "supplier"
  | _ => []

end AuditCall

/-! ## Commands under the writer -/

/-- The values that the columns hold. -/
abbrev Held := List (Column × String)

def approvalCells (approval : String × String) : Held :=
  [(.approvalNo, approval.1), (.approvalEntityType, approval.2)]

/-- Only the seeded columns are filled before the first command. -/
def Installed (held : Held) : Prop := ∀ cell ∈ held, cell.1.seeded = true

structure AuditedCommand where
  source : Source
  call : AuditCall

namespace AuditedCommand

/-- The values the command was given are stored. -/
def Ready (held : Held) (command : AuditedCommand) : Prop :=
  ∀ cell ∈ command.call.reads, cell ∈ held

/-- The writer over a database that stores the row takes the event. -/
def Audited (command : AuditedCommand) : Prop :=
  createAuditWriter (some storing) (command.call.event command.source) = .ok ()

instance (command : AuditedCommand) : Decidable command.Audited :=
  inferInstanceAs (Decidable (_ = _))

/-- A command that commits: its event is taken, and its rows are there with the
approvals it opened. -/
def Commits (before : Held) (command : AuditedCommand) (after : Held) : Prop :=
  command.Ready before ∧ command.Audited ∧
    ∃ opened : List (String × String), opened.Sublist (command.call.opens command.source) ∧
      after = command.call.stores command.source ++ opened.flatMap approvalCells ++ before

/-- What the numbers and the fingerprint of a call must meet for its event to be taken. -/
def Short (command : AuditedCommand) : Prop :=
  match command.call with
  | .numbered site _ number => site.column.seeded = true → textLength number ≤ 200
  | .createSku _ code | .createWarehouse _ code =>
      textLength (command.source.toUpperCase code.value) ≤ 200
  | .createAccount _ email => textLength (AuditCall.managedEmail command.source email) ≤ 200
  | .createBom _ finishedSku version =>
      textLength (command.source.toUpperCase finishedSku.value) + 1 +
        textLength version.value ≤ 200
  | .writeSupplierSku _ _ code sku | .activatePrice _ code sku | .requestPrice _ code sku =>
      textLength code + 1 + textLength sku.value ≤ 200
  | .previewImport fingerprint => textLength fingerprint.value ≤ 200
  | _ => True

end AuditedCommand

end SupplyChain.Audit
