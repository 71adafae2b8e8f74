import SupplyChain.PurchaseOrders

/-!
The suppliers, the relations between a factory, a supplier and a sku, and the
prices that are agreed on. What a factory writes for its own suppliers of the
third tier takes effect at once; anything else waits for an approval.
-/

namespace SupplyChain.Suppliers

open Relational Transaction TableName Supply

variable {writes : List TableName}

/-! ## Suppliers -/

/-- The body of the request; `raw` is the JSON it was sent as. -/
structure WriteSupplier where
  code : String
  name : String
  tier : Int
  managedByFactoryId : Option Nat := none
  businessLicenseFileKey : String
  unifiedSocialCreditCode : String
  address : String
  contactName : String
  contactPhone : String
  businessScope : String
  raw : JsonValue := .null

/-- Every tier but the first has a factory that manages the supplier. -/
def managingFactory (tier : Int) (given : Option Nat) : SupplyTx writes (Option Nat) :=
  if tier = 1 then return none
  else do
    let factoryId ← positiveKey (given.getD 0) "Managed factory required"
    return some factoryId

def requireManagedFactory (managedByFactoryId : Option Nat) : SupplyTx writes Unit :=
  match managedByFactoryId with
  | none => return ()
  | some factoryId => do
      let found ← query fun db => ((db factories).find? factoryId).any (·.active)
      refuseIf (found = false) (notFound "Managed factory not found")

def bindsFactory (access : AccessContext) (managedByFactoryId : Option Nat) :
    SupplyTx writes Unit :=
  match managedByFactoryId with
  | some factoryId =>
      if hasRole access [.factory] = true ∧ isInternal access = false then
        requireFactoryBinding access factoryId
      else return ()
  | none => return ()

def writeSupplier (command : SupplyContext) (body : WriteSupplier) :
    SupplyTx [suppliers, approvalRequests, procurementVersions] JsonValue := do
  let code ← text body.code 191
  let name ← text body.name 500
  let tier ← positiveInteger body.tier
  refuseIf (3 < tier) (badRequest "Supplier tier must be 1, 2, or 3")
  let managedByFactoryId ← managingFactory tier body.managedByFactoryId
  let directFactory := tier == 3 && managedByFactoryId.isSome &&
    hasRole command.access [.factory] && command.access.factoryId == managedByFactoryId
  refuseIf (directFactory = false ∧ isInternal command.access = false) (forbidden "Forbidden")
  bindsFactory command.access managedByFactoryId
  let licenseKey ← text body.businessLicenseFileKey
  let _ ← requireFile command.access (fileSelector licenseKey)
    ["business_license", "supplier_evidence"]
  requireManagedFactory managedByFactoryId
  let known ← query fun db => (db suppliers).any fun _ row => row.code == code
  refuseIf (known = true) (conflict "Supplier code already exists")
  let _ ← text body.unifiedSocialCreditCode 200
  let _ ← text body.address
  let _ ← text body.contactName 200
  let _ ← text body.contactPhone 100
  let _ ← text body.businessScope 2000
  let verificationStatus : DecisionStatus := if directFactory then .approved else .pending
  let supplierId ← insertUnique suppliers (fun row => row.code == code)
    { code, tier := some tier, managedByFactoryId, verificationStatus, active := directFactory }
    (.duplicateKey suppliers)
  if directFactory then Supply.domainEvent command "SupplierActivated" "supplier" supplierId
  else do
    let approvalId ← createApproval command "supplier_onboarding" "supplier" supplierId body.raw
    approvalNotification command "supplier_onboarding" approvalId
  return .object [("supplier", .object [("id", .number supplierId), ("code", .text code),
    ("name", .text name), ("tier", .number tier),
    ("managedByFactoryId", managedByFactoryId.elim .null fun (id : Nat) => .number id),
    ("verificationStatus", .text (if directFactory then "approved" else "pending")),
    ("status", .text (if directFactory then "active" else "draft"))]),
    ("approvalRequired", .boolean (!directFactory))]

/-! ## Relations -/

structure WriteSupplierSku where
  factoryId : Nat
  supplierId : Nat
  sku : String
  effectiveFrom : String
  isPrimary : Bool := false
  priority : Option Int := none
  minimumOrderQuantity : Option Int := none
  packagingMultiple : Option Int := none
  purchaseUnit : Option String := none
  leadTimeDays : Option Int := none
  dailyCapacity : Option Int := none
  monthlyCapacity : Option Int := none

def optionalPositive (value : Option Int) : SupplyTx writes (Option Int) :=
  match value with
  | none => return none
  | some given => do
      let result ← positiveInteger given
      return some result

def optionalNonNegative (value : Option Int) : SupplyTx writes (Option Int) :=
  match value with
  | none => return none
  | some given => do
      let result ← nonNegativeInteger given
      return some result

def orNull (value : Option Int) : JsonValue :=
  value.elim .null .number

/-- The members of a relation in the object that is hashed. -/
def targetMembers (row : SupplierSku) : List (String × JsonValue) :=
  [("dailyCapacity", orNull row.dailyCapacity), ("effectiveFrom", .text row.effectiveFrom),
    ("factoryId", .number row.factoryId), ("isPrimary", .boolean row.isPrimary),
    ("leadTimeDays", orNull row.leadTimeDays),
    ("minimumOrderQuantity", .number row.minimumOrderQuantity),
    ("monthlyCapacity", orNull row.monthlyCapacity),
    ("packagingMultiple", .number row.packagingMultiple), ("priority", .number row.priority),
    ("purchaseUnit", .text row.purchaseUnit), ("requestedBy", .number row.requestedBy),
    ("sku", .text row.sku), ("status", .text row.status.name),
    ("supplierId", .number row.supplierId)]

def supplierSkuTargetHash (sha256 : String → String) (row : SupplierSku) : String :=
  sha256 (canonical (.object (targetMembers row)))

/-- The row that a request stands for. -/
def relationOf (command : SupplyContext) (body : WriteSupplierSku) (sku effectiveFrom : String)
    (stockUnit : Option String) (directFactory : Bool) : SupplyTx writes SupplierSku := do
  let priority ← positiveInteger (body.priority.getD 1)
  let minimumOrderQuantity ← positiveInteger (body.minimumOrderQuantity.getD 1)
  let packagingMultiple ← positiveInteger (body.packagingMultiple.getD 1)
  let purchaseUnit ← optionalText body.purchaseUnit 100
  let leadTimeDays ← optionalNonNegative body.leadTimeDays
  let dailyCapacity ← optionalPositive body.dailyCapacity
  let monthlyCapacity ← optionalPositive body.monthlyCapacity
  return { factoryId := body.factoryId, supplierId := body.supplierId, sku
           isPrimary := body.isPrimary, priority, minimumOrderQuantity, packagingMultiple
           purchaseUnit := purchaseUnit.getD (stockUnit.getD ""), leadTimeDays, dailyCapacity
           monthlyCapacity, effectiveFrom
           status := if directFactory then .active else .pending
           requestedBy := command.access.userId, updatedAt := command.now }

/-- A new relation is inserted with its first version; an existing one takes the
new values and its next version. -/
def storeRelation (existing : Option (Nat × SupplierSku)) (relation : SupplierSku) :
    SupplyTx [supplierSkus, procurementVersions] (Nat × Nat) :=
  match existing with
  | none => do
      let relationId ← insertUnique supplierSkus (fun row => row.factoryId == relation.factoryId &&
        row.supplierId == relation.supplierId && row.sku == relation.sku) relation
        (.duplicateKey supplierSkus)
      let version ← ensureVersion "supplier_sku" relationId
      return (relationId, version)
  | some (relationId, old) => do
      updateRow supplierSkus relationId (fun row => row.updatedAt == old.updatedAt)
        (fun _ => relation) (conflict "Supplier-SKU relation changed concurrently")
      let version ← ensureVersion "supplier_sku" relationId
      raiseVersion "supplier_sku" relationId version "Supplier-SKU version changed concurrently"
      return (relationId, version + 1)

def relationMembers (relation : SupplierSku) : List (String × JsonValue) :=
  [("isPrimary", .boolean relation.isPrimary), ("priority", .number relation.priority),
    ("minimumOrderQuantity", .number relation.minimumOrderQuantity),
    ("packagingMultiple", .number relation.packagingMultiple),
    ("purchaseUnit", .text relation.purchaseUnit), ("leadTimeDays", orNull relation.leadTimeDays),
    ("dailyCapacity", orNull relation.dailyCapacity),
    ("monthlyCapacity", orNull relation.monthlyCapacity)]

/-- A factory that is not internal activates the relation to a supplier of the
third tier directly. -/
def activatesRelation (access : AccessContext) (tier : Option Int) (factoryId : Nat) : Bool :=
  hasRole access [.factory] && !isInternal access && tier == some 3 &&
    access.factoryId == some factoryId

def writeSupplierSku (command : SupplyContext) (body : WriteSupplierSku) :
    SupplyTx [supplierSkus, approvalRequests, procurementVersions] JsonValue := do
  let factoryId ← positiveKey body.factoryId
  let supplierId ← positiveKey body.supplierId
  let sku ← text body.sku 191
  let effectiveFrom ← date body.effectiveFrom
  whenever (isInternal command.access = false) (requireFactoryBinding command.access factoryId)
  let factory ← query fun db => ((db factories).find? factoryId).any (·.active)
  let found ← select suppliers supplierId
  let skuRow ← query fun db => (db skus).first? fun _ row => row.code == sku && row.active
  let supplier ← orThrow found (notFound "Factory, supplier, or active SKU not found")
  let stocked ← orThrow skuRow (notFound "Factory, supplier, or active SKU not found")
  refuseIf (factory = false) (notFound "Factory, supplier, or active SKU not found")
  refuseIf (1 < supplier.tier.getD 1 ∧ supplier.managedByFactoryId ≠ some factoryId)
    (conflict "Supplier is not managed by this factory")
  let directFactory := activatesRelation command.access supplier.tier factoryId
  let existing ← query fun db => (db supplierSkus).first? fun _ row =>
    row.factoryId == factoryId && row.supplierId == supplierId && row.sku == sku
  let relation ← relationOf command body sku effectiveFrom stocked.2.stockUnit directFactory
  let (relationId, targetVersion) ← (storeRelation existing relation).widen
  if directFactory then
    Supply.domainEvent command "SupplierSkuActivated" "supplier_sku" relationId
  else do
    let approvalId ← createApproval command "supplier_sku_change" "supplier_sku" relationId
      (.object ([("factoryId", .number factoryId), ("supplierId", .number supplierId),
        ("sku", .text sku), ("effectiveFrom", .text effectiveFrom)] ++ relationMembers relation ++
        [("targetVersion", .number targetVersion),
          ("targetHash", .text (supplierSkuTargetHash command.sha256 relation))]))
    approvalNotification command "supplier_sku_change" approvalId
  return .object [("relation", .object ([("id", .number relationId), ("factoryId", .number factoryId),
    ("supplierId", .number supplierId), ("sku", .text sku), ("effectiveFrom", .text effectiveFrom),
    ("status", .text relation.status.name)] ++ relationMembers relation)),
    ("approvalRequired", .boolean (!directFactory)), ("created", .boolean existing.isNone)]

/-! ## Prices -/

structure WriteSupplierPrice where
  supplierId : Nat
  sku : String
  taxIncludedMinor : Int
  taxExcludedMinor : Int
  taxRateBps : Int
  effectiveFrom : String
  reason : String
  evidenceFileKey : String
  objectVersion : Option Nat := none
  challengeNo : Option String := none

def priceResourceId (supplierId : Nat) (sku : String) : String :=
  toString supplierId ++ ":" ++ sku

/-- The active agreement: the first row of `ORDER BY effective_from DESC, id DESC`. -/
def activePrice (db : Database) (supplierId : Nat) (sku : String) :
    Option (Nat × CorePriceAgreement) :=
  (((db corePriceAgreements).select fun _ row =>
      row.supplierId == supplierId && row.sku == sku && row.active).insertionSort
    fun a b => b.2.effectiveFrom < a.2.effectiveFrom ∨
      (b.2.effectiveFrom = a.2.effectiveFrom ∧ b.1 ≤ a.1)).head?

def priceVersionOf (versions : Table PriceVersion) (resourceId : String) : Option Nat :=
  (versions.first? fun _ row => row.resourceId == resourceId).map fun r => r.2.version

/-- The insert of a first version that an existing one ignores, and its value. -/
def ensurePriceVersion (resourceId : String) : SupplyTx [priceVersions] Nat := do
  let known ← query fun db => priceVersionOf (db priceVersions) resourceId
  whenever (known = none) (insertRow priceVersions { resourceId, version := 1 })
  return known.getD 1

def raisePriceVersion {μ : Type} [Writes priceVersions writes] (resourceId : String)
    (version : Nat) (message : String) : Transaction Row μ Failure writes Unit := do
  let current := fun (_ : Nat) (row : PriceVersion) =>
    row.resourceId == resourceId && row.version == version
  let matched ← query fun db => (db priceVersions).any current
  refuseIf (matched = false) (conflict message)
  updateWhere priceVersions current fun row => { row with version := row.version + 1 }

structure PriceClaim where
  challengeNo : String
  objectId : String
  objectVersion : Nat
  requestDigest : String
  sessionId : Nat
  userId : Nat

def matchesClaim (challenge : PriceChallenge) (claim : PriceClaim) (clock : Nat) : Bool :=
  challenge.challengeNo == claim.challengeNo && challenge.userId == claim.userId &&
    challenge.sessionId == some claim.sessionId && challenge.highRisk &&
    challenge.action == "supplier_price.activate" && challenge.objectId == claim.objectId &&
    challenge.objectVersion == claim.objectVersion &&
    challenge.requestDigest == claim.requestDigest && challenge.verified &&
    challenge.consumedAt.isNone && decide (clock < challenge.expiresAt)

/-- `consumeStepUpClaim` for the activation of a price. -/
def consumePriceClaim (command : SupplyContext) (claim : PriceClaim) :
    SupplyTx [priceChallenges] Unit := do
  let consumed ← query fun db =>
    ((db priceChallenges).select fun _ row => matchesClaim row claim command.clock).length
  refuseIf (consumed ≠ 1) (conflict "Step-up claim is invalid or consumed")
  updateWhere priceChallenges (fun _ row => matchesClaim row claim command.clock)
    fun row => { row with consumedAt := some command.now }

/-- Ends an active agreement on the day before the next one starts. -/
def retirePrice {μ : Type} [Writes corePriceAgreements writes] (current : Option Nat)
    (effectiveFrom message : String) : Transaction Row μ Failure writes Unit :=
  match current with
  | none => return ()
  | some id =>
      updateRow corePriceAgreements id (fun row => row.active)
        (fun row => { row with effectiveTo := previousDay effectiveFrom, active := false })
        (conflict message)

/-- The relations of a supplier and a sku; a factory sees its own. -/
def activeRelations (db : Database) (supplierId : Nat) (sku : String) (factoryId : Option Nat) :
    List Nat :=
  ((db supplierSkus).select fun _ row => row.supplierId == supplierId && row.sku == sku &&
    row.status == .active && factoryId.all fun id => row.factoryId == id).map (·.1)

/-- What a price is written for, after the checks that both ways share. -/
structure PriceRequest where
  supplierId : Nat
  sku : String
  taxIncludedMinor : Int
  taxExcludedMinor : Int
  taxRateBps : Int
  effectiveFrom : String
  reason : String
  evidenceFileKey : String
  current : Option Nat
  version : Nat

def activatePrice (command : SupplyContext) (request : PriceRequest) (objectVersion : Option Nat)
    (challengeNo : Option String) :
    SupplyTx [corePriceAgreements, priceVersions, priceChallenges] JsonValue := do
  let resourceId := priceResourceId request.supplierId request.sku
  let sessionId ← orThrow command.access.sessionId (forbidden "Authenticated session required")
  let stated ← positiveKey (objectVersion.getD 0) "Price object version required"
  refuseIf (stated ≠ request.version) (conflict "Price version changed; repeat step-up")
  let challengeNo ← text (challengeNo.getD "") 191
  (consumePriceClaim command
    { challengeNo, objectId := resourceId, objectVersion := stated
      requestDigest := command.requestDigest, sessionId
      userId := command.access.userId }).widen
  retirePrice request.current request.effectiveFrom "Active price changed concurrently"
  let agreementId ← insertInto corePriceAgreements
    { supplierId := request.supplierId, sku := request.sku
      unitPriceTaxIncludedMinor := request.taxIncludedMinor
      effectiveFrom := request.effectiveFrom }
  raisePriceVersion resourceId request.version "Price version changed concurrently"
  Supply.domainEvent command "SupplierPriceActivated" "price_agreement" agreementId
  return .object [("agreement", .object [("id", .number agreementId),
    ("supplierId", .number request.supplierId), ("sku", .text request.sku),
    ("currency", .text "CNY"), ("unitPriceTaxIncludedMinor", .number request.taxIncludedMinor),
    ("unitPriceTaxExcludedMinor", .number request.taxExcludedMinor),
    ("taxRateBps", .number request.taxRateBps), ("effectiveFrom", .text request.effectiveFrom),
    ("status", .text "active"), ("objectVersion", .number (request.version + 1))]),
    ("approvalRequired", .boolean false)]

def orNullKey (value : Option Nat) : JsonValue :=
  value.elim .null fun id => .number id

def requestPrice (command : SupplyContext) (request : PriceRequest) (evidenceObjectKey : String) :
    SupplyTx [corePriceChangeRequests, approvalRequests, procurementVersions] JsonValue := do
  let changeId ← insertInto corePriceChangeRequests
    { currentAgreementId := request.current, supplierId := request.supplierId, sku := request.sku
      proposedTaxIncludedMinor := request.taxIncludedMinor
      proposedEffectiveFrom := request.effectiveFrom }
  let members := [("currentAgreementId", orNullKey request.current),
    ("supplierId", .number request.supplierId), ("sku", .text request.sku),
    ("proposedTaxIncludedMinor", .number request.taxIncludedMinor),
    ("proposedTaxExcludedMinor", .number request.taxExcludedMinor),
    ("proposedTaxRateBps", .number request.taxRateBps),
    ("proposedEffectiveFrom", .text request.effectiveFrom), ("reason", .text request.reason)]
  let approvalId ← createApproval command "supplier_price_change" "supplier_price_change" changeId
    (.object (members ++ [("evidenceFileKey", .text request.evidenceFileKey),
      ("requestedBy", .number command.access.userId),
      ("priceResourceId", .text (priceResourceId request.supplierId request.sku)),
      ("priceVersion", .number request.version)])) true
  approvalNotification command "supplier_price_change" approvalId
  return .object [("request", .object ([("id", .number changeId)] ++ members ++
    [("evidenceFileKey", .text evidenceObjectKey), ("decision", .text "pending")])),
    ("approvalRequired", .boolean true)]

/-- The factory that manages a supplier of the third tier. -/
def maintainsPrices (access : AccessContext) (supplier : Supplier) : Bool :=
  supplier.tier == some 3 && hasRole access [.factory] && access.factoryId.isSome &&
    supplier.managedByFactoryId == access.factoryId

def writeSupplierPrice (command : SupplyContext) (body : WriteSupplierPrice) :
    SupplyTx [corePriceAgreements, corePriceChangeRequests, priceVersions, priceChallenges,
      approvalRequests, procurementVersions] JsonValue := do
  let supplierId ← positiveKey body.supplierId
  let sku ← text body.sku 191
  let taxIncludedMinor ← positiveInteger body.taxIncludedMinor
  let taxExcludedMinor ← positiveInteger body.taxExcludedMinor
  let taxRateBps ← nonNegativeInteger body.taxRateBps
  refuseIf (10000 < taxRateBps) (badRequest "Tax rate is out of range")
  let effectiveFrom ← date body.effectiveFrom
  let reason ← text body.reason 2000
  let evidenceFileKey ← text body.evidenceFileKey
  let found ← select suppliers supplierId
  let supplier ← orThrow found (notFound "Supplier or active SKU not found")
  let skuKnown ← query fun db => (db skus).any fun _ row => row.code == sku && row.active
  refuseIf (skuKnown = false) (notFound "Supplier or active SKU not found")
  let directFactory := maintainsPrices command.access supplier
  refuseIf (supplier.tier = some 3 ∧ isInternal command.access = true)
    (forbidden "Tier-3 prices are maintained by the bound factory")
  refuseIf (directFactory = false ∧ isInternal command.access = false) (forbidden "Forbidden")
  let relations ← query fun db => activeRelations db supplierId sku
    (if directFactory then command.access.factoryId else none)
  refuseIf (relations = []) (conflict "An active supplier-SKU relation is required")
  let evidence ← requireFile command.access (fileSelector evidenceFileKey) ["price_evidence"]
    (some ("supplier_sku", relations))
  let current ← query fun db => activePrice db supplierId sku
  refuseIf (current.any (fun row => decide (effectiveFrom ≤ row.2.effectiveFrom)) = true)
    (conflict "New price must start after the active price")
  let version ← (ensurePriceVersion (priceResourceId supplierId sku)).widen
  let request : PriceRequest :=
    { supplierId, sku, taxIncludedMinor, taxExcludedMinor, taxRateBps, effectiveFrom, reason
      evidenceFileKey, current := current.map (·.1), version }
  if directFactory then (activatePrice command request body.objectVersion body.challengeNo).widen
  else (requestPrice command request evidence.objectKey).widen

end SupplyChain.Suppliers
