import SupplyChain.Supply
import SupplyChain.Commands
import SupplyChain.Relational.Keys

/-!
The numbers that commands derive from their idempotency keys. A request number
of `createApproval` hashes the key with the workflow but leaves the user out; the
numbers of role changes and imports keep a part of the key only.
-/

namespace SupplyChain.Supply

open Relational Transaction TableName

variable {sha256 : String → String} {writes : List TableName} {db db' : Database}
  {sent : List String}

/-! ## The derivations -/

/-- The approvals that `createApproval` opens, by the command that opens them. -/
inductive Opened where
  | orderDeviation
  | orderException
  | skuVerification
  | bomVersion
  | planVersion
  | planDeviation
  | planException
  | importedSupplier (supplierId : Nat)
  | supplierOnboarding
  | supplierSkuChange
  | supplierPriceChange
  deriving DecidableEq

namespace Opened

def command : Opened → String
  | orderDeviation => "purchase-orders.create"
  | orderException => "purchase-orders.update"
  | skuVerification | bomVersion => "master-data.write"
  | planVersion => "purchase-plans.create"
  | planDeviation | planException => "purchase-plans.update"
  | importedSupplier _ => "imports.commit"
  | supplierOnboarding => "suppliers.write"
  | supplierSkuChange => "supplier-skus.write"
  | supplierPriceChange => "supplier-prices.write"

def workflowType : Opened → String
  | orderDeviation | planDeviation => "purchase_plan_deviation"
  | orderException => "purchase_order_factory_exception"
  | skuVerification => "sku_verification"
  | bomVersion => "bom_version"
  | planVersion => "purchase_plan_version"
  | planException => "purchase_plan_factory_exception"
  | importedSupplier _ | supplierOnboarding => "supplier_onboarding"
  | supplierSkuChange => "supplier_sku_change"
  | supplierPriceChange => "supplier_price_change"

/-- `input.discriminator ?? input.workflowType`; an import opens one approval for
each supplier. -/
def discriminator : Opened → String
  | importedSupplier supplierId => "supplier:" ++ toString supplierId
  | opened => opened.workflowType

end Opened

/-- The places that derive a number from the key. -/
inductive NumberSite where
  | approval (opened : Opened)
  | assignRole
  | revokeRole
  | stageImport
  deriving DecidableEq

def NumberSite.command : NumberSite → String
  | .approval opened => opened.command
  | .assignRole => "users.assign-role"
  | .revokeRole => "users.revoke-role"
  | .stageImport => "imports.stage"

/-- A command that derives a number, sent by a user under an admissible key. -/
structure Derivation where
  actor : Nat
  key : String
  admissible : Commands.isIdempotencyKey key = true
  site : NumberSite

def shortDigest (sha256 : String → String) (value : String) : String :=
  String.ofList ((sha256 value).toList.take 24)

def hashedText (key discriminator : String) : String :=
  key ++ ":" ++ discriminator

def approvalNo (sha256 : String → String) (key discriminator : String) : String :=
  "AP-R2-" ++ shortDigest sha256 (hashedText key discriminator)

def roleRequestNo (userId : Nat) (key : String) : String :=
  "AP-ROLE-" ++ toString userId ++ "-" ++ String.ofList (key.toList.take 24)

def revocationRequestNo (userId : Nat) (key : String) : String :=
  "AP-ROLE-REVOKE-" ++ toString userId ++ "-" ++ String.ofList (key.toList.take 16)

/-- `key.replace(/[^A-Za-z0-9]/gu, "").slice(-24)`. -/
def lastAlphanumerics (key : String) : List Char :=
  let kept := key.toList.filter Commands.isAlphanumeric
  kept.drop (kept.length - 24)

def importNo (key : String) : String :=
  "IMP-R2-" ++ String.ofList (lastAlphanumerics key)

namespace Derivation

def number (sha256 : String → String) (derivation : Derivation) : String :=
  match derivation.site with
  | .approval opened => approvalNo sha256 derivation.key opened.discriminator
  | .assignRole => roleRequestNo derivation.actor derivation.key
  | .revokeRole => revocationRequestNo derivation.actor derivation.key
  | .stageImport => importNo derivation.key

/-- The text whose digest the number holds. -/
def hashed (derivation : Derivation) : Option String :=
  match derivation.site with
  | .approval opened => some (hashedText derivation.key opened.discriminator)
  | _ => none

end Derivation

/-- A command whose request number is taken is refused; that it is another user's
does not matter. -/
theorem createApproval_refused [Writes approvalRequests writes] [Writes procurementVersions writes]
    {command : SupplyContext} {opened : Opened} {entityType : String} {entityId id other : Nat}
    {payload : JsonValue} {highRisk : Bool} {row : ApprovalRequest}
    (taken : (db approvalRequests).find? other = some row)
    (same : row.requestNo = approvalNo command.sha256 command.idempotencyKey opened.workflowType) :
    ¬ (createApproval command opened.workflowType entityType entityId payload highRisk :
      SupplyTx writes Nat).Returns db id sent db' := by
  intro returns
  simp only [createApproval, returns_bind_insertUnique] at returns
  have free := returns.1
  rw [Table.any_eq_false] at free
  have other := free _ _ taken
  rw [same] at other
  simp [requestNo, approvalNo, hashedText, shortDigest, hashed] at other

end SupplyChain.Supply
