import SupplyChain.Commands

/-!
The client of the browser: how it names a mutation, keeps the idempotency key of
one whose outcome it does not know, and tells known outcomes from unknown ones.
-/

namespace SupplyChain.MutationClient

open Json Commands

/-! ## Paths and commands -/

inductive MutationMethod
  | post | patch | delete
  deriving DecidableEq

def MutationMethod.name : MutationMethod → String
  | .post => "POST"
  | .patch => "PATCH"
  | .delete => "DELETE"

inductive PlatformMutationPath
  | login | verify | logout | stepUpRequest | stepUpVerify | users | accounts | passwordReset
  | disable | restore | files | notificationsRead | approvals | inventory | transfers
  | productionOrders | purchaseReceipts | qualityInspections | stocktakes | shipments | returns
  | finance | warehouses | importsPreview | importsStage | importsCommit | masterData | suppliers
  | supplierSkus | supplierPrices | supplierPerformance | purchasePlans | purchaseOrders
  deriving DecidableEq

def PlatformMutationPath.text : PlatformMutationPath → String
  | .login => "/api/v1/auth/login"
  | .verify => "/api/v1/auth/verify"
  | .logout => "/api/v1/auth/logout"
  | .stepUpRequest => "/api/v1/auth/step-up/request"
  | .stepUpVerify => "/api/v1/auth/step-up/verify"
  | .users => "/api/v1/users"
  | .accounts => "/api/v1/users/accounts"
  | .passwordReset => "/api/v1/users/password-reset"
  | .disable => "/api/v1/users/disable"
  | .restore => "/api/v1/users/restore"
  | .files => "/api/v1/files"
  | .notificationsRead => "/api/v1/notifications/read"
  | .approvals => "/api/v1/approvals"
  | .inventory => "/api/v1/inventory"
  | .transfers => "/api/v1/inventory/transfers"
  | .productionOrders => "/api/v1/production-orders"
  | .purchaseReceipts => "/api/v1/purchase-receipts"
  | .qualityInspections => "/api/v1/quality-inspections"
  | .stocktakes => "/api/v1/stocktakes"
  | .shipments => "/api/v1/shipments"
  | .returns => "/api/v1/returns"
  | .finance => "/api/v1/finance"
  | .warehouses => "/api/v1/warehouses"
  | .importsPreview => "/api/v1/imports/preview"
  | .importsStage => "/api/v1/imports/stage"
  | .importsCommit => "/api/v1/imports/commit"
  | .masterData => "/api/v1/master-data"
  | .suppliers => "/api/v1/suppliers"
  | .supplierSkus => "/api/v1/supplier-skus"
  | .supplierPrices => "/api/v1/supplier-prices"
  | .supplierPerformance => "/api/v1/supplier-performance"
  | .purchasePlans => "/api/v1/purchase-plans"
  | .purchaseOrders => "/api/v1/purchase-orders"

/-- `SUPPLY_COMMAND_BY_MUTATION`. -/
def supplyCommandByMutation : MutationMethod → PlatformMutationPath → Option String
  | .post, .importsPreview => some "imports.preview"
  | .post, .importsStage => some "imports.stage"
  | .post, .importsCommit => some "imports.commit"
  | .post, .masterData => some "master-data.write"
  | .post, .suppliers => some "suppliers.write"
  | .post, .supplierSkus => some "supplier-skus.write"
  | .post, .supplierPrices => some "supplier-prices.write"
  | .post, .supplierPerformance => some "supplier-performance.write"
  | .post, .purchasePlans => some "purchase-plans.create"
  | .patch, .purchasePlans => some "purchase-plans.update"
  | .post, .purchaseOrders => some "purchase-orders.create"
  | .patch, .purchaseOrders => some "purchase-orders.update"
  | _, _ => none

/-- `COMMAND_BY_PATH`; the paths of the supply commands are not in it. -/
def commandByPath : PlatformMutationPath → Option String
  | .login => some "auth.login"
  | .verify => some "auth.verify"
  | .logout => some "auth.logout"
  | .stepUpRequest => some "step-up.request"
  | .stepUpVerify => some "step-up.verify"
  | .users => some "users.assign-role"
  | .accounts => some "users.create"
  | .passwordReset => some "users.reset-password"
  | .disable => some "users.disable"
  | .restore => some "users.restore"
  | .files => some "files.upload"
  | .notificationsRead => some "notifications.mark-read"
  | .approvals => some "approvals.decide"
  | .inventory => some "inventory.reserve"
  | .transfers => some "inventory.transfer.request"
  | .productionOrders => some "manufacturing.order.create"
  | .purchaseReceipts => some "purchase.receive"
  | .qualityInspections => some "quality.inspection.submit"
  | .stocktakes => some "inventory.stocktake.open"
  | .shipments => some "logistics.shipment.command"
  | .returns => some "returns.command"
  | .finance => some "finance.command"
  | .warehouses => some "warehouses.command"
  | _ => none

/-- The command of a mutation; none is an undefined name. -/
def commandName (path : PlatformMutationPath) (method : MutationMethod) : Option String :=
  match supplyCommandByMutation method path with
  | some command => some command
  | none =>
      if path = .users then
        some (match method with
          | .post => "users.assign-role"
          | .patch => "users.unlock"
          | .delete => "users.revoke-role")
      else if path = .transfers ∧ method = .patch then some "inventory.transfer.transition"
      else if path = .productionOrders ∧ method = .patch then some "manufacturing.order.transition"
      else if path = .stocktakes ∧ method = .patch then some "inventory.stocktake.transition"
      else commandByPath path

/-! ## Canonical texts -/

mutual

def canonical : Value → List Char
  | .undefined => stringify .null
  | .array items => '[' :: ([','].intercalate (canonicalItems items) ++ [']'])
  | .object members =>
      '\x7b' :: ([','].intercalate
        ((sortMembers (canonicalMembers members)).map fun entry => quote entry.1 ++ ':' :: entry.2)
        ++ ['\x7d'])
  | value => stringify value

def canonicalItems : List Value → List (List Char)
  | [] => []
  | item :: rest => canonical item :: canonicalItems rest

/-- Members that are undefined are left out. -/
def canonicalMembers : List (String × Value) → List (String × List Char)
  | [] => []
  | (name, value) :: rest =>
      if value.isUndefined then canonicalMembers rest
      else (name, canonical value) :: canonicalMembers rest

end

/-- What the client calls of the browser: uuids in the order they are drawn, the
hexadecimal digest of a text, and `String` of a value that is not a string. -/
structure Browser where
  randomUUID : Nat → String
  sha256 : String → String
  string : Value → String

def finalRequestDigest (browser : Browser) (payload : Value) : String :=
  browser.sha256 (String.ofList (canonical payload))

/-! ## Pending keys -/

def without (name : String) (members : List (String × Value)) : List (String × Value) :=
  members.filter fun entry => entry.1 != name

/-- The body that names a pending mutation: it holds no password. -/
def sensitivePendingBody (path : PlatformMutationPath) (body : Value) : Value :=
  match body with
  | .object members =>
      if path = .accounts then .object (without "initialPassword" members)
      else if path = .passwordReset then .object (without "newPassword" members)
      else body
  | _ => body

def serverOwnedDigest (path : PlatformMutationPath) : Bool :=
  path == .accounts || path == .passwordReset

/-- The session storage of a tab and how many uuids it has drawn. -/
structure Tab where
  storage : String → Option String
  drawn : Nat

def Tab.setItem (tab : Tab) (id key : String) : Tab :=
  { tab with storage := fun name => if name = id then some key else tab.storage name }

def Tab.removeItem (tab : Tab) (id : String) : Tab :=
  { tab with storage := fun name => if name = id then none else tab.storage name }

/-- A call of `mutateJson`. -/
structure Mutation where
  path : PlatformMutationPath
  method : MutationMethod
  body : Value
  csrf : Bool := true
  digestBody : Option Value := none
  idempotencyKey : Option String := none

/-- Where the pending key of a mutation is stored. -/
def Mutation.id (browser : Browser) (mutation : Mutation) : String :=
  "topology:pending:" ++ browser.sha256 (mutation.method.name ++ ":" ++ mutation.path.text ++ ":" ++
    String.ofList (canonical (sensitivePendingBody mutation.path mutation.body)))

def pendingKey (browser : Browser) (mutation : Mutation) (tab : Tab) : String × Tab :=
  let id := mutation.id browser
  match (tab.storage id).filter isIdempotencyKey with
  | some existing => (existing, tab.setItem id existing)
  | none =>
      let key := browser.randomUUID tab.drawn
      (key, { tab.setItem id key with drawn := tab.drawn + 1 })

/-! ## Errors and answers -/

structure MutationError where
  message : String
  code : Value
  idempotencyKey : String

def Value.isText (value : Value) (text : String) : Bool :=
  match value with
  | .text other => other == text
  | _ => false

def MutationError.outcomeUnknown (error : MutationError) : Bool :=
  Value.isText error.code "COMMAND_OUTCOME_UNKNOWN" ||
    Value.isText error.code "NETWORK_OUTCOME_UNKNOWN"

/-- An HTTP answer; `json` is none when its body is lost or is no JSON. -/
structure Answer where
  status : Nat
  json : Option Value

def Answer.ok (answer : Answer) : Bool := 200 ≤ answer.status && answer.status ≤ 299

/-- A member of a value that is neither null nor undefined. -/
def property (value : Value) (name : String) : Value :=
  match value with
  | .object members => ((members.find? fun entry => entry.1 == name).map (·.2)).getD .undefined
  | _ => .undefined

def isNullish : Value → Bool
  | .undefined | .null => true
  | _ => false

/-- `left ?? right`. -/
def orElse (left right : Value) : Value := if isNullish left then right else left

def display (browser : Browser) : Value → String
  | .text value => value
  | value => browser.string value

/-- What `decode` throws: an error of the client, or the type error of reading a
member of null. -/
inductive Thrown
  | mutationError (error : MutationError)
  | typeError

/-- The code of an answer that is not ok. -/
def errorCode (answer : Answer) (body : Value) : Value :=
  let code := property body "code"
  if answer.status = 502 ∨ answer.status = 504 ∨
      (500 ≤ answer.status ∧
        (code.isUndefined = true ∨ Value.isText code "REQUEST_FAILED" = true)) then
    .text "NETWORK_OUTCOME_UNKNOWN"
  else orElse code (.text "REQUEST_FAILED")

def decode (browser : Browser) (answer : Answer) (idempotencyKey : String) : Except Thrown Value :=
  let body := answer.json.getD (.object [])
  if isNullish body then .error .typeError
  else if answer.ok = false then
    let code := errorCode answer body
    let message := display browser (orElse (property body "message")
      (orElse (property body "error") (.text s!"请求失败（{answer.status}）")))
    let error : MutationError := ⟨message, code, idempotencyKey⟩
    .error (.mutationError (if error.outcomeUnknown then
      { error with
        message := message ++ " 请勿创建新请求；仅可使用幂等键 " ++ idempotencyKey ++ " 对账或重放。" }
      else error))
  else if (property body "result").isUndefined = true ∨ (property body "command").isUndefined = true
    then .error (.mutationError ⟨"服务端返回了无效的写入结果。", .text "INVALID_RESPONSE", idempotencyKey⟩)
  else .ok (property body "result")

/-! ## The call -/

/-- The request of a call: where its key is stored, and its headers. -/
structure Sent where
  id : String
  idempotencyKey : String
  csrfToken : Option String
  requestDigest : Option String

/-- The key of a call, stored as pending; a key of the caller comes first. -/
def idempotencyKeyOf (browser : Browser) (mutation : Mutation) (tab : Tab) : String × Tab :=
  let pending := pendingKey browser mutation tab
  match mutation.idempotencyKey with
  | none => pending
  | some own => (own, pending.2.setItem (mutation.id browser) own)

def requestDigestOf (browser : Browser) (mutation : Mutation) : Option String :=
  if serverOwnedDigest mutation.path then none
  else
    let command := ((commandName mutation.path mutation.method).map Value.text).getD .undefined
    some (finalRequestDigest browser (.object
      [("command", command), ("payload", mutation.digestBody.getD mutation.body)]))

/-- The token of the headers; an empty one counts as none. -/
def csrfToken (mutation : Mutation) (token : Option String) (idempotencyKey : String) :
    Except MutationError (Option String) :=
  if mutation.csrf then
    match token.filter fun value => value != "" with
    | some value => .ok (some value)
    | none => .error ⟨"安全会话已过期，请重新登录。", .text "CSRF_REJECTED", idempotencyKey⟩
  else .ok none

/-- `mutateJson` up to the fetch. -/
def begin (browser : Browser) (token : Option String) (mutation : Mutation) (tab : Tab) :
    Except MutationError Sent × Tab :=
  let called := idempotencyKeyOf browser mutation tab
  (match csrfToken mutation token called.1 with
    | .ok token =>
        .ok ⟨mutation.id browser, called.1, token, requestDigestOf browser mutation⟩
    | .error error => .error error, called.2)

/-- `mutateJson` from the fetch on; no answer is a fetch that failed. -/
def conclude (browser : Browser) (sent : Sent) (fetched : Option Answer) (tab : Tab) :
    Except MutationError Value × Tab :=
  match fetched.map fun answer => decode browser answer sent.idempotencyKey with
  | some (.ok result) => (.ok result, tab.removeItem sent.id)
  | some (.error (.mutationError error)) =>
      (.error error, if error.outcomeUnknown then tab else tab.removeItem sent.id)
  | _ =>
      (.error ⟨"请求结果未知；请使用同一幂等键 " ++ sent.idempotencyKey ++ " 重试。",
        .text "NETWORK_OUTCOME_UNKNOWN", sent.idempotencyKey⟩, tab)

end SupplyChain.MutationClient
