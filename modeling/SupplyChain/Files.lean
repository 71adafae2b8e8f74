import SupplyChain.FileStorage

/-!
Uploaded files, from the parts of the request to the row of the file and back to a download.
A file is stored before its row is written, under a key that names its content, so that a row
is only ever read together with the whole file it was written for.
-/

namespace SupplyChain.Files

open FileStorage Publishing Relational

structure FilesError where
  statusCode : Nat
  code : Option String
  message : String
  deriving DecidableEq

def fileNotFound : FilesError := ⟨404, none, "File not found"⟩
def fileForbidden : FilesError := ⟨403, none, "File access forbidden"⟩
def filesUnavailable : FilesError := ⟨503, none, "Files unavailable"⟩
def platformError (statusCode : Nat) (code message : String) : FilesError :=
  ⟨statusCode, some code, message⟩

def internalRoles : List Role := [.admin, .supplyChain, .finance, .companyQc]

def requiredEntityTypeByCategory : List (String × String) :=
  [("import", "import_upload"), ("import_source", "import_upload"),
    ("invoice", "purchase_order"), ("shipment_evidence", "delivery_batch"),
    ("receipt_evidence", "delivery_batch"), ("quality_evidence", "product_return"),
    ("price_evidence", "supplier_sku")]

/-- The content types with their extensions. -/
def extensions : List (String × String) :=
  [("application/pdf", ".pdf"), ("image/jpeg", ".jpg"), ("image/png", ".png"),
    ("image/webp", ".webp"),
    ("application/vnd.openxmlformats-officedocument.spreadsheetml.sheet", ".xlsx"),
    ("application/vnd.ms-excel", ".xls")]

def allowedContentTypes : List String := extensions.map Prod.fst

def extensionFor (contentType : String) : String := (extensions.lookup contentType).getD ""

def matchesMagic (bytes : List UInt8) (contentType : String) : Bool :=
  let starts (values : List UInt8) := values.isPrefixOf bytes
  match contentType with
  | "application/pdf" => starts [0x25, 0x50, 0x44, 0x46, 0x2d]
  | "image/jpeg" => starts [0xff, 0xd8, 0xff]
  | "image/png" => starts [0x89, 0x50, 0x4e, 0x47, 0x0d, 0x0a, 0x1a, 0x0a]
  | "image/webp" =>
      starts [0x52, 0x49, 0x46, 0x46] && [0x57, 0x45, 0x42, 0x50].isPrefixOf (bytes.drop 8)
  | "application/vnd.openxmlformats-officedocument.spreadsheetml.sheet" =>
      starts [0x50, 0x4b, 0x03, 0x04]
  | "application/vnd.ms-excel" => starts [0xd0, 0xcf, 0x11, 0xe0, 0xa1, 0xb1, 0x1a, 0xe1]
  | _ => false

/-! ## The parts of an upload -/

/-- A part of the form. The value of a field need not be a text. -/
inductive Part
  | file (fieldname filename mimetype : String) (content : List UInt8)
  | field (fieldname : String) (value : Option String)

structure Received where
  bytes : Option (List UInt8) := none
  fileName : String := ""
  declaredType : String := ""
  fields : List (String × String) := []

def receive (received : Received) : List Part → Except FilesError Received
  | [] => .ok received
  | .file fieldname filename mimetype content :: parts =>
      if received.bytes.isSome ∨ fieldname ≠ "file" then
        .error (platformError 400 "BAD_REQUEST" "Exactly one file is required")
      else
        -- The form reads no more of a file than the limit and then fails.
        if maxFileSizeBytes < content.length then
          .error (platformError 413 "BAD_REQUEST" "File exceeds the upload limit")
        else
          receive { received with
            bytes := some content, fileName := filename, declaredType := mimetype } parts
  | .field fieldname value :: parts =>
      match value with
      | none => .error (platformError 400 "BAD_REQUEST" "Invalid upload field")
      | some value =>
          if fieldname ∉ ["category", "entityType", "entityId"] ∨
              (received.fields.lookup fieldname).isSome ∨ 191 < textLength value then
            .error (platformError 400 "BAD_REQUEST" "Invalid upload field")
          else receive { received with fields := (fieldname, trim value) :: received.fields } parts

/-- A field that is there and not empty. -/
def Received.field (received : Received) (name : String) : Option String :=
  (received.fields.lookup name).filter fun value => value ≠ ""

/-! ## Uploads -/

def isPositiveInteger (value : String) : Bool :=
  match value.toList with
  | first :: rest => first.isDigit && first != '0' && rest.all Char.isDigit
  | [] => false

def utf8 (value : String) : List UInt8 := value.toUTF8.data.toList

structure UploadRequest where
  access : AccessContext
  parts : List Part
  idempotencyKey : String

structure Upload where
  access : AccessContext
  objectKey : Text
  fileName : String
  contentType : String
  bytes : List UInt8
  category : String
  entityType : String
  entityId : String
  sensitive : Bool
  contentSha256 : Text

/-- The names in the key of an upload. -/
def objectKeyNames (userId : Nat) (categoryHash contentSha256 uploadKeyHash extension : Text) :
    FileStorage.Path :=
  ["quarantine".toList, "users".toList, Nat.toDigits 10 userId, categoryHash,
    contentSha256 ++ '-' :: (uploadKeyHash ++ extension)]

def uploadObjectKey (sha256 : List UInt8 → Text) (userId : Nat) (category idempotencyKey : String)
    (contentSha256 : Text) (contentType : String) : Text :=
  ['/'].intercalate (objectKeyNames userId ((sha256 (utf8 category)).take 16) contentSha256
    ((sha256 (utf8 idempotencyKey)).take 24) (extensionFor contentType).toList)

def refuse (condition : Prop) [Decidable condition] (error : FilesError) : Except FilesError Unit :=
  if condition then .error error else pure ()

def required {α : Type} (value : Option α) (error : FilesError) : Except FilesError α :=
  match value with
  | none => .error error
  | some value => pure value

/-- The checks of an upload, in their order. Who may write to what is decided elsewhere. -/
def upload (sha256 : List UInt8 → Text) (authorizeEntity : AccessContext → String → String → Bool)
    (request : UploadRequest) : Except FilesError Upload := do
  refuse (request.access.sessionId = none)
    (platformError 403 "FORBIDDEN" "Authenticated session required")
  let received ← receive {} request.parts
  let bytes ← required received.bytes (platformError 400 "BAD_REQUEST" "File is required")
  refuse (bytes = []) (platformError 400 "BAD_REQUEST" "File is required")
  refuse (textLength (trim received.fileName) = 0 ∨ 255 < textLength received.fileName)
    (platformError 400 "BAD_REQUEST" "Invalid file name")
  let category := (received.fields.lookup "category").getD ""
  refuse (category = "" ∨ 100 < textLength category)
    (platformError 400 "BAD_REQUEST" "File category is required")
  refuse ((received.field "entityType").isNone ≠ (received.field "entityId").isNone)
    (platformError 400 "BAD_REQUEST" "File resource scope is incomplete")
  refuse ((requiredEntityTypeByCategory.lookup category).any fun requiredEntityType =>
      received.field "entityType" ≠ some requiredEntityType ||
        !(received.field "entityId").any isPositiveInteger)
    (platformError 400 "BAD_REQUEST" "File category requires an authorized entity scope")
  let entityType ← required (received.field "entityType") fileForbidden
  let entityId ← required (received.field "entityId") fileForbidden
  refuse (authorizeEntity request.access entityType entityId = false) fileForbidden
  refuse (received.declaredType ∉ allowedContentTypes ∨
      matchesMagic bytes received.declaredType = false)
    (platformError 415 "FILE_TYPE_REJECTED" "File content type is not allowed")
  let sensitive := decide
    (category ∈ ["invoice", "payment", "bank_account", "price_evidence", "audit_export"])
  let internal := hasRole request.access internalRoles
  let factoryPriceEvidence := category == "price_evidence" && hasRole request.access [.factory]
  refuse (sensitive && !internal && !factoryPriceEvidence) fileForbidden
  refuse (!internal && request.access.factoryId.isNone && request.access.supplierId.isNone)
    fileForbidden
  return {
    access := request.access
    objectKey := uploadObjectKey sha256 request.access.userId category request.idempotencyKey
      (sha256 bytes) received.declaredType
    fileName := received.fileName
    contentType := received.declaredType
    bytes
    category
    entityType
    entityId
    sensitive
    contentSha256 := sha256 bytes }

def Upload.publication (upload : Upload) (root : FileStorage.Path) (randomUUID : Text) :
    Publication FileStorage.Path UInt8 :=
  let target := root ++ upload.objectKey.splitOn '/'
  ⟨target, temporaryPath target randomUUID, upload.bytes⟩

def Upload.write (upload : Upload) (randomUUID : Text) : Write where
  objectKey := upload.objectKey
  body := upload.bytes
  metadata := ⟨upload.contentType, upload.contentSha256, some upload.access.userId⟩
  randomUUID

/-! ## Downloads -/

inductive ScanStatus
  | quarantined | clean | rejected
  deriving DecidableEq

structure FileObjectRecord where
  objectKey : Text
  fileName : String
  contentType : String
  sizeBytes : Nat
  category : String
  entityType : Option String
  entityId : Option String
  ownerUserId : Nat
  factoryId : Option Nat
  supplierId : Option Nat
  sensitive : Bool
  scanStatus : ScanStatus
  contentSha256 : Text

def Upload.record (upload : Upload) : FileObjectRecord where
  objectKey := upload.objectKey
  fileName := upload.fileName
  contentType := upload.contentType
  sizeBytes := upload.bytes.length
  category := upload.category
  entityType := some upload.entityType
  entityId := some upload.entityId
  ownerUserId := upload.access.userId
  factoryId := upload.access.factoryId
  supplierId := upload.access.supplierId
  sensitive := upload.sensitive
  scanStatus := .quarantined
  contentSha256 := upload.contentSha256

/-- A text that may stand in a header. -/
def headerString (value : String) : Bool :=
  value ≠ "" && value.toList.all fun c => c != '\r' && c != '\n'

def nullableInteger (value : Option Nat) : Bool :=
  value.all fun id : Nat => isSafeInteger id && 0 < id

/-- The row of a file, when it is one that an upload can have written. -/
def fileObject (row : FileObjectRecord) : Except FilesError FileObjectRecord :=
  if headerString row.contentType && decide (row.contentType ∈ allowedContentTypes) &&
      decide (row.sizeBytes ≤ maxFileSizeBytes) && row.objectKey ≠ [] &&
      headerString row.fileName && row.category ≠ "" && isSafeInteger row.ownerUserId && 0 < row.ownerUserId &&
      nullableInteger row.factoryId && nullableInteger row.supplierId then .ok row
  else .error filesUnavailable

def canRead (access : AccessContext) (record : FileObjectRecord) : Bool :=
  hasRole access internalRoles || record.ownerUserId == access.userId ||
    (access.factoryId.any fun id : Nat =>
      isSafeInteger id && 0 < id && record.factoryId == some id) ||
    (access.supplierId.any fun id : Nat =>
      isSafeInteger id && 0 < id && record.supplierId == some id)

structure Download where
  contentType : String
  fileName : String
  body : List UInt8
  deriving DecidableEq

def download (root : FileStorage.Path) (files : FileStorage.Path → Option (List UInt8))
    (authorizeEntity : AccessContext → String → String → Bool) (access : AccessContext)
    (row : Option FileObjectRecord) : Except FilesError Download := do
  let row ← required row fileNotFound
  let record ← fileObject row
  refuse (canRead access record = false) fileForbidden
  let entityType ← required record.entityType fileForbidden
  let entityId ← required record.entityId fileForbidden
  refuse (authorizeEntity access entityType entityId = false) fileForbidden
  refuse (record.scanStatus ≠ .clean)
    (platformError 423 "FILE_QUARANTINED" "File is not available until scanning completes")
  match readObject root files record.objectKey with
  | .error _ => .error filesUnavailable
  | .ok none => .error fileNotFound
  | .ok (some body) => do
      refuse (maxFileSizeBytes < body.length ∨ body.length ≠ record.sizeBytes) filesUnavailable
      return ⟨record.contentType, record.fileName, body⟩

/-! ## The keys of uploads -/

/-- The digests of SHA-256 in hexadecimal. -/
structure IsHexDigest (digest : Text) : Prop where
  length : digest.length = 64
  hex : ∀ c ∈ digest, c ∈ "0123456789abcdef".toList

theorem IsHexDigest.not_mem {digest : Text} (hex : IsHexDigest digest) {c : Char}
    (other : c ∉ "0123456789abcdef".toList) (count : Nat) : c ∉ digest.take count := by
  intro member
  exact other (hex.hex _ (List.mem_of_mem_take member))

theorem IsHexDigest.slash {digest : Text} (hex : IsHexDigest digest) : '/' ∉ digest := by
  have whole := hex.not_mem (by decide : '/' ∉ "0123456789abcdef".toList) digest.length
  rwa [List.take_length] at whole

variable {sha256 : List UInt8 → Text} {authorizeEntity : AccessContext → String → String → Bool}
  {request request' : UploadRequest} {u u' : Upload} {root : FileStorage.Path}

/-- What is known of an accepted upload. -/
structure Accepted (sha256 : List UInt8 → Text) (request : UploadRequest) (u : Upload) : Prop where
  key : u.objectKey = uploadObjectKey sha256 u.access.userId u.category request.idempotencyKey
    u.contentSha256 u.contentType
  digest : u.contentSha256 = sha256 u.bytes
  type : u.contentType ∈ allowedContentTypes
  category : u.category ≠ ""
  filled : u.bytes ≠ []
  bounded : u.bytes.length ≤ maxFileSizeBytes

theorem extension_slash {contentType : String} : '/' ∉ (extensionFor contentType).toList := by
  unfold extensionFor
  cases found : extensions.lookup contentType with
  | none => decide
  | some extension =>
      obtain ⟨before, after, same, -⟩ := List.lookup_eq_some_iff.mp found
      have listed : (contentType, extension) ∈ extensions := same ▸ by simp
      have all : ∀ entry ∈ extensions, '/' ∉ entry.2.toList := by decide
      exact all _ listed

theorem objectKeyNames_slash {userId : Nat} {categoryHash contentSha256 uploadKeyHash : Text}
    {contentType : String} (category : '/' ∉ categoryHash) (content : '/' ∉ contentSha256)
    (upload : '/' ∉ uploadKeyHash) :
    ∀ name ∈ objectKeyNames userId categoryHash contentSha256 uploadKeyHash
      (extensionFor contentType).toList, '/' ∉ name := by
  intro name member
  simp only [objectKeyNames, List.mem_cons, List.not_mem_nil, or_false] at member
  rcases member with rfl | rfl | rfl | rfl | rfl
  · decide
  · decide
  · intro slash
    exact absurd (Nat.isDigit_of_mem_toDigits (by decide) (by decide) slash) (by decide)
  · exact category
  · simp [content, upload, extension_slash]

theorem uploadObjectKey_names (digests : ∀ bytes, IsHexDigest (sha256 bytes)) {userId : Nat}
    {category key type : String} {bytes : List UInt8} :
    (uploadObjectKey sha256 userId category key (sha256 bytes) type).splitOn '/' =
      objectKeyNames userId ((sha256 (utf8 category)).take 16) (sha256 bytes)
        ((sha256 (utf8 key)).take 24) (extensionFor type).toList := by
  have free := fun value => (digests value).not_mem (by decide : '/' ∉ "0123456789abcdef".toList)
  apply List.splitOn_intercalate
  · exact objectKeyNames_slash (free _ _) (digests bytes).slash (free _ _)
  · exact fun empty => by cases empty

theorem uploadObjectKey_digest (digests : ∀ bytes, IsHexDigest (sha256 bytes))
    {userId userId' : Nat} {category category' key key' type type' : String}
    {bytes bytes' : List UInt8}
    (same : uploadObjectKey sha256 userId category key (sha256 bytes) type =
      uploadObjectKey sha256 userId' category' key' (sha256 bytes') type') :
    sha256 bytes = sha256 bytes' := by
  have names := congrArg (List.splitOn '/') same
  rw [uploadObjectKey_names digests, uploadObjectKey_names digests] at names
  simp only [objectKeyNames, List.cons.injEq, and_true] at names
  have lengths := (digests bytes).length.trans (digests bytes').length.symm
  exact (List.append_inj names.2.2.2.2 lengths).1

/-- The key of an upload ends with an extension, so that it is no temporary file. -/
theorem Accepted.lasting (accepted : Accepted sha256 request u) : ¬ tmp <:+ u.objectKey := by
  have ends : (extensionFor u.contentType).toList <:+ u.objectKey := by
    rw [accepted.key, uploadObjectKey]
    refine List.IsSuffix.trans ?_ (last_suffix_intercalate
      [_, _, _, _] (u.contentSha256 ++ '-' :: (_ ++ (extensionFor u.contentType).toList)))
    rw [← List.cons_append, ← List.append_assoc]
    exact List.suffix_append ..
  have extended : ∀ type ∈ allowedContentTypes, 4 ≤ (extensionFor type).toList.length ∧
      ¬ tmp <:+ (extensionFor type).toList := by decide
  obtain ⟨length, other⟩ := extended _ accepted.type
  intro named
  exact other (List.suffix_of_suffix_length_le named ends length)

theorem refuse_bind {α : Type} {condition : Prop} [Decidable condition] {error : FilesError}
    {next : Unit → Except FilesError α} {a : α} :
    (refuse condition error >>= next) = .ok a ↔ ¬ condition ∧ next () = .ok a := by
  unfold refuse
  by_cases refused : condition
  · simp [refused, bind, Except.bind]
  · simp [refused]

theorem required_bind {α β : Type} {value : Option α} {error : FilesError}
    {next : α → Except FilesError β} {b : β} :
    (required value error >>= next) = .ok b ↔ ∃ a, value = some a ∧ next a = .ok b := by
  cases value with
  | none => simp [required, bind, Except.bind]
  | some a => simp [required]

theorem receive_bounded {parts : List Part} {received result : Received}
    (read : receive received parts = .ok result)
    (before : ∀ bytes, received.bytes = some bytes → bytes.length ≤ maxFileSizeBytes) :
    ∀ bytes, result.bytes = some bytes → bytes.length ≤ maxFileSizeBytes := by
  induction parts generalizing received with
  | nil =>
      cases read
      exact before
  | cons part rest ih =>
      cases part with
      | file fieldname filename mimetype content =>
          rw [receive] at read
          split at read
          · cases read
          · split at read
            · cases read
            · rename_i bounded
              refine ih read ?_
              intro bytes same
              cases same
              exact Nat.not_lt.mp bounded
      | field fieldname value =>
          cases value with
          | none => cases read
          | some value =>
              rw [receive] at read
              split at read
              · cases read
              · exact ih read before

theorem upload_accepted (accepted : upload sha256 authorizeEntity request = .ok u) :
    Accepted sha256 request u := by
  unfold upload at accepted
  rw [refuse_bind] at accepted
  obtain ⟨-, accepted⟩ := accepted
  cases parts : receive {} request.parts with
  | error refused =>
      rw [parts] at accepted
      cases accepted
  | ok received =>
      rw [parts] at accepted
      obtain ⟨bytes, read, accepted⟩ := required_bind.mp accepted
      simp only [refuse_bind, required_bind] at accepted
      obtain ⟨filled, -, category, -, -, _, -, _, -, -, type, -, -, built⟩ := accepted
      cases built
      have bounded := receive_bounded parts (by simp) bytes read
      exact ⟨rfl, rfl, not_not.mp (not_or.mp type).1, (not_or.mp category).1, filled, bounded⟩

theorem textLength_le (value : Text) : keyLength value ≤ 2 * value.length := by
  rw [keyLength, textLength, String.toList_ofList]
  induction value with
  | nil => rfl
  | cons c rest ih =>
      rw [List.map_cons, List.sum_cons, List.length_cons]
      have one : (if c.val ≤ 65535 then 1 else 2) ≤ 2 := by split <;> decide
      omega

theorem hex_ne {digest : Text} (hex : IsHexDigest digest) {count : Nat} (long : 2 < count)
    (short : count ≤ 64) :
    digest.take count ≠ [] ∧ digest.take count ≠ dot ∧ digest.take count ≠ dotDot := by
  have length : (digest.take count).length = count := by
    rw [List.length_take, hex.length]
    exact Nat.min_eq_left short
  refine ⟨?_, ?_, ?_⟩ <;>
  · intro same
    rw [same] at length
    simp only [List.length_nil, dot, dotDot, List.length_cons] at length
    omega

theorem Accepted.isObjectKey (digests : ∀ bytes, IsHexDigest (sha256 bytes))
    (accepted : Accepted sha256 request u) (user : isSafeInteger u.access.userId) :
    IsObjectKey u.objectKey := by
  have digits : (Nat.toDigits 10 u.access.userId).length ≤ 16 := by
    apply (@Nat.length_toDigits_le_iff 10 u.access.userId 16 (by decide) (by decide)).mpr
    have bound := user.2
    simp only [maxSafeInteger] at bound
    omega
  have extended : ∀ type ∈ allowedContentTypes, (extensionFor type).toList.length ≤ 5 ∧
      backslash ∉ (extensionFor type).toList := by decide
  have short := (extended _ accepted.type).1
  have category := digests (utf8 u.category)
  have content := digests u.bytes
  have once := digests (utf8 request.idempotencyKey)
  have digit : ∀ c ∈ Nat.toDigits 10 u.access.userId, c.isDigit := by
    intro c member
    exact Nat.isDigit_of_mem_toDigits (by decide) (by decide) member
  constructor
  · refine Nat.le_trans (textLength_le _) ?_
    rw [accepted.key, uploadObjectKey, objectKeyNames, accepted.digest]
    simp only [List.intercalate_cons_cons, List.intercalate_singleton, List.length_append,
      List.length_cons, List.length_nil, List.length_take, content.length, category.length,
      once.length]
    have quarantined : "quarantine".toList.length = 10 := rfl
    have users : "users".toList.length = 5 := rfl
    omega
  · have hex : backslash ∉ "0123456789abcdef".toList := by decide
    have owner : backslash ∉ Nat.toDigits 10 u.access.userId := by
      intro member
      exact absurd (digit _ member) (by decide)
    have whole := content.not_mem hex (sha256 u.bytes).length
    rw [List.take_length] at whole
    rw [accepted.key, uploadObjectKey, objectKeyNames, accepted.digest]
    simp only [List.intercalate_cons_cons, List.intercalate_singleton, List.mem_append,
      List.mem_cons, owner, whole, category.not_mem hex, once.not_mem hex,
      (extended _ accepted.type).2, not_or]
    decide
  · intro name member
    rw [accepted.key, accepted.digest, uploadObjectKey_names digests] at member
    simp only [objectKeyNames, List.mem_cons, List.not_mem_nil, or_false] at member
    rcases member with rfl | rfl | rfl | rfl | rfl
    · decide
    · decide
    · refine ⟨Nat.toDigits_ne_nil, ?_, ?_⟩ <;>
      · intro same
        have point := digit '.' (by simp [same, dot, dotDot])
        exact absurd point (by decide)
    · exact hex_ne category (by decide) (by decide)
    · have long : 64 < (sha256 u.bytes ++ '-' :: ((sha256 (utf8 request.idempotencyKey)).take 24 ++
          (extensionFor u.contentType).toList)).length := by
        simp [content.length]
      refine ⟨?_, ?_, ?_⟩ <;>
      · intro same
        rw [same] at long
        simp [dot, dotDot] at long
  · rw [accepted.key]
    rintro ⟨rest, same⟩
    cases same

theorem upload_kept (digests : ∀ bytes, IsHexDigest (sha256 bytes))
    (accepted : Accepted sha256 request u)
    (user : isSafeInteger u.access.userId ∧ 0 < u.access.userId) (randomUUID : Text) :
    writeQuarantinedObject sha256 root (u.write randomUUID) =
      .ok (u.publication root randomUUID) := by
  have types : ∀ type ∈ allowedContentTypes, textLength (trim type) ≠ 0 := by decide
  have passed : rejected sha256 (u.write randomUUID) = false := by
    have inside : quarantine.isPrefixOf u.objectKey = true := by
      rw [accepted.key]
      rfl
    have owner : PaymentGuard.safeAnd (some (u.access.userId : Int)) (fun id => decide (0 < id)) =
        true := by
      simp [PaymentGuard.safeAnd, user.1, user.2]
    simp only [rejected, Upload.write, inside, owner, accepted.digest, ne_eq, not_true_eq_false,
      accepted.filled, List.length_eq_zero_iff, Nat.not_lt.mpr accepted.bounded,
      types _ accepted.type, decide_false, Bool.not_true, Bool.or_false]
  have led : objectPath root u.objectKey = .ok (root ++ u.objectKey.splitOn '/') :=
    objectPath_ok.mpr ⟨accepted.isObjectKey digests user.1, rfl⟩
  rw [writeQuarantinedObject, if_neg (by simp [passed])]
  change (objectPath root u.objectKey >>= _) = _
  rw [led]
  rfl

end SupplyChain.Files
