import SupplyChain.Audit
import SupplyChain.Relational.Runs

/-!
The writer's limits against the checks of its callers. A number that a command
stores was itself within the limit, so of the stored values only the seeded ones
can be too long; an event composed of two texts can be too long though each part
passed its check.
-/

namespace SupplyChain.Audit

open Relational Transaction TableName

variable {source : Source} {command : AuditedCommand} {held before after : Held}
  {event : AuditWriteEvent} {label : Label} {entityId : Key} {value : String}

/-! ## Lengths -/

@[simp]
theorem textLength_append (left right : String) :
    textLength (left ++ right) = textLength left + textLength right := by
  simp [textLength, String.toList_append]

theorem textLength_le (characters : List Char) :
    textLength (String.ofList characters) ≤ 2 * characters.length := by
  unfold textLength
  rw [String.toList_ofList]
  induction characters with
  | nil => simp
  | cons c rest ih =>
      rw [List.map_cons, List.sum_cons, List.length_cons]
      have width : (if c.val ≤ 65535 then 1 else 2) ≤ 2 := by split <;> omega
      omega

theorem textLength_eq_zero {text : String} : textLength text = 0 ↔ text = "" := by
  constructor
  · intro none
    rw [← String.toList_eq_nil_iff]
    cases characters : text.toList with
    | nil => rfl
    | cons c rest =>
        rw [textLength, characters, List.map_cons, List.sum_cons] at none
        have width : (if c.val ≤ 65535 then 1 else 2) ≠ 0 := by split <;> decide
        omega
  · intro none
    rw [none]
    rfl

/-- Between 1 and 200 UTF-16 code units. -/
def Fits (text : String) : Prop := textLength text ≠ 0 ∧ textLength text ≤ 200

instance (text : String) : Decidable (Fits text) := inferInstanceAs (Decidable (_ ∧ _))

theorem Key.width (key : Key) : textLength (toString key.id) ≤ 32 := by
  have text : toString key.id = String.ofList (Nat.toDigits 10 key.id) := rfl
  have below : key.id < 10 ^ 16 := by
    have safe := key.safe
    unfold isSafeInteger maxSafeInteger at safe
    omega
  have digits := (Nat.length_toDigits_le_iff (by decide) (by decide)).mpr below
  have width := textLength_le (Nat.toDigits 10 key.id)
  rw [text]
  omega

/-- A hundred characters are at most two hundred code units. -/
def brief (characters : List Char) : Bool := !characters.isEmpty && characters.length ≤ 100

theorem fits_brief {characters : List Char} (short : brief characters = true) :
    Fits (String.ofList characters) := by
  rw [brief, Bool.and_eq_true, Bool.not_eq_true', List.isEmpty_eq_false_iff,
    decide_eq_true_eq] at short
  have width := textLength_le characters
  constructor
  · rw [ne_eq, textLength_eq_zero, ← String.toList_eq_nil_iff, String.toList_ofList]
    exact short.1
  · omega

theorem Key.fits (key : Key) : Fits (toString key.id) := by
  have text : toString key.id = String.ofList (Nat.toDigits 10 key.id) := rfl
  refine ⟨?_, Nat.le_trans key.width (by decide)⟩
  rw [ne_eq, textLength_eq_zero, text, ← String.toList_eq_nil_iff, String.toList_ofList,
    ← List.length_eq_zero_iff]
  have filled : 0 < (Nat.toDigits 10 key.id).length := Nat.length_toDigits_pos
  omega

theorem Checked.short {maximum : Nat} (text : Checked maximum) (bound : maximum ≤ 200) :
    textLength text.value ≤ 200 :=
  Nat.le_trans text.fits bound

/-! ## What the writer takes -/

theorem requiredText_ok {value kept : String} :
    requiredText value = .ok kept ↔ Fits value ∧ kept = value := by
  unfold requiredText Fits
  by_cases refused : textLength value = 0 ∨ 200 < textLength value
  · rw [if_pos refused]
    constructor
    · intro ok
      cases ok
    · rintro ⟨⟨filled, short⟩, -⟩
      omega
  · rw [if_neg refused]
    constructor
    · intro ok
      cases ok
      exact ⟨by omega, rfl⟩
    · rintro ⟨-, rfl⟩
      rfl

theorem optionalText_ok {value : Option String} :
    (∃ kept, optionalText value = .ok kept) ↔
      ∀ given, value = some given → textLength given ≤ 200 := by
  cases value with
  | none =>
      constructor
      · intro _ given absent
        cases absent
      · intro _
        exact ⟨none, rfl⟩
  | some given =>
      rw [optionalText]
      by_cases empty : given = ""
      · rw [if_pos empty]
        constructor
        · rintro - text same
          cases same
          rw [textLength_eq_zero.mpr empty]
          omega
        · intro _
          exact ⟨none, rfl⟩
      · rw [if_neg empty]
        have filled : textLength given ≠ 0 := fun none => empty (textLength_eq_zero.mp none)
        constructor
        · rintro ⟨kept, ok⟩ text same
          cases same
          cases read : requiredText given with
          | error refused =>
              rw [read] at ok
              cases ok
          | ok text => exact (requiredText_ok.mp read).1.2
        · intro short
          have read := requiredText_ok.mpr ⟨⟨filled, short given rfl⟩, rfl⟩
          rw [read]
          exact ⟨some given, rfl⟩

theorem auditRow_ok :
    (∃ row, auditRow event = .ok row) ↔
      (Fits event.action ∧ Fits event.module ∧ Fits event.entityType) ∧
        Fits event.entityId.asText ∧
          ∀ given, event.businessNo = some given → textLength given ≤ 200 := by
  unfold auditRow
  constructor
  · rintro ⟨row, ok⟩
    cases action : requiredText event.action with
    | error refused => rw [action] at ok; cases ok
    | ok text =>
    cases module : requiredText event.module with
    | error refused => rw [action, module] at ok; cases ok
    | ok text' =>
    cases entityType : requiredText event.entityType with
    | error refused => rw [action, module, entityType] at ok; cases ok
    | ok text'' =>
    cases entityId : requiredText event.entityId.asText with
    | error refused => rw [action, module, entityType, entityId] at ok; cases ok
    | ok id =>
    cases businessNo : optionalText event.businessNo with
    | error refused => rw [action, module, entityType, entityId, businessNo] at ok; cases ok
    | ok number =>
        exact ⟨⟨(requiredText_ok.mp action).1, (requiredText_ok.mp module).1,
          (requiredText_ok.mp entityType).1⟩, (requiredText_ok.mp entityId).1,
          optionalText_ok.mp ⟨number, businessNo⟩⟩
  · rintro ⟨⟨action, module, entityType⟩, entityId, businessNo⟩
    obtain ⟨kept, number⟩ := optionalText_ok.mpr businessNo
    rw [requiredText_ok.mpr ⟨action, rfl⟩, requiredText_ok.mpr ⟨module, rfl⟩,
      requiredText_ok.mpr ⟨entityType, rfl⟩, requiredText_ok.mpr ⟨entityId, rfl⟩, number]
    exact ⟨_, rfl⟩

/-- Over a database that stores every row the writer refuses for a length only. -/
theorem createAuditWriter_ok (known : event.access.localPreview = false)
    (safe : isSafeInteger event.access.userId) (user : event.access.userId ≠ 0) :
    createAuditWriter (some storing) event = .ok () ↔ ∃ row, auditRow event = .ok row := by
  have valid : ¬ (¬ isSafeInteger event.access.userId ∨ event.access.userId = 0) := by
    rintro (outside | none)
    · exact outside safe
    · exact user none
  rw [createAuditWriter, known, if_neg Bool.false_ne_true, if_neg valid]
  cases auditRow event with
  | error refused =>
      constructor
      · intro ok
        cases ok
      · rintro ⟨row, ok⟩
        cases ok
  | ok row =>
      constructor
      · intro _
        exact ⟨row, rfl⟩
      · intro _
        rfl

def Label.Fit (label : Label) : Prop :=
  Fits label.action ∧ Fits label.module ∧ Fits label.entityType

instance (label : Label) : Decidable label.Fit := inferInstanceAs (Decidable (_ ∧ _ ∧ _))

theorem labelled_ok {businessNo : Option String} (label : Label) (fit : label.Fit) :
    createAuditWriter (some storing) (AuditCall.labelled source label entityId businessNo) =
        .ok () ↔
      ∀ given, businessNo = some given → textLength given ≤ 200 := by
  rw [createAuditWriter_ok rfl source.actor.safe source.signedIn, auditRow_ok]
  constructor
  · rintro ⟨-, -, short⟩
    exact short
  · intro short
    exact ⟨fit, entityId.fits, short⟩

theorem labelled_number (label : Label) (fit : label.Fit) :
    createAuditWriter (some storing) (AuditCall.labelled source label entityId (some value)) =
        .ok () ↔ textLength value ≤ 200 := by
  rw [labelled_ok label fit]
  constructor
  · intro short
    exact short value rfl
  · rintro short given same
    cases same
    exact short

theorem labelled_plain (label : Label) (fit : label.Fit) :
    createAuditWriter (some storing) (AuditCall.labelled source label entityId none) = .ok () := by
  apply (labelled_ok label fit).mpr
  intro given absent
  cases absent

theorem Label.fit_brief {action module entityType : List Char}
    (short : (brief action && brief module && brief entityType) = true) :
    Label.Fit ⟨String.ofList action, String.ofList module, String.ofList entityType⟩ := by
  simp only [Bool.and_eq_true] at short
  exact ⟨fits_brief short.1.1, fits_brief short.1.2, fits_brief short.2⟩

theorem PlainSite.fit (site : PlainSite) : site.label.Fit := by
  cases site with
  | setWeights existing => cases existing <;> exact Label.fit_brief rfl
  | session action => cases action <;> exact Label.fit_brief rfl
  | _ => exact Label.fit_brief rfl

theorem RowSite.fit (site : RowSite) : site.label.Fit := by
  cases site with
  | moveTransfer shipped => cases shipped <;> exact Label.fit_brief rfl
  | decideReturn approved => cases approved <;> exact Label.fit_brief rfl
  | answerPlan confirmed => cases confirmed <;> exact Label.fit_brief rfl
  | updateOrder confirmed => cases confirmed <;> exact Label.fit_brief rfl
  | reviewSupplier existing => cases existing <;> exact Label.fit_brief rfl
  | _ => exact Label.fit_brief rfl

theorem EntrySite.fit (site : EntrySite) : site.label.Fit := by
  cases site <;> exact Label.fit_brief rfl

theorem MintSite.fit (site : MintSite) : site.label.Fit := by
  cases site <;> exact Label.fit_brief rfl

/-! ## What the columns hold -/

/-- A stocktake's number is short enough to be part of an approval's. -/
def Column.limit : Column → Nat
  | .stocktakeNo => 39
  | _ => 200

/-- A value that a command stored. -/
def Within (cell : Column × String) : Prop :=
  cell.1.seeded = false →
    textLength cell.2 ≤ cell.1.limit ∧ (cell.1 = .approvalEntityType → textLength cell.2 ≠ 0)

def Kept (held : Held) : Prop := ∀ cell ∈ held, Within cell

theorem Installed.kept (installed : Installed held) : Kept held := by
  intro cell member commanded
  rw [installed cell member] at commanded
  cases commanded

theorem within_number {column : Column} (short : textLength value ≤ column.limit)
    (other : column ≠ .approvalEntityType) : Within (column, value) :=
  fun _ => ⟨short, fun same => absurd same other⟩

theorem Kept.short {column : Column} (kept : Kept held) (member : (column, value) ∈ held)
    (commanded : column.seeded = false) : textLength value ≤ 200 := by
  have short := (kept _ member commanded).1
  have limit : column.limit ≤ 200 := by cases column <;> decide
  exact Nat.le_trans short limit

theorem Kept.filled (kept : Kept held) (member : (Column.approvalEntityType, value) ∈ held) :
    Fits value := by
  obtain ⟨short, filled⟩ := kept _ member rfl
  exact ⟨filled rfl, short⟩

/-! ## Derived numbers -/

theorem approvalNo_short (sha256 : String → String) (key discriminator : String) :
    textLength (Supply.approvalNo sha256 key discriminator) ≤ 200 := by
  rw [Supply.approvalNo, Supply.shortDigest, textLength_append]
  have width := textLength_le
    ((sha256 (Supply.hashedText key discriminator)).toList.take 24)
  have digits : ((sha256 (Supply.hashedText key discriminator)).toList.take 24).length ≤ 24 :=
    List.length_take_le ..
  have head : textLength "AP-R2-" = 6 := by decide
  omega

theorem roleRequestNo_short (actor : Key) (key : String) :
    textLength (Supply.roleRequestNo actor.id key) ≤ 200 := by
  rw [Supply.roleRequestNo, textLength_append, textLength_append, textLength_append]
  have digits := actor.width
  have width := textLength_le (key.toList.take 24)
  have taken : (key.toList.take 24).length ≤ 24 := List.length_take_le ..
  have head : textLength "AP-ROLE-" = 8 := by decide
  have dash : textLength "-" = 1 := by decide
  omega

theorem revocationRequestNo_short (actor : Key) (key : String) :
    textLength (Supply.revocationRequestNo actor.id key) ≤ 200 := by
  rw [Supply.revocationRequestNo, textLength_append, textLength_append, textLength_append]
  have digits := actor.width
  have width := textLength_le (key.toList.take 16)
  have taken : (key.toList.take 16).length ≤ 16 := List.length_take_le ..
  have head : textLength "AP-ROLE-REVOKE-" = 15 := by decide
  have dash : textLength "-" = 1 := by decide
  omega

theorem importNo_short (key : String) : textLength (Supply.importNo key) ≤ 200 := by
  rw [Supply.importNo, textLength_append]
  have width := textLength_le (Supply.lastAlphanumerics key)
  have taken : (Supply.lastAlphanumerics key).length ≤ 24 := by
    unfold Supply.lastAlphanumerics
    rw [List.length_drop]
    omega
  have head : textLength "IMP-R2-" = 7 := by decide
  omega

theorem MintSite.short (site : MintSite) (source : Source) :
    textLength (site.leader ++ source.randomUUID) ≤ 43 := by
  rw [textLength_append, source.uuidLength]
  have head : textLength site.leader ≤ 7 := by cases site <;> decide
  omega

theorem MintSite.within {column : Column} (site : MintSite) (stored : site.column = some column) :
    Within (column, site.leader ++ source.randomUUID) := by
  have short := site.short source
  cases site with
  | openStocktake =>
      cases stored
      apply within_number _ (by decide)
      rw [textLength_append, source.uuidLength]
      decide
  | createTransfer | createExecution =>
      cases stored
      exact within_number (Nat.le_trans short (by decide)) (by decide)
  | submitMerge | receivePurchase => cases stored

/-! ## Which events are taken -/

namespace AuditedCommand

/-- Over values that commands stored, only what `Short` bounds can be too long. -/
theorem audited_iff (kept : Kept held) (ready : command.Ready held) :
    command.Audited ↔ command.Short := by
  obtain ⟨source, call⟩ := command
  unfold Audited Short
  unfold Ready at ready
  cases call with
  | plain site entityId => exact iff_of_true (labelled_plain site.label site.fit) trivial
  | submitVariance entityId stocktakeNo =>
      exact iff_of_true (labelled_plain _ (by decide)) trivial
  | numbered site entityId number =>
      have member : (site.column, number) ∈ held := ready _ List.mem_cons_self
      refine (labelled_number site.label site.fit).trans ⟨fun short _ => short, ?_⟩
      intro short
      cases origin : site.column.seeded with
      | true => exact short origin
      | false => exact kept.short member origin
  | entered site entityId number =>
      exact iff_of_true
        ((labelled_number site.label site.fit).mpr (number.short (by decide))) trivial
  | minted site entityId =>
      have short := Nat.le_trans (site.short source) (show 43 ≤ 200 by decide)
      exact iff_of_true ((labelled_number site.label site.fit).mpr short) trivial
  | createSku entityId code => exact labelled_number _ (by decide)
  | createWarehouse entityId code => exact labelled_number _ (by decide)
  | createAccount entityId email => exact labelled_number _ (by decide)
  | createBom entityId finishedSku version =>
      refine (labelled_number _ (by decide)).trans ?_
      rw [textLength_append, textLength_append]
      rfl
  | writeSupplierSku existing entityId factoryCode sku =>
      refine (labelled_number _ (by cases existing <;> decide)).trans ?_
      rw [textLength_append, textLength_append]
      rfl
  | activatePrice entityId supplierCode sku =>
      refine (labelled_number _ (by decide)).trans ?_
      rw [textLength_append, textLength_append]
      rfl
  | requestPrice entityId supplierCode sku =>
      refine (labelled_number _ (by decide)).trans ?_
      rw [textLength_append, textLength_append]
      rfl
  | previewImport fingerprint =>
      refine (createAuditWriter_ok rfl source.actor.safe source.signedIn).trans ?_
      rw [auditRow_ok]
      constructor
      · rintro ⟨-, ⟨-, short⟩, -⟩
        exact short
      · intro short
        have fit : Label.Fit ⟨"preview_import", "imports", "import_preview"⟩ := by decide
        refine ⟨fit, ⟨fingerprint.filled, short⟩, ?_⟩
        intro given absent
        cases absent
  | stageImport entityId =>
      exact iff_of_true ((labelled_number _ (by decide)).mpr (importNo_short source.key)) trivial
  | commitImport entityId importNo suppliers =>
      have member : (Column.importNo, importNo) ∈ held := ready _ List.mem_cons_self
      exact iff_of_true ((labelled_number _ (by decide)).mpr (kept.short member rfl)) trivial
  | decideApproval approved entityId requestNo entityType =>
      have number : (Column.approvalNo, requestNo) ∈ held := ready _ List.mem_cons_self
      have type : (Column.approvalEntityType, entityType) ∈ held :=
        ready _ (List.mem_cons_of_mem _ List.mem_cons_self)
      have action : Fits (if approved then "approved" else "rejected") := by
        cases approved <;> decide
      have module : Fits "approvals" := by decide
      have fit : Label.Fit ⟨_, "approvals", entityType⟩ := ⟨action, module, kept.filled type⟩
      exact iff_of_true ((labelled_number _ fit).mpr (kept.short number rfl)) trivial
  | executeEffect approved entityId requestNo entityType =>
      have number : (Column.approvalNo, requestNo) ∈ held := ready _ List.mem_cons_self
      have type : (Column.approvalEntityType, entityType) ∈ held :=
        ready _ (List.mem_cons_of_mem _ List.mem_cons_self)
      have action : Fits (if approved then "apply_approval" else "apply_rejection") := by
        cases approved <;> decide
      have module : Fits "r2_approval_effects" := by decide
      have fit : Label.Fit ⟨_, "r2_approval_effects", entityType⟩ :=
        ⟨action, module, kept.filled type⟩
      exact iff_of_true ((labelled_number _ fit).mpr (kept.short number rfl)) trivial

/-! ## What a command stores -/

theorem stores_within (audited : command.Audited) :
    ∀ cell ∈ command.call.stores command.source, Within cell := by
  obtain ⟨source, call⟩ := command
  unfold Audited at audited
  intro cell member
  cases call with
  | entered site entityId number =>
      rw [List.mem_singleton.mp member]
      have short := number.short (by decide)
      cases site <;> exact within_number short (by decide)
  | minted site entityId =>
      obtain ⟨column, stored, rfl⟩ := List.mem_map.mp member
      exact site.within (Option.mem_toList.mp stored)
  | createSku entityId code =>
      rw [List.mem_singleton.mp member]
      exact within_number ((labelled_number _ (by decide)).mp audited) (by decide)
  | createWarehouse entityId code =>
      rw [List.mem_singleton.mp member]
      exact within_number ((labelled_number _ (by decide)).mp audited) (by decide)
  | createAccount entityId email =>
      rw [List.mem_singleton.mp member]
      intro commanded
      cases commanded
  | stageImport entityId =>
      rw [List.mem_singleton.mp member]
      exact within_number (importNo_short source.key) (by decide)
  | commitImport entityId importNo suppliers =>
      obtain ⟨supplier, -, rfl⟩ := List.mem_map.mp member
      exact within_number (supplier.2.short (by decide)) (by decide)
  | _ => cases member

/-- The number and the entity type of an approval that a command opens. -/
def Numbered (approval : String × String) : Prop :=
  textLength approval.1 ≤ 200 ∧ Fits approval.2

theorem derived_numbered (opened : Supply.Opened) {entityType : String} (fits : Fits entityType) :
    Numbered (AuditCall.derived source opened entityType) :=
  ⟨approvalNo_short source.sha256 source.key opened.discriminator, fits⟩

theorem minted_numbered {leader entityType : String} (short : textLength leader ≤ 164)
    (fits : Fits entityType) : Numbered (leader ++ source.randomUUID, entityType) := by
  refine ⟨?_, fits⟩
  rw [textLength_append, source.uuidLength]
  omega

theorem opens_numbered (kept : Kept held) (ready : command.Ready held) :
    ∀ approval ∈ command.call.opens command.source, Numbered approval := by
  obtain ⟨source, call⟩ := command
  unfold Ready at ready
  intro approval member
  cases call with
  | submitVariance entityId stocktakeNo =>
      rw [List.mem_singleton.mp member]
      have stored := (kept _ (ready _ List.mem_cons_self) rfl).1
      refine minted_numbered ?_ (by decide)
      have head : textLength "APR-" = 4 := by decide
      have dash : textLength "-" = 1 := by decide
      change textLength stocktakeNo ≤ 39 at stored
      rw [textLength_append, textLength_append]
      omega
  | plain site entityId =>
      cases site with
      | requestCorrection =>
          rw [List.mem_singleton.mp member]
          exact minted_numbered (by decide) (by decide)
      | _ => cases member
  | numbered site entityId number =>
      cases site with
      | requestDeviation | completeProduction =>
          rw [List.mem_singleton.mp member]
          exact minted_numbered (by decide) (by decide)
      | resubmitSku | finalizePlan | answerPlan | updateOrder =>
          rw [List.mem_singleton.mp member]
          exact derived_numbered _ (by decide)
      | requestRoleChange =>
          rw [List.mem_singleton.mp member]
          exact ⟨roleRequestNo_short source.actor source.key, (by decide : Fits "user_role")⟩
      | requestRoleRevocation =>
          rw [List.mem_singleton.mp member]
          exact ⟨revocationRequestNo_short source.actor source.key, (by decide : Fits "user_role")⟩
      | _ => cases member
  | entered site entityId number =>
      cases site with
      | createSupplier | createPlanVersion | createOrder =>
          rw [List.mem_singleton.mp member]
          exact derived_numbered _ (by decide)
      | _ => cases member
  | minted site entityId =>
      cases site with
      | submitMerge =>
          rw [List.mem_singleton.mp member]
          exact minted_numbered (by decide) (by decide)
      | createTransfer =>
          rw [List.mem_singleton.mp member, ← String.append_assoc]
          exact minted_numbered (by decide) (by decide)
      | _ => cases member
  | createSku | createBom | writeSupplierSku | requestPrice =>
      rw [List.mem_singleton.mp member]
      exact derived_numbered _ (by decide)
  | commitImport entityId importNo suppliers =>
      obtain ⟨supplier, -, rfl⟩ := List.mem_map.mp member
      exact derived_numbered _ (by decide)
  | _ => cases member

theorem commits_kept (step : Commits before command after) (kept : Kept before) : Kept after := by
  obtain ⟨ready, audited, opened, part, rfl⟩ := step
  intro cell member
  rcases List.mem_append.mp member with member | earlier
  · rcases List.mem_append.mp member with stored | member
    · exact stores_within audited cell stored
    · obtain ⟨approval, chosen, member⟩ := List.mem_flatMap.mp member
      obtain ⟨number, type⟩ := opens_numbered kept ready approval (part.subset chosen)
      rcases List.mem_cons.mp member with rfl | member
      · exact within_number number (by decide)
      · rw [List.mem_singleton.mp member]
        exact fun _ => ⟨type.2, fun _ => type.1⟩
  · exact kept cell earlier

theorem reached_kept {commands : List AuditedCommand} (installed : Installed before)
    (run : Run Commits before commands after) : Kept after :=
  run.preserves Kept commits_kept installed.kept

end AuditedCommand

/-! ## Every command -/

/-- After any run of commands, the event of a command whose checks passed is taken exactly
when the texts it composes are short. -/
theorem events_taken {commands : List AuditedCommand} (installed : Installed before)
    (run : Run AuditedCommand.Commits before commands held) (ready : command.Ready held) :
    command.Audited ↔ command.Short :=
  AuditedCommand.audited_iff (AuditedCommand.reached_kept installed run) ready

theorem firstId_safe : isSafeInteger (1 : Nat) := by decide

def firstKey : Key := ⟨1, firstId_safe⟩

theorem firstKey_ne_zero : firstKey.id ≠ 0 := Nat.one_ne_zero

theorem sampleKey_admissible : Commands.isIdempotencyKey "0123456789abcdef" = true := by
  decide +kernel

theorem sampleIdentifier_length : textLength "00000000-0000-4000-8000-000000000000" = 36 := by
  decide +kernel

/-- A user with the given key, who draws a fixed random identifier and whose texts have
no case. -/
def plainSource : Source where
  actor := firstKey
  signedIn := firstKey_ne_zero
  key := "0123456789abcdef"
  admissible := sampleKey_admissible
  randomUUID := "00000000-0000-4000-8000-000000000000"
  uuidLength := sampleIdentifier_length
  sha256 := id
  toUpperCase := id
  toLowerCase := id

theorem shortCode_filled : textLength "S-1" ≠ 0 := by decide

theorem shortCode_fits : textLength "S-1" ≤ 191 := by decide

def shortCode : Checked 191 := ⟨"S-1", shortCode_filled, shortCode_fits⟩

def supplierCreated : AuditedCommand := ⟨plainSource, .entered .createSupplier firstKey shortCode⟩

def priceRequested : AuditedCommand := ⟨plainSource, .requestPrice firstKey "S-1" shortCode⟩

/-- A price is requested for the supplier that the run created. -/
theorem events_taken_price : priceRequested.Audited := by
  have created : AuditedCommand.Commits [] supplierCreated [(.supplierCode, "S-1")] :=
    ⟨fun _ none => absurd none List.not_mem_nil, by decide +kernel, [], List.nil_sublist _, rfl⟩
  have ready : priceRequested.Ready [(.supplierCode, "S-1")] := fun _ member => member
  have installed : Installed [] := by
    intro cell none
    cases none
  apply (events_taken installed (Run.single created) ready).mpr
  change textLength "S-1" + 1 + textLength shortCode.value ≤ 200
  decide

def longText (count : Nat) : String := String.ofList (List.replicate count 'x')

theorem longText_length (count : Nat) : textLength (longText count) = count := by
  rw [textLength, longText, String.toList_ofList, List.map_replicate, List.sum_replicate]
  exact Nat.mul_one count

theorem longText_filled (count : Nat) : textLength (longText (count + 1)) ≠ 0 := by
  rw [longText_length]
  exact Nat.succ_ne_zero count

theorem longText_fits {count maximum : Nat} (short : count ≤ maximum) :
    textLength (longText count) ≤ maximum := by
  rw [longText_length]
  exact short

theorem codeLength_short : 100 ≤ 191 := by decide

theorem fingerprintLength_short : 201 ≤ 1000 := by decide

def longCode : Checked 191 := ⟨longText 100, longText_filled 99, longText_fits codeLength_short⟩

def longFingerprint : Checked 1000 :=
  ⟨longText 201, longText_filled 200, longText_fits fingerprintLength_short⟩

def previewed : AuditedCommand := ⟨plainSource, .previewImport longFingerprint⟩

def bomCreated : AuditedCommand := ⟨plainSource, .createBom firstKey longCode longCode⟩

/-- A fingerprint of 201 characters passes the preview's check, a finished SKU and a
version of 100 characters each pass those of a BOM, and the writer takes neither event. -/
theorem long_events_refused :
    (previewed.Ready [] ∧ ¬ previewed.Audited) ∧ (bomCreated.Ready [] ∧ ¬ bomCreated.Audited) := by
  have kept : Kept [] := fun _ none => absurd none List.not_mem_nil
  have preview : previewed.Ready [] := fun _ none => absurd none List.not_mem_nil
  have bom : bomCreated.Ready [] := fun _ none => absurd none List.not_mem_nil
  refine ⟨⟨preview, ?_⟩, bom, ?_⟩
  · intro audited
    have short : textLength (longText 201) ≤ 200 :=
      (AuditedCommand.audited_iff kept preview).mp audited
    rw [longText_length] at short
    omega
  · intro audited
    have short : textLength (longText 100) + 1 + textLength (longText 100) ≤ 200 :=
      (AuditedCommand.audited_iff kept bom).mp audited
    rw [longText_length] at short
    omega

end SupplyChain.Audit
