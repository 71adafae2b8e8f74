import SupplyChain.Procurement.Requests

/-!
The versions of the bills of materials. A version says when it is submitted
which approved ones it retires, and they are retired when it is approved: what
was approved or retired in between is not looked at again.
-/

namespace SupplyChain.MasterData

open Relational Transaction TableName Supply Procurement SupplyApprovalEffects

variable {db db' : Database} {writes : List TableName} {event : SupplyEvent}
  {events : List SupplyEvent}

/-! ## What the writers do to the versions -/

theorem withMembers_member {value : JsonValue} {members : List (String × JsonValue)}
    {name : String} (own : name ∈ members.map (·.1)) :
    (withMembers value members).member name = (members.find? fun entry => entry.1 == name).map (·.2) := by
  cases value with
  | object given =>
      have absent : (given.filter fun entry => !(members.map (·.1)).contains entry.1).find?
          (fun entry => entry.1 == name) = none := by
        rw [List.find?_eq_none]
        intro entry member
        rw [List.mem_filter] at member
        intro same
        rw [beq_iff_eq] at same
        subst same
        simp [own] at member
      simp only [withMembers, JsonValue.member, List.find?_append]
      rw [absent, Option.none_or]
  | _ => rfl

/-- A submitted version waits with a request that says which ones it retires. -/
structure BomCreated (command : SupplyContext) (db db' : Database) (bom : ProductBom)
    (request : ApprovalRequest) (last : String) : Prop where
  boms : db' productBoms = (db productBoms).insert bom
  requests : db' approvalRequests = (db approvalRequests).insert request
  pending : bom.approvalStatus = .pending
  entity : request.entityId = (db productBoms).nextId
  ends : previousDay bom.effectiveFrom = some last
  date : request.payload.member "retirementDate" = some (.text last)
  retires : ∀ key ∈ retiredBoms request.payload, key < (db productBoms).nextId

/-- The version that a request submits. -/
def bomOf (command : SupplyContext) (body : CreateBom) (effectiveTo : Option String) :
    ProductBom where
  finishedSku := command.toUpperCase (trim body.finishedSku)
  version := trim body.version
  active := true
  approvalStatus := .pending
  effectiveFrom := trim body.effectiveFrom
  effectiveTo := effectiveTo
  overlapAllowed := body.overlapAllowed

/-- The payload of its request. -/
def bomPayload (body : CreateBom) (retireBomIds : List Int) : JsonValue :=
  withMembers body.raw
    [("retireBomIds", .array (retireBomIds.map fun id => .number id)),
      ("retirementDate", (previousDay (trim body.effectiveFrom)).elim .null .text)]

theorem retiredBoms_payload {body : CreateBom} {retireBomIds : List Int} {bound : Nat}
    (below : ∀ id ∈ retireBomIds, id < bound) :
    ∀ key ∈ retiredBoms (bomPayload body retireBomIds), key < bound := by
  intro key member
  have retired : (bomPayload body retireBomIds).member "retireBomIds" =
      some (.array (retireBomIds.map fun id => .number id)) := by
    rw [bomPayload, withMembers_member (by simp)]
    rfl
  simp only [retiredBoms, retired, List.mem_filterMap, List.mem_map] at member
  obtain ⟨_, ⟨id, listed, rfl⟩, kept⟩ := member
  dsimp only at kept
  split at kept
  · cases kept
    have listedBelow := below id listed
    omega
  · cases kept

/-- The versions that a request retires when it is approved: the approved ones
in force on a day of the new one, when no overlap is allowed. -/
def retireIds (db : Database) (command : SupplyContext) (body : CreateBom)
    (effectiveTo : Option String) : List Int :=
  if body.overlapAllowed then []
  else
    ((((((db productBoms).select fun _ row =>
      row.finishedSku == command.toUpperCase (trim body.finishedSku)).insertionSort
        fun a b => a.2.effectiveFrom ≤ b.2.effectiveFrom).filter fun row =>
          conflicts (trim body.effectiveFrom) effectiveTo row.2).filter fun row =>
            row.2.approvalStatus == .approved).map fun row => (row.1 : Int))

theorem retireIds_lt {command : SupplyContext} {body : CreateBom} {effectiveTo : Option String} :
    ∀ id ∈ retireIds db command body effectiveTo, id < (db productBoms).nextId := by
  intro id listed
  unfold retireIds at listed
  split at listed
  · cases listed
  · simp only [List.mem_map, List.mem_filter, List.mem_insertionSort] at listed
    obtain ⟨r, ⟨⟨selected, -⟩, -⟩, rfl⟩ := listed
    exact_mod_cast Table.find?_lt_nextId (Table.mem_select.mp selected).1

theorem createBom_returns {command : SupplyContext} {body : CreateBom} {reply : JsonValue}
    {sent : List String} (returns : (createBom command body).Returns db reply sent db') :
    ∃ bom request last, BomCreated command db db' bom request last := by
  simp only [createBom, returns_bind_refuseIf, returns_bind_text, returns_bind_date] at returns
  obtain ⟨-, -, -, -, valid, returns⟩ := returns
  rw [returns_bind_of_reads (lastDay_obeys : Obeys idle _).obeyed] at returns
  obtain ⟨effectiveTo, -, returns⟩ := returns
  simp only [returns_bind_refuseIf] at returns
  obtain ⟨-, returns⟩ := returns
  rw [returns_bind_of_reads (overlapReasonOf_obeys : Obeys idle _).obeyed] at returns
  obtain ⟨overlapReason, -, returns⟩ := returns
  simp only [returns_bind_refuseIf, returns_bind_query] at returns
  obtain ⟨-, -, -, -, -, returns⟩ := returns
  rw [returns_bind_of_reads (prepareComponents_obeys : Obeys idle _).obeyed] at returns
  obtain ⟨components, -, returns⟩ := returns
  simp only [returns_bind_insertUnique] at returns
  obtain ⟨-, returns⟩ := returns
  obtain ⟨_, _, filled, _, fills, rest, rfl⟩ := returns_bind.mp returns
  have unfilled := (returns_widen.mp fills).unwritten
  obtain ⟨_, _, asked, _, asks, more, rfl⟩ := returns_bind.mp rest
  obtain ⟨-, -, requests, others⟩ := createApproval_returns asks
  obtain ⟨_, _, told, _, tells, done, rfl⟩ := returns_bind.mp more
  obtain rfl := approvalNotification_returns tells
  obtain ⟨-, -, rfl⟩ := returns_pure.mp done
  obtain ⟨last, ends⟩ := previousDay_isSome valid
  refine ⟨bomOf command body effectiveTo, requestOf command "bom_version" "bom"
    (db productBoms).nextId (bomPayload body (retireIds db command body effectiveTo)), last,
    ?_, ?_, rfl, rfl, ends, ?_, retiredBoms_payload retireIds_lt⟩
  · rw [others _ (by decide) (by decide), unfilled _ (by decide), Store.put_same]
    rfl
  · rw [requests, unfilled _ (by decide), Store.put_other _ _ (by decide)]
    rfl
  · rw [requestOf, bomPayload, withMembers_member (by simp)]
    simp [ends]

/-- The end that an approved request sets to a version. -/
def retiredBom (payload : JsonValue) (key : Nat) (bom : ProductBom) : ProductBom :=
  match payload.member "retirementDate" with
  | some (.text last) =>
      if key ∈ retiredBoms payload then { bom with effectiveTo := some last } else bom
  | _ => bom

/-- A version after the decision of a request. -/
def decidedBom (approval : ApprovalRequest) (decision : Decision) (key : Nat) (bom : ProductBom) :
    ProductBom :=
  let kept := if decision = .approved then retiredBom approval.payload key bom else bom
  if key = approval.entityId then
    { kept with approvalStatus := decision.status, active := decide (decision = .approved) }
  else kept

theorem retireBom_loop {last : String} {ids : List Nat} {u : Unit} {sent : List DomainEvent}
    (returns : (forEach (retireBom last) ids).Returns db u sent db') (key : Nat) :
    (db' productBoms).find? key = ((db productBoms).find? key).map fun bom =>
      if key ∈ ids then { bom with effectiveTo := some last } else bom := by
  induction ids generalizing db u sent with
  | nil =>
      obtain ⟨-, rfl⟩ := returns_forEach_nil.mp returns
      simp
  | cons id rest ih =>
      obtain ⟨_, _, _, first, later, rfl⟩ := returns_forEach_cons.mp returns
      obtain ⟨-, rfl⟩ := returns_updateWhere.mp first
      rw [ih later, Store.put_same, Table.find?_update, Option.map_map]
      congr 1
      funext bom
      by_cases own : key = id
      · simp [own]
      · simp [own]

theorem retiredBom_dated {payload : JsonValue} {last : String}
    (dated : payload.member "retirementDate" = some (.text last)) (key : Nat) :
    retiredBom payload key = fun bom =>
      if key ∈ retiredBoms payload then { bom with effectiveTo := some last } else bom := by
  funext bom
  rw [retiredBom, dated]

theorem retiredBom_undated {payload : JsonValue}
    (undated : ∀ last, payload.member "retirementDate" ≠ some (.text last)) (key : Nat) :
    retiredBom payload key = fun bom => bom := by
  funext bom
  unfold retiredBom
  split
  · rename_i last dated
    exact absurd dated (undated last)
  · rfl

theorem retireBoms_returns {payload : JsonValue} {u : Unit} {sent : List DomainEvent}
    (returns : (retireBoms payload).Returns db u sent db') (key : Nat) :
    (db' productBoms).find? key = ((db productBoms).find? key).map (retiredBom payload key) := by
  unfold retireBoms at returns
  split at returns
  · rename_i last dated
    rw [retiredBom_dated dated]
    exact retireBom_loop returns key
  · rename_i undated
    obtain ⟨-, -, rfl⟩ := returns_pure.mp returns
    rw [retiredBom_undated fun last => undated last, Option.map_id']

/-- What a committed decision of a version did. -/
structure BomDecided (approval : ApprovalRequest) (decision : Decision) (bom : ProductBom)
    (db db' : Database) : Prop where
  found : (db productBoms).find? approval.entityId = some bom
  pending : bom.approvalStatus = .pending
  versions : ∀ key, (db' productBoms).find? key =
    ((db productBoms).find? key).map (decidedBom approval decision key)

theorem retiredBom_status (payload : JsonValue) (key : Nat) (bom : ProductBom) :
    (retiredBom payload key bom).approvalStatus = bom.approvalStatus := by
  unfold retiredBom
  split
  · split <;> rfl
  · rfl

theorem applyBom_returns {approval : ApprovalRequest} {decision : Decision} {u : Unit}
    {sent : List DomainEvent}
    (returns : (applyBom approval decision).Returns db u sent db') :
    ∃ bom, BomDecided approval decision bom db db' := by
  obtain ⟨_, _, mid, _, retires, updates, rfl⟩ := returns_bind.mp returns
  obtain ⟨⟨row, foundRow, guarded⟩, -, rfl⟩ := returns_updateRow.mp updates
  have versions : ∀ key, (mid productBoms).find? key = ((db productBoms).find? key).map fun bom =>
      if decision = .approved then retiredBom approval.payload key bom else bom := by
    intro key
    rcases returns_whenever.mp retires with ⟨approved, ran⟩ | ⟨rejected, -, rfl⟩
    · simp [approved, retireBoms_returns ran key]
    · simp [rejected]
  rw [versions, Option.map_eq_some_iff] at foundRow
  obtain ⟨bom, found, rfl⟩ := foundRow
  refine ⟨bom, found, ?_, fun key => ?_⟩
  · rw [beq_iff_eq] at guarded
    split at guarded
    · rw [← guarded, retiredBom_status]
    · exact guarded
  · rw [Store.put_same, Table.find?_modify, versions]
    by_cases own : key = approval.entityId
    · subst own
      rw [if_pos rfl, Option.map_map]
      congr 1
      funext row
      simp [decidedBom]
    · rw [if_neg own]
      congr 1
      funext row
      simp only [decidedBom, if_neg own]

/-! ## Steps -/

/-- What a step does to the versions. -/
inductive Versioned (db : Database) (event : SupplyEvent) (db' : Database) : Prop
  | created {command : SupplyContext} {body : CreateBom} {bom : ProductBom}
      {request : ApprovalRequest} {last : String}
      (supply : supplied event = some ⟨command, .createBom body⟩) (undecided : decides db event = none)
      (created : BomCreated command db db' bom request last)
  | decided {approval : ApprovalRequest} {decision : Decision} {bom : ProductBom} {id : Nat}
      (verdict : decides db event = some ("bom_version", approval, decision))
      (requested : (db approvalRequests).find? id = some approval)
      (pending : approval.status = .pending)
      (workflow : approval.workflowType = .procurement "bom_version")
      (decided : BomDecided approval decision bom db db')
      (quiet : "bom_version" ∉ requestedBy event)
  | elsewhere (undecided : ∀ approval decision,
        decides db event ≠ some ("bom_version", approval, decision))
      (versions : db' productBoms = db productBoms) (quiet : "bom_version" ∉ requestedBy event)

theorem BomDecided.congr {approval claimed : ApprovalRequest} {decision : Decision}
    {bom : ProductBom} {mid after : Database} (decided : BomDecided claimed decision bom mid after)
    (entity : claimed.entityId = approval.entityId) (payload : claimed.payload = approval.payload)
    (before : mid productBoms = db productBoms) (last : db' productBoms = after productBoms) :
    BomDecided approval decision bom db db' := by
  refine ⟨entity ▸ before ▸ decided.found, decided.pending, fun key => ?_⟩
  rw [last, decided.versions, before]
  unfold decidedBom
  rw [entity, payload]

theorem touched_versioned (touched : Touched db event db') : Versioned db event db' := by
  cases touched with
  | @supply _ request reply sent returns =>
      obtain ⟨command, body⟩ := request
      unfold runSupply at returns
      cases body with
      | createBom body =>
          obtain ⟨bom, request, last, created⟩ := createBom_returns (returns_widen.mp returns)
          exact Versioned.created rfl rfl created
      | _ =>
          have unwritten := (returns_widen.mp returns).unwritten
          exact Versioned.elsewhere (by simp [decides]) (unwritten _ (by decide))
            (by simp [requestedBy, requestsOf])
  | @applied _ command body name approval applied =>
      obtain ⟨claimed, mid, after, ⟨-, entity, payload⟩, before, ran, last⟩ := applied.effect
      have first := planned_before before productBoms (by decide)
      have final := planned_last last productBoms (by decide)
      have verdict := applied.decides
      cases ran with
      | bom returns =>
          obtain ⟨bom, decided⟩ := applyBom_returns returns
          exact Versioned.decided verdict applied.found applied.pending applied.workflow
            (decided.congr entity payload first final) (by simp [requestedBy])
      | unknown other same =>
          subst same
          refine Versioned.elsewhere ?_ (final.trans first) (by simp [requestedBy])
          intro approval decision named
          rw [verdict] at named
          cases named
          exact other (by decide)
      | _ =>
          rename_i returns
          refine Versioned.elsewhere (by simp [verdict]) ?_ (by simp [requestedBy])
          rw [final, returns.unwritten _ (by decide), first]
  | apart notSupplied undecided own items =>
      refine Versioned.elsewhere (by simp [undecided]) (own _ (by decide)) fun member => ?_
      exact absurd (requestedBy_unsupplied notSupplied _ member) (by decide)

/-- What nothing changes of a version. -/
def bomKey (bom : ProductBom) : String × String × String × Bool :=
  (bom.finishedSku, bom.version, bom.effectiveFrom, bom.overlapAllowed)

theorem decidedBom_key (approval : ApprovalRequest) (decision : Decision) (key : Nat)
    (bom : ProductBom) : bomKey (decidedBom approval decision key bom) = bomKey bom := by
  have retired : bomKey (retiredBom approval.payload key bom) = bomKey bom := by
    unfold retiredBom
    split
    · split <;> rfl
    · rfl
  unfold decidedBom
  by_cases own : key = approval.entityId <;> cases decision <;> simp [own, bomKey] <;>
    simpa [bomKey, own] using retired

theorem Versioned.keeps (versioned : Versioned db event db') {id : Nat} {bom : ProductBom}
    (found : (db productBoms).find? id = some bom) :
    ∃ row, (db' productBoms).find? id = some row ∧ bomKey row = bomKey bom := by
  cases versioned with
  | created supply undecided created =>
      rw [created.boms]
      exact ⟨bom, Table.find?_insert_of_some found, rfl⟩
  | decided verdict requested pending workflow decided quiet =>
      exact ⟨_, by rw [decided.versions, found, Option.map_some], decidedBom_key _ _ _ _⟩
  | elsewhere undecided versions quiet =>
      rw [versions]
      exact ⟨bom, found, rfl⟩

/-! ## The requests of the versions -/

/-- What a request of a version holds until it is decided. -/
structure Submits (db : Database) (request : ApprovalRequest) (bom : ProductBom) (last : String) :
    Prop where
  found : (db productBoms).find? request.entityId = some bom
  ends : previousDay bom.effectiveFrom = some last
  date : request.payload.member "retirementDate" = some (.text last)
  older : ∀ key ∈ retiredBoms request.payload, key < request.entityId

/-- Every pending request of a version submits one. -/
def BomRequests (db : Database) : Prop :=
  ∀ id row, (db approvalRequests).find? id = some row → row.status = .pending →
    row.workflowType = .procurement "bom_version" → ∃ bom last, Submits db row bom last

theorem BomCreated.submits {command : SupplyContext} {bom : ProductBom} {request : ApprovalRequest}
    {last : String} (created : BomCreated command db db' bom request last) :
    Submits db' request bom last where
  found := by rw [created.boms, created.entity, Table.find?_insert_nextId]
  ends := created.ends
  date := created.date
  older := by
    rw [created.entity]
    exact created.retires

theorem BomRequests.step (requests : BomRequests db) (versioned : Versioned db event db')
    (kept : PendingKept db event db') : BomRequests db' := by
  have carried : ∀ {row : ApprovalRequest}, (∃ bom last, Submits db row bom last) →
      ∃ bom last, Submits db' row bom last := by
    rintro row ⟨bom, last, submits⟩
    obtain ⟨other, found, same⟩ := versioned.keeps submits.found
    simp only [bomKey, Prod.mk.injEq] at same
    exact ⟨other, last, found, same.2.2.1 ▸ submits.ends, submits.date, submits.older⟩
  intro id row found pending workflow
  rcases kept id row found pending with old | new
  · exact carried (requests id row old pending workflow)
  · have named := new _ workflow
    cases versioned with
    | created supply undecided created =>
        rw [created.requests] at found
        rcases Table.find?_insert_cases found with ⟨-, rfl⟩ | old
        · exact ⟨_, _, created.submits⟩
        · exact carried (requests id row old pending workflow)
    | decided verdict requested isPending named' decided quiet => exact absurd named quiet
    | elsewhere undecided versions quiet => exact absurd named quiet

/-! ## The ranges of the versions -/

/-- A version that was approved and is active. -/
def Live (bom : ProductBom) : Prop := bom.active = true ∧ bom.approvalStatus = .approved

/-- A day of the range of a version. -/
def InForce (bom : ProductBom) (day : String) : Prop :=
  bom.effectiveFrom ≤ day ∧ ∀ last, bom.effectiveTo = some last → day ≤ last

def SharedDay (a b : ProductBom) : Prop :=
  ∃ day, (Calendar.parse day).isSome = true ∧ InForce a day ∧ InForce b day

/-- No two live versions of a sku without overlap are in force on one day. -/
def DisjointBoms (db : Database) : Prop :=
  ∀ i j a b, (db productBoms).find? i = some a → (db productBoms).find? j = some b → i ≠ j →
    Live a → Live b → a.finishedSku = b.finishedSku → a.overlapAllowed = false →
    b.overlapAllowed = false → ¬ SharedDay a b

/-- No approved version starts at another day than before, or ends later. -/
def Unlengthened (db db' : Database) : Prop :=
  ∀ id a, (db productBoms).find? id = some a → a.approvalStatus = .approved →
    ∃ b, (db' productBoms).find? id = some b ∧ b.effectiveFrom = a.effectiveFrom ∧
      ∀ last, a.effectiveTo = some last → ∃ sooner, b.effectiveTo = some sooner ∧ sooner ≤ last

/-- What a step should leave of the versions. -/
def BomLaw (db : Database) (_ : SupplyEvent) (db' : Database) : Prop :=
  DisjointBoms db' ∧ Unlengthened db db'

/-- The list of a request is still what it was made for: it has every live
version in the way of its own, and none that ends before it would end it. -/
structure Timely (db : Database) (request : ApprovalRequest) (bom : ProductBom) : Prop where
  listed : bom.overlapAllowed = false → ∀ id other, (db productBoms).find? id = some other →
    id ≠ request.entityId → Live other → other.finishedSku = bom.finishedSku →
    other.overlapAllowed = false → SharedDay bom other → id ∈ retiredBoms request.payload
  unended : ∀ id ∈ retiredBoms request.payload, ∀ other,
    (db productBoms).find? id = some other → other.approvalStatus = .approved →
    ∀ last ended, previousDay bom.effectiveFrom = some last → other.effectiveTo = some ended →
      last ≤ ended

/-- If the event approves a version, its request is timely. -/
def Fresh (db : Database) (event : SupplyEvent) (_ : Database) : Prop :=
  ∀ request bom, decides db event = some ("bom_version", request, .approved) →
    (db productBoms).find? request.entityId = some bom → Timely db request bom

/-! ## One decision -/

section Decided

variable {request : ApprovalRequest} {bom : ProductBom} {last : String} {id : Nat}

/-- The version of an approved request is live, and it is not among the retired. -/
theorem BomDecided.own (decided : BomDecided request .approved bom db db')
    (submits : Submits db request bom last) :
    (db' productBoms).find? request.entityId =
      some { bom with approvalStatus := .approved, active := true } := by
  have spared : retiredBom request.payload request.entityId bom = bom := by
    have absent : request.entityId ∉ retiredBoms request.payload := fun listed =>
      Nat.lt_irrefl _ (submits.older _ listed)
    simp [retiredBom, submits.date, absent]
  rw [decided.versions, decided.found, Option.map_some]
  simp [decidedBom, spared, Decision.status]

theorem BomDecided.listed (decided : BomDecided request .approved bom db db')
    (submits : Submits db request bom last) {other : ProductBom}
    (found : (db productBoms).find? id = some other) (listed : id ∈ retiredBoms request.payload) :
    (db' productBoms).find? id = some { other with effectiveTo := some last } := by
  have apart : id ≠ request.entityId := Nat.ne_of_lt (submits.older id listed)
  rw [decided.versions, found, Option.map_some]
  simp [decidedBom, apart, retiredBom, submits.date, listed]

theorem BomDecided.unlisted (decided : BomDecided request .approved bom db db')
    (submits : Submits db request bom last) {other : ProductBom}
    (found : (db productBoms).find? id = some other) (apart : id ≠ request.entityId)
    (unlisted : id ∉ retiredBoms request.payload) :
    (db' productBoms).find? id = some other := by
  rw [decided.versions, found, Option.map_some]
  simp [decidedBom, apart, retiredBom, submits.date, unlisted]

theorem BomDecided.backward (decided : BomDecided request .approved bom db db')
    (submits : Submits db request bom last) {row : ProductBom}
    (found : (db' productBoms).find? id = some row) (apart : id ≠ request.entityId) :
    ∃ old, (db productBoms).find? id = some old ∧
      ((id ∈ retiredBoms request.payload ∧ row = { old with effectiveTo := some last }) ∨
        (id ∉ retiredBoms request.payload ∧ row = old)) := by
  have present := found
  rw [decided.versions, Option.map_eq_some_iff] at present
  obtain ⟨old, foundOld, -⟩ := present
  refine ⟨old, foundOld, ?_⟩
  by_cases listed : id ∈ retiredBoms request.payload
  · rw [decided.listed submits foundOld listed] at found
    exact Or.inl ⟨listed, (Option.some.inj found).symm⟩
  · rw [decided.unlisted submits foundOld apart listed] at found
    exact Or.inr ⟨listed, (Option.some.inj found).symm⟩

theorem Timely.inForce (timely : Timely db request bom) (submits : Submits db request bom last)
    {old : ProductBom} (found : (db productBoms).find? id = some old)
    (approved : old.approvalStatus = .approved) (listed : id ∈ retiredBoms request.payload)
    {day : String} (inForce : InForce { old with effectiveTo := some last } day) :
    InForce old day := by
  refine ⟨inForce.1, fun ended ends => ?_⟩
  have sooner := timely.unended id listed old found approved last ended submits.ends ends
  exact String.le_trans (inForce.2 last rfl) sooner

theorem BomDecided.timely (decided : BomDecided request .approved bom db db')
    (submits : Submits db request bom last) (law : BomLaw db event db') :
    Timely db request bom := by
  obtain ⟨disjoint, unlengthened⟩ := law
  constructor
  · intro single key other found apart live sku otherSingle shared
    by_contra unlisted
    have kept := decided.unlisted submits found apart unlisted
    exact disjoint _ _ _ _ (decided.own submits) kept apart.symm ⟨rfl, rfl⟩ live sku.symm single
      otherSingle shared
  · intro key listed other found approved day ended ends otherEnds
    obtain rfl := Option.some.inj (submits.ends.symm.trans ends)
    obtain ⟨row, foundRow, -, bounded⟩ := unlengthened key other found approved
    obtain ⟨sooner, sooner_eq, le⟩ := bounded ended otherEnds
    rw [decided.listed submits found listed] at foundRow
    cases foundRow
    cases sooner_eq
    exact le

/-- No other version shares a day with the one that a timely request submits. -/
theorem BomDecided.clear (decided : BomDecided request .approved bom db db')
    (submits : Submits db request bom last) (timely : Timely db request bom) {row : ProductBom}
    (found : (db' productBoms).find? id = some row) (apart : id ≠ request.entityId)
    (live : Live row) (sku : row.finishedSku = bom.finishedSku)
    (single : bom.overlapAllowed = false) (rowSingle : row.overlapAllowed = false) :
    ¬ SharedDay bom row := by
  rintro ⟨day, valid, own, other⟩
  obtain ⟨old, foundOld, ⟨listed, rfl⟩ | ⟨unlisted, rfl⟩⟩ := decided.backward submits found apart
  · -- a retired version ends before this one starts
    have ended : day ≤ last := other.2 last rfl
    have before := previousDay_lt submits.ends
    exact absurd (String.le_trans own.1 ended) (String.not_le.mpr before)
  · exact unlisted (timely.listed single id row foundOld apart live sku rowSingle
      ⟨day, valid, own, other⟩)

theorem BomDecided.before (decided : BomDecided request .approved bom db db')
    (submits : Submits db request bom last) (timely : Timely db request bom) {row : ProductBom}
    (found : (db' productBoms).find? id = some row) (apart : id ≠ request.entityId)
    (live : Live row) :
    ∃ old, (db productBoms).find? id = some old ∧ Live old ∧
      old.finishedSku = row.finishedSku ∧ old.overlapAllowed = row.overlapAllowed ∧
      ∀ day, InForce row day → InForce old day := by
  obtain ⟨old, foundOld, ⟨listed, rfl⟩ | ⟨unlisted, rfl⟩⟩ := decided.backward submits found apart
  · refine ⟨old, foundOld, live, rfl, rfl, fun day inForce => ?_⟩
    exact timely.inForce submits foundOld live.2 listed inForce
  · exact ⟨row, foundOld, live, rfl, rfl, fun day inForce => inForce⟩

theorem BomDecided.law (decided : BomDecided request .approved bom db db')
    (submits : Submits db request bom last) (timely : Timely db request bom)
    (disjoint : DisjointBoms db) : BomLaw db event db' := by
  have own := decided.own submits
  constructor
  · intro i j a b foundA foundB differ liveA liveB sku singleA singleB shared
    by_cases first : i = request.entityId
    · subst first
      rw [own] at foundA
      cases foundA
      exact decided.clear submits timely foundB differ.symm liveB sku.symm singleA singleB shared
    by_cases second : j = request.entityId
    · subst second
      rw [own] at foundB
      cases foundB
      obtain ⟨day, valid, inA, inB⟩ := shared
      exact decided.clear submits timely foundA first liveA sku singleB singleA
        ⟨day, valid, inB, inA⟩
    obtain ⟨oldA, foundOldA, wasA, skuA, overlapA, daysA⟩ :=
      decided.before submits timely foundA first liveA
    obtain ⟨oldB, foundOldB, wasB, skuB, overlapB, daysB⟩ :=
      decided.before submits timely foundB second liveB
    obtain ⟨day, valid, inA, inB⟩ := shared
    exact disjoint i j oldA oldB foundOldA foundOldB differ wasA wasB
      (skuA.trans (sku.trans skuB.symm)) (overlapA.trans singleA) (overlapB.trans singleB)
      ⟨day, valid, daysA day inA, daysB day inB⟩
  · intro key old found approved
    have apart : key ≠ request.entityId := by
      rintro rfl
      obtain rfl := Option.some.inj (decided.found.symm.trans found)
      rw [decided.pending] at approved
      cases approved
    by_cases listed : key ∈ retiredBoms request.payload
    · refine ⟨_, decided.listed submits found listed, rfl, fun ended ends => ⟨last, rfl, ?_⟩⟩
      exact timely.unended key listed old found approved last ended submits.ends ends
    · exact ⟨old, decided.unlisted submits found apart listed, rfl, fun ended ends =>
        ⟨ended, ends, String.le_refl _⟩⟩

theorem BomDecided.refused (decided : BomDecided request .rejected bom db db')
    (disjoint : DisjointBoms db) : BomLaw db event db' := by
  have kept : ∀ key row, (db' productBoms).find? key = some row → Live row →
      (db productBoms).find? key = some row := by
    intro key row found live
    rw [decided.versions, Option.map_eq_some_iff] at found
    obtain ⟨old, foundOld, rfl⟩ := found
    by_cases own : key = request.entityId
    · simp [Live, decidedBom, own] at live
    · simpa [decidedBom, own] using foundOld
  constructor
  · intro i j a b foundA foundB differ liveA liveB
    exact disjoint i j a b (kept i a foundA liveA) (kept j b foundB liveB) differ liveA liveB
  · intro key old found approved
    have apart : key ≠ request.entityId := by
      rintro rfl
      obtain rfl := Option.some.inj (decided.found.symm.trans found)
      rw [decided.pending] at approved
      cases approved
    refine ⟨old, ?_, rfl, fun ended ends => ⟨ended, ends, String.le_refl _⟩⟩
    rw [decided.versions, found, Option.map_some]
    simp [decidedBom, apart]

end Decided

/-! ## Runs -/

theorem bomLaw_of_kept (kept : ∀ id row, (db' productBoms).find? id = some row → Live row →
      (db productBoms).find? id = some row)
    (stays : ∀ id row, (db productBoms).find? id = some row →
      (db' productBoms).find? id = some row) (disjoint : DisjointBoms db) :
    BomLaw db event db' := by
  constructor
  · intro i j a b foundA foundB differ liveA liveB
    exact disjoint i j a b (kept i a foundA liveA) (kept j b foundB liveB) differ liveA liveB
  · intro id row found approved
    exact ⟨row, stays id row found, rfl, fun ended ends => ⟨ended, ends, String.le_refl _⟩⟩

theorem Versioned.law_iff (versioned : Versioned db event db') (requests : BomRequests db)
    (disjoint : DisjointBoms db) : BomLaw db event db' ↔ Fresh db event db' := by
  cases versioned with
  | created supply undecided created =>
      refine iff_of_true ?_ fun request bom verdict => ?_
      · apply bomLaw_of_kept _ _ disjoint
        · intro id row found live
          rw [created.boms] at found
          rcases Table.find?_insert_cases found with ⟨-, rfl⟩ | old
          · rw [Live, created.pending] at live
            cases live.2
          · exact old
        · intro id row found
          rw [created.boms]
          exact Table.find?_insert_of_some found
      · rw [undecided] at verdict
        cases verdict
  | @decided approval decision bom id verdict requested pending workflow decided quiet =>
      cases decision with
      | approved =>
          obtain ⟨other, last, submits⟩ := requests id approval requested pending workflow
          obtain rfl := Option.some.inj (decided.found.symm.trans submits.found)
          constructor
          · intro law request row named found
            rw [verdict] at named
            cases named
            obtain rfl := Option.some.inj (decided.found.symm.trans found)
            exact decided.timely submits law
          · intro fresh
            exact decided.law submits (fresh approval bom verdict decided.found) disjoint
      | rejected =>
          refine iff_of_true (decided.refused disjoint) fun request row named => ?_
          rw [verdict] at named
          cases named
  | elsewhere undecided versions quiet =>
      refine iff_of_true ?_ fun request bom verdict => absurd verdict (undecided _ _)
      apply bomLaw_of_kept _ _ disjoint
      · intro id row found live
        rwa [versions] at found
      · intro id row found
        rwa [versions]

/-- The messages of a step say nothing of the versions and their requests. -/
theorem Versioned.unread {mid : Database} (versioned : Versioned db event mid)
    (apart : ApartFromOutbox mid db') : Versioned db event db' := by
  have boms : db' productBoms = mid productBoms := apart _ (by decide)
  cases versioned with
  | created supply undecided created =>
      refine Versioned.created supply undecided { created with boms := ?_, requests := ?_ }
      · rw [boms, created.boms]
      · rw [apart _ (by decide), created.requests]
  | decided verdict requested pending workflow decided quiet =>
      exact Versioned.decided verdict requested pending workflow
        (decided.congr rfl rfl rfl boms) quiet
  | elsewhere undecided versions quiet =>
      exact Versioned.elsewhere undecided (boms.trans versions) quiet

theorem step_versioned (step : SupplyStep db event db') :
    Versioned db event db' ∧ PendingKept db event db' := by
  obtain ⟨mid, work, apart⟩ := step.works
  refine ⟨(touched_versioned (work_touched work)).unread apart, ?_⟩
  unfold PendingKept
  rw [apart approvalRequests (by decide)]
  exact work_pendingKept work

/-- No version has been submitted. -/
structure NoBoms (db : Database) : Prop where
  boms : ∀ id, (db productBoms).find? id = none
  requests : ∀ id row, (db approvalRequests).find? id = some row →
    row.workflowType ≠ .procurement "bom_version"

/-- From a system without versions every state of a run has disjoint ranges, and
no step lengthens the range of an approved one, exactly when every version was
approved on a request that was still timely. -/
theorem bom_validity (opening : NoBoms db) :
    Run (fun a event b => SupplyStep a event b ∧ BomLaw a event b) db events db' ↔
      Run (fun a event b => SupplyStep a event b ∧ Fresh a event b) db events db' := by
  apply Run.iff_under (fun db => BomRequests db ∧ DisjointBoms db)
  · rintro a event b step law ⟨requests, -⟩
    obtain ⟨versioned, kept⟩ := step_versioned step
    exact ⟨requests.step versioned kept, law.1⟩
  · rintro a event b step ⟨requests, disjoint⟩
    exact (step_versioned step).1.law_iff requests disjoint
  · constructor
    · intro id row found pending workflow
      exact absurd workflow (opening.requests id row found)
    · intro i j a b found
      simp [opening.boms i] at found

/-- A finished sku with a component, and a reviewer of the supply chain. -/
def unversionedDatabase : Database :=
  (emptyDatabase.put skus ((Table.empty.insert (stocked "F" "finished")).insert
    (stocked "C" "component"))).put
    users ((Table.empty.insert { role := .supplyChain, active := true }).insert
      { role := .supplyChain, active := true })
where
  stocked (code itemType : String) : Sku :=
    { code, itemType := some itemType, overproductionToleranceBps := 0, active := true }

theorem unversionedDatabase_opens : NoBoms unversionedDatabase where
  boms _ := rfl
  requests id row found := by cases found

/-- The supply chain submits a version that starts on a day. -/
def submits (time : Nat) (version effectiveFrom : String) : Act :=
  .supply (supplyAt time
    { userId := 1, sessionId := some 1, roles := [.supplyChain], factoryId := none
      supplierId := none }
    (.createBom
      { finishedSku := "F", version, effectiveFrom
        components := [{ componentSku := "C", quantityPerFinished := 1 }] }))

/-- Another user of the supply chain approves a request. -/
def approves (time id : Nat) : Act :=
  .operations (requestAt time 2 [.supplyChain] (.decideApproval { id, decision := .approved }))

/-- The second version is submitted before the first one is approved. -/
def submitsBoth : List Act :=
  [submits 1 "V1" "2026-01-01", submits 2 "V2" "2026-06-01", approves 3 1, approves 4 2]

/-- Two versions that wait together are both in force from the second one on. -/
theorem boms_overlap : ∃ db', Run SupplyStep unversionedDatabase (submitsBoth.map Act.event) db' ∧
    ¬ DisjointBoms db' := by
  obtain ⟨db', run, seen⟩ := replayActs_reaches submitsBoth unversionedDatabase
    (fun db => [1, 2].all fun id => ((db productBoms).find? id).any fun row =>
      row.finishedSku == "F" && row.active && row.approvalStatus == .approved &&
        !row.overlapAllowed && decide (row.effectiveFrom ≤ "2026-06-01") &&
        row.effectiveTo.isNone) (by decide +kernel)
  refine ⟨db', run, fun disjoint => ?_⟩
  simp only [List.all_cons, List.all_nil, Bool.and_true, Bool.and_eq_true, Option.any_eq_true,
    beq_iff_eq, decide_eq_true_eq, Bool.not_eq_true', Option.isNone_iff_eq_none] at seen
  obtain ⟨⟨a, foundA, ⟨⟨⟨⟨skuA, activeA⟩, approvedA⟩, singleA⟩, startedA⟩, openA⟩,
    b, foundB, ⟨⟨⟨⟨skuB, activeB⟩, approvedB⟩, singleB⟩, startedB⟩, openB⟩ := seen
  apply disjoint 1 2 a b foundA foundB (by decide) ⟨activeA, approvedA⟩ ⟨activeB, approvedB⟩
    (skuA.trans skuB.symm) singleA singleB
  refine ⟨"2026-06-01", by decide, ⟨startedA, ?_⟩, startedB, ?_⟩
  · simp [openA]
  · simp [openB]

/-- A first version that is approved is in order. -/
theorem bom_validity_first : ∃ db', ((db' productBoms).find? 1).any (·.active) = true ∧
    (Run (fun a event b => SupplyStep a event b ∧ BomLaw a event b) unversionedDatabase
        ([submits 1 "V1" "2026-01-01", approves 3 1].map Act.event) db' ↔
      Run (fun a event b => SupplyStep a event b ∧ Fresh a event b) unversionedDatabase
        ([submits 1 "V1" "2026-01-01", approves 3 1].map Act.event) db') := by
  obtain ⟨db', -, seen⟩ := replayActs_reaches [submits 1 "V1" "2026-01-01", approves 3 1]
    unversionedDatabase (fun db => ((db productBoms).find? 1).any (·.active)) (by decide +kernel)
  exact ⟨db', seen, bom_validity unversionedDatabase_opens⟩

end SupplyChain.MasterData
