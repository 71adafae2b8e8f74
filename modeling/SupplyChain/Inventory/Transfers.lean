import SupplyChain.Stock.Deductions
import SupplyChain.Stock.Steps

/-!
What a transfer makes of the goods. It takes them from the batches that expire
first, whatever their dates and status are, and brings them in as one batch of
normal goods without dates.
-/

namespace SupplyChain.Inventory

open Relational Transaction TableName Stock

variable {effects : Approvals.ProcurementEffects} {command : CommandContext} {db db' : Database}
  {event : Event} {events : List Event}

/-! ## The goods -/

/-- What is known of the goods of a batch. -/
structure Attributes where
  expiryDate : Option String
  expiryStatus : ExpiryStatus
  productionDate : Option String
  ownership : Ownership
  deriving DecidableEq

def attributesOf (batch : InventoryBatch) : Attributes where
  expiryDate := batch.expiryDate
  expiryStatus := batch.expiryStatus
  productionDate := batch.productionDate
  ownership := batch.ownership

/-- Normal goods of the company without dates. -/
def plainGoods : Attributes := ⟨none, .normal, none, .company⟩

/-- How much of the available stock has these attributes. -/
def availableWith (batches : Table InventoryBatch) (attributes : Attributes) : Int :=
  batches.weigh fun _ batch => if attributesOf batch = attributes then batch.availableQuantity else 0

/-- The batches that a quantity is taken from: those before it do not hold it. -/
def Reached (db : Database) (transfer : InventoryTransfer) (r : Nat × InventoryBatch) : Prop :=
  ∃ before after, deductible db [transfer.fromWarehouseId] transfer.sku = before ++ r :: after ∧
    (before.map fun other => other.2.availableQuantity).sum < transfer.quantity

/-- A transfer was shipped, and then received after other steps. -/
structure Delivered (effects : Approvals.ProcurementEffects) (id : Nat)
    (shipper receiver : CommandContext) (db away last db' : Database) : Prop where
  ship : Step effects db (.command ⟨shipper, .transitionTransfer ⟨id, .ship⟩⟩) away
  between : ∃ events, Run (Step effects) away events last
  receive : Step effects last (.command ⟨receiver, .transitionTransfer ⟨id, .receive⟩⟩) db'

/-- As much stock of each kind came in as had left. -/
def AttributesKept (db away last db' : Database) : Prop :=
  ∀ attributes, availableWith (db' inventoryBatches) attributes -
      availableWith (last inventoryBatches) attributes =
    availableWith (db inventoryBatches) attributes - availableWith (away inventoryBatches) attributes

/-- Stock of the sku that another deduction may draw on. -/
def Deductible (db : Database) (sku : String) (r : Nat × InventoryBatch) : Prop :=
  r ∈ deductible db [r.2.warehouseId] sku

/-- The batch that came in takes the place of each that gave stock in the order of
the deductions. -/
def OrderKept (db last db' : Database) (transfer : InventoryTransfer) : Prop :=
  ∀ r, Reached db transfer r → ∀ other, Deductible last transfer.sku other → other.1 ≠ r.1 →
    ∀ id batch, (db' inventoryBatches).find? id = some batch →
      (last inventoryBatches).find? id = none →
        (expiresFirst r other ↔ expiresFirst (id, batch) other)

/-- The stock that leaves is normal and has no dates. -/
def Plain (db : Database) (transfer : InventoryTransfer) : Prop :=
  ∀ r, Reached db transfer r → attributesOf r.2 = plainGoods

/-- Against other stock without an expiry date, the stock that leaves comes first
exactly when the day of the receipt does. -/
def Aligned (db last : Database) (transfer : InventoryTransfer) (today : String) : Prop :=
  ∀ r, Reached db transfer r → ∀ other, Deductible last transfer.sku other → other.1 ≠ r.1 →
    other.2.expiryDate = none →
      (expiresFirst r other ↔ compare today other.2.inboundDate = .lt)

/-! ## What steps do to the transfers -/

/-- What a transfer asks for does not change. -/
def TransferKept (_ : Nat) (old row : InventoryTransfer) : Prop :=
  row.fromWarehouseId = old.fromWarehouseId ∧ row.toWarehouseId = old.toWarehouseId ∧
    row.sku = old.sku ∧ row.quantity = old.quantity

theorem transferKept_refl (id : Nat) (row : InventoryTransfer) : TransferKept id row row :=
  ⟨rfl, rfl, rfl, rfl⟩

theorem transferKept_trans (id : Nat) (a b c : InventoryTransfer) (first : TransferKept id a b)
    (second : TransferKept id b c) : TransferKept id a c :=
  ⟨second.1.trans first.1, second.2.1.trans first.2.1, second.2.2.1.trans first.2.2.1,
    second.2.2.2.trans first.2.2.2⟩

/-- A step leaves the transfers, takes in one that asks for something, or changes
the status of one. -/
inductive TransferStep (transfers : Table InventoryTransfer) : Table InventoryTransfer → Prop
  | still : TransferStep transfers transfers
  | requested {row : InventoryTransfer} (positive : 0 < row.quantity) :
      TransferStep transfers (transfers.insert row)
  | changed (id : Nat) (status : TransferStatus) :
      TransferStep transfers (transfers.modify id fun row => { row with status := status })

theorem TransferStep.evolves {transfers transfers' : Table InventoryTransfer}
    (step : TransferStep transfers transfers') :
    Table.Evolves TransferKept transfers transfers' := by
  cases step with
  | still => exact Table.Evolves.refl transferKept_refl
  | requested => exact Table.evolves_insert transferKept_refl _
  | changed id status =>
      exact Table.evolves_modify transferKept_refl fun old _ => transferKept_refl id old

def AllPositive (transfers : Table InventoryTransfer) : Prop :=
  ∀ id row, transfers.find? id = some row → 0 < row.quantity

theorem TransferStep.positive {transfers transfers' : Table InventoryTransfer}
    (step : TransferStep transfers transfers') (all : AllPositive transfers) :
    AllPositive transfers' := by
  cases step with
  | still => exact all
  | requested positive =>
      intro id row found
      rcases Table.find?_insert_cases found with ⟨-, rfl⟩ | old
      · exact positive
      · exact all id row old
  | changed key status =>
      intro id row found
      rcases Table.find?_modify_cases found with ⟨-, old, before, rfl⟩ | ⟨-, before⟩
      · exact all _ old before
      · exact all id row before

theorem decideApproval_transfers {body : Approvals.DecideApproval} {reply : JsonValue}
    {sent : List DomainEvent}
    (returns : (Approvals.decideApproval effects command body).Returns db reply sent db') :
    TransferStep (db inventoryTransfers) (db' inventoryTransfers) := by
  obtain ⟨-, approval, mid, decided⟩ := Approvals.decideApproval_returns returns
  have before := decided.kept inventoryTransfers (by decide) (by decide)
  obtain ⟨outcome, effect⟩ := decided.effect
  unfold Approvals.approvalEffect at effect
  rw [← before]
  cases workflow : approval.workflowType with
  | warehouseTransfer =>
      simp only [workflow, returns_widen] at effect
      obtain ⟨-, -, rfl⟩ := ApprovalEffects.warehouseTransfer_returns effect
      rw [Store.put_same]
      exact .changed _ _
  | _ =>
      simp only [workflow, returns_widen] at effect
      rw [effect.unwritten inventoryTransfers (by decide)]
      exact .still

theorem work_transfers (work : Work effects db event db') :
    TransferStep (db inventoryTransfers) (db' inventoryTransfers) := by
  cases work with
  | @command _ request reply sent returns =>
      obtain ⟨command, body⟩ := request
      unfold runCommand at returns
      cases body with
      | decideApproval body => exact decideApproval_transfers (returns_widen.mp returns)
      | requestTransfer body =>
          obtain ⟨positive, -, same, -⟩ := requestTransfer_returns (returns_widen.mp returns)
          rw [same]
          exact .requested (by simp only [transferOf]; omega)
      | transitionTransfer body =>
          obtain ⟨transfer, -, -, transitioned⟩ :=
            transitionTransfer_returns (returns_widen.mp returns)
          obtain ⟨id, action⟩ := body
          dsimp only at transitioned
          cases transitioned with
          | shipped _ _ _ transfers =>
              rw [transfers]
              exact .changed _ _
          | received _ _ transfers =>
              rw [transfers]
              exact .changed _ _
      | _ =>
          rw [(returns_widen.mp returns).unwritten inventoryTransfers (by decide)]
          exact .still
  | warnInvoiceRisk warned =>
      rw [warned.unwritten inventoryTransfers (by decide)]
      exact .still
  | procurement own =>
      rw [own inventoryTransfers (by decide)]
      exact .still
  | approvalRequest =>
      rw [Store.put_other _ _ (by decide)]
      exact .still
  | outboxMessage => exact .still

theorem step_transfers (step : Step effects db event db') :
    TransferStep (db inventoryTransfers) (db' inventoryTransfers) := by
  obtain ⟨mid, work, apart⟩ := step.works
  rw [apart inventoryTransfers (by decide)]
  exact work_transfers work

theorem run_transfers (run : Run (Step effects) db events db') :
    Table.Evolves TransferKept (db inventoryTransfers) (db' inventoryTransfers) := by
  refine @Run.relates _ _ _ _ _ _ (fun a b => Table.Evolves TransferKept (a inventoryTransfers)
    (b inventoryTransfers)) run (fun db => Table.Evolves.refl transferKept_refl) ?_ ?_
  · intro a b c first second
    exact first.trans transferKept_trans second
  · intro a event b step
    exact (step_transfers step).evolves

theorem run_positive (run : Run (Step effects) db events db')
    (opens : AllPositive (db inventoryTransfers)) : AllPositive (db' inventoryTransfers) :=
  run.preserves (fun db => AllPositive (db inventoryTransfers))
    (fun step all => (step_transfers step).positive all) opens

/-! ## What a plan reaches -/

section

variable {transfer : InventoryTransfer}

theorem mem_transferPlan (positive : 0 < transfer.quantity) {id : Nat} :
    id ∈ (transferPlan db transfer).taken.map (·.1) ↔
      ∃ batch, Reached db transfer (id, batch) := by
  have stocked : ∀ supply ∈ (deductible db [transfer.fromWarehouseId] transfer.sku).map
      (fun r => (r.1, r.2.availableQuantity)), 0 < supply.2 := by
    intro supply member
    obtain ⟨r, listed, rfl⟩ := List.mem_map.mp member
    exact (mem_deductible listed).2.2.2
  rw [transferPlan, Greedy.mem_taken_keys positive.le stocked]
  constructor
  · rintro ⟨before, supply, after, split, rfl, less⟩
    obtain ⟨early, late, cut, rfl, later⟩ := List.map_eq_append_iff.mp split
    obtain ⟨r, rest, rfl, rfl, -⟩ := List.map_eq_cons_iff.mp later
    refine ⟨r.2, early, rest, cut, ?_⟩
    rw [Greedy.total, List.map_map] at less
    exact less
  · rintro ⟨batch, before, after, cut, less⟩
    refine ⟨_, _, _, by rw [cut, List.map_append, List.map_cons], rfl, ?_⟩
    rw [Greedy.total, List.map_map]
    exact less

/-! ## The two steps -/

/-- What the draws take of the stock with these attributes. -/
def drawnWith (batches : Table InventoryBatch) (attributes : Attributes)
    (draws : List (Nat × Int)) : Int :=
  (draws.map fun draw =>
    if (batches.find? draw.1).map attributesOf = some attributes then draw.2 else 0).sum

theorem find?_deducted (batches : Table InventoryBatch) (id : Nat) (quantity : Int) (key : Nat) :
    ((batches.modify id (Move.change (.deduct id quantity))).find? key).map attributesOf =
      (batches.find? key).map attributesOf := by
  rw [Table.find?_modify]
  split
  · cases batches.find? key <;> rfl
  · rfl

theorem Moves.drawn {s s' : Stock} {draws : List (Nat × Int)}
    (moves : Moves s (draws.map fun draw => .deduct draw.1 draw.2) s') (attributes : Attributes) :
    availableWith s.batches attributes - availableWith s'.batches attributes =
      drawnWith s.batches attributes draws := by
  induction draws generalizing s with
  | nil =>
      cases moves
      simp [drawnWith]
  | cons draw rest ih =>
      cases moves with
      | next first later =>
          have tail := ih later
          cases first with
          | @deduct _ _ batch found stocked =>
              dsimp only at tail
              have here : availableWith (s.batches.modify draw.1 (Move.change (.deduct draw.1 draw.2)))
                    attributes = availableWith s.batches attributes -
                  (if attributesOf batch = attributes then draw.2 else 0) := by
                rw [availableWith, availableWith, Table.weigh_modify found]
                have same : attributesOf (Move.change (.deduct draw.1 draw.2) batch) =
                    attributesOf batch := rfl
                rw [same]
                split
                · simp only [Move.change]
                  omega
                · omega
              have others : drawnWith (s.batches.modify draw.1 (Move.change (.deduct draw.1 draw.2)))
                  attributes rest = drawnWith s.batches attributes rest := by
                unfold drawnWith
                simp only [find?_deducted]
              rw [others, here] at tail
              rw [drawnWith, List.map_cons, List.sum_cons, ← drawnWith, ← tail, found]
              simp only [Option.map_some, Option.some.injEq]
              omega

/-- What the two steps of a delivery did to the stock. -/
structure Carried (id : Nat) (receiver : CommandContext) (transfer arrived : InventoryTransfer)
    (db away last db' : Database) : Prop where
  kept : TransferKept id transfer arrived
  whole : (transferPlan db transfer).left = 0
  moves : Moves (stockOf db) ((transferPlan db transfer).taken.map fun draw => .deduct draw.1 draw.2)
    (stockOf away)
  batches : db' inventoryBatches = (last inventoryBatches).insert (transferBatch receiver arrived)

theorem Delivered.carried {id : Nat} {shipper receiver : CommandContext} {away last : Database}
    (delivered : Delivered effects id shipper receiver db away last db')
    (found : (db inventoryTransfers).find? id = some transfer) :
    ∃ arrived, Carried id receiver transfer arrived db away last db' := by
  obtain ⟨shippedDb, shipWork, shipApart⟩ := delivered.ship.works
  obtain ⟨receivedDb, receiveWork, receiveApart⟩ := delivered.receive.works
  obtain ⟨events, run⟩ := delivered.between
  cases shipWork with
  | command shipped =>
      cases receiveWork with
      | command received =>
          unfold runCommand at shipped received
          obtain ⟨row, foundRow, -, shipping⟩ := transitionTransfer_returns (returns_widen.mp shipped)
          obtain ⟨arrived, foundArrived, -, receiving⟩ :=
            transitionTransfer_returns (returns_widen.mp received)
          dsimp only at foundRow foundArrived shipping receiving
          rw [found] at foundRow
          cases foundRow
          cases shipping with
          | shipped approved whole thawed transfers moves =>
              cases receiving with
              | received waiting thawed' transfers' batches =>
                  have sent : (away inventoryTransfers).find? id =
                      some { transfer with status := .shipped } := by
                    rw [shipApart inventoryTransfers (by decide), transfers]
                    exact Table.find?_modify_self _ found
                  obtain ⟨row, foundLast, kept⟩ := (run_transfers run).kept id _ sent
                  rw [foundArrived] at foundLast
                  cases foundLast
                  have same : stockOf away = stockOf shippedDb := by simp [stockOf, shipApart _]
                  refine ⟨arrived, kept, whole, same ▸ moves, ?_⟩
                  rw [receiveApart inventoryBatches (by decide), batches]

/-! ## When the goods stay what they were -/

theorem Reached.found {r : Nat × InventoryBatch} (reached : Reached db transfer r) :
    (db inventoryBatches).find? r.1 = some r.2 := by
  obtain ⟨before, after, cut, -⟩ := reached
  exact (mem_deductible (by rw [cut]; simp)).1

theorem availableWith_insert (batches : Table InventoryBatch) (batch : InventoryBatch)
    (attributes : Attributes) : availableWith (batches.insert batch) attributes =
      availableWith batches attributes +
        if attributesOf batch = attributes then batch.availableQuantity else 0 := by
  rw [availableWith, Table.weigh_insert]
  rfl

section

variable {id : Nat} {receiver : CommandContext} {arrived : InventoryTransfer} {away last : Database}

theorem Carried.attributes (carried : Carried id receiver transfer arrived db away last db')
    (positive : 0 < transfer.quantity) : AttributesKept db away last db' ↔ Plain db transfer := by
  have first := @Stock.transferPlan_first db transfer positive.le
  have drawn := fun draw member => (first.bounded draw member).1
  have total := first.whole carried.whole
  have exchanged : AttributesKept db away last db' ↔ ∀ attributes,
      drawnWith (db inventoryBatches) attributes (transferPlan db transfer).taken =
        if plainGoods = attributes then transfer.quantity else 0 := by
    refine forall_congr' fun attributes => ?_
    have left := Moves.drawn carried.moves attributes
    dsimp only [stockOf] at left
    rw [carried.batches, availableWith_insert, left]
    have goods : attributesOf (transferBatch receiver arrived) = plainGoods := rfl
    have amount : (transferBatch receiver arrived).availableQuantity = transfer.quantity :=
      carried.kept.2.2.2
    rw [goods, amount]
    omega
  rw [exchanged]
  constructor
  · intro same r reached
    obtain ⟨draw, member, named⟩ := List.mem_map.mp ((mem_transferPlan positive).mpr ⟨r.2, reached⟩)
    by_contra other
    have left := same (attributesOf r.2)
    rw [if_neg fun equal => other equal.symm] at left
    -- what is drawn of the batch is drawn of stock with its attributes
    have counted : draw.2 ≤ drawnWith (db inventoryBatches) (attributesOf r.2)
        (transferPlan db transfer).taken := by
      refine List.single_le_sum ?_ _ (List.mem_map.mpr ⟨draw, member, ?_⟩)
      · intro amount inside
        obtain ⟨one, listed, rfl⟩ := List.mem_map.mp inside
        have := drawn one listed
        split <;> omega
      · rw [named, reached.found, Option.map_some, if_pos rfl]
    have := drawn draw member
    omega
  · intro plain attributes
    have goods : ∀ draw ∈ (transferPlan db transfer).taken,
        ((db inventoryBatches).find? draw.1).map attributesOf = some plainGoods := by
      intro draw member
      obtain ⟨batch, reached⟩ := (mem_transferPlan positive).mp (List.mem_map_of_mem member)
      have found := reached.found
      dsimp only at found
      rw [found, Option.map_some, plain _ reached]
    have each : drawnWith (db inventoryBatches) attributes (transferPlan db transfer).taken =
        ((transferPlan db transfer).taken.map fun draw =>
          if plainGoods = attributes then draw.2 else 0).sum := by
      refine congrArg List.sum (List.map_congr_left ?_)
      intro draw member
      rw [goods draw member]
      simp only [Option.some.injEq]
    rw [each]
    split
    · rw [Greedy.total] at total
      omega
    · simp

/-- A new batch without an expiry date comes before stock with one, and before
stock without one that came in later. -/
theorem expiresFirst_new {fresh : Nat} {batch : InventoryBatch} {other : Nat × InventoryBatch}
    (undated : batch.expiryDate = none) (older : other.1 < fresh) :
    expiresFirst (fresh, batch) other ↔
      (other.2.expiryDate = none → compare batch.inboundDate other.2.inboundDate = .lt) := by
  unfold expiresFirst
  dsimp only
  have ids : compare fresh other.1 = .gt := Nat.compare_eq_gt.mpr older
  rw [undated, ids]
  cases dated : other.2.expiryDate with
  | none =>
      have same : compare (none : Option String) none = .eq := rfl
      rw [same]
      cases compare batch.inboundDate other.2.inboundDate <;> simp
  | some date =>
      have first : compare (none : Option String) (some date) = .lt := rfl
      rw [first]
      simp

theorem expiresFirst_undated {r other : Nat × InventoryBatch} (undated : r.2.expiryDate = none)
    {date : String} (dated : other.2.expiryDate = some date) : expiresFirst r other := by
  have first : compare (none : Option String) (some date) = .lt := rfl
  unfold expiresFirst
  rw [undated, dated, first]
  rfl

theorem Carried.order (carried : Carried id receiver transfer arrived db away last db')
    (plain : Plain db transfer) :
    OrderKept db last db' transfer ↔ Aligned db last transfer receiver.today := by
  have undated : ∀ r, Reached db transfer r → r.2.expiryDate = none :=
    fun r reached => congrArg Attributes.expiryDate (plain r reached)
  have compared : ∀ other, Deductible last transfer.sku other →
      (expiresFirst ((last inventoryBatches).nextId, transferBatch receiver arrived) other ↔
        (other.2.expiryDate = none → compare receiver.today other.2.inboundDate = .lt)) :=
    fun other inside => expiresFirst_new rfl (Table.find?_lt_nextId (mem_deductible inside).1)
  constructor
  · intro kept r reached other inside apart without
    rw [kept r reached other inside apart (last inventoryBatches).nextId
      (transferBatch receiver arrived) (by rw [carried.batches, Table.find?_insert_nextId])
      (Table.find?_nextId _), compared other inside]
    exact ⟨fun later => later without, fun earlier _ => earlier⟩
  · intro aligned r reached other inside apart key batch found absent
    rw [carried.batches] at found
    rcases Table.find?_insert_cases found with ⟨rfl, rfl⟩ | old
    · rw [compared other inside]
      cases dated : other.2.expiryDate with
      | none =>
          rw [aligned r reached other inside apart dated]
          simp
      | some date =>
          constructor
          · intro _ without
            cases without
          · intro _
            exact expiresFirst_undated (undated r reached) dated
    · rw [absent] at old
      cases old

end

/-- The goods that a transfer brings in are those that left, in kind and in the
order of later deductions, exactly when the stock that left was normal without
dates and the day of the receipt does not change its place. -/
theorem transfer_keeps_goods_iff {opening : Database} {id : Nat} {shipper receiver : CommandContext}
    {away last : Database} (opens : AllPositive (opening inventoryTransfers))
    (reached : Run (Step effects) opening events db)
    (found : (db inventoryTransfers).find? id = some transfer)
    (delivered : Delivered effects id shipper receiver db away last db') :
    (AttributesKept db away last db' ∧ OrderKept db last db' transfer) ↔
      Plain db transfer ∧ Aligned db last transfer receiver.today := by
  have positive := run_positive reached opens id transfer found
  obtain ⟨arrived, carried⟩ := delivered.carried found
  rw [carried.attributes positive]
  constructor
  · rintro ⟨plain, kept⟩
    exact ⟨plain, (carried.order plain).mp kept⟩
  · rintro ⟨plain, aligned⟩
    exact ⟨plain, (carried.order plain).mpr aligned⟩

end

/-! ## One batch -/

def approvedTransfer : InventoryTransfer where
  transferNo := "T"
  fromWarehouseId := 1
  toWarehouseId := 2
  sku := "S"
  quantity := 5
  reason := "R"
  status := .approved

/-- A batch of five and an approved transfer of them. -/
def transferDatabase (batch : InventoryBatch) : Database :=
  ((emptyDatabase.put warehouses ((Table.empty.insert
      { code := "W1", name := "W1", type := .company, factoryId := none, status := .active }).insert
      { code := "W2", name := "W2", type := .company, factoryId := none, status := .active })).put
    inventoryTransfers (Table.empty.insert approvedTransfer)).put
    inventoryBatches (Table.empty.insert batch)

def plainBatch : InventoryBatch :=
  { batchNo := "B", warehouseId := 1, sku := "S", inboundDate := "2026-01-01"
    availableQuantity := 5 }

/-- The goods expire soon. -/
def yellowBatch : InventoryBatch :=
  { plainBatch with expiryDate := some "2026-02-01", expiryStatus := .yellow }

def transferAt (time : Nat) (action : TransferAction) : Request :=
  requestAt time 1 [.supplyChain] (.transitionTransfer ⟨1, action⟩)

theorem delivered_of_replay {batch : InventoryBatch} (seen : Database → Database → Bool)
    (passes : (replay noProcurement [transferAt 1 .ship] (transferDatabase batch)).any (fun mid =>
      match execute noProcurement (transferAt 2 .receive) mid with
      | .ok committed => seen mid committed.2
      | .error _ => false) = true) :
    ∃ away db', Delivered noProcurement 1 (transferAt 1 .ship).command (transferAt 2 .receive).command
      (transferDatabase batch) away away db' ∧ seen away db' = true := by
  obtain ⟨away, db', run, receive, holds⟩ := replay_steps noProcurement [transferAt 1 .ship]
    (transferAt 2 .receive) (transferDatabase batch) seen passes
  cases run with
  | next ship rest =>
      cases rest
      exact ⟨away, db', ⟨ship, ⟨[], .done⟩, receive⟩, holds⟩

theorem transferDatabase_opens (batch : InventoryBatch) :
    AllPositive (transferDatabase batch inventoryTransfers) := by
  intro id row found
  rw [transferDatabase, Store.put_other _ _ (by decide), Store.put_same] at found
  rcases Table.find?_insert_cases found with ⟨-, rfl⟩ | old
  · decide
  · cases old

theorem transfer_keeps_goods_plain : ∃ away db',
    Delivered noProcurement 1 (transferAt 1 .ship).command (transferAt 2 .receive).command
      (transferDatabase plainBatch) away away db' ∧
    AttributesKept (transferDatabase plainBatch) away away db' ∧
      OrderKept (transferDatabase plainBatch) away db' approvedTransfer := by
  obtain ⟨away, db', delivered, seen⟩ := @delivered_of_replay plainBatch
    (fun away _ => decide ((away inventoryBatches).rows.map (·.1) = [1])) (by decide +kernel)
  rw [decide_eq_true_eq] at seen
  have one : ∀ r, Reached (transferDatabase plainBatch) approvedTransfer r → r = (1, plainBatch) := by
    intro r reached
    have found := reached.found
    rw [transferDatabase, Store.put_same] at found
    rcases Table.find?_insert_cases found with ⟨key, row⟩ | old
    · exact Prod.ext key row
    · cases old
  refine ⟨away, db', delivered, ?_⟩
  refine (transfer_keeps_goods_iff (transferDatabase_opens plainBatch) .done rfl delivered).mpr ⟨?_, ?_⟩
  · intro r reached
    rw [one r reached]
    rfl
  · -- there is no other stock
    intro r reached other inside apart
    have found := (Table.find?_eq_some_iff _ _ _).mp (mem_deductible inside).1
    have listed : other.1 ∈ (away inventoryBatches).rows.map (·.1) := List.mem_map_of_mem found
    rw [seen, List.mem_singleton] at listed
    rw [one r reached] at apart
    exact absurd listed apart

/-- Yellow goods with an expiry date arrive as normal goods without one. -/
theorem yellow_goods_arrive_plain : ∃ away db',
    Delivered noProcurement 1 (transferAt 1 .ship).command (transferAt 2 .receive).command
      (transferDatabase yellowBatch) away away db' ∧
    ¬ AttributesKept (transferDatabase yellowBatch) away away db' := by
  obtain ⟨away, db', delivered, seen⟩ := @delivered_of_replay yellowBatch
    (fun away db' => decide (availableWith (db' inventoryBatches) plainGoods -
        availableWith (away inventoryBatches) plainGoods ≠
      availableWith (transferDatabase yellowBatch inventoryBatches) plainGoods -
        availableWith (away inventoryBatches) plainGoods)) (by decide +kernel)
  rw [decide_eq_true_eq] at seen
  exact ⟨away, db', delivered, fun kept => seen (kept plainGoods)⟩

end SupplyChain.Inventory
