import SupplyChain.Relational.Keys
import SupplyChain.Relational.Refusals
import SupplyChain.Worker.Delivery

/-!
The reminder sweep of a worker: it takes the reminder that is due first and
writes for each recipient an in-app message and a queued e-mail. When it goes
through is said of the reminder and the outbox that it finds.
-/

namespace SupplyChain.Worker

open Relational Transaction WorkerTable

/-- What the sweep takes of the runtime and of the columns besides: the time
that a text stands for, and whether the rows of a user are too long. -/
structure ReminderRuntime extends Runtime where
  time : String → Option Int
  oversized : ReminderSchedule → Nat × User → Bool

variable {runtime : ReminderRuntime} {now : Int} {skipped : List Nat} {db db' mid : Database}

/-! ## The sweep -/

def dayMs : Int := 86400000

def jsonArray (runtime : Runtime) (value : String) : Except Fault (List JsonValue) :=
  match runtime.parse value with
  | some (.array items) => .ok items
  | _ => .error (.permanent "INVALID_REMINDER")

def reminderRole : JsonValue → Option String
  | .text role => some role
  | _ => none

def reminderUser (runtime : Runtime) : JsonValue → Option Int
  | .number value => runtime.safeInteger (some (.number value))
  | _ => none

/-- `ORDER BY next_run_at ASC, id ASC LIMIT 1` over rows in the order of their
keys. -/
def soonest : List (Nat × ReminderSchedule) → Option (Nat × ReminderSchedule)
  | [] => none
  | first :: rest =>
      match soonest rest with
      | none => some first
      | some other => if other.2.nextRunAt < first.2.nextRunAt then some other else some first

/-- `skipped` are the reminders that other transactions hold locked. -/
def dueReminder (runtime : Runtime) (now : Int) (skipped : List Nat) (db : Database) :
    Option (Nat × ReminderSchedule) :=
  soonest ((db reminderSchedules).select fun id row =>
    row.status == .active && decide (row.nextRunAt ≤ runtime.iso now) && !skipped.contains id)

/-- The active users with one of the roles, by their own column or by an active
grant, and those that are named. -/
def reminderRecipients (db : Database) (roles : List String) (explicit : List Int) :
    List (Nat × User) :=
  (db users).select fun id user => user.accountActive &&
    (roles.contains user.role || (db userRoles).any (fun _ grant =>
      grant.userId == id && grant.active && roles.contains grant.roleCode) ||
        explicit.contains (id : Int))

/-- The recipients of a reminder, if its lists can be read. -/
def remindedUsers (runtime : Runtime) (db : Database) (reminder : ReminderSchedule) :
    List (Nat × User) :=
  match jsonArray runtime reminder.recipientRoleJson,
      jsonArray runtime reminder.recipientUserIdsJson with
  | .ok roles, .ok explicit =>
      reminderRecipients db (roles.filterMap reminderRole)
        (explicit.filterMap (reminderUser runtime))
  | _, _ => []

/-- The time is past the due one; a text that stands for no time is not due. -/
def overdueBy (runtime : ReminderRuntime) (now : Int) (reminder : ReminderSchedule)
    (least : Int) : Bool :=
  (runtime.time reminder.dueAt).any fun due => decide (due < now ∧ least ≤ now - due)

def reminderTitle (runtime : ReminderRuntime) (now : Int) (reminder : ReminderSchedule) : String :=
  (if overdueBy runtime now reminder 0 then "逾期：" else "提醒：") ++
    reminder.businessNo.getD reminder.reminderType

def reminderMessage (runtime : ReminderRuntime) (now : Int) (reminder : ReminderSchedule) : String :=
  if overdueBy runtime now reminder 0 then
    "该事项已超过截止时间，请立即处理。截止：" ++ reminder.dueAt
  else "该事项即将到期，请及时处理。截止：" ++ reminder.dueAt

def reminderKey (id : Nat) (reminder : ReminderSchedule) (userId : Nat) : String :=
  "reminder:" ++ toString id ++ ":" ++ reminder.nextRunAt ++ ":user:" ++ toString userId ++ ":email"

def reminderNotification (runtime : ReminderRuntime) (now : Int) (reminder : ReminderSchedule)
    (user : Nat × User) (channel : Channel) : NotificationMessage where
  recipientUserId := user.1
  recipientRole := user.2.role
  channel := channel
  type := reminder.reminderType
  severity := if overdueBy runtime now reminder 0 then "red" else reminder.severity
  title := reminderTitle runtime now reminder
  message := reminderMessage runtime now reminder
  entityType := reminder.entityType
  entityId := reminder.entityId
  status := if channel = .inApp then .sent else .queued
  sentAt := if channel = .inApp then some (runtime.iso now) else none

def reminderEmail (runtime : ReminderRuntime) (now : Int) (id : Nat) (reminder : ReminderSchedule)
    (user : Nat × User) (messageId : Nat) : OutboxMessage where
  topic := "email.deliver"
  aggregateType := "reminder"
  aggregateId := toString id
  deduplicationKey := reminderKey id reminder user.1
  payloadJson := runtime.stringify (.object [("to", .text user.2.email),
    ("subject", .text (reminderTitle runtime now reminder)),
    ("text", .text (reminderMessage runtime now reminder)),
    ("businessNo", (reminder.businessNo.map JsonValue.text).getD .null),
    ("messageId", .number messageId)])
  availableAt := runtime.iso now

/-- Both messages and the e-mail to deliver, for one user. -/
def remindUser (runtime : ReminderRuntime) (now : Int) (id : Nat) (reminder : ReminderSchedule)
    (user : Nat × User) : Work [notificationMessages, outboxMessages] Unit := do
  refuseIf (runtime.oversized reminder user = true) (.other "ER_DATA_TOO_LONG")
  insertRow notificationMessages (reminderNotification runtime now reminder user .inApp)
  let email ← insertInto notificationMessages
    (reminderNotification runtime now reminder user .email)
  let _ ← insertUnique outboxMessages
    (fun other => other.deduplicationKey == reminderKey id reminder user.1)
    (reminderEmail runtime now id reminder user email) (.other "ER_DUP_ENTRY")
  return ()

abbrev sweptTables : List WorkerTable :=
  [notificationMessages, outboxMessages, invoiceExceptions, reminderSchedules, auditLogs]

/-- The replacement of an invoice is overdue by thirty days. -/
def escalates (runtime : ReminderRuntime) (now : Int) (reminder : ReminderSchedule) : Prop :=
  reminder.reminderType = "invoice_replacement_overdue" ∧
    overdueBy runtime now reminder (30 * dayMs) = true

instance : Decidable (escalates runtime now reminder) :=
  inferInstanceAs (Decidable (_ ∧ _))

/-- The reminder is put off by a day, or is done with. -/
def recordReminder {writes : List WorkerTable} [Writes reminderSchedules writes]
    [Writes auditLogs writes] (runtime : ReminderRuntime) (now : Int) (id : Nat)
    (reminder : ReminderSchedule) (recipients : Nat) : Work writes Unit := do
  let daily := reminder.recurrence = "daily_overdue"
  let nextRunAt := if daily then runtime.iso (now + dayMs) else reminder.nextRunAt
  let status : ReminderStatus := if daily then .active else .completed
  updateWhere reminderSchedules (fun key _ => key == id) fun row =>
    { row with status, nextRunAt, lastRunAt := some (runtime.iso now) }
  insertRow auditLogs {
    action := "process_reminder", module := "notifications", entityType := "reminder",
    entityId := toString id,
    afterJson := runtime.stringify (.object [("recipients", .number recipients),
      ("nextRunAt", .text nextRunAt), ("status", .text status.name)]) }

/-- The reminder after its sweep. -/
def advance (runtime : ReminderRuntime) (now : Int) (reminder row : ReminderSchedule) :
    ReminderSchedule :=
  { row with
    status := if reminder.recurrence = "daily_overdue" then .active else .completed
    nextRunAt :=
      if reminder.recurrence = "daily_overdue" then runtime.iso (now + dayMs) else reminder.nextRunAt
    lastRunAt := some (runtime.iso now) }

def processReminder (runtime : ReminderRuntime) (now : Int) (id : Nat)
    (reminder : ReminderSchedule) : Work sweptTables Unit := do
  let roles ← ofExcept (jsonArray runtime.toRuntime reminder.recipientRoleJson)
  let explicit ← ofExcept (jsonArray runtime.toRuntime reminder.recipientUserIdsJson)
  let users ← query fun db => reminderRecipients db (roles.filterMap reminderRole)
    (explicit.filterMap (reminderUser runtime.toRuntime))
  whenever (escalates runtime now reminder) (updateWhere invoiceExceptions
    (fun key row => key == reminder.entityId && row.status == "awaiting_remediation")
    fun _ => { status := "risk_warning" })
  (forEach (remindUser runtime now id reminder) users).widen (by decide)
  recordReminder runtime now id reminder users.length

/-- Whether a reminder was due. -/
def sweepReminder (runtime : ReminderRuntime) (now : Int) (skipped : List Nat) :
    Work sweptTables Bool := do
  requireFence "reminders.worker"
  let due ← query (dueReminder runtime.toRuntime now skipped)
  match due with
  | none => return false
  | some (id, reminder) => do
      processReminder runtime now id reminder
      return true

/-! ## When a reminder goes through -/

def fenceOpen (resource : String) (db : Database) : Bool :=
  ((db writerFences).first? fun _ row => row.resource == resource).any fun row =>
    row.2.owner == writerOwner && row.2.generation == writerGeneration && row.2.enabled

/-- The message of a user can be written: it fits, and its key is new. -/
def Remindable (runtime : ReminderRuntime) (db : Database) (id : Nat) (reminder : ReminderSchedule)
    (user : Nat × User) : Prop :=
  runtime.oversized reminder user = false ∧ ((db outboxMessages).any fun _ other =>
    other.deduplicationKey == reminderKey id reminder user.1) = false

/-- Both lists of the reminder are lists, and every recipient can be written to. -/
def Processable (runtime : ReminderRuntime) (db : Database) (id : Nat)
    (reminder : ReminderSchedule) : Prop :=
  ∃ roles explicit, jsonArray runtime.toRuntime reminder.recipientRoleJson = .ok roles ∧
    jsonArray runtime.toRuntime reminder.recipientUserIdsJson = .ok explicit ∧
    ∀ user ∈ reminderRecipients db (roles.filterMap reminderRole)
      (explicit.filterMap (reminderUser runtime.toRuntime)), Remindable runtime db id reminder user

theorem reminderKey_injective {id userId userId' : Nat} {reminder : ReminderSchedule}
    (same : reminderKey id reminder userId = reminderKey id reminder userId') :
    userId = userId' := by
  have texts := congrArg String.toList same
  simp only [reminderKey, String.toList_append, List.append_assoc, List.append_cancel_left_eq]
    at texts
  exact (numbered_eq (c := ':') (by decide) texts).1

section Sweep

variable {id : Nat} {reminder : ReminderSchedule} {user : Nat × User} {u : Unit}
  {sent : List Empty}

theorem remindUser_returns
    (returns : (remindUser runtime now id reminder user).Returns db u sent db') :
    Remindable runtime db id reminder user ∧ ∃ email, db' outboxMessages =
      (db outboxMessages).insert (reminderEmail runtime now id reminder user email) := by
  simp only [remindUser, returns_bind_refuseIf, returns_bind_insertRow, returns_bind_insertInto,
    returns_bind_insertUnique, returns_pure, Bool.not_eq_true] at returns
  obtain ⟨fits, unused, -, -, rfl⟩ := returns
  have other := show outboxMessages ≠ notificationMessages by decide
  rw [Store.put_other _ _ other, Store.put_other _ _ other] at unused
  refine ⟨⟨fits, unused⟩, ?_⟩
  simp only [Store.put_same, Store.put_other _ _ other]
  exact ⟨_, rfl⟩

theorem remindUser_total (remindable : Remindable runtime db id reminder user) :
    ∃ sent db', (remindUser runtime now id reminder user).Returns db () sent db' := by
  obtain ⟨fits, unused⟩ := remindable
  simp only [remindUser, returns_bind_refuseIf, returns_bind_insertRow, returns_bind_insertInto,
    returns_bind_insertUnique, returns_pure, Bool.not_eq_true, fits, true_and,
    Store.put_other _ _ (show outboxMessages ≠ notificationMessages by decide), unused]
  exact ⟨[], _, rfl, rfl⟩

/-- Writing to one user leaves it open whether another can be written to. -/
theorem remindable_after {other : Nat × User} (apart : other.1 ≠ user.1)
    (returns : (remindUser runtime now id reminder user).Returns db u sent db') :
    Remindable runtime db' id reminder other ↔ Remindable runtime db id reminder other := by
  obtain ⟨-, email, inserted⟩ := remindUser_returns returns
  have differ : ((reminderEmail runtime now id reminder user email).deduplicationKey ==
      reminderKey id reminder other.1) = false := by
    rw [beq_eq_false_iff_ne]
    intro same
    exact apart (reminderKey_injective same).symm
  unfold Remindable
  rw [inserted, Table.any_insert, differ, Bool.or_false]

theorem remindUsers_total {users : List (Nat × User)} (distinct : (users.map (·.1)).Nodup) :
    (∃ sent db', (forEach (remindUser runtime now id reminder) users).Returns db () sent db') ↔
      ∀ user ∈ users, Remindable runtime db id reminder user := by
  induction users generalizing db with
  | nil => exact iff_of_true ⟨[], db, returns_forEach_nil.mpr ⟨rfl, rfl⟩⟩ (by simp)
  | cons user rest ih =>
      rw [List.map_cons, List.nodup_cons] at distinct
      obtain ⟨first, distinct⟩ := distinct
      have apart : ∀ other ∈ rest, other.1 ≠ user.1 := by
        intro other member same
        exact first (same ▸ List.mem_map_of_mem member)
      constructor
      · rintro ⟨sent, db', returns⟩
        obtain ⟨_, mid, _, head, tail, -⟩ := returns_forEach_cons.mp returns
        have later := (ih distinct).mp ⟨_, _, tail⟩
        intro other member
        rcases List.mem_cons.mp member with rfl | member
        · exact (remindUser_returns head).1
        · exact (remindable_after (apart other member) head).mp (later other member)
      · intro all
        obtain ⟨_, mid, head⟩ := @remindUser_total runtime now db id reminder user
          (all user List.mem_cons_self)
        have later : ∀ other ∈ rest, Remindable runtime mid id reminder other := by
          intro other member
          exact (remindable_after (apart other member) head).mpr
            (all other (List.mem_cons_of_mem _ member))
        obtain ⟨_, db', tail⟩ := (ih distinct).mpr later
        exact ⟨_, db', returns_forEach_cons.mpr ⟨_, mid, _, head, tail, rfl⟩⟩

theorem recipients_distinct (db : Database) (roles : List String) (explicit : List Int) :
    ((reminderRecipients db roles explicit).map (·.1)).Nodup := by
  rw [List.Nodup, List.pairwise_map]
  exact (Table.select_ascending _ _).imp fun less => Nat.ne_of_lt less

theorem updateWhere_total {t : WorkerTable} {writes : List WorkerTable} [Writes t writes]
    {guard : Nat → Row t → Bool} {change : Row t → Row t} (condition : Prop)
    [Decidable condition] :
    ∃ db', (whenever condition (updateWhere t guard change) : Work writes Unit).Returns db () []
      db' ∧ ∀ other, other ≠ t → db' other = db other := by
  by_cases holds : condition
  · refine ⟨_, returns_whenever.mpr (Or.inl ⟨holds, returns_updateWhere.mpr ⟨rfl, rfl⟩⟩), ?_⟩
    exact fun other differ => Store.put_other _ _ differ
  · exact ⟨db, returns_whenever.mpr (Or.inr ⟨holds, rfl, rfl⟩), fun _ _ => rfl⟩

/-- Whether a user can be written to depends on the outbox alone. -/
theorem remindable_congr {db db' : Database}
    (same : db' outboxMessages = db outboxMessages) :
    Remindable runtime db' id reminder user ↔ Remindable runtime db id reminder user := by
  unfold Remindable
  rw [same]

theorem recordReminder_total {writes : List WorkerTable} [Writes reminderSchedules writes]
    [Writes auditLogs writes] {recipients : Nat} :
    ∃ db', (recordReminder runtime now id reminder recipients : Work writes Unit).Returns
      db () [] db' := by
  simp only [recordReminder, returns_bind_updateWhere, returns_insertRow]
  exact ⟨_, trivial, rfl⟩

/-- The parts of a sweep: the escalation, the round of every recipient, the record. -/
theorem processReminder_cases
    (returns : (processReminder runtime now id reminder).Returns db u sent db') :
    ∃ roles explicit mid after reminded recorded,
      jsonArray runtime.toRuntime reminder.recipientRoleJson = .ok roles ∧
        jsonArray runtime.toRuntime reminder.recipientUserIdsJson = .ok explicit ∧
        (∀ t, t ≠ invoiceExceptions → mid t = db t) ∧
        (forEach (remindUser runtime now id reminder)
          (remindedUsers runtime.toRuntime db reminder)).Returns mid () reminded after ∧
        (recordReminder runtime now id reminder (remindedUsers runtime.toRuntime db reminder).length :
          Work sweptTables Unit).Returns after () recorded db' := by
  unfold processReminder at returns
  simp only [returns_bind_ofExcept, returns_bind_query] at returns
  obtain ⟨roles, readRoles, explicit, readUsers, returns⟩ := returns
  obtain ⟨_, _, mid, _, escalates, returns, -⟩ := returns_bind.mp returns
  obtain ⟨_, _, after, _, reminds, records, -⟩ := returns_bind_widen.mp returns
  have before : ∀ t, t ≠ invoiceExceptions → mid t = db t := by
    intro t other
    rcases returns_whenever.mp escalates with ⟨-, updates⟩ | ⟨-, -, rfl⟩
    · obtain ⟨-, rfl⟩ := returns_updateWhere.mp updates
      exact Store.put_other _ _ other
    · rfl
  have users : remindedUsers runtime.toRuntime db reminder =
      reminderRecipients db (roles.filterMap reminderRole)
        (explicit.filterMap (reminderUser runtime.toRuntime)) := by
    simp only [remindedUsers, readRoles, readUsers]
  rw [← users] at reminds records
  exact ⟨roles, explicit, mid, after, _, _, readRoles, readUsers, before, reminds, records⟩

theorem recordReminder_returns {writes : List WorkerTable} [Writes reminderSchedules writes]
    [Writes auditLogs writes] {count : Nat}
    (returns : (recordReminder runtime now id reminder count : Work writes Unit).Returns
      db u sent db') :
    db' reminderSchedules = (db reminderSchedules).update (fun key _ => key == id)
        (advance runtime now reminder) ∧
      ∀ t, t ≠ reminderSchedules → t ≠ auditLogs → db' t = db t := by
  simp only [recordReminder, returns_bind_updateWhere, returns_insertRow] at returns
  obtain ⟨-, rfl⟩ := returns
  constructor
  · rw [Store.put_other _ _ (by decide), Store.put_same]
    rfl
  · intro t reminders audits
    rw [Store.put_other _ _ audits, Store.put_other _ _ reminders]

theorem processReminder_total :
    (∃ sent db', (processReminder runtime now id reminder).Returns db () sent db') ↔
      Processable runtime db id reminder := by
  constructor
  · rintro ⟨_, db', returns⟩
    obtain ⟨roles, explicit, mid, after, _, _, readRoles, readUsers, before, reminds, -⟩ :=
      processReminder_cases returns
    simp only [remindedUsers, readRoles, readUsers] at reminds
    have all := (remindUsers_total (recipients_distinct db _ _)).mp ⟨_, _, reminds⟩
    have same := before outboxMessages (by decide)
    exact ⟨roles, explicit, readRoles, readUsers,
      fun user member => (remindable_congr same).mp (all user member)⟩
  · rintro ⟨roles, explicit, readRoles, readUsers, all⟩
    obtain ⟨mid, escalates, others⟩ := @updateWhere_total db invoiceExceptions sweptTables _
      (fun key row => key == reminder.entityId && row.status == "awaiting_remediation")
      (fun _ => { status := "risk_warning" }) (escalates runtime now reminder) _
    obtain ⟨_, after, reminds⟩ := (@remindUsers_total runtime now mid id reminder _
      (recipients_distinct db _ _)).mpr fun user member =>
        (remindable_congr (others outboxMessages (by decide))).mpr (all user member)
    obtain ⟨last, records⟩ := @recordReminder_total runtime now after id reminder sweptTables _ _
      (reminderRecipients db (roles.filterMap reminderRole)
        (explicit.filterMap (reminderUser runtime.toRuntime))).length
    unfold processReminder
    simp only [returns_bind_ofExcept, returns_bind_query]
    exact ⟨_, last, roles, readRoles, explicit, readUsers, returns_bind.mpr ⟨(), _, mid, _,
      escalates, returns_bind_widen.mpr ⟨(), _, after, _, reminds, records, rfl⟩, rfl⟩⟩

theorem processReminder_never :
    Never .fencePaused (processReminder runtime now id reminder) := by
  have array : ∀ value, Never .fencePaused (ofExcept (jsonArray runtime.toRuntime value) :
      Work sweptTables (List JsonValue)) := by
    intro value s fails
    unfold jsonArray at fails
    split at fails
    · cases fails
    · cases fails
  have user : ∀ user, Never .fencePaused (remindUser runtime now id reminder user) := by
    intro user
    refine never_bind (never_refuseIf Fault.noConfusion) fun _ => never_bind ?_ fun _ => ?_
    · intro s fails
      cases fails
    · refine never_bind ?_ fun _ => never_bind ?_ fun _ => never_pure
      · intro s fails
        cases fails
      · refine never_bind never_query fun _ => never_bind (never_refuseIf Fault.noConfusion) ?_
        intro _ s fails
        cases fails
  refine never_bind (array _) fun roles => never_bind (array _) fun explicit =>
    never_bind never_query fun users => never_bind (never_whenever ?_) fun _ =>
      never_bind (never_widen (never_forEach fun item _ => user item)) fun _ => never_bind ?_ ?_
  · intro s fails
    cases fails
  · intro s fails
    cases fails
  · intro _ s fails
    cases fails

theorem requireFence_returns {writes : List WorkerTable} {resource : String} :
    (requireFence resource : Work writes Unit).Returns db u sent mid ↔
      fenceOpen resource db = true ∧ sent = [] ∧ mid = db := by
  simp only [requireFence, returns_bind_query, returns_bind_orThrow, returns_refuseIf, fenceOpen]
  cases (db writerFences).first? fun _ row => row.resource == resource with
  | none => simp
  | some row => simp [not_or, and_assoc]

theorem requireFence_fails {writes : List WorkerTable} {resource : String} {error : Fault}
    (fails : (requireFence resource : Work writes Unit).Fails db error) :
    error = .fencePaused := by
  simp only [requireFence, fails_bind_query, fails_bind_orThrow, fails_refuseIf] at fails
  rcases fails with ⟨-, same⟩ | ⟨_, -, -, same⟩
  · exact same.symm
  · exact same.symm

/-- The reminder that a sweep comes upon, if any, goes through. -/
def Sweepable (runtime : ReminderRuntime) (now : Int) (skipped : List Nat) (db : Database) : Prop :=
  fenceOpen "reminders.worker" db = true → ∀ id reminder,
    dueReminder runtime.toRuntime now skipped db = some (id, reminder) →
      Processable runtime db id reminder

/-- Nothing but a paused fence stops a sweep exactly when its reminder goes
through. -/
theorem sweepReminder_fails_iff :
    (∀ error, (sweepReminder runtime now skipped).Fails db error → error = .fencePaused) ↔
      Sweepable runtime now skipped db := by
  constructor
  · intro paused opened id reminder due
    rw [← @processReminder_total runtime now]
    cases ran : (processReminder runtime now id reminder).run db with
    | ok done => exact ⟨done.sent, done.store, ran⟩
    | error error =>
        have fails : (sweepReminder runtime now skipped).Fails db error := by
          refine fails_bind.mpr (Or.inr ⟨(), [], db, requireFence_returns.mpr ⟨opened, rfl, rfl⟩, ?_⟩)
          rw [fails_bind_query, due]
          exact fails_bind.mpr (Or.inl ran)
        obtain rfl := paused error fails
        exact absurd ran (processReminder_never db)
  · intro sweepable error fails
    rcases fails_bind.mp fails with fence | ⟨_, _, mid, returns, later⟩
    · exact requireFence_fails fence
    · obtain ⟨opened, -, rfl⟩ := requireFence_returns.mp returns
      rw [fails_bind_query] at later
      cases due : dueReminder runtime.toRuntime now skipped mid with
      | none =>
          rw [due] at later
          cases later
      | some first =>
          obtain ⟨id, reminder⟩ := first
          rw [due] at later
          obtain ⟨_, _, total⟩ := (@processReminder_total runtime now mid id reminder).mpr
            (sweepable opened id reminder due)
          rcases fails_bind.mp later with refused | ⟨_, _, _, -, refused⟩
          · rw [Fails, total] at refused
            cases refused
          · cases refused

/-- A sweep found nothing due, or it processed the reminder that was due. -/
theorem sweepReminder_returns {value : Bool}
    (returns : (sweepReminder runtime now skipped).Returns db value sent db') :
    (dueReminder runtime.toRuntime now skipped db = none ∧ value = false ∧ db' = db) ∨
      ∃ id reminder processed, dueReminder runtime.toRuntime now skipped db = some (id, reminder) ∧
        value = true ∧ (processReminder runtime now id reminder).Returns db () processed db' := by
  rw [sweepReminder, returns_bind_of_reads requireFence_reads] at returns
  obtain ⟨_, -, returns⟩ := returns
  rw [returns_bind_query] at returns
  cases due : dueReminder runtime.toRuntime now skipped db with
  | none =>
      rw [due] at returns
      obtain ⟨rfl, -, rfl⟩ := returns_pure.mp returns
      exact Or.inl ⟨rfl, rfl, rfl⟩
  | some first =>
      obtain ⟨id, reminder⟩ := first
      rw [due] at returns
      obtain ⟨_, processed, last, _, returns, finish, -⟩ := returns_bind.mp returns
      obtain ⟨rfl, -, rfl⟩ := returns_pure.mp finish
      exact Or.inr ⟨id, reminder, processed, rfl, rfl, returns⟩

/-- With the fence open the sweep processes the reminder that is due. -/
theorem sweepReminder_total (opened : fenceOpen "reminders.worker" db = true)
    (due : dueReminder runtime.toRuntime now skipped db = some (id, reminder))
    (processed : (processReminder runtime now id reminder).Returns db () sent db') :
    (sweepReminder runtime now skipped).Returns db true sent db' := by
  refine returns_bind.mpr ⟨(), [], db, sent, requireFence_returns.mpr ⟨opened, rfl, rfl⟩, ?_,
    (List.nil_append sent).symm⟩
  rw [returns_bind_query, due]
  exact returns_bind.mpr ⟨(), sent, db', [], processed, returns_pure.mpr ⟨rfl, rfl, rfl⟩,
    (List.append_nil sent).symm⟩

theorem sweepReminder_gains {value : Bool}
    (returns : (sweepReminder runtime now skipped).Returns db value sent db') :
    (Law.gains Fresh).allows (db outboxMessages) (db' outboxMessages) := by
  rcases sweepReminder_returns returns with ⟨-, -, rfl⟩ | ⟨id, reminder, processed, -, -, returns⟩
  · exact (Law.gains Fresh).refl _
  · obtain ⟨_, _, mid, after, _, _, -, -, before, reminds, records⟩ := processReminder_cases returns
    have gained : (Law.gains Fresh).allows (mid outboxMessages) (after outboxMessages) := by
      apply forEach_preserves (fun s s' => (Law.gains Fresh).allows (s outboxMessages)
        (s' outboxMessages)) (fun s => (Law.gains Fresh).refl _) (Law.gains Fresh).trans _ reminds
      intro user _ s _ s' writes
      obtain ⟨-, email, inserted⟩ := remindUser_returns writes
      rw [inserted]
      exact Law.gains_insert _ ⟨rfl, rfl⟩
    rw [(recordReminder_returns records).2 _ (by decide) (by decide), ← before _ (by decide)]
    exact gained

end Sweep

end SupplyChain.Worker
