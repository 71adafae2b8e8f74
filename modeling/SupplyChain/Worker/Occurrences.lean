import Mathlib.Data.String.Basic
import SupplyChain.Calendar.Moments
import SupplyChain.Worker.Notifications

/-!
The occurrences of reminders: a sweep processes a reminder at its `next_run_at` and
tells everyone it names, once each. Sweeps, the turns of the delivery, created reminders and
the rest of the system interleave; an occurrence that was processed lies behind its
reminder from then on, and the keys in the outbox are those of such occurrences.
-/

namespace SupplyChain.Worker

open Relational Transaction WorkerTable
open Calendar (Moment)

variable {runtime : ReminderRuntime} {skipped : List Nat} {db db' mid : Database} {id : Nat}
  {reminder : ReminderSchedule} {user : Nat × User} {message : OutboxMessage} {nextRunAt : String}

/-! ## Who is told -/

def ListsRole (runtime : Runtime) (reminder : ReminderSchedule) (role : String) : Prop :=
  ∃ items, runtime.parse reminder.recipientRoleJson = some (.array items) ∧ .text role ∈ items

def ListsUser (runtime : Runtime) (reminder : ReminderSchedule) (id : Nat) : Prop :=
  ∃ items, runtime.parse reminder.recipientUserIdsJson = some (.array items) ∧
    ∃ value, .number value ∈ items ∧ runtime.safeInteger (some (.number value)) = some (id : Int)

/-- An active user whom the reminder reaches by a role, an additional role or the id. -/
structure Matched (runtime : Runtime) (db : Database) (reminder : ReminderSchedule)
    (user : Nat × User) : Prop where
  found : (db users).find? user.1 = some user.2
  active : user.2.accountActive = true
  reached : (∃ role, ListsRole runtime reminder role ∧
      (user.2.role = role ∨ ∃ key grant, (db userRoles).find? key = some grant ∧
        grant.userId = user.1 ∧ grant.active = true ∧ grant.roleCode = role)) ∨
    ListsUser runtime reminder user.1

theorem jsonArray_ok {runtime : Runtime} {value : String} {items : List JsonValue} :
    jsonArray runtime value = .ok items ↔ runtime.parse value = some (.array items) := by
  unfold jsonArray
  split
  · next parsed => simp [parsed]
  · next other =>
      constructor
      · intro read
        cases read
      · intro parsed
        exact absurd parsed (other items)

theorem listsRole_iff {roles : List JsonValue} {role : String}
    (read : jsonArray runtime.toRuntime reminder.recipientRoleJson = .ok roles) :
    ListsRole runtime.toRuntime reminder role ↔ role ∈ roles.filterMap reminderRole := by
  have parsed := jsonArray_ok.mp read
  rw [List.mem_filterMap]
  constructor
  · rintro ⟨items, same, member⟩
    rw [parsed] at same
    cases same
    exact ⟨_, member, rfl⟩
  · rintro ⟨value, member, text⟩
    cases value <;> cases text
    exact ⟨roles, parsed, member⟩

theorem listsUser_iff {explicit : List JsonValue} {id : Nat}
    (read : jsonArray runtime.toRuntime reminder.recipientUserIdsJson = .ok explicit) :
    ListsUser runtime.toRuntime reminder id ↔
      (id : Int) ∈ explicit.filterMap (reminderUser runtime.toRuntime) := by
  have parsed := jsonArray_ok.mp read
  rw [List.mem_filterMap]
  constructor
  · rintro ⟨items, same, value, member, number⟩
    rw [parsed] at same
    cases same
    exact ⟨_, member, number⟩
  · rintro ⟨value, member, number⟩
    cases value with
    | number value => exact ⟨explicit, parsed, value, member, number⟩
    | _ => cases number

/-- The recipients of a reminder whose lists can be read are the users it matches. -/
theorem mem_remindedUsers {roles explicit : List JsonValue}
    (readRoles : jsonArray runtime.toRuntime reminder.recipientRoleJson = .ok roles)
    (readUsers : jsonArray runtime.toRuntime reminder.recipientUserIdsJson = .ok explicit) :
    user ∈ remindedUsers runtime.toRuntime db reminder ↔
      Matched runtime.toRuntime db reminder user := by
  simp only [remindedUsers, readRoles, readUsers, reminderRecipients, Table.mem_select,
    Bool.and_eq_true, Bool.or_eq_true, List.contains_iff_mem, Table.any_eq_true, beq_iff_eq]
  rw [← listsUser_iff readUsers]
  simp only [← listsRole_iff readRoles]
  constructor
  · rintro ⟨found, active, (own | ⟨key, grant, there, ⟨held, on⟩, listed⟩) | named⟩
    · exact ⟨found, active, .inl ⟨_, own, .inl rfl⟩⟩
    · exact ⟨found, active, .inl ⟨_, listed, .inr ⟨key, grant, there, held, on, rfl⟩⟩⟩
    · exact ⟨found, active, .inr named⟩
  · rintro ⟨found, active, ⟨role, listed, rfl | ⟨key, grant, there, held, on, rfl⟩⟩ | named⟩
    · exact ⟨found, active, .inl (.inl listed)⟩
    · exact ⟨found, active, .inl (.inr ⟨key, grant, there, ⟨held, on⟩, listed⟩)⟩
    · exact ⟨found, active, .inr named⟩

/-! ## What a sweep writes -/

/-- The message to deliver is of the e-mail that was queued for the user. -/
def Queued (runtime : ReminderRuntime) (now : Int) (id : Nat) (reminder : ReminderSchedule)
    (db db' : Database) (user : Nat × User) (message : OutboxMessage) : Prop :=
  ∃ email, Table.Gained (db notificationMessages) (db' notificationMessages) email
      (reminderNotification runtime now reminder user .email) ∧
    message = reminderEmail runtime now id reminder user email

theorem queued_of_mem {now : Int} {users : List (Nat × User)} {messages : List OutboxMessage}
    (each : List.Forall₂ (Queued runtime now id reminder db db') users messages)
    (member : message ∈ messages) : ∃ user, Queued runtime now id reminder db db' user message := by
  induction each with
  | nil => cases member
  | cons head _ ih =>
      rcases List.mem_cons.mp member with rfl | later
      · exact ⟨_, head⟩
      · exact ih later

/-- Each user that is matched gets one message in the application and one e-mail, with one
message to deliver; nobody else gets any. -/
def Tells (runtime : ReminderRuntime) (now : Int) (id : Nat) (reminder : ReminderSchedule)
    (db db' : Database) : Prop :=
  ∃ users messages, (users.map (·.1)).Nodup ∧
    (∀ user, user ∈ users ↔ Matched runtime.toRuntime db reminder user) ∧
    db' notificationMessages = (db notificationMessages).insertAll
      (users.flatMap (reminderNotifications runtime now reminder)) ∧
    db' outboxMessages = (db outboxMessages).insertAll messages ∧
    List.Forall₂ (Queued runtime now id reminder db db') users messages

/-- The reminder is done with, or it is due again later than it was and than it is now. -/
structure Advanced (runtime : ReminderRuntime) (now : Int) (old new : ReminderSchedule) : Prop where
  daily : old.recurrence = "daily_overdue" → new.status = .active ∧ old.nextRunAt < new.nextRunAt ∧
    ∃ later, now < later ∧ new.nextRunAt = runtime.iso later ∧ runtime.iso now < new.nextRunAt
  once : old.recurrence ≠ "daily_overdue" →
    new.status = .completed ∧ new.nextRunAt = old.nextRunAt

/-- A sweep of an occurrence: everyone is told, and this reminder is advanced. -/
structure Reminded (runtime : ReminderRuntime) (now : Int) (id : Nat) (reminder : ReminderSchedule)
    (db db' : Database) : Prop where
  tells : Tells runtime now id reminder db db'
  advanced : ∃ after, (db' reminderSchedules).find? id = some after ∧
    Advanced runtime now reminder after
  others : ∀ other, other ≠ id →
    (db' reminderSchedules).find? other = (db reminderSchedules).find? other

section Rounds

variable {now : Int} {sent : List Empty} {u : Unit}

theorem remindUser_queues
    (returns : (remindUser runtime now id reminder user).Returns db u sent db') :
    ∃ message, db' outboxMessages = (db outboxMessages).insertAll [message] ∧
      Queued runtime now id reminder db db' user message := by
  have notified := (remindUser_notifies returns).1
  simp only [remindUser, returns_bind_refuseIf, returns_bind_insertRow, returns_bind_insertInto,
    returns_bind_insertUnique, returns_pure] at returns
  obtain ⟨-, -, -, -, rfl⟩ := returns
  refine ⟨reminderEmail runtime now id reminder user ((db notificationMessages).insert
    (reminderNotification runtime now reminder user .inApp)).nextId, ?_, _, ⟨?_, ?_⟩, rfl⟩
  · rw [Store.put_same, Store.put_other _ _ (by decide), Store.put_other _ _ (by decide),
      Store.put_same]
    rfl
  · rw [notified]
    exact Table.find?_insert_nextId _ _
  · cases found : (db notificationMessages).find? ((db notificationMessages).insert
        (reminderNotification runtime now reminder user .inApp)).nextId with
    | none => rfl
    | some row =>
        have less := Table.find?_lt_nextId found
        rw [Table.nextId_insert] at less
        omega

theorem remindUsers_queue {users : List (Nat × User)}
    (returns : (forEach (remindUser runtime now id reminder) users).Returns db u sent db') :
    ∃ messages, db' outboxMessages = (db outboxMessages).insertAll messages ∧
      List.Forall₂ (Queued runtime now id reminder db db') users messages := by
  induction users generalizing db sent with
  | nil =>
      obtain ⟨-, rfl⟩ := returns_forEach_nil.mp returns
      exact ⟨[], rfl, .nil⟩
  | cons user rest ih =>
      obtain ⟨_, mid, _, head, tail, -⟩ := returns_forEach_cons.mp returns
      obtain ⟨message, first, email, ⟨written, new⟩, rfl⟩ := remindUser_queues head
      obtain ⟨messages, later, each⟩ := ih tail
      have notified : mid notificationMessages = (db notificationMessages).insertAll
          (reminderNotifications runtime now reminder user) := (remindUser_notifies head).1
      have others : db' notificationMessages = (mid notificationMessages).insertAll
          (rest.flatMap (reminderNotifications runtime now reminder)) :=
        forEach_insertAll (fun _ _ _ _ _ round => (remindUser_notifies round).1) tail
      refine ⟨_ :: messages, ?_, .cons ⟨email, ⟨?_, new⟩, rfl⟩ (each.imp ?_)⟩
      · rw [later, first, ← Table.insertAll_append]
        rfl
      · rw [others]
        exact Table.insertAll_keeps written
      · rintro _ _ ⟨other, ⟨there, absent⟩, rfl⟩
        refine ⟨other, ⟨there, ?_⟩, rfl⟩
        cases found : (db notificationMessages).find? other with
        | none => rfl
        | some row =>
            have kept : (mid notificationMessages).find? other = some row := by
              rw [notified]
              exact Table.insertAll_keeps found
            rw [absent] at kept
            cases kept

end Rounds

/-! ## One sweep -/

/-- `toISOString` of the runtime. -/
def IsoClock (runtime : Runtime) : Prop :=
  ∀ time : Nat, runtime.iso time = Calendar.toISOString time

/-- A sweep that commits processes the occurrence of a reminder that is due. -/
def Processes (runtime : ReminderRuntime) (now : Moment) (skipped : List Nat) (db : Database) (id : Nat)
    (reminder : ReminderSchedule) (db' : Database) : Prop :=
  dueReminder runtime.toRuntime now.time skipped db = some (id, reminder) ∧
    ∃ sent, (sweepReminder runtime now.time skipped).Returns db true sent db'

variable {now : Moment}

theorem dueReminder_le
    (due : dueReminder runtime.toRuntime now.time skipped db = some (id, reminder)) :
    reminder.nextRunAt ≤ runtime.iso now.time := by
  obtain ⟨-, chosen⟩ := Table.mem_select.mp (soonest_mem due)
  simp only [Bool.and_eq_true, decide_eq_true_eq] at chosen
  exact chosen.1.2

theorem iso_tomorrow (clock : IsoClock runtime.toRuntime) (now : Moment) :
    runtime.iso now.time < runtime.iso (now.time + dayMs) := by
  have length : Calendar.dayLength = 86400000 := rfl
  have today : Calendar.utcDay now.time < Calendar.lastDay := by
    have early := now.early
    unfold Calendar.utcDay
    omega
  have tomorrow : Calendar.utcDay (now.time + Calendar.dayLength) < Calendar.lastDay := by
    have early := now.early
    unfold Calendar.utcDay
    rw [length] at early ⊢
    omega
  have sum : (now.time : Int) + dayMs = ((now.time + Calendar.dayLength : Nat) : Int) := rfl
  rw [sum, clock, clock, Calendar.toISOString_lt today tomorrow, length]
  omega

/-- Everything that a sweep does to the reminders and to the two tables of messages. -/
theorem processes_reminds (clock : IsoClock runtime.toRuntime)
    (processes : Processes runtime now skipped db id reminder db') :
    Reminded runtime now.time id reminder db db' := by
  obtain ⟨due, sent, returns⟩ := processes
  rcases sweepReminder_returns returns with ⟨-, false, -⟩ | ⟨key, row, _, same, -, processed⟩
  · cases false
  rw [due] at same
  cases same
  obtain ⟨roles, explicit, mid, after, _, _, readRoles, readUsers, before, reminds, records⟩ :=
    processReminder_cases processed
  obtain ⟨advanced, others⟩ := recordReminder_returns records
  obtain ⟨messages, queued, each⟩ := remindUsers_queue reminds
  have notified : after notificationMessages = (mid notificationMessages).insertAll
      ((remindedUsers runtime.toRuntime db reminder).flatMap
        (reminderNotifications runtime now.time reminder)) :=
    forEach_insertAll (fun _ _ _ _ _ round => (remindUser_notifies round).1) reminds
  have found := (dueReminder_active due).1
  rw [reminds.unwritten reminderSchedules (by decide), before _ (by decide), Table.update_key]
    at advanced
  constructor
  · refine ⟨_, messages, ?_, fun user => mem_remindedUsers readRoles readUsers, ?_, ?_, ?_⟩
    · simp only [remindedUsers, readRoles, readUsers]
      exact recipients_distinct db _ _
    · rw [others _ (by decide) (by decide), notified, before _ (by decide)]
    · rw [others _ (by decide) (by decide), queued, before _ (by decide)]
    · refine each.imp ?_
      rintro user message ⟨email, gained, rfl⟩
      refine ⟨email, ?_, rfl⟩
      rw [others _ (by decide) (by decide), ← before notificationMessages (by decide)]
      exact gained
  · refine ⟨_, by rw [advanced]; exact Table.find?_modify_self _ found, ?_, ?_⟩
    · intro daily
      have less := iso_tomorrow clock now
      simp only [advance, if_pos daily]
      refine ⟨trivial, lt_of_le_of_lt (dueReminder_le due) less, _, ?_, rfl, less⟩
      have length : dayMs = 86400000 := rfl
      omega
    · intro once
      simp only [advance, if_neg once]
      exact ⟨trivial, trivial⟩
  · intro other differ
    rw [advanced]
    exact Table.find?_modify_ne _ _ differ

/-! ## Keys -/

theorem reminderKey_reads {id id' userId userId' : Nat} {reminder reminder' : ReminderSchedule}
    (same : reminderKey id reminder userId = reminderKey id' reminder' userId') :
    id = id' ∧ reminder.nextRunAt = reminder'.nextRunAt ∧ userId = userId' := by
  have texts := congrArg String.toList same
  simp only [reminderKey, String.toList_append, List.append_assoc, List.append_cancel_left_eq]
    at texts
  obtain ⟨rfl, rest⟩ := @numbered_eq ':' (by decide) _ _ _ _ texts
  have colon : (":user:" : String).toList = ":user".toList ++ [':'] := by decide
  have fields : (reminder.nextRunAt.toList ++ ":user".toList ++ ':' :: (toString userId).toList) ++
      ":email".toList = (reminder'.nextRunAt.toList ++ ":user".toList ++
        ':' :: (toString userId').toList) ++ ":email".toList := by
    simp only [colon, List.append_assoc, List.cons_append, List.nil_append] at rest ⊢
    exact rest
  have digits := @separator_not_mem_toString ':' (by decide)
  obtain ⟨times, users⟩ := lastField_eq (digits userId) (digits userId')
    (List.append_cancel_right fields)
  exact ⟨rfl, String.toList_inj.mp (List.append_cancel_right times),
    toString_injective (String.toList_inj.mp users)⟩

/-- No reminder's key is new to the outbox. -/
def noReminders : Law (Table OutboxMessage) where
  allows t u := ∀ key message, u.find? key = some message →
    (∃ id reminder userId, message.deduplicationKey = reminderKey id reminder userId) →
      ∃ other old, t.find? other = some old ∧ old.deduplicationKey = message.deduplicationKey
  refl _ := fun key message found _ => ⟨key, message, found, rfl⟩
  trans first second := by
    intro key message found named
    obtain ⟨other, old, there, same⟩ := second key message found named
    rw [← same] at named ⊢
    exact first other old there named

section Delivery

variable {worker : String} {now : Int} {row : OutboxRow} {payload : JsonValue}

theorem noReminders_modify {key : Nat} {change : OutboxMessage → OutboxMessage}
    (kept : ∀ old, (change old).deduplicationKey = old.deduplicationKey)
    (table : Table OutboxMessage) : noReminders.allows table (table.modify key change) := by
  intro other message found _
  rcases Table.find?_modify_cases found with ⟨-, old, there, rfl⟩ | ⟨-, there⟩
  · exact ⟨_, old, there, (kept old).symm⟩
  · exact ⟨other, message, there, rfl⟩

theorem noReminders_update {guard : Nat → OutboxMessage → Bool}
    {change : OutboxMessage → OutboxMessage}
    (kept : ∀ old, (change old).deduplicationKey = old.deduplicationKey)
    (table : Table OutboxMessage) : noReminders.allows table (table.update guard change) := by
  intro other message found _
  rw [Table.find?_update] at found
  obtain ⟨old, there, same⟩ := Option.map_eq_some_iff.mp found
  refine ⟨other, old, there, ?_⟩
  rw [← same]
  split
  · exact (kept old).symm
  · rfl

theorem notificationKey_apart {userId : Nat} {named : OutboxMessage}
    (key : named.deduplicationKey = emailDeduplicationKey runtime.toRuntime row userId) :
    ¬ ∃ id reminder userId, named.deduplicationKey = reminderKey id reminder userId := by
  rintro ⟨id, reminder, other, same⟩
  have texts := congrArg String.toList (key.symm.trans same)
  simp only [emailDeduplicationKey, reminderKey, String.toList_append, List.append_assoc] at texts
  have starts : ("notification:" : String).toList.head? = ("reminder:" : String).toList.head? := by
    have heads := congrArg List.head? texts
    exact heads
  exact absurd starts (by decide)

/-- Messages and their leases come and go without a reminder's key. -/
abbrev Foreign : Contract Row Empty := onTable outboxMessages noReminders

theorem completeLease_foreign {writes : List WorkerTable} [Writes outboxMessages writes] :
    Obeys Foreign (completeLease runtime.toRuntime now worker row : Work writes Unit) :=
  keeps_updateRow (noReminders_modify fun _ => rfl)

theorem requireFence_foreign {writes : List WorkerTable} {resource : String} :
    Obeys Foreign (requireFence resource : Work writes Unit) := by
  constructor
  intro s u sent s' returns
  obtain ⟨-, rfl⟩ := requireFence_reads returns
  exact Foreign.idle _

theorem recipients_foreign {writes : List WorkerTable} {recipient : DomainEventRecipient} :
    Obeys Foreign (recipients recipient : Work writes (List (Nat × User))) := by
  constructor
  intro s users sent s' returns
  obtain ⟨-, rfl⟩ := recipients_reads returns
  exact Foreign.idle _

theorem ofExcept_foreign {writes : List WorkerTable} {α : Type} {result : Except Fault α} :
    Obeys Foreign (ofExcept result : Work writes α) := by
  cases result with
  | error error => exact obeys_fail
  | ok value => exact obeys_pure

theorem claim_foreign {skipped : List Nat} :
    Obeys Foreign (claim runtime.toRuntime now worker skipped) := by
  refine obeys_bind requireFence_foreign fun _ => ?_
  refine obeys_bind (keeps_updateWhere (noReminders_update fun _ => rfl)) fun _ => ?_
  refine obeys_bind obeys_query fun rows => ?_
  cases rows with
  | none => exact obeys_pure
  | some first =>
      exact obeys_bind (keeps_updateRow (noReminders_modify fun _ => rfl)) fun _ => obeys_pure

theorem dispatchDomainEvent_foreign :
    Obeys Foreign (dispatchDomainEvent runtime.toRuntime now worker row payload) := by
  refine obeys_bind ofExcept_foreign fun event => obeys_bind requireFence_foreign fun _ => ?_
  refine obeys_bind recipients_foreign fun users => ?_
  refine obeys_bind (obeys_forEach ?_) fun _ => completeLease_foreign
  intro user _
  exact obeys_insertRow (onTable_free (by decide))

theorem notifyUser_foreign {type : String} {aggregateId : Nat} :
    Obeys Foreign (notifyUser runtime.toRuntime now row type aggregateId user) := by
  refine obeys_bind obeys_query fun existing => obeys_whenever ?_
  refine obeys_bind (obeys_insertRow (onTable_free (by decide))) fun _ => ?_
  refine obeys_bind (obeys_insertInto (onTable_free (by decide))) fun email => ?_
  refine keeps_write ?_
  intro table key message found named
  rcases Table.find?_insert_cases found with ⟨-, rfl⟩ | there
  · exact absurd named (notificationKey_apart rfl)
  · exact ⟨key, message, there, rfl⟩

theorem dispatchNotification_foreign :
    Obeys Foreign (dispatchNotification runtime.toRuntime now worker row payload) := by
  refine obeys_bind ofExcept_foreign fun role => obeys_bind ofExcept_foreign fun type => ?_
  refine obeys_bind obeys_orThrow fun aggregateId => obeys_bind requireFence_foreign fun _ => ?_
  refine obeys_bind obeys_query fun users => ?_
  exact obeys_bind (obeys_forEach fun user _ => notifyUser_foreign) fun _ => completeLease_foreign

theorem recordScan_foreign {status : ScanStatus} :
    Obeys Foreign (recordScan runtime.toRuntime now worker row payload status) := by
  refine obeys_bind requireFence_foreign fun _ => obeys_bind obeys_orThrow fun fileId => ?_
  refine obeys_bind (obeys_updateRow (onTable_free (by decide))) fun _ => ?_
  exact obeys_bind (obeys_insertRow (onTable_free (by decide))) fun _ => completeLease_foreign

theorem complete_foreign : Obeys Foreign (complete runtime.toRuntime now worker row) := by
  refine obeys_bind requireFence_foreign fun _ => obeys_bind ofExcept_foreign fun payload => ?_
  refine obeys_bind (keeps_updateRow (noReminders_modify fun _ => rfl)) fun _ => ?_
  exact obeys_whenever (obeys_updateWhere (onTable_free (by decide)))

theorem pause_foreign : Obeys Foreign (pause runtime.toRuntime now worker row) :=
  keeps_updateRow (noReminders_modify fun _ => rfl)

theorem fail_foreign {error : Fault} : Obeys Foreign (fail runtime.toRuntime now worker row error) :=
  keeps_updateRow (noReminders_modify fun _ => rfl)

theorem attempt_foreign {α : Type} {writes : List WorkerTable} {m : Work writes α}
    {result : Except Fault α} (obeys : Obeys Foreign m) (absent : reminderSchedules ∉ writes)
    (attempt : Attempt m db result db') :
    db' reminderSchedules = db reminderSchedules ∧
      noReminders.allows (db outboxMessages) (db' outboxMessages) := by
  cases attempt with
  | committed returns => exact ⟨returns.unwritten _ absent, obeys.obeyed returns⟩
  | unacknowledged _ returns => exact ⟨returns.unwritten _ absent, obeys.obeyed returns⟩
  | failed fails => exact ⟨rfl, noReminders.refl _⟩
  | disconnected => exact ⟨rfl, noReminders.refl _⟩

/-- No turn of the delivery touches a reminder or writes a reminder's key. -/
theorem turn_foreign {phase phase' : Phase}
    (turn : Turn runtime.toRuntime worker phase db phase' db') :
    db' reminderSchedules = db reminderSchedules ∧
      noReminders.allows (db outboxMessages) (db' outboxMessages) := by
  cases turn with
  | claim now skipped attempt => exact attempt_foreign claim_foreign (by decide) attempt
  | deliver parsed topic attempt answer =>
      exact attempt_foreign requireFence_foreign (by decide) attempt
  | scan parsed topic attempt answer =>
      exact attempt_foreign requireFence_foreign (by decide) attempt
  | notify now parsed topic attempt =>
      exact attempt_foreign dispatchNotification_foreign (by decide) attempt
  | announce now parsed topic attempt =>
      exact attempt_foreign dispatchDomainEvent_foreign (by decide) attempt
  | record now attempt => exact attempt_foreign recordScan_foreign (by decide) attempt
  | complete now attempt => exact attempt_foreign complete_foreign (by decide) attempt
  | pause now attempt => exact attempt_foreign pause_foreign (by decide) attempt
  | fail now failure attempt => exact attempt_foreign fail_foreign (by decide) attempt
  | start | crash | unreadable | unknown => exact ⟨rfl, noReminders.refl _⟩

end Delivery

/-! ## Runs -/

inductive SweepEvent
  | sweep (worker : String) (now : Moment) (skipped : List Nat)
  | turn (worker : String)
  | createReminder (reminderType entityType : String) (entityId : Nat) (businessNo dueAt : String)
  | elsewhere

/-- The sweeps of any worker, which a crash or a refusal may undo or whose answer may be
lost, the turns of the delivery, a created reminder, and everything else. -/
inductive SweepStep (runtime : ReminderRuntime) : Database → SweepEvent → Database → Prop
  | sweep {db db' : Database} {worker : String} {now : Moment} {skipped : List Nat}
      {result : Except Fault Bool}
      (attempt : Attempt (sweepReminder runtime now.time skipped) db result db') :
      SweepStep runtime db (.sweep worker now skipped) db'
  | turn {db db' : Database} {worker : String} {phase phase' : Phase}
      (turn : Turn runtime.toRuntime worker phase db phase' db') :
      SweepStep runtime db (.turn worker) db'
  | createReminder {db : Database} {reminderType entityType businessNo dueAt : String}
      {entityId : Nat} :
      SweepStep runtime db (.createReminder reminderType entityType entityId businessNo dueAt)
        (db.put reminderSchedules ((db reminderSchedules).insert
          (createdReminder reminderType entityType entityId businessNo dueAt)))
  -- no other statement names the reminders, and no other key starts as theirs do
  | elsewhere {db db' : Database} (same : db' reminderSchedules = db reminderSchedules)
      (foreign : noReminders.allows (db outboxMessages) (db' outboxMessages)) :
      SweepStep runtime db .elsewhere db'

/-- The occurrence lies behind its reminder, which is not due at that time again. -/
def Past (db : Database) (id : Nat) (nextRunAt : String) : Prop :=
  ∃ reminder, (db reminderSchedules).find? id = some reminder ∧
    (reminder.status = .active → nextRunAt < reminder.nextRunAt)

/-- A reminder's key in the outbox is of an occurrence that was processed. -/
def Spent (db : Database) : Prop :=
  ∀ key message, (db outboxMessages).find? key = some message →
    ∀ id reminder userId, message.deduplicationKey = reminderKey id reminder userId →
      Past db id reminder.nextRunAt

/-- What a step may do: it processes an occurrence, or it leaves the reminders there are. -/
theorem sweepStep_cases {event : SweepEvent} (step : SweepStep runtime db event db') :
    (∃ now skipped id reminder, Processes runtime now skipped db id reminder db') ∨
      (∀ id reminder, (db reminderSchedules).find? id = some reminder →
        (db' reminderSchedules).find? id = some reminder) ∧
        noReminders.allows (db outboxMessages) (db' outboxMessages) := by
  have committed : ∀ {now : Moment} {skipped value sent},
      (sweepReminder runtime now.time skipped).Returns db value sent db' →
        (∃ now skipped id reminder, Processes runtime now skipped db id reminder db') ∨ db' = db := by
    intro now skipped value sent returns
    rcases sweepReminder_returns returns with ⟨-, -, rfl⟩ | ⟨id, reminder, _, due, rfl, -⟩
    · exact .inr rfl
    · exact .inl ⟨now, skipped, id, reminder, due, sent, returns⟩
  have idle : db' = db → (∀ id reminder, (db reminderSchedules).find? id = some reminder →
      (db' reminderSchedules).find? id = some reminder) ∧
        noReminders.allows (db outboxMessages) (db' outboxMessages) := by
    rintro rfl
    exact ⟨fun _ _ found => found, noReminders.refl _⟩
  cases step with
  | sweep attempt =>
      cases attempt with
      | committed returns => exact (committed returns).imp_right idle
      | unacknowledged _ returns => exact (committed returns).imp_right idle
      | failed | disconnected => exact .inr (idle rfl)
  | turn turn =>
      obtain ⟨same, foreign⟩ := turn_foreign turn
      exact .inr ⟨by rw [same]; exact fun _ _ found => found, foreign⟩
  | createReminder =>
      refine .inr ⟨fun id reminder found => ?_, ?_⟩
      · rw [Store.put_same]
        exact Table.find?_insert_of_some found
      · rw [Store.put_other _ _ (by decide)]
        exact noReminders.refl _
  | elsewhere same foreign => exact .inr ⟨by rw [same]; exact fun _ _ found => found, foreign⟩

theorem processes_active (processes : Processes runtime now skipped db id reminder db') :
    (db reminderSchedules).find? id = some reminder ∧ reminder.status = .active :=
  dueReminder_active processes.1

theorem processes_past (clock : IsoClock runtime.toRuntime)
    (processes : Processes runtime now skipped db id reminder db') : Past db' id reminder.nextRunAt := by
  obtain ⟨after, found, advanced⟩ := (processes_reminds clock processes).advanced
  refine ⟨after, found, fun active => ?_⟩
  by_cases daily : reminder.recurrence = "daily_overdue"
  · exact (advanced.daily daily).2.1
  · rw [(advanced.once daily).1] at active
    cases active

theorem past_kept (clock : IsoClock runtime.toRuntime) {event : SweepEvent}
    (step : SweepStep runtime db event db') (past : Past db id nextRunAt) :
    Past db' id nextRunAt := by
  obtain ⟨old, found, behind⟩ := past
  rcases sweepStep_cases step with ⟨now, skipped, taken, reminder, processes⟩ | ⟨kept, -⟩
  · have reminded := processes_reminds clock processes
    by_cases own : id = taken
    · subst own
      obtain ⟨there, active⟩ := processes_active processes
      rw [found] at there
      cases there
      obtain ⟨after, now', later⟩ := processes_past clock processes
      exact ⟨after, now', fun on => lt_trans (behind active) (later on)⟩
    · exact ⟨old, (reminded.others id own).trans found, behind⟩
  · exact ⟨old, kept id old found, behind⟩

theorem spent_kept (clock : IsoClock runtime.toRuntime) {event : SweepEvent}
    (step : SweepStep runtime db event db') (spent : Spent db) : Spent db' := by
  intro key message found id reminder userId named
  rcases sweepStep_cases step with ⟨now, skipped, taken, due, processes⟩ | ⟨-, foreign⟩
  · obtain ⟨users, messages, -, -, -, queued, each⟩ := (processes_reminds clock processes).tells
    cases before : (db outboxMessages).find? key with
    | some old =>
        have same : (db' outboxMessages).find? key = some old := by
          rw [queued]
          exact Table.insertAll_keeps before
        rw [found] at same
        cases same
        exact past_kept clock step (spent key _ before id reminder userId named)
    | none =>
        have new : message ∈ messages := by
          refine Table.gained_insertAll.mp ⟨key, ?_, before⟩
          rw [← queued]
          exact found
        obtain ⟨user, email, -, rfl⟩ := queued_of_mem each new
        obtain ⟨rfl, same, -⟩ := reminderKey_reads named
        rw [← same]
        exact processes_past clock processes
  · obtain ⟨other, old, there, same⟩ := foreign key message found ⟨id, reminder, userId, named⟩
    exact past_kept clock step (spent other old there id reminder userId (same.trans named))

/-! ## Every run -/

/-- What sweeps promise in a state that a run has reached. -/
structure Punctual (runtime : ReminderRuntime) (db : Database) : Prop where
  reminded : ∀ now skipped id reminder db', Processes runtime now skipped db id reminder db' →
    Reminded runtime now.time id reminder db db'
  once : ∀ now skipped id reminder mid, Processes runtime now skipped db id reminder mid →
    ∀ events later, Run (SweepStep runtime) mid events later →
      ∀ now' skipped' reminder' last, Processes runtime now' skipped' later id reminder' last →
        reminder'.nextRunAt ≠ reminder.nextRunAt
  unused : ∀ id reminder userId, (db reminderSchedules).find? id = some reminder →
    reminder.status = .active → ∀ key message, (db outboxMessages).find? key = some message →
      message.deduplicationKey ≠ reminderKey id reminder userId
  taken : ∀ (now : Moment) skipped id reminder, fenceOpen "reminders.worker" db = true →
    dueReminder runtime.toRuntime now.time skipped db = some (id, reminder) →
      (∃ roles, runtime.parse reminder.recipientRoleJson = some (.array roles)) →
      (∃ explicit, runtime.parse reminder.recipientUserIdsJson = some (.array explicit)) →
      (∀ user, Matched runtime.toRuntime db reminder user → runtime.oversized reminder user = false) →
        ∃ db', Processes runtime now skipped db id reminder db'

/-- Before the first sweep no key in the outbox is a reminder's. -/
def NoneReminded (opening : Database) : Prop :=
  ∀ key message, (opening outboxMessages).find? key = some message →
    ∀ id reminder userId, message.deduplicationKey ≠ reminderKey id reminder userId

variable {opening : Database} {events : List SweepEvent}

theorem run_spent (clock : IsoClock runtime.toRuntime) (opens : NoneReminded opening)
    (run : Run (SweepStep runtime) opening events db) : Spent db := by
  apply run.preserves Spent (spent_kept clock)
  intro key message found id reminder userId named
  exact absurd named (opens key message found id reminder userId)

theorem spent_unused (spent : Spent db) {userId : Nat}
    (found : (db reminderSchedules).find? id = some reminder) (active : reminder.status = .active)
    {key : Nat} (there : (db outboxMessages).find? key = some message) :
    message.deduplicationKey ≠ reminderKey id reminder userId := by
  intro named
  obtain ⟨row, own, behind⟩ := spent key message there id reminder userId named
  rw [found] at own
  cases own
  exact lt_irrefl _ (behind active)

/-- Each occurrence of a reminder is processed at most once, whoever is matched is told once
in the transaction that advances the reminder, and no key is written twice. -/
theorem reminders_punctual (clock : IsoClock runtime.toRuntime) (opens : NoneReminded opening)
    (run : Run (SweepStep runtime) opening events db) : Punctual runtime db where
  reminded _ _ _ _ _ processes := processes_reminds clock processes
  once now skipped id reminder mid processes events later rest now' skipped' reminder' last again := by
    have past : Past later id reminder.nextRunAt := rest.preserves (Past · id reminder.nextRunAt)
      (past_kept clock) (processes_past clock processes)
    obtain ⟨row, found, behind⟩ := past
    obtain ⟨own, active⟩ := processes_active again
    rw [found] at own
    cases own
    exact (behind active).ne'
  unused id reminder userId found active key message there :=
    spent_unused (run_spent clock opens run) found active there
  taken now skipped id reminder fence due := by
    rintro ⟨roles, readRoles⟩ ⟨explicit, readUsers⟩ fits
    obtain ⟨found, active⟩ := dueReminder_active due
    have readRoles := jsonArray_ok.mpr readRoles
    have readUsers := jsonArray_ok.mpr readUsers
    have processable : Processable runtime db id reminder := by
      refine ⟨roles, explicit, readRoles, readUsers, fun user member => ?_⟩
      have listed : user ∈ remindedUsers runtime.toRuntime db reminder := by
        simpa only [remindedUsers, readRoles, readUsers] using member
      refine ⟨fits user ((mem_remindedUsers readRoles readUsers).mp listed), ?_⟩
      refine Table.any_eq_false.mpr fun key message there => ?_
      rw [beq_eq_false_iff_ne]
      exact spent_unused (run_spent clock opens run) found active there
    obtain ⟨sent, db', processed⟩ := (@processReminder_total runtime now.time db id reminder).mpr
      processable
    exact ⟨db', due, sent, sweepReminder_total fence due processed⟩

/-! ## One plan -/

def tickingRuntime : ReminderRuntime :=
  { planRuntime with iso := fun time => Calendar.toISOString time.toNat }

theorem morning_early :
    (Calendar.epoch + 1772668800000) / Calendar.dayLength + 3 < Calendar.lastDay := by
  decide

/-- The morning of 5 March 2026. -/
def morning : Moment := ⟨1772668800000, morning_early⟩

theorem planDatabase_unreminded : NoneReminded (planDatabase 1) := by
  intro key message found
  cases found

/-- The factory user is told of the plan once. -/
theorem reminders_punctual_plan :
    ∃ db', Run (SweepStep tickingRuntime) (planDatabase 1) [.sweep "worker-1" morning []] db' ∧
      Punctual tickingRuntime db' := by
  cases ran : (sweepReminder tickingRuntime morning.time []).run (planDatabase 1) with
  | error error =>
      have fails : ((sweepReminder tickingRuntime morning.time []).run (planDatabase 1)).toBool =
          true := by decide +kernel
      rw [ran] at fails
      cases fails
  | ok done =>
      have step := @SweepStep.sweep tickingRuntime _ _ "worker-1" _ _ _ (Attempt.committed ran)
      have run := Run.next step Run.done
      exact ⟨done.store, run, reminders_punctual (fun _ => rfl) planDatabase_unreminded run⟩

end SupplyChain.Worker
