import SupplyChain.Relational.Inserts
import SupplyChain.Worker.Reminders

/-!
Who is told of a purchase plan, a purchase order or a supplier-SKU relation. A
domain event that is bound to an entity goes to the users of its factories; a
reminder goes to every user with the role of a factory.
-/

namespace SupplyChain.Worker

open Relational Transaction WorkerTable

variable {runtime : ReminderRuntime} {now : Int} {skipped : List Nat} {worker : String}
  {row : OutboxRow} {payload : JsonValue} {db db' mid : Database} {user : Nat × User}

/-! ## Who may be told -/

def internalUser (db : Database) (id : Nat) (user : User) : Bool :=
  ["admin", "supply_chain"].any fun role => user.role == role ||
    (db userRoles).any fun _ grant => grant.userId == id && grant.active && grant.roleCode == role

/-- The user's own factory is one of the entity's; an entity of another type has none to
be bound to. -/
def BoundTo (db : Database) (entityType : String) (entityId : Nat) (user : User) : Prop :=
  ∀ factories, factoriesOf db entityType entityId = some factories →
    ∃ factory ∈ user.factoryId, factory ∈ factories

def Entitled (db : Database) (entityType : String) (entityId : Nat) (user : Nat × User) : Prop :=
  internalUser db user.1 user.2 = true ∨ BoundTo db entityType entityId user.2

/-- The new notifications and the new e-mails of reminders are for users who may be told. -/
structure Respects (db db' : Database) : Prop where
  notification : ∀ id message, Table.Gained (db notificationMessages) (db' notificationMessages)
    id message → ∀ user, (db users).find? message.recipientUserId = some user →
      Entitled db message.entityType message.entityId.toNat (message.recipientUserId, user)
  email : ∀ key message, Table.Gained (db outboxMessages) (db' outboxMessages) key message →
    ∀ id reminder userId user, (db reminderSchedules).find? id = some reminder →
      message.deduplicationKey = reminderKey id reminder userId →
        (db users).find? userId = some user →
          Entitled db reminder.entityType reminder.entityId (userId, user)

theorem usersWithRole_internal (member : user ∈ usersWithRole db "supply_chain") :
    internalUser db user.1 user.2 = true := by
  obtain ⟨-, holds⟩ := Table.mem_select.mp member
  rw [Bool.and_eq_true] at holds
  apply List.any_eq_true.mpr
  exact ⟨"supply_chain", by decide, holds.2⟩

theorem usersWithRole_found {role : String} (member : user ∈ usersWithRole db role) :
    (db users).find? user.1 = some user.2 :=
  (Table.mem_select.mp member).1

/-! ## Domain events -/

/-- The factories of a binding, without those that are no id. -/
def boundFactories (db : Database) (entityType : String) (entityId : Nat) : List Nat :=
  (((factoriesOf db entityType entityId).getD []).filter fun factory =>
    decide (0 < factory)).eraseDups

def addressedUsers (db : Database) : DomainEventRecipient → List (Nat × User)
  | .none => []
  | .role role => usersWithRole db role
  | .user userId => (db users).select fun id user => id == userId && user.accountActive
  | .entityBinding entityType entityId =>
      (usersWithRole db "factory").filter fun user =>
        user.2.factoryId.any fun factory => (boundFactories db entityType entityId).contains factory

theorem recipients_addressed {writes : List WorkerTable} {recipient : DomainEventRecipient}
    {users : List (Nat × User)} {sent : List Empty}
    (returns : (recipients recipient : Work writes _).Returns db users sent mid) :
    users = addressedUsers db recipient := by
  cases recipient with
  | none => exact (returns_pure.mp returns).1
  | role => exact (returns_query.mp returns).1
  | user => exact (returns_query.mp returns).1
  | entityBinding entityType entityId =>
      simp only [recipients, returns_bind_query, returns_bind_orThrow, returns_bind_refuseIf,
        returns_query] at returns
      obtain ⟨factories, known, -, same, -⟩ := returns
      rw [same, addressedUsers, boundFactories, known, Option.getD_some]

theorem addressedUsers_found {recipient : DomainEventRecipient}
    (member : user ∈ addressedUsers db recipient) : (db users).find? user.1 = some user.2 := by
  cases recipient with
  | none => cases member
  | role => exact usersWithRole_found member
  | user =>
      rw [addressedUsers] at member
      exact (Table.mem_select.mp member).1
  | entityBinding => exact usersWithRole_found (List.mem_filter.mp member).1

def eventNotification (runtime : Runtime) (now : Int) (event : DomainEventPayload)
    (user : Nat × User) : NotificationMessage where
  recipientUserId := user.1
  recipientRole := user.2.role
  channel := .inApp
  type := event.eventType
  severity := "info"
  title := event.eventType
  message := runtime.stringify event.data
  entityType := event.entityType
  entityId := event.entityId
  status := .sent
  sentAt := some (runtime.iso now)

/-- What a dispatched event leaves: a notification for each user it is addressed to. -/
theorem dispatchDomainEvent_notifies {u : Unit} {sent : List Empty}
    (returns : (dispatchDomainEvent runtime.toRuntime now worker row payload).Returns
      db u sent db') :
    ∃ event, requireDomainEvent runtime.toRuntime payload = .ok event ∧
      db' notificationMessages = (db notificationMessages).insertAll
        ((addressedUsers db event.recipient).map
          (eventNotification runtime.toRuntime now event)) ∧
      ∀ id message, ¬ Table.Gained (db outboxMessages) (db' outboxMessages) id message := by
  rw [dispatchDomainEvent, returns_bind_ofExcept] at returns
  obtain ⟨event, read, returns⟩ := returns
  rw [returns_bind_of_reads requireFence_reads] at returns
  obtain ⟨_, -, returns⟩ := returns
  rw [returns_bind_of_reads recipients_reads] at returns
  obtain ⟨users, addressed, returns⟩ := returns
  obtain rfl := recipients_addressed addressed
  obtain ⟨_, _, mid, _, loop, returns, -⟩ := returns_bind.mp returns
  have gained : mid notificationMessages = (db notificationMessages).insertAll
      ((addressedUsers db event.recipient).flatMap fun user =>
        [eventNotification runtime.toRuntime now event user]) := by
    apply forEach_insertAll _ loop
    intro user _ s first s' inserts
    obtain ⟨-, rfl⟩ := returns_insertRow.mp inserts
    rw [Store.put_same]
    rfl
  have queued : mid outboxMessages = db outboxMessages := by
    apply forEach_preserves (fun s s' => s' outboxMessages = s outboxMessages) (fun _ => rfl)
      (fun first second => second.trans first) _ loop
    intro user _ s first s' inserts
    obtain ⟨-, rfl⟩ := returns_insertRow.mp inserts
    exact Store.put_other _ _ (by decide)
  obtain ⟨-, -, rfl⟩ := returns_updateRow.mp returns
  refine ⟨event, read, ?_, ?_⟩
  · rw [Store.put_other _ _ (by decide), gained, ← List.map_eq_flatMap]
  · intro id message
    rw [Store.put_same, queued]
    exact Table.not_gained_modify

/-- The users that the event is addressed to may be told of its entity. A role other
than that of the supply chain is not read. -/
def Addressed (db : Database) (event : DomainEventPayload) : Prop :=
  match event.recipient with
  | .none | .role _ => True
  | .user userId => ∀ user, (db users).find? userId = some user → user.accountActive = true →
      Entitled db event.entityType event.entityId (userId, user)
  | .entityBinding entityType entityId =>
      (entityType = event.entityType ∧ entityId = event.entityId) ∨
        ∀ user ∈ usersWithRole db "factory",
          (∃ factory ∈ user.2.factoryId, factory ∈ boundFactories db entityType entityId) →
            Entitled db event.entityType event.entityId user

theorem requireRecipient_role {recipient : JsonValue} {role : String}
    (read : requireRecipient runtime.toRuntime recipient = .ok (.role role)) :
    role = "supply_chain" := by
  unfold requireRecipient at read
  grind

theorem requireDomainEvent_recipient {event : DomainEventPayload}
    (read : requireDomainEvent runtime.toRuntime payload = .ok event) :
    ∃ recipient, requireRecipient runtime.toRuntime recipient = .ok event.recipient := by
  simp only [requireDomainEvent, bind, Except.bind, pure, Except.pure, throw, throwThe,
    MonadExceptOf.throw] at read
  repeat' split at read
  all_goals cases read
  all_goals exact ⟨_, ‹requireRecipient _ _ = _›⟩

/-- Whom an event is addressed to may be told exactly if each of them may. -/
theorem addressed_iff {event : DomainEventPayload}
    (read : requireDomainEvent runtime.toRuntime payload = .ok event) :
    (∀ user ∈ addressedUsers db event.recipient,
        Entitled db event.entityType event.entityId user) ↔ Addressed db event := by
  obtain ⟨recipient, read⟩ := requireDomainEvent_recipient read
  cases named : event.recipient with
  | none =>
      simp only [Addressed, named, iff_true]
      intro user member
      cases member
  | role role =>
      rw [named] at read
      obtain rfl := requireRecipient_role read
      simp only [Addressed, named, iff_true]
      exact fun user member => Or.inl (usersWithRole_internal member)
  | user userId =>
      simp only [Addressed, named, addressedUsers]
      constructor
      · intro all user found active
        apply all
        rw [Table.mem_select]
        exact ⟨found, by simp [active]⟩
      · intro told user member
        obtain ⟨found, own⟩ := Table.mem_select.mp member
        rw [Bool.and_eq_true, beq_iff_eq] at own
        obtain ⟨rfl, active⟩ := own
        exact told user.2 found active
  | entityBinding entityType entityId =>
      have addressed : ∀ user, user ∈ addressedUsers db (.entityBinding entityType entityId) ↔
          user ∈ usersWithRole db "factory" ∧
            ∃ factory ∈ user.2.factoryId, factory ∈ boundFactories db entityType entityId := by
        intro user
        rw [addressedUsers, List.mem_filter, Option.any_eq_true]
        simp only [List.contains_iff_mem, Option.mem_def]
      simp only [Addressed, named]
      constructor
      · intro all
        right
        intro user member bound
        exact all user ((addressed user).mpr ⟨member, bound⟩)
      · rintro (⟨rfl, rfl⟩ | all) user member
        · right
          obtain ⟨-, factory, own, bound⟩ := (addressed user).mp member
          intro factories known
          rw [boundFactories, known, Option.getD_some, List.mem_eraseDups, List.mem_filter]
            at bound
          exact ⟨factory, own, bound.1⟩
        · obtain ⟨member, bound⟩ := (addressed user).mp member
          exact all user member bound

theorem dispatchDomainEvent_respects {u : Unit} {sent : List Empty}
    (returns : (dispatchDomainEvent runtime.toRuntime now worker row payload).Returns
      db u sent db') :
    Respects db db' ↔
      ∀ event, requireDomainEvent runtime.toRuntime payload = .ok event → Addressed db event := by
  obtain ⟨event, read, notified, queued⟩ := dispatchDomainEvent_notifies returns
  have gained : ∀ message, (∃ id, Table.Gained (db notificationMessages)
      (db' notificationMessages) id message) ↔ message ∈ (addressedUsers db event.recipient).map
        (eventNotification runtime.toRuntime now event) := by
    intro message
    rw [notified]
    exact Table.gained_insertAll
  constructor
  · intro respects other readOther
    rw [read] at readOther
    cases readOther
    apply (addressed_iff read).mp
    intro user member
    obtain ⟨id, new⟩ := (gained _).mpr (List.mem_map_of_mem member)
    exact respects.notification id _ new user.2 (addressedUsers_found member)
  · intro addressed
    have all := (addressed_iff read).mpr (addressed event read)
    constructor
    · intro id message new user found
      obtain ⟨addressee, member, rfl⟩ := List.mem_map.mp ((gained message).mp ⟨id, new⟩)
      have same := (addressedUsers_found member).symm.trans found
      cases same
      exact all addressee member
    · intro key message new
      exact absurd new (queued key message)

/-! ## Reminders -/

/-- The row that `createReminder` inserts. -/
def createdReminder (reminderType entityType : String) (entityId : Nat)
    (businessNo dueAt : String) : ReminderSchedule where
  reminderType := reminderType
  entityType := entityType
  entityId := entityId
  businessNo := some businessNo
  dueAt := dueAt
  nextRunAt := dueAt
  recurrence := "daily_overdue"
  recipientRoleJson := "[\"factory\",\"supply_chain\"]"
  recipientUserIdsJson := "[]"
  severity := "approval"
  status := .active
  lastRunAt := none

/-- `JSON.parse` on the two lists of a created reminder. -/
def ReadsLists (runtime : Runtime) : Prop :=
  runtime.parse "[\"factory\",\"supply_chain\"]" =
      some (.array [.text "factory", .text "supply_chain"]) ∧
    runtime.parse "[]" = some (.array [])

/-- A reminder of an entity that has factories names no users but the two roles. -/
def StandardReminders (db : Database) : Prop :=
  ∀ id reminder, (db reminderSchedules).find? id = some reminder →
    (factoriesOf db reminder.entityType reminder.entityId).isSome = true →
      reminder.recipientRoleJson = "[\"factory\",\"supply_chain\"]" ∧
        reminder.recipientUserIdsJson = "[]"

/-- Every factory user is of one of the entity's factories, or may be told anyway. -/
def NoOutsider (db : Database) (entityType : String) (entityId : Nat) : Prop :=
  ∀ user ∈ usersWithRole db "factory", Entitled db entityType entityId user

def reminderNotifications (runtime : ReminderRuntime) (now : Int) (reminder : ReminderSchedule)
    (user : Nat × User) : List NotificationMessage :=
  [reminderNotification runtime now reminder user .inApp,
    reminderNotification runtime now reminder user .email]

theorem remindUser_notifies {id : Nat} {reminder : ReminderSchedule} {u : Unit}
    {sent : List Empty}
    (returns : (remindUser runtime now id reminder user).Returns db u sent db') :
    db' notificationMessages = (db notificationMessages).insertAll
        (reminderNotifications runtime now reminder user) ∧
      ∃ email, db' outboxMessages = (db outboxMessages).insertAll
        [reminderEmail runtime now id reminder user email] := by
  obtain ⟨-, email, queued⟩ := remindUser_returns returns
  simp only [remindUser, returns_bind_refuseIf, returns_bind_insertRow, returns_bind_insertInto,
    returns_bind_insertUnique, returns_pure] at returns
  obtain ⟨-, -, -, -, rfl⟩ := returns
  constructor
  · rw [Store.put_other _ _ (by decide), Store.put_same, Store.put_same]
    rfl
  · exact ⟨email, queued⟩

/-- What a sweep leaves: both messages and an e-mail for each recipient of the reminder
that was due. -/
theorem processReminder_notifies {id : Nat} {reminder : ReminderSchedule} {u : Unit}
    {sent : List Empty}
    (returns : (processReminder runtime now id reminder).Returns db u sent db') :
    db' notificationMessages = (db notificationMessages).insertAll
        ((remindedUsers runtime.toRuntime db reminder).flatMap
          (reminderNotifications runtime now reminder)) ∧
      (∀ key message, Table.Gained (db outboxMessages) (db' outboxMessages) key message →
        ∃ user ∈ remindedUsers runtime.toRuntime db reminder, ∃ email,
          message = reminderEmail runtime now id reminder user email) ∧
      ∃ status nextRunAt lastRunAt,
        (reminder.recurrence = "daily_overdue" → status = .active) ∧
          db' reminderSchedules = (db reminderSchedules).update (fun key _ => key == id)
            fun row => { row with status, nextRunAt, lastRunAt } := by
  obtain ⟨_, _, mid, after, _, _, -, -, before, reminds, records⟩ := processReminder_cases returns
  have notified := @forEach_insertAll _ _ _ _ _ _ notificationMessages _ _ _
    (fun user _ _ _ _ round => (remindUser_notifies round).1) _ _ _ _ reminds
  have queued : ∃ messages, after outboxMessages = (mid outboxMessages).insertAll messages ∧
      ∀ message ∈ messages, ∃ user ∈ remindedUsers runtime.toRuntime db reminder, ∃ email,
        message = reminderEmail runtime now id reminder user email := by
    refine forEach_preserves (fun s s' => ∃ messages,
        s' outboxMessages = (s outboxMessages).insertAll messages ∧
          ∀ message ∈ messages, ∃ user ∈ remindedUsers runtime.toRuntime db reminder, ∃ email,
            message = reminderEmail runtime now id reminder user email)
      (fun s => ⟨[], rfl, by simp⟩) ?_ ?_ reminds
    · rintro s mid s' ⟨first, firstQueued, one⟩ ⟨second, secondQueued, two⟩
      refine ⟨first ++ second, by rw [secondQueued, firstQueued, Table.insertAll_append], ?_⟩
      intro message member
      rcases List.mem_append.mp member with here | there
      · exact one message here
      · exact two message there
    · intro user member s first mid round
      obtain ⟨-, email, queued⟩ := remindUser_notifies round
      refine ⟨_, queued, fun message only => ?_⟩
      exact ⟨user, member, email, List.mem_singleton.mp only⟩
  obtain ⟨messages, queued, each⟩ := queued
  have kept : after reminderSchedules = db reminderSchedules := by
    rw [← before reminderSchedules (by decide)]
    exact reminds.unwritten reminderSchedules (by decide)
  obtain ⟨advanced, others⟩ := recordReminder_returns records
  refine ⟨?_, ?_, ?_⟩
  · rw [others _ (by decide) (by decide), notified, before notificationMessages (by decide)]
  · intro key message new
    rw [others _ (by decide) (by decide), queued, before outboxMessages (by decide)] at new
    exact each message (Table.gained_insertAll.mp ⟨key, new⟩)
  · rw [advanced, kept]
    exact ⟨_, _, _, fun daily => if_pos daily, rfl⟩

theorem remindedUsers_found {reminder : ReminderSchedule}
    (member : user ∈ remindedUsers runtime.toRuntime db reminder) :
    (db users).find? user.1 = some user.2 := by
  unfold remindedUsers at member
  split at member
  · exact (Table.mem_select.mp member).1
  · cases member

/-- A created reminder goes to the factory users and the supply-chain users. -/
theorem remindedUsers_standard {reminder : ReminderSchedule} (reads : ReadsLists runtime.toRuntime)
    (roles : reminder.recipientRoleJson = "[\"factory\",\"supply_chain\"]")
    (explicit : reminder.recipientUserIdsJson = "[]") :
    user ∈ remindedUsers runtime.toRuntime db reminder ↔
      user ∈ usersWithRole db "factory" ∨ user ∈ usersWithRole db "supply_chain" := by
  have users : remindedUsers runtime.toRuntime db reminder =
      reminderRecipients db ["factory", "supply_chain"] [] := by
    simp only [remindedUsers, jsonArray, roles, explicit, reads.1, reads.2]
    rfl
  rw [users, reminderRecipients, usersWithRole, usersWithRole, Table.mem_select, Table.mem_select,
    Table.mem_select, ← and_or_left]
  apply and_congr_right
  intro found
  simp only [Bool.and_eq_true, Bool.or_eq_true, List.contains_cons, List.contains_nil,
    Bool.or_false, beq_iff_eq, Table.any_eq_true, ← and_or_left]
  apply and_congr_right
  intro active
  constructor
  · rintro ((own | own) | ⟨id, grant, there, ⟨held, own | own⟩⟩)
    · exact Or.inl (Or.inl own)
    · exact Or.inr (Or.inl own)
    · exact Or.inl (Or.inr ⟨id, grant, there, held, own⟩)
    · exact Or.inr (Or.inr ⟨id, grant, there, held, own⟩)
  · rintro ((own | ⟨id, grant, there, held, own⟩) | (own | ⟨id, grant, there, held, own⟩))
    · exact Or.inl (Or.inl own)
    · exact Or.inr ⟨id, grant, there, held, Or.inl own⟩
    · exact Or.inl (Or.inr own)
    · exact Or.inr ⟨id, grant, there, held, Or.inr own⟩

theorem soonest_mem {rows : List (Nat × ReminderSchedule)} {first : Nat × ReminderSchedule}
    (found : soonest rows = some first) : first ∈ rows := by
  induction rows with
  | nil => cases found
  | cons head rest ih =>
      simp only [soonest] at found
      cases later : soonest rest with
      | none =>
          simp only [later, Option.some.injEq] at found
          exact found ▸ List.mem_cons_self
      | some other =>
          simp only [later] at found
          split at found
          · cases found
            exact List.mem_cons_of_mem _ (ih later)
          · cases found
            exact List.mem_cons_self

theorem dueReminder_active {id : Nat} {reminder : ReminderSchedule}
    (due : dueReminder runtime.toRuntime now skipped db = some (id, reminder)) :
    (db reminderSchedules).find? id = some reminder ∧ reminder.status = .active := by
  obtain ⟨found, chosen⟩ := Table.mem_select.mp (soonest_mem due)
  simp only [Bool.and_eq_true, beq_iff_eq] at chosen
  exact ⟨found, chosen.1.1⟩

theorem dueReminder_found {id : Nat} {reminder : ReminderSchedule}
    (due : dueReminder runtime.toRuntime now skipped db = some (id, reminder)) :
    (db reminderSchedules).find? id = some reminder :=
  (dueReminder_active due).1

theorem reminderKey_inj {id id' userId userId' : Nat} {reminder reminder' : ReminderSchedule}
    (found : (db reminderSchedules).find? id = some reminder)
    (found' : (db reminderSchedules).find? id' = some reminder')
    (same : reminderKey id reminder userId = reminderKey id' reminder' userId') :
    reminder = reminder' ∧ userId = userId' := by
  have texts := congrArg String.toList same
  simp only [reminderKey, String.toList_append, List.append_assoc, List.append_cancel_left_eq]
    at texts
  obtain ⟨rfl, -⟩ := @numbered_eq ':' (by decide) _ _ _ _ texts
  rw [found] at found'
  cases found'
  exact ⟨rfl, reminderKey_injective same⟩

theorem processReminder_respects {id : Nat} {reminder : ReminderSchedule} {u : Unit}
    {sent : List Empty} (found : (db reminderSchedules).find? id = some reminder)
    (returns : (processReminder runtime now id reminder).Returns db u sent db') :
    Respects db db' ↔ ∀ user ∈ remindedUsers runtime.toRuntime db reminder,
      Entitled db reminder.entityType reminder.entityId user := by
  obtain ⟨notified, queued, -⟩ := processReminder_notifies returns
  have gained : ∀ message, (∃ id, Table.Gained (db notificationMessages)
      (db' notificationMessages) id message) ↔
        ∃ user ∈ remindedUsers runtime.toRuntime db reminder,
          message ∈ reminderNotifications runtime now reminder user := by
    intro message
    rw [notified, Table.gained_insertAll, List.mem_flatMap]
  constructor
  · intro respects user member
    obtain ⟨key, new⟩ := (gained _).mpr ⟨user, member, List.mem_cons_self⟩
    exact respects.notification key _ new user.2 (remindedUsers_found member)
  · intro all
    constructor
    · intro key message new user there
      obtain ⟨addressee, member, inside⟩ := (gained message).mp ⟨key, new⟩
      have told := all addressee member
      have own := remindedUsers_found member
      simp only [reminderNotifications, List.mem_cons, List.not_mem_nil, or_false] at inside
      rcases inside with rfl | rfl
      · cases own.symm.trans there
        exact told
      · cases own.symm.trans there
        exact told
    · intro key message new other reminder' userId user there named known
      obtain ⟨addressee, member, email, rfl⟩ := queued key message new
      obtain ⟨rfl, rfl⟩ := reminderKey_inj found there named
      cases (remindedUsers_found member).symm.trans known
      exact all addressee member

theorem Respects.refl (db : Database) : Respects db db where
  notification id message new := by
    obtain ⟨found, none⟩ := new
    rw [found] at none
    cases none
  email key message new := by
    obtain ⟨found, none⟩ := new
    rw [found] at none
    cases none

/-- A sweep tells only whom it may exactly if no factory user is an outsider to the
entity of the reminder that is due. -/
theorem sweepReminder_respects {swept : Bool} {sent : List Empty}
    (reads : ReadsLists runtime.toRuntime) (standard : StandardReminders db)
    (returns : (sweepReminder runtime now skipped).Returns db swept sent db') :
    Respects db db' ↔ ∀ id reminder,
      dueReminder runtime.toRuntime now skipped db = some (id, reminder) →
        NoOutsider db reminder.entityType reminder.entityId := by
  rcases sweepReminder_returns returns with ⟨due, -, rfl⟩ | ⟨id, reminder, processed, due, -, returns⟩
  · apply iff_of_true (Respects.refl _)
    intro id reminder some
    rw [due] at some
    cases some
  · have found := dueReminder_found due
    rw [processReminder_respects found returns]
    have told : (∀ user ∈ remindedUsers runtime.toRuntime db reminder,
        Entitled db reminder.entityType reminder.entityId user) ↔
          NoOutsider db reminder.entityType reminder.entityId := by
      cases known : factoriesOf db reminder.entityType reminder.entityId with
      | none =>
          have free : ∀ user, Entitled db reminder.entityType reminder.entityId user := by
            intro user
            right
            intro factories some
            rw [known] at some
            cases some
          exact iff_of_true (fun user _ => free user) fun user _ => free user
      | some factories =>
          obtain ⟨roles, explicit⟩ := standard id reminder found (by rw [known]; rfl)
          constructor
          · intro all user member
            exact all user ((remindedUsers_standard reads roles explicit).mpr (Or.inl member))
          · intro none user member
            rcases (remindedUsers_standard reads roles explicit).mp member with own | own
            · exact none user own
            · exact Or.inl (usersWithRole_internal own)
    rw [told]
    constructor
    · intro none key other same
      rw [due] at same
      cases same
      exact none
    · intro all
      exact all id reminder due

/-! ## Runs -/

inductive NotifyEvent
  | dispatch (now : Int) (worker : String) (row : OutboxRow) (payload : JsonValue)
  | sweep (now : Int) (skipped : List Nat)
  | createReminder (reminderType entityType : String) (entityId : Nat) (businessNo dueAt : String)
  | elsewhere

/-- The steps that produce notifications of entities, the creation of a reminder, and
everything else, which leaves the reminders alone. -/
inductive NotifyStep (runtime : ReminderRuntime) : Database → NotifyEvent → Database → Prop
  | dispatch {db db' : Database} {now : Int} {worker : String} {row : OutboxRow}
      {payload : JsonValue} {sent : List Empty}
      (returns : (dispatchDomainEvent runtime.toRuntime now worker row payload).Returns
        db () sent db') :
      NotifyStep runtime db (.dispatch now worker row payload) db'
  | sweep {db db' : Database} {now : Int} {skipped : List Nat} {swept : Bool}
      {sent : List Empty}
      (returns : (sweepReminder runtime now skipped).Returns db swept sent db') :
      NotifyStep runtime db (.sweep now skipped) db'
  | createReminder {db : Database} {reminderType entityType businessNo dueAt : String}
      {entityId : Nat} :
      NotifyStep runtime db (.createReminder reminderType entityType entityId businessNo dueAt)
        (db.put reminderSchedules ((db reminderSchedules).insert
          (createdReminder reminderType entityType entityId businessNo dueAt)))
  | elsewhere {db db' : Database} (same : db' reminderSchedules = db reminderSchedules) :
      NotifyStep runtime db .elsewhere db'

/-- What a dispatch or a sweep produces respects the binding to factories. -/
def RespectsBinding (db : Database) (event : NotifyEvent) (db' : Database) : Prop :=
  match event with
  | .dispatch _ _ _ _ | .sweep _ _ => Respects db db'
  | _ => True

/-- A domain event is addressed to users who may be told, and a reminder that is due is
of an entity to which no factory user is an outsider. -/
def KeepsBinding (runtime : ReminderRuntime) (db : Database) (event : NotifyEvent) : Prop :=
  match event with
  | .dispatch _ _ _ payload =>
      ∀ event, requireDomainEvent runtime.toRuntime payload = .ok event → Addressed db event
  | .sweep now skipped =>
      ∀ id reminder, dueReminder runtime.toRuntime now skipped db = some (id, reminder) →
        NoOutsider db reminder.entityType reminder.entityId
  | _ => True

theorem factoriesOf_isSome {entityType : String} {entityId other : Nat} :
    (factoriesOf db entityType entityId).isSome = (factoriesOf db' entityType other).isSome := by
  unfold factoriesOf
  split <;> rfl

theorem standardReminders_kept {event : NotifyEvent} (step : NotifyStep runtime db event db')
    (standard : StandardReminders db) : StandardReminders db' := by
  have kept : ∀ {a b : Database}, b reminderSchedules = a reminderSchedules →
      StandardReminders a → StandardReminders b := by
    intro a b same holds id reminder found known
    rw [same] at found
    rw [@factoriesOf_isSome b a] at known
    exact holds id reminder found known
  cases step with
  | dispatch returns => exact kept (returns.unwritten reminderSchedules (by decide)) standard
  | elsewhere same => exact kept same standard
  | createReminder =>
      intro id reminder found known
      rw [Store.put_same] at found
      rcases Table.find?_insert_cases found with ⟨-, rfl⟩ | there
      · exact ⟨rfl, rfl⟩
      · rw [@factoriesOf_isSome _ db] at known
        exact standard id reminder there known
  | sweep returns =>
      rcases sweepReminder_returns returns with ⟨-, -, rfl⟩ | ⟨key, fired, processed, -, -, returns⟩
      · exact standard
      · obtain ⟨-, -, _, _, _, -, updated⟩ := processReminder_notifies returns
        intro id reminder found known
        rw [updated, Table.find?_update] at found
        obtain ⟨old, there, rfl⟩ := Option.map_eq_some_iff.mp found
        have holds := standard id old there
        by_cases own : (id == key) = true
        · rw [if_pos own] at known ⊢
          rw [@factoriesOf_isSome _ db _ _ old.entityId] at known
          exact holds known
        · rw [if_neg own] at known ⊢
          rw [@factoriesOf_isSome _ db _ _ old.entityId] at known
          exact holds known

/-- In every state that is reached, a dispatch or a sweep respects the binding to
factories exactly if it keeps to it. -/
theorem notifications_bound_iff {opening : Database} {events : List NotifyEvent}
    {event : NotifyEvent} (reads : ReadsLists runtime.toRuntime)
    (standard : StandardReminders opening) (run : Run (NotifyStep runtime) opening events db)
    (step : NotifyStep runtime db event db') :
    RespectsBinding db event db' ↔ KeepsBinding runtime db event := by
  have standard := run.preserves StandardReminders standardReminders_kept standard
  cases step with
  | dispatch returns => exact dispatchDomainEvent_respects returns
  | sweep returns => exact sweepReminder_respects reads standard returns
  | createReminder => exact Iff.rfl
  | elsewhere => exact Iff.rfl

/-! ## One plan and one factory user -/

def planRuntime : ReminderRuntime where
  iso _ := "2026-03-05T00:00:00.000Z"
  datetime _ := "2026-03-05 00:00:00.000"
  parse text :=
    if text = "[\"factory\",\"supply_chain\"]" then
      some (.array [.text "factory", .text "supply_chain"])
    else if text = "[]" then some (.array []) else none
  stringify _ := "\x7b\x7d"
  safeInteger _ := none
  sha256 text := text
  time _ := none
  oversized _ _ := false

theorem planRuntime_reads : ReadsLists planRuntime.toRuntime := ⟨rfl, rfl⟩

/-- A plan of the first factory that is to be confirmed, and a user of the given one. -/
def planDatabase (factoryId : Nat) : Database
  | .users => Table.empty.insert ⟨"user@example.com", "factory", true, some factoryId⟩
  | .purchasePlanItems => Table.empty.insert ⟨1, 1⟩
  | .writerFences => Table.empty.insert ⟨"reminders.worker", writerOwner, writerGeneration, true⟩
  | .reminderSchedules => Table.empty.insert (createdReminder "purchase_plan_confirmation"
      "purchase_plan" 1 "PLAN-1" "2026-03-04T00:00:00.000Z")
  | _ => Table.empty

theorem planDatabase_standard (factoryId : Nat) : StandardReminders (planDatabase factoryId) := by
  intro id reminder found _
  rw [Table.find?_single found]
  exact ⟨rfl, rfl⟩

theorem planDatabase_sweep (factoryId : Nat)
    (swept : ((sweepReminder planRuntime 0 []).run (planDatabase factoryId)).toBool = true) :
    ∃ db', NotifyStep planRuntime (planDatabase factoryId) (.sweep 0 []) db' := by
  cases ran : (sweepReminder planRuntime 0 []).run (planDatabase factoryId) with
  | ok done => exact ⟨done.store, NotifyStep.sweep ran⟩
  | error error =>
      rw [ran] at swept
      cases swept

theorem planDatabase_due {factoryId id : Nat} {reminder : ReminderSchedule}
    (due : dueReminder planRuntime.toRuntime 0 [] (planDatabase factoryId) = some (id, reminder)) :
    reminder.entityType = "purchase_plan" ∧ reminder.entityId = 1 := by
  rw [Table.find?_single (dueReminder_found due)]
  exact ⟨rfl, rfl⟩

/-- The factory user is told of the plan of the own factory. -/
theorem notifications_bound_own :
    ∃ db', NotifyStep planRuntime (planDatabase 1) (.sweep 0 []) db' ∧
      RespectsBinding (planDatabase 1) (.sweep 0 []) db' := by
  obtain ⟨db', step⟩ := planDatabase_sweep 1 (by decide +kernel)
  refine ⟨db', step, ?_⟩
  apply (notifications_bound_iff planRuntime_reads (planDatabase_standard 1) Run.done step).mpr
  intro id reminder due user member
  obtain ⟨type, entity⟩ := planDatabase_due due
  right
  intro factories known
  rw [type, entity] at known
  cases known
  have own := Table.find?_single (usersWithRole_found member)
  rw [own]
  exact ⟨1, rfl, List.mem_singleton.mpr rfl⟩

/-- The sweep tells a user of the second factory of a plan of the first. -/
theorem notifications_unbound :
    ¬ ∀ (runtime : ReminderRuntime) (opening db db' : Database) (events : List NotifyEvent)
      (event : NotifyEvent), ReadsLists runtime.toRuntime → StandardReminders opening →
        Run (NotifyStep runtime) opening events db → NotifyStep runtime db event db' →
          RespectsBinding db event db' := by
  intro bound
  obtain ⟨db', step⟩ := planDatabase_sweep 2 (by decide +kernel)
  have respects := bound planRuntime _ _ db' [] _ planRuntime_reads (planDatabase_standard 2)
    Run.done step
  cases step with
  | sweep returns =>
      have none := (sweepReminder_respects planRuntime_reads (planDatabase_standard 2)
        returns).mp respects 1 _ rfl (1, ⟨"user@example.com", "factory", true, some 2⟩)
          (by rw [usersWithRole, Table.mem_select]; exact ⟨rfl, rfl⟩)
      rcases none with inside | bound
      · exact absurd inside (by decide +kernel)
      · obtain ⟨factory, own, member⟩ := bound [1] rfl
        cases own
        exact absurd member (by decide)

end SupplyChain.Worker
