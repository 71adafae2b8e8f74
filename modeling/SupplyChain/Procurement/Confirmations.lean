import SupplyChain.Procurement.Reminders
import SupplyChain.PurchaseOrders.Ledger

/-!
The procurement system beside the reminder sweep of the worker. The sweep renews
a reminder of the day before without a look at what it is about, and no command
closes one: the reminders are those of awaited confirmations until the first
answer of a factory.
-/

namespace SupplyChain.Procurement

open Relational Transaction TableName Supply

/-! ## Both sides -/

/-- The tables of the commands, and the tables of the worker, in which the reminders
carry their schedule and status. -/
structure Platform where
  database : Database
  worker : Worker.Database

def reminderName : ReminderType → String
  | .purchasePlanConfirmation => "purchase_plan_confirmation"
  | .purchaseOrderConfirmation => "purchase_order_confirmation"

def reminderEntity : ReminderType → String
  | .purchasePlanConfirmation => "purchase_plan"
  | .purchaseOrderConfirmation => "purchase_order"

/-- The row of a reminder as the worker finds it. -/
def storedReminder (runtime : Worker.ReminderRuntime) (reminder : ReminderSchedule) :
    Worker.ReminderSchedule :=
  Worker.createdReminder (reminderName reminder.reminderType) (reminderEntity reminder.reminderType)
    reminder.entityId reminder.businessNo (runtime.iso reminder.dueAt)

/-- The reminders that a command has created. -/
def createdSince (db db' : Database) : List ReminderSchedule :=
  ((db' reminderSchedules).select fun id _ =>
    decide ((db reminderSchedules).nextId ≤ id)).map (·.2)

inductive PlatformEvent
  | supply (event : SupplyEvent)
  | sweep (now : Int) (skipped : List Nat)

variable {runtime : Worker.ReminderRuntime}

/-- A step of the procurement system, whose new reminders the worker finds in its table,
or a sweep, which of the tables of the commands only writes the invoice exceptions. -/
inductive PlatformStep (runtime : Worker.ReminderRuntime) :
    Platform → PlatformEvent → Platform → Prop
  | supply {a b : Platform} {event : SupplyEvent} (step : SupplyStep a.database event b.database)
      (creates : CreatesNone a.database event b.database)
      (stored : b.worker .reminderSchedules = (a.worker .reminderSchedules).insertAll
        ((createdSince a.database b.database).map (storedReminder runtime))) :
      PlatformStep runtime a (.supply event) b
  | sweep {a b : Platform} {now : Int} {skipped : List Nat} {swept : Bool} {sent : List Empty}
      (returns : (Worker.sweepReminder runtime now skipped).Returns a.worker swept sent b.worker)
      (others : ∀ t, t ≠ invoiceExceptions → b.database t = a.database t) :
      PlatformStep runtime a (.sweep now skipped) b

def answered : PlatformEvent → Bool
  | .supply event => answers event
  | .sweep _ _ => false

/-- An active reminder of the confirmation of a plan or an order. -/
def Reminding (type : ReminderType) (id : Nat) (row : Worker.ReminderSchedule) : Prop :=
  row.status = .active ∧ row.reminderType = reminderName type ∧ row.entityId = id

/-- The reminder under the key is active and of this confirmation. -/
def Reminds (platform : Platform) (type : ReminderType) (id key : Nat) : Prop :=
  (platform.worker .reminderSchedules).Holds (Reminding type id) key

/-- Every active reminder is of a confirmation that is awaited, and each is reminded of
at most once. -/
structure Timely (platform : Platform) : Prop where
  awaited : ∀ type id key, Reminds platform type id key → Awaited platform.database type id
  single : ∀ type id key other, Reminds platform type id key →
    Reminds platform type id other → key = other

/-- Every awaited confirmation has its reminder, the reminders come back every day, and
no exception of a factory is pending. -/
structure Attended (platform : Platform) : Prop where
  timely : Timely platform
  reminded : ∀ type id, Awaited platform.database type id → ∃ key, Reminds platform type id key
  daily : ∀ key row, (platform.worker .reminderSchedules).find? key = some row →
    row.recurrence = "daily_overdue"
  quiet : NoExceptions platform.database

theorem reminderName_injective {type other : ReminderType}
    (same : reminderName type = reminderName other) : type = other := by
  cases type <;> cases other
  · rfl
  · exact absurd same (by decide)
  · exact absurd same (by decide)
  · rfl

/-! ## The steps -/

theorem createdSince_same {db db' : Database}
    (same : db' reminderSchedules = db reminderSchedules) : createdSince db db' = [] := by
  rw [createdSince, same, List.map_eq_nil_iff, Table.select_eq_nil]
  intro id row found
  exact decide_eq_false (Nat.not_le_of_lt (Table.find?_lt_nextId found))

theorem createdSince_insert {db db' : Database} {row : ReminderSchedule}
    (inserted : db' reminderSchedules = (db reminderSchedules).insert row) :
    createdSince db db' = [row] := by
  have none : (db reminderSchedules).select
      (fun id _ => decide ((db reminderSchedules).nextId ≤ id)) = [] := by
    rw [Table.select_eq_nil]
    intro id row found
    exact decide_eq_false (Nat.not_le_of_lt (Table.find?_lt_nextId found))
  rw [createdSince, inserted, Table.select_insert, none]
  simp

/-- What a platform step leaves of the reminders when no confirmation begins to be
awaited. -/
theorem attended_same {a b : Platform} (attended : Attended a)
    (awaited : SameAwaited a.database b.database)
    (reminds : ∀ type id key, Reminds b type id key ↔ Reminds a type id key)
    (daily : ∀ key row, (b.worker .reminderSchedules).find? key = some row →
      row.recurrence = "daily_overdue")
    (quiet : NoExceptions b.database) : Attended b := by
  refine ⟨⟨?_, ?_⟩, ?_, daily, quiet⟩
  · intro type id key own
    exact (awaited type id).mpr (attended.timely.awaited type id key ((reminds type id key).mp own))
  · intro type id key other one two
    exact attended.timely.single type id key other ((reminds _ _ _).mp one) ((reminds _ _ _).mp two)
  · intro type id waits
    obtain ⟨key, own⟩ := attended.reminded type id ((awaited type id).mp waits)
    exact ⟨key, (reminds type id key).mpr own⟩

theorem attends_attended {a b : Platform} (attended : Attended a)
    (attends : Attends a.database b.database) (quiet : NoExceptions b.database)
    (stored : b.worker .reminderSchedules = (a.worker .reminderSchedules).insertAll
      ((createdSince a.database b.database).map (storedReminder runtime))) : Attended b := by
  cases attends with
  | kept awaited same =>
      rw [createdSince_same same] at stored
      apply attended_same attended awaited _ _ quiet
      · intro type id key
        rw [Reminds, stored]
        rfl
      · rw [stored]
        exact attended.daily
  | @begun type id before awaited created =>
      obtain ⟨businessNo, dueAt, created⟩ := created
      rw [createdSince_insert created] at stored
      have reminds : ∀ other entity key, Reminds b other entity key ↔ Reminds a other entity key ∨
          (key = (a.worker .reminderSchedules).nextId ∧ other = type ∧ entity = id) := by
        intro other entity key
        rw [Reminds, stored]
        refine Table.holds_insert.trans (or_congr_right (and_congr_right fun _ => ?_))
        constructor
        · rintro ⟨-, named, same⟩
          exact ⟨(reminderName_injective named).symm, same.symm⟩
        · rintro ⟨rfl, rfl⟩
          exact ⟨rfl, rfl, rfl⟩
      have fresh : ∀ key, ¬ Reminds a type id key :=
        fun key own => before (attended.timely.awaited type id key own)
      refine ⟨⟨?_, ?_⟩, ?_, ?_, quiet⟩
      · intro other entity key own
        rw [awaited]
        exact ((reminds other entity key).mp own).imp (attended.timely.awaited other entity key)
          fun new => new.2
      · intro other entity key second one two
        rcases (reminds other entity key).mp one with old | ⟨rfl, rfl, rfl⟩
        · rcases (reminds other entity second).mp two with older | ⟨-, rfl, rfl⟩
          · exact attended.timely.single other entity key second old older
          · exact absurd old (fresh key)
        · rcases (reminds other entity second).mp two with older | ⟨rfl, -⟩
          · exact absurd older (fresh second)
          · rfl
      · intro other entity waits
        rcases (awaited other entity).mp waits with old | ⟨rfl, rfl⟩
        · obtain ⟨key, own⟩ := attended.reminded other entity old
          exact ⟨key, (reminds other entity key).mpr (Or.inl own)⟩
        · exact ⟨_, (reminds other entity _).mpr (Or.inr ⟨rfl, rfl, rfl⟩)⟩
      · intro key row found
        rw [stored] at found
        rcases Table.find?_insert_cases found with ⟨-, rfl⟩ | old
        · rfl
        · exact attended.daily key row old

theorem sweep_attended {a b : Platform} {now : Int} {skipped : List Nat} {swept : Bool}
    {sent : List Empty} (attended : Attended a)
    (returns : (Worker.sweepReminder runtime now skipped).Returns a.worker swept sent b.worker)
    (others : ∀ t, t ≠ invoiceExceptions → b.database t = a.database t) : Attended b := by
  have awaited : SameAwaited a.database b.database :=
    sameAwaited_of_tables (others _ (by decide)) (others _ (by decide))
  have quiet : NoExceptions b.database := by
    intro id row found
    rw [others _ (by decide)] at found
    exact attended.quiet id row found
  rcases Worker.sweepReminder_returns returns with ⟨-, -, same⟩ | ⟨id, reminder, _, due, -, processed⟩
  · apply attended_same attended awaited (fun _ _ _ => by rw [Reminds, Reminds, same]) _ quiet
    rw [same]
    exact attended.daily
  · obtain ⟨found, active⟩ := Worker.dueReminder_active due
    obtain ⟨-, -, status, nextRunAt, lastRunAt, renewed, updated⟩ :=
      Worker.processReminder_notifies processed
    obtain rfl := renewed (attended.daily id reminder found)
    rw [Table.update_key] at updated
    apply attended_same attended awaited _ _ quiet
    · intro type entity key
      rw [Reminds, updated]
      apply Table.holds_modify_same found
      simp [Reminding, active]
    · intro key row there
      rw [updated] at there
      rcases Table.find?_modify_cases there with ⟨-, old, before, rfl⟩ | ⟨-, old⟩
      · exact attended.daily _ old before
      · exact attended.daily key row old

theorem apart_noExceptions {db db' : Database} (apart : ApartFromOutbox db db')
    (quiet : NoExceptions db) : NoExceptions db' := by
  intro id row found
  rw [apart _ (by decide)] at found
  exact quiet id row found

/-- The step of both sides: without an answer every confirmation stays attended, and with
one a reminder is left behind. -/
theorem platformStep_attended {a b : Platform} {event : PlatformEvent}
    (step : PlatformStep runtime a event b) (attended : Attended a) :
    if answered event then ¬ Timely b else Attended b := by
  cases step with
  | sweep returns others => exact sweep_attended attended returns others
  | @supply _ event step creates stored =>
      obtain ⟨mid, work, apart⟩ := step.works
      have last : SameAwaited mid b.database :=
        sameAwaited_of_tables (apart _ (by decide)) (apart _ (by decide))
      have reminders : b.database reminderSchedules = mid reminderSchedules := apart _ (by decide)
      have created : CreatesNone a.database event mid := by
        cases event with
        | elsewhere => exact reminders.symm.trans creates
        | _ => trivial
      have attends := work_attends work attended.quiet created
      cases answering : answers event with
      | false =>
          simp only [answered, answering, Bool.false_eq_true, if_false] at attends ⊢
          exact attends_attended attended (attends.sameAwaited last reminders)
            (apart_noExceptions apart (work_noExceptions work answering attended.quiet)) stored
      | true =>
          simp only [answered, answering, if_true] at attends ⊢
          obtain ⟨same, type, id, before, given⟩ := attends
          intro timely
          obtain ⟨key, own⟩ := attended.reminded type id before
          rw [createdSince_same (reminders.trans same)] at stored
          have left : Reminds b type id key := by
            rw [Reminds, stored]
            exact own
          exact given ((last type id).mp (timely.awaited type id key left))

/-- The reminders are those of awaited confirmations in every state of a run exactly if no
factory answers in it. -/
theorem reminders_timely_iff {opening last : Platform} {events : List PlatformEvent}
    (attended : Attended opening) :
    Run (fun a event b => PlatformStep runtime a event b ∧ Timely b) opening events last ↔
      Run (fun a event b => PlatformStep runtime a event b ∧ answered event = false)
        opening events last := by
  apply Run.iff_under Attended _ _ attended
  · intro a event b step timely attended
    have effect := platformStep_attended step attended
    split at effect
    · exact absurd timely effect
    · exact effect
  · intro a event b step attended
    have effect := platformStep_attended step attended
    split at effect
    · rename_i answers
      exact iff_of_false effect (by simp [answers])
    · rename_i silent
      exact iff_of_true effect.timely (Bool.eq_false_iff.mpr silent)

/-! ## One plan and its confirmation -/

theorem acts_platform {acts : List Act} {db db' : Database}
    (run : Run SupplyStep db (acts.map Act.event) db') (worker : Worker.Database) :
    ∃ worker', Run (PlatformStep runtime) ⟨db, worker⟩
      (acts.map fun one => .supply one.event) ⟨db', worker'⟩ := by
  induction acts generalizing db worker with
  | nil =>
      cases run
      exact ⟨worker, Run.done⟩
  | cons one rest ih =>
      cases run with
      | @next _ mid _ _ _ first later =>
          obtain ⟨worker', run⟩ := ih later (worker.put .reminderSchedules
            ((worker .reminderSchedules).insertAll
              ((createdSince db mid).map (storedReminder runtime))))
          refine ⟨worker', Run.next (PlatformStep.supply first ?_ ?_) run⟩
          · cases one <;> exact trivial
          · dsimp only
            rw [Store.put_same]

/-- Before the first plan. -/
def beforePlans : Platform where
  database := PurchaseOrders.orderingDatabase
  worker _ := Table.empty

theorem beforePlans_attended : Attended beforePlans where
  timely :=
    { awaited := fun _ _ _ ⟨_, found, _⟩ => by cases found
      single := fun _ _ _ _ ⟨_, found, _⟩ => by cases found }
  reminded type id waits := by
    cases type with
    | purchasePlanConfirmation =>
        obtain ⟨_, found, -⟩ := waits
        cases found
    | purchaseOrderConfirmation =>
        obtain ⟨_, found, -⟩ := waits
        cases found
  daily _ _ found := by cases found
  quiet _ _ found := by cases found

/-- The plan waits for its factory, and so does its reminder. -/
theorem reminders_timely_waiting : ∃ last, Awaited last.database .purchasePlanConfirmation 1 ∧
    Run (fun a event b => PlatformStep Worker.planRuntime a event b ∧ Timely b) beforePlans
      ((PurchaseOrders.plansTen.take 1).map fun one => .supply one.event) last := by
  obtain ⟨db, run, seen⟩ := replayActs_reaches (PurchaseOrders.plansTen.take 1)
    PurchaseOrders.orderingDatabase
    (fun db => ((db purchasePlans).find? 1).any fun plan =>
      plan.status == .awaitingFactoryConfirmation) (by decide +kernel)
  obtain ⟨worker, run⟩ := acts_platform run fun _ => Table.empty
  obtain ⟨plan, found, waits⟩ := Option.any_eq_true _ _ |>.mp seen
  refine ⟨⟨db, worker⟩, ⟨plan, found, beq_iff_eq.mp waits⟩, ?_⟩
  apply (reminders_timely_iff beforePlans_attended).mpr
  cases run with
  | next first later =>
      cases later
      exact Run.single ⟨first, rfl⟩

/-- The factory confirms the plan, and is reminded of it still. -/
theorem reminders_outlive :
    ¬ ∀ (runtime : Worker.ReminderRuntime) (opening last : Platform) (events : List PlatformEvent),
      Attended opening → Run (PlatformStep runtime) opening events last → Timely last := by
  intro timely
  obtain ⟨db, run, -⟩ := replayActs_reaches PurchaseOrders.plansTen PurchaseOrders.orderingDatabase
    (fun _ => true) (by decide +kernel)
  obtain ⟨worker, run⟩ := @acts_platform Worker.planRuntime _ _ _ run fun _ => Table.empty
  have still := timely _ _ _ _ beforePlans_attended run
  cases run with
  | next first later =>
      have attended := platformStep_attended first beforePlans_attended
      cases later with
      | next second done =>
          cases done
          exact platformStep_attended second attended still

end SupplyChain.Procurement
