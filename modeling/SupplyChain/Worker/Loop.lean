import SupplyChain.Worker.Reminders

/-!
The loop of a worker, with the database answering: the reminder sweeps, the
batch of claims, and the message in hand. An error that leaves the loop ends the
worker. It goes on as long as every reminder that a sweep comes upon can be
processed and every message that it gives back is still under its lease.
-/

namespace SupplyChain.Worker

open Relational Transaction WorkerTable

variable {runtime : ReminderRuntime} {worker : String} {now : Int} {skipped : List Nat}
  {db db' : Database} {row : OutboxRow}

/-! ## The loop -/

def maxBatch : Nat := 25

def reminderSweepMs : Int := 60000

/-- Where the loop stands; `swept` is the time of the last sweep, `index` the
place in the batch. -/
inductive Position
  | waiting (swept : Int)
  | sweeping (swept : Int) (index : Nat)
  | draining (swept : Int) (index : Nat)
  | handling (swept : Int) (index : Nat) (phase : Phase)
  | stopped (error : Fault)

def Position.row? : Position → Option OutboxRow
  | .handling _ _ phase => phase.row?
  | _ => none

/-- A transaction whose outcome the worker is told. -/
inductive Settled {α : Type} {writes : List WorkerTable} (m : Work writes α) (db : Database) :
    Except Fault α → Database → Prop
  | committed {value : α} {sent : List Empty} {db' : Database}
      (returns : m.Returns db value sent db') : Settled m db (.ok value) db'
  | failed {error : Fault} (fails : m.Fails db error) : Settled m db (.error error) db

theorem Settled.attempt {α : Type} {writes : List WorkerTable} {m : Work writes α}
    {result : Except Fault α} (settled : Settled m db result db') : Attempt m db result db' := by
  cases settled with
  | committed returns => exact Attempt.committed returns
  | failed fails => exact Attempt.failed fails

/-- A paused fence ends the sweep, any other error the loop. -/
def Position.afterSweep (swept : Int) (index : Nat) : Except Fault Bool → Position
  | .ok true => .sweeping swept (index + 1)
  | .ok false => .draining swept 0
  | .error .fencePaused => .draining swept 0
  | .error error => .stopped error

def Position.afterClaim (swept : Int) (index : Nat) : Except Fault (Option OutboxRow) → Position
  | .ok (some row) => .handling swept index (.claimed row)
  | .ok none => .waiting swept
  | .error .fencePaused => .waiting swept
  | .error error => .stopped error

/-- The next message of the batch, once nothing is left to do for this one. -/
def Position.afterDispatch (swept : Int) (index : Nat) : Phase → Position
  | .idle => .draining swept (index + 1)
  | phase => .handling swept index phase

/-- An error of `pause` or of `fail` leaves the loop. -/
def Position.afterRefusal (swept : Int) (index : Nat) : Except Fault Unit → Position
  | .ok _ => .draining swept (index + 1)
  | .error error => .stopped error

/-- `processMessage` and `complete`: what the handlers of the loop catch. -/
def Phase.caught : Phase → Bool
  | .claimed _ | .delivered _ | .scanned _ _ _ => true
  | _ => false

inductive LoopTurn (runtime : ReminderRuntime) (worker : String) :
    Position → Database → Position → Database → Prop
  | early {db : Database} {swept : Int} (now : Int) (recent : now - swept < reminderSweepMs) :
      LoopTurn runtime worker (.waiting swept) db (.draining swept 0) db
  | sweeps {db : Database} {swept : Int} (now : Int) (due : reminderSweepMs ≤ now - swept) :
      LoopTurn runtime worker (.waiting swept) db (.sweeping now 0) db
  | swept {db : Database} {swept : Int} :
      LoopTurn runtime worker (.sweeping swept maxBatch) db (.draining swept 0) db
  | drained {db : Database} {swept : Int} :
      LoopTurn runtime worker (.draining swept maxBatch) db (.waiting swept) db
  | claim {db db' : Database} {swept : Int} {index : Nat} {result : Except Fault (Option OutboxRow)}
      (now : Int) (skipped : List Nat) (more : index < maxBatch)
      (settled : Settled (claim runtime.toRuntime now worker skipped) db result db') :
      LoopTurn runtime worker (.draining swept index) db (.afterClaim swept index result) db'
  | dispatch {db db' : Database} {swept : Int} {index : Nat} {phase phase' : Phase}
      (caught : phase.caught = true) (goes : phase' ≠ .stopped)
      (turn : Turn runtime.toRuntime worker phase db phase' db') :
      LoopTurn runtime worker (.handling swept index phase) db (.afterDispatch swept index phase')
        db'
  | pause {db db' : Database} {swept : Int} {index : Nat} {row : OutboxRow}
      {result : Except Fault Unit} (now : Int)
      (settled : Settled (pause runtime.toRuntime now worker row) db result db') :
      LoopTurn runtime worker (.handling swept index (.refused row .fencePaused)) db
        (.afterRefusal swept index result) db'
  | fail {db db' : Database} {swept : Int} {index : Nat} {row : OutboxRow} {error : Fault}
      {result : Except Fault Unit} (now : Int) (failure : error ≠ .fencePaused)
      (settled : Settled (fail runtime.toRuntime now worker row error) db result db') :
      LoopTurn runtime worker (.handling swept index (.refused row error)) db
        (.afterRefusal swept index result) db'

structure LoopSystem where
  db : Database
  position : String → Position

inductive LoopEvent
  | turn (worker : String)
  | sweep (worker : String) (now : Int) (skipped : List Nat)
  | elsewhere

inductive LoopStep (runtime : ReminderRuntime) : LoopSystem → LoopEvent → LoopSystem → Prop
  | turn {s : LoopSystem} {worker : String} {position : Position} {db : Database}
      (turn : LoopTurn runtime worker (s.position worker) s.db position db) :
      LoopStep runtime s (.turn worker) ⟨db, Function.update s.position worker position⟩
  | sweep {s : LoopSystem} {worker : String} {swept : Int} {index : Nat} {db : Database}
      {result : Except Fault Bool} (now : Int) (skipped : List Nat)
      (here : s.position worker = .sweeping swept index) (more : index < maxBatch)
      (settled : Settled (sweepReminder runtime now skipped) s.db result db) :
      LoopStep runtime s (.sweep worker now skipped)
        ⟨db, Function.update s.position worker (.afterSweep swept index result)⟩
  | elsewhere {s : LoopSystem} {db : Database}
      (adds : (Law.gains Fresh).allows (s.db outboxMessages) (db outboxMessages)) :
      LoopStep runtime s .elsewhere ⟨db, s.position⟩

/-! ## The loop refines delivery -/

/-- What delivery sees of a worker: the message in hand. -/
def Position.phase : Position → Phase
  | .handling _ _ phase => phase
  | .stopped _ => .stopped
  | _ => .idle

def LoopSystem.delivery (s : LoopSystem) : System := ⟨s.db, fun worker => (s.position worker).phase⟩

theorem afterClaim_phase {swept : Int} {index : Nat} {result : Except Fault (Option OutboxRow)} :
    (Position.afterClaim swept index result).phase = afterClaim result := by
  cases result with
  | error error => cases error <;> rfl
  | ok claimed => cases claimed <;> rfl

theorem afterDispatch_phase {swept : Int} {index : Nat} {phase : Phase} :
    (Position.afterDispatch swept index phase).phase = phase := by
  cases phase <;> rfl

theorem afterRefusal_phase {swept : Int} {index : Nat} {result : Except Fault Unit} :
    (Position.afterRefusal swept index result).phase = afterRefusal result := by
  cases result <;> rfl

theorem afterSweep_phase {swept : Int} {index : Nat} {result : Except Fault Bool} :
    (Position.afterSweep swept index result).phase = .idle ∨
      ∃ error, Position.afterSweep swept index result = .stopped error := by
  cases result with
  | ok due => cases due <;> exact Or.inl rfl
  | error error =>
      cases error with
      | fencePaused => exact Or.inl rfl
      | permanent code => exact Or.inr ⟨_, rfl⟩
      | other message => exact Or.inr ⟨_, rfl⟩

theorem delivery_update {position : String → Position} {after : Position} :
    (LoopSystem.mk db (Function.update position worker after)).delivery =
      ⟨db, Function.update (fun id => (position id).phase) worker after.phase⟩ := by
  unfold LoopSystem.delivery
  congr 1
  exact funext fun id => Function.apply_update (fun _ => Position.phase) position worker after id

theorem delivery_unseen {s : LoopSystem} {after : Position} (same : after.phase = (s.position worker).phase)
    (adds : (Law.gains Fresh).allows (s.db outboxMessages) (db outboxMessages)) :
    Step runtime.toRuntime s.delivery .elsewhere
      (LoopSystem.mk db (Function.update s.position worker after)).delivery := by
  rw [delivery_update, same, Function.update_eq_self]
  exact Step.elsewhere adds

theorem delivery_turned {s : LoopSystem} {after : Position} {phase phase' : Phase}
    (here : (s.position worker).phase = phase) (next : after.phase = phase')
    (turn : Turn runtime.toRuntime worker phase s.db phase' db) :
    Step runtime.toRuntime s.delivery (.worker worker)
      (LoopSystem.mk db (Function.update s.position worker after)).delivery := by
  subst here next
  rw [delivery_update]
  exact Step.worker (s := s.delivery) turn

theorem loopStep_refines {s s' : LoopSystem} {event : LoopEvent}
    (step : LoopStep runtime s event s') :
    ∃ actor, Step runtime.toRuntime s.delivery actor s'.delivery := by
  cases step with
  | @turn worker position db turn =>
      have unseen : ∀ after, (s.position worker).phase = .idle → after.phase = .idle →
          ∃ actor, Step runtime.toRuntime s.delivery actor
            (LoopSystem.mk s.db (Function.update s.position worker after)).delivery := by
        intro after before next
        exact ⟨_, delivery_unseen (next.trans before.symm) ((Law.gains Fresh).refl _)⟩
      generalize here : s.position worker = before at turn unseen
      cases turn with
      | early => exact unseen _ rfl rfl
      | sweeps => exact unseen _ rfl rfl
      | swept => exact unseen _ rfl rfl
      | drained => exact unseen _ rfl rfl
      | claim now skipped more settled =>
          exact ⟨_, delivery_turned (by rw [here]; rfl) afterClaim_phase
            (Turn.claim now skipped settled.attempt)⟩
      | dispatch caught goes turn =>
          exact ⟨_, delivery_turned (by rw [here]; rfl) afterDispatch_phase turn⟩
      | pause now settled =>
          exact ⟨_, delivery_turned (by rw [here]; rfl) afterRefusal_phase
            (Turn.pause now settled.attempt)⟩
      | fail now failure settled =>
          exact ⟨_, delivery_turned (by rw [here]; rfl) afterRefusal_phase
            (Turn.fail now failure settled.attempt)⟩
  | @sweep worker swept index db result now skipped here more settled =>
      have idle : (s.position worker).phase = .idle := by
        rw [here]
        rfl
      rcases @afterSweep_phase swept index result with next | ⟨error, stops⟩
      · refine ⟨_, delivery_unseen (next.trans idle.symm) ?_⟩
        cases settled with
        | committed returns => exact sweepReminder_gains returns
        | failed fails => exact (Law.gains Fresh).refl _
      · cases settled with
        | committed returns =>
            rename_i value sent
            cases value <;> cases stops
        | failed fails => exact ⟨_, delivery_turned idle (by rw [stops]; rfl) Turn.crash⟩
  | elsewhere adds => exact ⟨_, Step.elsewhere adds⟩

/-! ## What ends a loop -/

def Running (s : LoopSystem) : Prop := ∀ worker error, s.position worker ≠ .stopped error

/-- A message that is out of the hands of its worker: it is tried again, or it
is done with. -/
def Attended (db : Database) (row : OutboxRow) : Prop :=
  ∃ message, (db outboxMessages).find? row.id = some message ∧
    (message.status = .pending ∨ message.status = .completed ∨ message.status = .dead)

/-- No worker stops, and no message is left behind. -/
structure GoesOn (s s' : LoopSystem) : Prop where
  running : Running s'
  attended : ∀ worker row, (s.position worker).row? = some row →
    (s'.position worker).row? = none → Attended s'.db row

/-- The worker still holds the lease of the message. -/
def Holds (db : Database) (worker : String) (row : OutboxRow) : Prop :=
  ∃ message, (db outboxMessages).find? row.id = some message ∧ leased worker message = true

/-- A message is given back under its lease, and a sweep comes upon a reminder
that goes through. -/
def Bearable (runtime : ReminderRuntime) (s : LoopSystem) : LoopEvent → Prop
  | .turn worker => ∀ swept index row error,
      s.position worker = .handling swept index (.refused row error) → Holds s.db worker row
  | .sweep _ now skipped => Sweepable runtime now skipped s.db
  | .elsewhere => True

theorem claim_refused {error : Fault} {runtime : Runtime}
    (fails : (claim runtime now worker skipped).Fails db error) :
    (requireFence "outbox.worker" : Work [outboxMessages] Unit).Fails db error := by
  unfold claim at fails
  rcases fails_bind.mp fails with fence | ⟨_, _, mid, -, later⟩
  · exact fence
  · rcases fails_bind.mp later with swept | ⟨_, _, after, -, later⟩
    · cases swept
    · rw [fails_bind_query] at later
      cases first : earliest ((after outboxMessages).select fun id message =>
          decide (message.attempts < message.maxAttempts) &&
            decide (message.availableAt ≤ runtime.iso now) &&
            (message.status == .pending ||
              staleSince (runtime.iso (now - leaseMs)) message) && !skipped.contains id) with
      | none =>
          simp only [first] at later
          cases later
      | some found =>
          obtain ⟨id, message⟩ := found
          simp only [first] at later
          have there := (Table.mem_select.mp (earliest_mem first)).1
          have total : (updateRow outboxMessages id (fun _ => true)
              (fun message => { message with
                status := .processing, lockedBy := some worker
                lockedAt := some (runtime.iso now), attempts := message.attempts + 1 })
              (.other "claim failed") : Work [outboxMessages] Unit).Returns after () [] _ :=
            returns_updateRow.mpr ⟨⟨message, there, rfl⟩, rfl, rfl⟩
          rcases fails_bind.mp later with refused | ⟨_, _, _, -, refused⟩
          · rw [Fails, total] at refused
            cases refused
          · cases refused

theorem claim_fails {error : Fault} {runtime : Runtime}
    (fails : (claim runtime now worker skipped).Fails db error) : error = .fencePaused :=
  requireFence_fails (claim_refused fails)

theorem claim_total {runtime : Runtime} (opened : fenceOpen "outbox.worker" db = true) :
    ∃ value sent db', (claim runtime now worker skipped).Returns db value sent db' := by
  cases ran : (claim runtime now worker skipped).run db with
  | ok done => exact ⟨done.value, done.sent, done.store, ran⟩
  | error error =>
      have refused := claim_refused ran
      have passes := (@requireFence_returns db db () [] [outboxMessages] "outbox.worker").mpr
        ⟨opened, rfl, rfl⟩
      rw [Fails, passes] at refused
      cases refused

theorem released_settled {change : OutboxMessage → OutboxMessage} {lost : Fault}
    {result : Except Fault Unit}
    (settled : Settled (updateRow outboxMessages row.id (leased worker) change lost :
      Work [outboxMessages] Unit) db result db')
    (released : ∀ old, (change old).status = .pending ∨ (change old).status = .dead) :
    (Holds db worker row ∧ result = .ok () ∧ Attended db' row) ∨
      (¬ Holds db worker row ∧ ∃ error, result = .error error) := by
  cases settled with
  | committed returns =>
      obtain ⟨⟨old, found, held⟩, -, rfl⟩ := returns_updateRow.mp returns
      refine Or.inl ⟨⟨old, found, held⟩, rfl, change old, ?_, ?_⟩
      · rw [Store.put_same]
        exact Table.find?_modify_self _ found
      · rcases released old with pending | dead
        · exact Or.inl pending
        · exact Or.inr (Or.inr dead)
  | failed fails =>
      refine Or.inr ⟨?_, _, rfl⟩
      rintro ⟨message, found, held⟩
      have total : (updateRow outboxMessages row.id (leased worker) change lost :
          Work [outboxMessages] Unit).Returns db () [] _ :=
        returns_updateRow.mpr ⟨⟨message, found, held⟩, rfl, rfl⟩
      rw [Fails, total] at fails
      cases fails

theorem pause_settled {runtime : Runtime} {result : Except Fault Unit}
    (settled : Settled (pause runtime now worker row) db result db') :
    (Holds db worker row ∧ result = .ok () ∧ Attended db' row) ∨
      (¬ Holds db worker row ∧ ∃ error, result = .error error) :=
  released_settled settled fun _ => Or.inl rfl

theorem fail_settled {runtime : Runtime} {error : Fault} {result : Except Fault Unit}
    (settled : Settled (fail runtime now worker row error) db result db') :
    (Holds db worker row ∧ result = .ok () ∧ Attended db' row) ∨
      (¬ Holds db worker row ∧ ∃ error, result = .error error) := by
  apply released_settled settled
  intro old
  cases exhausted row error
  · exact Or.inl rfl
  · exact Or.inr rfl

theorem Finished.attended (finished : Finished worker row db db') : Attended db' row := by
  obtain ⟨message, found, completed⟩ := finished.completed
  exact ⟨message, found, Or.inr (Or.inl completed)⟩

/-- A turn whose errors are caught keeps its message in hand, or it has completed it. -/
theorem caught_turn {runtime : Runtime} {phase phase' : Phase}
    (turn : Turn runtime worker phase db phase' db') (caught : phase.caught = true)
    (goes : phase' ≠ .stopped) (sound : phase.Sound db) (working : phase.row? = some row) :
    phase'.row? = some row ∨ phase' = .idle ∧ Attended db' row := by
  cases turn with
  | start => cases caught
  | crash => exact absurd rfl goes
  | claim => cases caught
  | unreadable => exact Or.inl working
  | deliver =>
      rw [afterDelivery_row]
      exact Or.inl working
  | scan =>
      rw [afterScan_row]
      exact Or.inl working
  | @notify _ _ held payload result now parsed topic attempt =>
      cases working
      cases result with
      | error error => exact Or.inl rfl
      | ok value =>
          refine Or.inr ⟨rfl, ?_⟩
          cases attempt with
          | committed returns =>
              apply (dispatchNotification_returns (sound.1 _ rfl) _ returns).attended
              rw [topic]
              decide
  | @announce _ _ held payload result now parsed topic attempt =>
      cases working
      cases result with
      | error error => exact Or.inl rfl
      | ok value =>
          refine Or.inr ⟨rfl, ?_⟩
          cases attempt with
          | committed returns =>
              apply (dispatchDomainEvent_returns (sound.1 _ rfl) _ returns).attended
              rw [topic]
              decide
  | unknown => exact Or.inl working
  | @record _ _ held payload status result now attempt =>
      cases working
      cases result with
      | error error => exact Or.inl rfl
      | ok value =>
          refine Or.inr ⟨rfl, ?_⟩
          cases attempt with
          | committed returns =>
              apply (recordScan_returns (sound.1 _ rfl) _ returns).attended
              rw [sound.2 _ _ _ rfl]
              decide
  | @complete _ _ held result now attempt =>
      cases working
      cases result with
      | error error => exact Or.inl rfl
      | ok value =>
          refine Or.inr ⟨rfl, ?_⟩
          cases attempt with
          | committed returns => exact (complete_returns returns).attended
  | pause => cases caught
  | fail => cases caught

/-! ## Runs -/

section Runs

variable {s : LoopSystem} {after : Position}

theorem goesOn_update (running : Running s) (runs : ∀ error, after ≠ .stopped error)
    (attended : ∀ row, (s.position worker).row? = some row → after.row? = none → Attended db row) :
    GoesOn s ⟨db, Function.update s.position worker after⟩ := by
  constructor
  · intro other error
    dsimp only
    by_cases here : other = worker
    · subst here
      rw [Function.update_self]
      exact runs error
    · rw [Function.update_of_ne here]
      exact running other error
  · intro other row working done
    dsimp only at done
    by_cases here : other = worker
    · subst here
      rw [Function.update_self] at done
      exact attended row working done
    · rw [Function.update_of_ne here, working] at done
      cases done

theorem GoesOn.runs (goes : GoesOn s ⟨db, Function.update s.position worker after⟩)
    (error : Fault) : after ≠ .stopped error := by
  have running := goes.running worker error
  dsimp only at running
  rwa [Function.update_self] at running

theorem refusal_goesOn {swept : Int} {index : Nat} {error : Fault} {result : Except Fault Unit}
    (running : Running s)
    (here : s.position worker = .handling swept index (.refused row error))
    (settled : (Holds s.db worker row ∧ result = .ok () ∧ Attended db row) ∨
      (¬ Holds s.db worker row ∧ ∃ error, result = .error error)) :
    GoesOn s ⟨db, Function.update s.position worker (.afterRefusal swept index result)⟩ ↔
      Bearable runtime s (.turn worker) := by
  rcases settled with ⟨holds, rfl, attended⟩ | ⟨lost, lostError, rfl⟩
  · apply iff_of_true
    · apply goesOn_update running
      · intro other stops
        cases stops
      · intro held working _
        rw [here] at working
        cases working
        exact attended
    · intro swept' index' row' error' same
      rw [here] at same
      cases same
      exact holds
  · apply iff_of_false
    · exact fun goes => goes.runs lostError rfl
    · exact fun bearable => lost (bearable _ _ _ _ here)

theorem turn_goesOn (running : Running s) (runs : ∀ error, after ≠ .stopped error)
    (attended : ∀ row, (s.position worker).row? = some row → after.row? = none → Attended db row)
    (kept : ∀ swept index row error,
      s.position worker ≠ .handling swept index (.refused row error)) :
    GoesOn s ⟨db, Function.update s.position worker after⟩ ↔ Bearable runtime s (.turn worker) :=
  iff_of_true (goesOn_update running runs attended)
    fun swept index row error here => absurd here (kept swept index row error)

theorem afterClaim_runs {swept : Int} {index : Nat} {result : Except Fault (Option OutboxRow)}
    (paused : ∀ error, result = .error error → error = .fencePaused) (error : Fault) :
    Position.afterClaim swept index result ≠ .stopped error := by
  cases result with
  | ok claimed => cases claimed <;> exact Position.noConfusion
  | error refused =>
      rw [paused refused rfl]
      exact Position.noConfusion

theorem afterDispatch_runs {swept : Int} {index : Nat} {phase : Phase} (error : Fault) :
    Position.afterDispatch swept index phase ≠ .stopped error := by
  cases phase <;> exact Position.noConfusion

theorem afterDispatch_row {swept : Int} {index : Nat} {phase : Phase}
    (free : (Position.afterDispatch swept index phase).row? = none) : phase.row? = none := by
  cases phase with
  | idle => rfl
  | _ => exact free

theorem loopTurn_goesOn {turned : Position} (turn : LoopTurn runtime worker (s.position worker)
      s.db turned db) (sound : s.delivery.Sound) (running : Running s) :
    GoesOn s ⟨db, Function.update s.position worker turned⟩ ↔
      Bearable runtime s (.turn worker) := by
  have known := sound.phases worker
  change Phase.Sound s.db (s.position worker).phase at known
  generalize here : s.position worker = before at turn known
  have idle : before.row? = none → ∀ {after : Position}, (∀ error, after ≠ .stopped error) →
      (GoesOn s ⟨db, Function.update s.position worker after⟩ ↔
        Bearable runtime s (.turn worker)) := by
    intro none after runs
    apply turn_goesOn running runs
    · intro row working
      rw [here, none] at working
      cases working
    · intro swept index row error same
      rw [← here, same] at none
      cases none
  cases turn with
  | early => exact idle rfl fun _ => Position.noConfusion
  | sweeps => exact idle rfl fun _ => Position.noConfusion
  | swept => exact idle rfl fun _ => Position.noConfusion
  | drained => exact idle rfl fun _ => Position.noConfusion
  | claim now skipped more settled =>
      apply idle rfl
      apply afterClaim_runs
      intro error refused
      subst refused
      cases settled with
      | failed fails => exact claim_fails fails
  | @dispatch _ _ swept index phase phase' caught goes turn =>
      apply turn_goesOn running afterDispatch_runs
      · intro row working free
        rw [here] at working
        rcases caught_turn turn caught goes known working with kept | ⟨-, attended⟩
        · rw [afterDispatch_row free] at kept
          cases kept
        · exact attended
      · intro swept' index' row error same
        rw [here] at same
        cases same
        cases caught
  | pause now settled => exact refusal_goesOn running here (pause_settled settled)
  | fail now failure settled => exact refusal_goesOn running here (fail_settled settled)

theorem sweep_goesOn {swept : Int} {index : Nat} {result : Except Fault Bool}
    (here : s.position worker = .sweeping swept index)
    (settled : Settled (sweepReminder runtime now skipped) s.db result db) (running : Running s) :
    GoesOn s ⟨db, Function.update s.position worker (.afterSweep swept index result)⟩ ↔
      Sweepable runtime now skipped s.db := by
  have goes : (∀ error, Position.afterSweep swept index result ≠ .stopped error) →
      GoesOn s ⟨db, Function.update s.position worker (.afterSweep swept index result)⟩ := by
    intro runs
    apply goesOn_update running runs
    intro row working
    rw [here] at working
    cases working
  rw [← sweepReminder_fails_iff]
  cases settled with
  | @committed value _ _ returns =>
      apply iff_of_true
      · apply goes
        cases value <;> exact fun _ => Position.noConfusion
      · intro error fails
        rw [Fails, returns] at fails
        cases fails
  | @failed error fails =>
      constructor
      · intro on other failsOther
        rw [Fails, fails] at failsOther
        cases failsOther
        cases error with
        | fencePaused => rfl
        | permanent code => exact absurd rfl (on.runs (.permanent code))
        | other message => exact absurd rfl (on.runs (.other message))
      · intro paused
        apply goes
        rw [paused error fails]
        exact fun _ => Position.noConfusion

theorem loopStep_goesOn {s' : LoopSystem} {event : LoopEvent} (step : LoopStep runtime s event s')
    (sound : s.delivery.Sound) (running : Running s) :
    GoesOn s s' ↔ Bearable runtime s event := by
  cases step with
  | turn turn => exact loopTurn_goesOn turn sound running
  | sweep now skipped here more settled => exact sweep_goesOn here settled running
  | elsewhere adds =>
      refine iff_of_true ⟨running, fun worker row working none => ?_⟩ trivial
      rw [working] at none
      cases none

/-- Along a run every loop goes on exactly when each message that is given back
is still under its lease and each reminder that a sweep comes upon goes through. -/
theorem loops_go_on_iff {s' : LoopSystem} {events : List LoopEvent} (sound : s.delivery.Sound)
    (running : Running s) :
    Run (fun a event b => LoopStep runtime a event b ∧ GoesOn a b) s events s' ↔
      Run (fun a event b => LoopStep runtime a event b ∧ Bearable runtime a event) s events s' := by
  apply Run.iff_under fun s => s.delivery.Sound ∧ Running s
  · rintro a event b step goes ⟨sound, -⟩
    obtain ⟨actor, step⟩ := loopStep_refines step
    exact ⟨step_sound step sound, goes.running⟩
  · rintro a event b step ⟨sound, running⟩
    exact loopStep_goesOn step sound running
  · exact ⟨sound, running⟩

end Runs

/-! ## Replays -/

def settle {α : Type} {writes : List WorkerTable} (m : Work writes α) (db : Database) :
    Except Fault α × Database :=
  match m.run db with
  | .ok done => (.ok done.value, done.store)
  | .error error => (.error error, db)

theorem settle_settled {α : Type} {writes : List WorkerTable} (m : Work writes α) (db : Database) :
    Settled m db (settle m db).1 (settle m db).2 := by
  unfold settle
  cases ran : m.run db with
  | ok done => exact Settled.committed ran
  | error error => exact Settled.failed ran

inductive Move
  | check (worker : String) (now : Int)
  | sweep (worker : String) (now : Int)
  | claim (worker : String) (now : Int)
  | unknown (worker : String)
  | fail (worker : String) (now : Int)

def LoopSystem.moved (s : LoopSystem) (worker : String) (position : Position) (db : Database) :
    LoopSystem :=
  ⟨db, Function.update s.position worker position⟩

/-- The moves of a loop that never has a fence paused and that knows no topic. -/
def move (runtime : ReminderRuntime) (s : LoopSystem) : Move → Option (LoopEvent × LoopSystem)
  | .check worker now =>
      match s.position worker with
      | .waiting swept => some (.turn worker,
          if now - swept < reminderSweepMs then s.moved worker (.draining swept 0) s.db
          else s.moved worker (.sweeping now 0) s.db)
      | _ => none
  | .sweep worker now =>
      match s.position worker with
      | .sweeping swept index =>
          if index < maxBatch then
            let settled := settle (sweepReminder runtime now []) s.db
            some (.sweep worker now [],
              s.moved worker (.afterSweep swept index settled.1) settled.2)
          else none
      | _ => none
  | .claim worker now =>
      match s.position worker with
      | .draining swept index =>
          if index < maxBatch then
            let settled := settle (claim runtime.toRuntime now worker []) s.db
            some (.turn worker, s.moved worker (.afterClaim swept index settled.1) settled.2)
          else none
      | _ => none
  | .unknown worker =>
      match s.position worker with
      | .handling swept index (.claimed row) =>
          match parsePayload runtime.toRuntime row.payloadJson with
          | .ok _ =>
              if row.topic ∉ ["email.deliver", "sms.deliver", "file.scan",
                  "notification.dispatch", "domain.event"] then
                some (.turn worker, s.moved worker
                  (.handling swept index (.refused row (.permanent "UNKNOWN_TOPIC"))) s.db)
              else none
          | .error _ => none
      | _ => none
  | .fail worker now =>
      match s.position worker with
      | .handling swept index (.refused row error) =>
          if error ≠ .fencePaused then
            let settled := settle (fail runtime.toRuntime now worker row error) s.db
            some (.turn worker, s.moved worker (.afterRefusal swept index settled.1) settled.2)
          else none
      | _ => none

theorem move_step {s s' : LoopSystem} {event : LoopEvent} {here : Move}
    (moves : move runtime s here = some (event, s')) : LoopStep runtime s event s' := by
  cases here with
  | check worker now =>
      unfold move at moves
      cases at_ : s.position worker with
      | waiting swept =>
          simp only [at_, Option.some.injEq, Prod.mk.injEq] at moves
          obtain ⟨rfl, rfl⟩ := moves
          by_cases recent : now - swept < reminderSweepMs
          · rw [if_pos recent]
            apply LoopStep.turn
            rw [at_]
            exact LoopTurn.early now recent
          · rw [if_neg recent]
            apply LoopStep.turn
            rw [at_]
            exact LoopTurn.sweeps now (Int.not_lt.mp recent)
      | _ => simp [at_] at moves
  | sweep worker now =>
      unfold move at moves
      cases at_ : s.position worker with
      | sweeping swept index =>
          by_cases more : index < maxBatch
          · simp only [at_, more, if_true, Option.some.injEq, Prod.mk.injEq] at moves
            obtain ⟨rfl, rfl⟩ := moves
            exact LoopStep.sweep now [] at_ more (settle_settled _ _)
          · simp [at_, more] at moves
      | _ => simp [at_] at moves
  | claim worker now =>
      unfold move at moves
      cases at_ : s.position worker with
      | draining swept index =>
          by_cases more : index < maxBatch
          · simp only [at_, more, if_true, Option.some.injEq, Prod.mk.injEq] at moves
            obtain ⟨rfl, rfl⟩ := moves
            apply LoopStep.turn
            rw [at_]
            exact LoopTurn.claim now [] more (settle_settled _ _)
          · simp [at_, more] at moves
      | _ => simp [at_] at moves
  | unknown worker =>
      unfold move at moves
      cases at_ : s.position worker with
      | handling swept index phase =>
          cases phase with
          | claimed row =>
              cases parsed : parsePayload runtime.toRuntime row.payloadJson with
              | error error => simp [at_, parsed] at moves
              | ok payload =>
                  simp only [at_, parsed] at moves
                  split at moves
                  · rename_i topic
                    simp only [Option.some.injEq, Prod.mk.injEq] at moves
                    obtain ⟨rfl, rfl⟩ := moves
                    apply LoopStep.turn
                    rw [at_]
                    exact LoopTurn.dispatch rfl Phase.noConfusion (Turn.unknown parsed topic)
                  · cases moves
          | _ => simp [at_] at moves
      | _ => simp [at_] at moves
  | fail worker now =>
      unfold move at moves
      cases at_ : s.position worker with
      | handling swept index phase =>
          cases phase with
          | refused row error =>
              by_cases failure : error = .fencePaused
              · simp [at_, failure] at moves
              · simp only [at_, ne_eq, failure, not_false_eq_true, if_true, Option.some.injEq,
                  Prod.mk.injEq] at moves
                obtain ⟨rfl, rfl⟩ := moves
                apply LoopStep.turn
                rw [at_]
                exact LoopTurn.fail now failure (settle_settled _ _)
          | _ => simp [at_] at moves
      | _ => simp [at_] at moves

/-- A replay stops where a step is not allowed. -/
def moves (runtime : ReminderRuntime) (allows : LoopSystem → LoopEvent → Bool) :
    List Move → LoopSystem → Option (List LoopEvent × LoopSystem)
  | [], s => some ([], s)
  | first :: rest, s =>
      match move runtime s first with
      | none => none
      | some (event, mid) =>
          if allows s event then
            (moves runtime allows rest mid).map fun later => (event :: later.1, later.2)
          else none

theorem moves_run {allows : LoopSystem → LoopEvent → Bool} {list : List Move} {s s' : LoopSystem}
    {events : List LoopEvent} (moved : moves runtime allows list s = some (events, s')) :
    Run (fun a event b => LoopStep runtime a event b ∧ allows a event = true) s events s' := by
  induction list generalizing s events with
  | nil =>
      cases moved
      exact Run.done
  | cons first rest ih =>
      unfold moves at moved
      cases here : move runtime s first with
      | none => simp [here] at moved
      | some outcome =>
          obtain ⟨event, mid⟩ := outcome
          simp only [here] at moved
          by_cases allowed : allows s event = true
          · simp only [allowed, if_true, Option.map_eq_some_iff, Prod.mk.injEq] at moved
            obtain ⟨later, after, rfl, rfl⟩ := moved
            exact Run.next ⟨move_step here, allowed⟩ (ih after)
          · simp [allowed] at moved

theorem moves_reaches (runtime : ReminderRuntime) (allows : LoopSystem → LoopEvent → Bool)
    (list : List Move) (s : LoopSystem) (seen : LoopSystem → Bool)
    (passes : (moves runtime allows list s).any (fun r => seen r.2) = true) :
    ∃ events s', Run (fun a event b => LoopStep runtime a event b ∧ allows a event = true)
      s events s' ∧ seen s' = true := by
  obtain ⟨⟨events, s'⟩, moved, holds⟩ := (Option.any_eq_true _ _).mp passes
  exact ⟨events, s', moves_run moved, holds⟩

def holds (db : Database) (worker : String) : Position → Bool
  | .handling _ _ (.refused row _) =>
      ((db outboxMessages).find? row.id).any (leased worker)
  | _ => true

/-- `Bearable`, seen by running the sweep. -/
def bears (runtime : ReminderRuntime) (s : LoopSystem) : LoopEvent → Bool
  | .turn worker => holds s.db worker (s.position worker)
  | .sweep _ now skipped => ((sweepReminder runtime now skipped).run s.db).toBool
  | .elsewhere => true

theorem bears_bearable {s : LoopSystem} {event : LoopEvent} (passes : bears runtime s event = true) :
    Bearable runtime s event := by
  cases event with
  | turn worker =>
      intro swept index row error here
      rw [bears, here, holds] at passes
      obtain ⟨message, found, held⟩ := (Option.any_eq_true _ _).mp passes
      exact ⟨message, found, held⟩
  | sweep worker now skipped =>
      apply sweepReminder_fails_iff.mp
      intro error fails
      rw [bears, fails] at passes
      cases passes
  | elsewhere => trivial

/-! ### Two workers and one message -/

/-- Three times five minutes apart, each with a text that is later in order. -/
def steppedRuntime : ReminderRuntime where
  iso now := if now < 0 then "0" else if now ≤ 300000 then "1" else "2"
  datetime _ := "1"
  parse text :=
    if text = "\x7b\x7d" then some (.object []) else if text = "[]" then some (.array []) else none
  stringify _ := "\x7b\x7d"
  safeInteger _ := none
  sha256 text := text
  time _ := none
  oversized _ _ := false

def unknownMessage : OutboxMessage where
  topic := "carrier.book"
  aggregateType := "shipment"
  aggregateId := "1"
  deduplicationKey := "carrier.book:1"
  payloadJson := "\x7b\x7d"
  availableAt := "1"

/-- A reminder for nobody; `roles` is the text of its recipient roles. -/
def reminderFor (roles : String) : ReminderSchedule where
  reminderType := "purchase_order_confirmation"
  entityType := "purchase_order"
  entityId := 1
  businessNo := none
  dueAt := "1"
  nextRunAt := "2"
  recurrence := "none"
  recipientRoleJson := roles
  recipientUserIdsJson := "[]"
  severity := "yellow"
  status := .active
  lastRunAt := none

/-- Both fences are open, one message waits, and so does one reminder. -/
def loopDatabase (roles : String) : Database
  | .writerFences => (Table.empty.insert ⟨"outbox.worker", writerOwner, writerGeneration, true⟩).insert
      ⟨"reminders.worker", writerOwner, writerGeneration, true⟩
  | .outboxMessages => Table.empty.insert unknownMessage
  | .reminderSchedules => Table.empty.insert (reminderFor roles)
  | _ => Table.empty

def loopSystem (roles : String) : LoopSystem := ⟨loopDatabase roles, fun _ => .waiting 0⟩

theorem loopSystem_sound {roles : String} : (loopSystem roles).delivery.Sound := by
  constructor
  · intro id message found
    rw [Table.find?_single found]
    exact Fresh.kept ⟨rfl, rfl⟩
  · exact fun worker => Phase.Sound.of_none rfl

theorem loopSystem_running {roles : String} : Running (loopSystem roles) :=
  fun _ _ => Position.noConfusion

def stops (worker : String) (error : Fault) (s : LoopSystem) : Bool :=
  match s.position worker with
  | .stopped other => other == error
  | _ => false

theorem stops_stopped {error : Fault} {s : LoopSystem} (seen : stops worker error s = true) :
    s.position worker = .stopped error := by
  unfold stops at seen
  cases here : s.position worker with
  | stopped other =>
      rw [here] at seen
      rw [beq_iff_eq.mp seen]
  | _ => simp [here] at seen

/-- Both fences are open. -/
def available (s : LoopSystem) : Bool :=
  fenceOpen "outbox.worker" s.db && fenceOpen "reminders.worker" s.db

/-- A sweep, a message of an unknown topic that ends dead, and the loop goes on. -/
theorem loops_go_on_unknown : ∃ events s',
    Run (fun a event b => LoopStep steppedRuntime a event b ∧ GoesOn a b) (loopSystem "[]")
      events s' ∧ (((s'.db outboxMessages).find? 1).any fun message =>
        message.status == .dead) = true := by
  obtain ⟨events, s', run, dead⟩ := moves_reaches steppedRuntime (bears steppedRuntime)
    [.check "worker-1" 700000, .sweep "worker-1" 700000, .sweep "worker-1" 700000,
      .claim "worker-1" 700000, .unknown "worker-1", .fail "worker-1" 700000] (loopSystem "[]")
    (fun s => ((s.db outboxMessages).find? 1).any fun message => message.status == .dead)
    (by decide +kernel)
  refine ⟨events, s', ?_, dead⟩
  apply (loops_go_on_iff loopSystem_sound loopSystem_running).mpr
  exact run.imp fun step => ⟨step.1, bears_bearable step.2⟩

/-- With both fences open throughout, a worker whose lease has been taken over
stops as it gives its message back, and any worker stops at a reminder whose roles
are no list. -/
theorem loops_stop :
    (∃ events s', Run (fun a event b => LoopStep steppedRuntime a event b ∧ available a = true)
      (loopSystem "[]") events s' ∧
        s'.position "worker-1" = .stopped (.other "outbox failure lease lost")) ∧
    ∃ events s', Run (fun a event b => LoopStep steppedRuntime a event b ∧ available a = true)
      (loopSystem "supply_chain") events s' ∧
        s'.position "worker-1" = .stopped (.permanent "INVALID_REMINDER") := by
  constructor
  · obtain ⟨events, s', run, seen⟩ := moves_reaches steppedRuntime (fun s _ => available s)
      [.check "worker-1" 0, .claim "worker-1" 0, .check "worker-2" 700000,
        .sweep "worker-2" 700000, .sweep "worker-2" 700000, .claim "worker-2" 700000,
        .unknown "worker-1", .fail "worker-1" 700000] (loopSystem "[]")
      (stops "worker-1" (.other "outbox failure lease lost")) (by decide +kernel)
    exact ⟨events, s', run, stops_stopped seen⟩
  · obtain ⟨events, s', run, seen⟩ := moves_reaches steppedRuntime (fun s _ => available s)
      [.check "worker-1" 700000, .sweep "worker-1" 700000] (loopSystem "supply_chain")
      (stops "worker-1" (.permanent "INVALID_REMINDER")) (by decide +kernel)
    exact ⟨events, s', run, stops_stopped seen⟩

end SupplyChain.Worker
