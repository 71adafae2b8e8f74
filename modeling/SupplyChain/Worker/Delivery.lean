import SupplyChain.Worker
import SupplyChain.Relational.Frames

/-!
Delivery by any number of workers whose turns interleave with each other, with
crashes and with the transactions of the rest of the system. What one turn does to
the outbox is said once, in `Outcome`; what holds of every run follows from it.
-/

namespace SupplyChain.Worker

open Relational Transaction WorkerTable

variable {runtime : Runtime} {worker : String} {db db' mid : Database} {row : OutboxRow} {now : Int}

/-! ## The whole system -/

structure System where
  db : Database
  phase : String → Phase

inductive Actor
  | worker (id : String)
  | elsewhere

/-- What an insert into the outbox writes. -/
def Fresh (message : OutboxMessage) : Prop :=
  message.status = .pending ∧ message.attempts = 0

inductive Step (runtime : Runtime) : System → Actor → System → Prop
  | worker {s : System} {id : String} {phase : Phase} {db : Database}
      (turn : Turn runtime id (s.phase id) s.db phase db) :
      Step runtime s (.worker id) { db, phase := Function.update s.phase id phase }
  -- commands, reminders and imports only add to the outbox; other tables are theirs
  | elsewhere {s : System} {db : Database}
      (adds : (Law.gains Fresh).allows (s.db outboxMessages) (db outboxMessages)) :
      Step runtime s .elsewhere { s with db }

def Opens (s : System) : Prop :=
  s.db outboxMessages = Table.empty ∧ ∀ worker, s.phase worker = .unstarted

def OutboxMessage.Final (message : OutboxMessage) : Prop :=
  message.status = .completed ∨ message.status = .dead

/-- The message is completed now and was not before. -/
def Completes (db db' : Database) (id : Nat) : Prop :=
  (∃ message, (db' outboxMessages).find? id = some message ∧ message.status = .completed) ∧
    ∀ message, (db outboxMessages).find? id = some message → message.status ≠ .completed

/-- Something is written besides the columns of messages that were there. -/
def Alters (db db' : Database) : Prop :=
  (∃ table, table ≠ outboxMessages ∧ db' table ≠ db table) ∨
    ∃ id message, (db' outboxMessages).find? id = some message ∧
      (db outboxMessages).find? id = none

/-- What delivery promises in a state that a run has reached and of every step
from there. -/
structure Delivers (runtime : Runtime) (s : System) : Prop where
  bounded : ∀ id message, (s.db outboxMessages).find? id = some message →
    message.attempts ≤ message.maxAttempts
  cleared : ∀ id message, (s.db outboxMessages).find? id = some message →
    message.Final → message.topic = "sms.deliver" → message.payloadJson = redacted
  final : ∀ actor s', Step runtime s actor s' → ∀ id message,
    (s.db outboxMessages).find? id = some message → message.Final →
      (s'.db outboxMessages).find? id = some message
  holder : ∀ actor s', Step runtime s actor s' → ∀ id, Completes s.db s'.db id →
    ∃ worker row message, actor = .worker worker ∧ (s.phase worker).row? = some row ∧
      row.id = id ∧ (s.db outboxMessages).find? id = some message ∧ leased worker message = true
  together : ∀ worker s', Step runtime s (.worker worker) s' → Alters s.db s'.db →
    ∃ row, (s.phase worker).row? = some row ∧ Completes s.db s'.db row.id
  once : ∀ actor s' actors t actor' t', Step runtime s actor s' →
    Run (Step runtime) s' actors t → Step runtime t actor' t' → ∀ id, Completes s.db s'.db id →
      ¬ Completes t.db t'.db id

/-! ## What happens to a message -/

/-- A change of a message that does not complete it. -/
structure Moves (_ : Nat) (old new : OutboxMessage) : Prop where
  topic : new.topic = old.topic
  bounded : old.attempts ≤ old.maxAttempts → new.attempts ≤ new.maxAttempts
  final : old.Final → new = old
  dead : new.Final → new = old ∨
    new.status = .dead ∧ (new.topic = "sms.deliver" → new.payloadJson = redacted)

theorem Moves.refl (id : Nat) (message : OutboxMessage) : Moves id message message where
  topic := rfl
  bounded := fun bound => bound
  final := fun _ => rfl
  dead := fun _ => Or.inl rfl

theorem Moves.trans {id : Nat} {old mid new : OutboxMessage} (first : Moves id old mid)
    (second : Moves id mid new) : Moves id old new where
  topic := second.topic.trans first.topic
  bounded := fun bound => second.bounded (first.bounded bound)
  final := by
    intro final
    have same := first.final final
    rw [← same] at final
    exact (second.final final).trans same
  dead := by
    intro final
    rcases second.dead final with same | dead
    · rw [same] at final ⊢
      exact first.dead final
    · exact Or.inr dead

theorem redact_redacted {message : OutboxMessage} (sms : message.topic = "sms.deliver") :
    redact message = redacted := by
  rw [redact, if_pos sms]

theorem processing_not_final {message : OutboxMessage} (processing : message.status = .processing) :
    ¬ message.Final := by
  rintro (completed | dead)
  · rw [processing] at completed
    cases completed
  · rw [processing] at dead
    cases dead

theorem leased_processing {message : OutboxMessage} (held : leased worker message = true) :
    message.status = .processing := by
  simp only [leased, Bool.and_eq_true, beq_iff_eq] at held
  exact held.1

theorem staleSince_processing {before : String} {message : OutboxMessage}
    (stale : staleSince before message = true) : message.status = .processing := by
  simp only [staleSince, Bool.and_eq_true, beq_iff_eq] at stale
  exact stale.1

theorem earliest_mem {rows : List (Nat × OutboxMessage)} {first : Nat × OutboxMessage}
    (found : earliest rows = some first) : first ∈ rows := by
  induction rows with
  | nil => cases found
  | cons head rest ih =>
      rw [earliest] at found
      cases next : earliest rest with
      | none =>
          rw [next] at found
          cases found
          exact List.mem_cons_self
      | some other =>
          rw [next] at found
          by_cases sooner : other.2.availableAt < head.2.availableAt
          · simp only [if_pos sooner] at found
            cases found
            exact List.mem_cons_of_mem _ (ih next)
          · simp only [if_neg sooner] at found
            cases found
            exact List.mem_cons_self

/-- A change of a message that completes it. -/
structure Finishes (old new : OutboxMessage) : Prop where
  topic : new.topic = old.topic
  attempts : new.attempts = old.attempts
  maxAttempts : new.maxAttempts = old.maxAttempts
  completed : new.status = .completed
  cleared : old.topic = "sms.deliver" → new.payloadJson = redacted

/-- The message of a worker, as it was when its lease was taken. -/
def Known (db : Database) (row : OutboxRow) : Prop :=
  ∃ message, (db outboxMessages).find? row.id = some message ∧ message.topic = row.topic

/-- Everything that a turn can do to the database. -/
inductive Outcome (worker : String) (phase : Phase) (db db' : Database) : Prop
  | idle (same : db' = db)
  | moved (others : ∀ table, table ≠ outboxMessages → db' table = db table)
      (revised : Table.Revises Moves (db outboxMessages) (db' outboxMessages))
  | finished {row : OutboxRow} {grown : Table OutboxMessage} {old : OutboxMessage}
      {change : OutboxMessage → OutboxMessage} (working : phase.row? = some row)
      (gained : (Law.gains Fresh).allows (db outboxMessages) grown)
      (found : grown.find? row.id = some old) (held : leased worker old = true)
      (written : db' outboxMessages = grown.modify row.id change)
      (finishes : Finishes old (change old))

/-- A transaction that completed the message, after it only added to the outbox. -/
inductive Finished (worker : String) (row : OutboxRow) (db db' : Database) : Prop
  | intro {grown : Table OutboxMessage} {old : OutboxMessage}
      {change : OutboxMessage → OutboxMessage}
      (gained : (Law.gains Fresh).allows (db outboxMessages) grown)
      (found : grown.find? row.id = some old) (held : leased worker old = true)
      (written : db' outboxMessages = grown.modify row.id change)
      (finishes : Finishes old (change old)) : Finished worker row db db'

theorem Finished.outcome {phase : Phase} (finished : Finished worker row db db')
    (working : phase.row? = some row) : Outcome worker phase db db' := by
  obtain ⟨gained, found, held, written, finishes⟩ := finished
  exact Outcome.finished working gained found held written finishes

theorem Finished.completed (finished : Finished worker row db db') :
    ∃ message, (db' outboxMessages).find? row.id = some message ∧ message.status = .completed := by
  obtain ⟨gained, found, held, written, finishes⟩ := finished
  exact ⟨_, by rw [written]; exact Table.find?_modify_self _ found, finishes.completed⟩

/-! ## What each transaction does -/

variable {writes : List WorkerTable} {sent : List Empty}

theorem requireFence_reads {resource : String} {u : Unit}
    (returns : (requireFence resource : Work writes Unit).Returns db u sent mid) :
    sent = [] ∧ mid = db := by
  simp only [requireFence, returns_bind_query, returns_bind_orThrow, returns_refuseIf] at returns
  obtain ⟨_, -, -, none, same⟩ := returns
  exact ⟨none, same⟩

theorem recipients_reads {recipient : DomainEventRecipient} {users : List (Nat × User)}
    (returns : (recipients recipient : Work writes _).Returns db users sent mid) :
    sent = [] ∧ mid = db := by
  cases recipient with
  | none => exact (returns_pure.mp returns).2
  | role => exact (returns_query.mp returns).2
  | user => exact (returns_query.mp returns).2
  | entityBinding =>
      simp only [recipients, returns_bind_query, returns_bind_orThrow, returns_bind_refuseIf,
        returns_query] at returns
      obtain ⟨_, -, -, -, none, same⟩ := returns
      exact ⟨none, same⟩

theorem swept_moves {before code : String} {old : OutboxMessage}
    (stale : staleSince before old = true) (id : Nat) :
    Moves id old { old with
      status := .dead, lockedBy := none, lockedAt := none, lastErrorCode := some code,
      payloadJson := redact old } where
  topic := rfl
  bounded := fun bound => bound
  final := fun final => absurd final (processing_not_final (staleSince_processing stale))
  dead := fun _ => Or.inr ⟨rfl, fun sms => redact_redacted sms⟩

theorem taken_moves {since : String} {old : OutboxMessage} (left : old.attempts < old.maxAttempts)
    (unfinished : ¬ old.Final) (id : Nat) :
    Moves id old { old with
      status := .processing, lockedBy := some worker, lockedAt := some since,
      attempts := old.attempts + 1 } where
  topic := rfl
  bounded := fun _ => left
  final := fun final => absurd final unfinished
  dead := fun final => absurd final (processing_not_final rfl)

/-- The sweep and the claim change no table but the outbox, and the claimed
message is the one that the worker gets. -/
theorem claim_returns {skipped : List Nat} {value : Option OutboxRow}
    (returns : (claim runtime now worker skipped).Returns db value sent db') :
    (∀ table, table ≠ outboxMessages → db' table = db table) ∧
      Table.Revises Moves (db outboxMessages) (db' outboxMessages) ∧
        ∀ row, value = some row → Known db' row := by
  rw [claim, returns_bind_of_reads requireFence_reads] at returns
  obtain ⟨_, -, returns⟩ := returns
  simp only [returns_bind_updateWhere, returns_bind_query] at returns
  have swept : Table.Revises Moves (db outboxMessages)
      ((db outboxMessages).update
        (fun _ message => staleSince (runtime.iso (now - leaseMs)) message &&
          decide (message.maxAttempts ≤ message.attempts))
        fun message => { message with
          status := .dead, lockedBy := none, lockedAt := none,
          lastErrorCode := some "LEASE_EXHAUSTED", payloadJson := redact message }) := by
    apply Table.revises_update
    intro id old _
    split
    · next passes => exact swept_moves (Bool.and_eq_true_iff.mp passes).1 id
    · exact Moves.refl id old
  split at returns
  · obtain ⟨rfl, -, rfl⟩ := returns_pure.mp returns
    refine ⟨fun table other => Store.put_other _ _ other, ?_, ?_⟩
    · rw [Store.put_same]
      exact swept
    · rintro row none
      cases none
  · next id message first =>
      simp only [Store.put_same, returns_bind_updateRow, returns_pure] at returns
      obtain ⟨-, rfl, -, rfl⟩ := returns
      obtain ⟨found, passes⟩ := Table.mem_select.mp (earliest_mem first)
      simp only [Store.put_same, Bool.and_eq_true, decide_eq_true_eq, Bool.or_eq_true,
        beq_iff_eq] at found passes
      obtain ⟨⟨⟨left, -⟩, open_⟩, -⟩ := passes
      have unfinished : ¬ message.Final := by
        rcases open_ with pending | stale
        · rintro (completed | dead)
          · rw [pending] at completed
            cases completed
          · rw [pending] at dead
            cases dead
        · exact processing_not_final (staleSince_processing stale)
      refine ⟨?_, ?_, ?_⟩
      · intro table other
        rw [Store.put_other _ _ other, Store.put_other _ _ other]
      · simp only [Store.put_same]
        refine swept.trans (Table.revises_modify ?_ ?_) fun _ _ _ _ => Moves.trans
        · intro old foundOld
          rw [found] at foundOld
          cases foundOld
          exact taken_moves left unfinished id
        · exact fun key old _ => Moves.refl key old
      · rintro row same
        cases same
        simp only [Known, Store.put_same]
        exact ⟨_, Table.find?_modify_self _ found, rfl⟩

/-- A guarded update by the holder of the lease that gives the message back. -/
theorem released_moves {change : OutboxMessage → OutboxMessage} {u : Unit} {error : Fault}
    (returns : (updateRow outboxMessages row.id (leased worker) change error :
      Work [outboxMessages] Unit).Returns db u sent db')
    (moves : ∀ old, leased worker old = true → Moves row.id old (change old)) :
    (∀ table, table ≠ outboxMessages → db' table = db table) ∧
      Table.Revises Moves (db outboxMessages) (db' outboxMessages) := by
  obtain ⟨⟨old, found, held⟩, -, rfl⟩ := returns_updateRow.mp returns
  constructor
  · exact fun table other => Store.put_other _ _ other
  · rw [Store.put_same]
    apply Table.revises_modify
    · intro other foundOther
      rw [found] at foundOther
      cases foundOther
      exact moves old held
    · exact fun key old _ => Moves.refl key old

theorem pause_returns {u : Unit} (returns : (pause runtime now worker row).Returns db u sent db') :
    (∀ table, table ≠ outboxMessages → db' table = db table) ∧
      Table.Revises Moves (db outboxMessages) (db' outboxMessages) := by
  apply released_moves returns
  intro old held
  have unfinished := processing_not_final (leased_processing held)
  constructor
  · rfl
  · exact fun bound => Nat.le_trans (Nat.sub_le _ _) bound
  · exact fun final => absurd final unfinished
  · rintro (completed | dead)
    · cases completed
    · cases dead

theorem fail_returns {error : Fault} {u : Unit}
    (returns : (fail runtime now worker row error).Returns db u sent db') :
    (∀ table, table ≠ outboxMessages → db' table = db table) ∧
      Table.Revises Moves (db outboxMessages) (db' outboxMessages) := by
  apply released_moves returns
  intro old held
  have unfinished := processing_not_final (leased_processing held)
  constructor
  · rfl
  · exact fun bound => bound
  · exact fun final => absurd final unfinished
  · cases exhausted row error with
    | true => exact fun _ => Or.inr ⟨rfl, fun sms => redact_redacted sms⟩
    | false =>
        rintro (completed | dead)
        · cases completed
        · cases dead

/-- A dispatch ends with the completion of its message: what it added to the
outbox before is pending, so the message that is completed was there. -/
theorem completeLease_finishes {u : Unit} (known : Known db row) (topic : row.topic ≠ "sms.deliver")
    (gained : (Law.gains Fresh).allows (db outboxMessages) (mid outboxMessages))
    [Writes outboxMessages writes]
    (returns : (completeLease runtime now worker row : Work writes Unit).Returns mid u sent db') :
    Finished worker row db db' := by
  obtain ⟨⟨old, found, held⟩, -, rfl⟩ := returns_updateRow.mp returns
  obtain ⟨message, foundMessage, same⟩ := known
  obtain ⟨kept, foundKept, unchanged⟩ := gained.1.kept row.id message foundMessage
  rw [found] at foundKept
  cases foundKept
  cases unchanged
  apply Finished.intro gained found held
  · rw [Store.put_same]
  · constructor
    · rfl
    · rfl
    · rfl
    · rfl
    · exact fun sms => absurd (same.symm.trans sms) topic

theorem dispatchDomainEvent_returns {payload : JsonValue} {u : Unit}
    (known : Known db row) (topic : row.topic ≠ "sms.deliver")
    (returns : (dispatchDomainEvent runtime now worker row payload).Returns db u sent db') :
    Finished worker row db db' := by
  rw [dispatchDomainEvent, returns_bind_ofExcept] at returns
  obtain ⟨event, -, returns⟩ := returns
  rw [returns_bind_of_reads requireFence_reads] at returns
  obtain ⟨_, -, returns⟩ := returns
  rw [returns_bind_of_reads recipients_reads] at returns
  obtain ⟨users, -, returns⟩ := returns
  obtain ⟨_, _, mid, _, loop, returns, -⟩ := returns_bind.mp returns
  apply completeLease_finishes known topic _ returns
  apply forEach_preserves (fun s s' => (Law.gains Fresh).allows (s outboxMessages)
    (s' outboxMessages)) (fun s => (Law.gains Fresh).refl _) (Law.gains Fresh).trans _ loop
  intro user _ s first s' inserts
  obtain ⟨-, rfl⟩ := returns_insertRow.mp inserts
  rw [Store.put_other _ _ (by decide)]
  exact (Law.gains Fresh).refl _

/-- One user gets both messages and the queued e-mail, or nothing again. -/
theorem notifyUser_gains {type : String} {aggregateId : Nat} {user : Nat × User} {u : Unit}
    (returns : (notifyUser runtime now row type aggregateId user).Returns db u sent db') :
    (Law.gains Fresh).allows (db outboxMessages) (db' outboxMessages) := by
  simp only [notifyUser, returns_bind_query] at returns
  rcases returns_whenever.mp returns with ⟨-, inserts⟩ | ⟨-, -, rfl⟩
  · simp only [returns_bind_insertRow, returns_bind_insertInto, returns_insertRow] at inserts
    obtain ⟨-, rfl⟩ := inserts
    rw [Store.put_same]
    exact Law.gains_insert _ ⟨rfl, rfl⟩
  · exact (Law.gains Fresh).refl _

theorem dispatchNotification_returns {payload : JsonValue} {u : Unit}
    (known : Known db row) (topic : row.topic ≠ "sms.deliver")
    (returns : (dispatchNotification runtime now worker row payload).Returns db u sent db') :
    Finished worker row db db' := by
  simp only [dispatchNotification, returns_bind_ofExcept, returns_bind_orThrow] at returns
  obtain ⟨role, -, type, -, aggregateId, -, returns⟩ := returns
  rw [returns_bind_of_reads requireFence_reads] at returns
  obtain ⟨_, -, returns⟩ := returns
  rw [returns_bind_query] at returns
  obtain ⟨_, _, mid, _, loop, returns, -⟩ := returns_bind.mp returns
  apply completeLease_finishes known topic _ returns
  apply forEach_preserves (fun s s' => (Law.gains Fresh).allows (s outboxMessages)
    (s' outboxMessages)) (fun s => (Law.gains Fresh).refl _) (Law.gains Fresh).trans _ loop
  exact fun user _ _ _ _ notifies => notifyUser_gains notifies

theorem recordScan_returns {payload : JsonValue} {status : ScanStatus} {u : Unit}
    (known : Known db row) (topic : row.topic ≠ "sms.deliver")
    (returns : (recordScan runtime now worker row payload status).Returns db u sent db') :
    Finished worker row db db' := by
  rw [recordScan, returns_bind_of_reads requireFence_reads] at returns
  obtain ⟨_, -, returns⟩ := returns
  simp only [returns_bind_orThrow, returns_bind_updateRow, returns_bind_insertRow] at returns
  obtain ⟨fileId, -, -, returns⟩ := returns
  apply completeLease_finishes known topic _ returns
  rw [Store.put_other _ _ (by decide), Store.put_other _ _ (by decide)]
  exact (Law.gains Fresh).refl _

theorem complete_returns {u : Unit} 
    (returns : (complete runtime now worker row).Returns db u sent db') :
    Finished worker row db db' := by
  rw [complete, returns_bind_of_reads requireFence_reads] at returns
  obtain ⟨_, -, returns⟩ := returns
  simp only [returns_bind_ofExcept, returns_bind_updateRow] at returns
  obtain ⟨payload, -, ⟨old, found, held⟩, returns⟩ := returns
  have written : db' outboxMessages = (db outboxMessages).modify row.id fun message =>
      { message with
        status := .completed, completedAt := some (runtime.iso now), lockedBy := none,
        lockedAt := none, lastErrorCode := none, payloadJson := redact message } := by
    rcases returns_whenever.mp returns with ⟨-, marks⟩ | ⟨-, -, rfl⟩
    · obtain ⟨-, rfl⟩ := returns_updateWhere.mp marks
      rw [Store.put_other _ _ (by decide), Store.put_same]
    · rw [Store.put_same]
  apply Finished.intro ((Law.gains Fresh).refl _) found held written
  constructor
  · rfl
  · rfl
  · rfl
  · rfl
  · exact fun sms => redact_redacted sms

/-! ## What a turn does -/

theorem Attempt.ends {α : Type} {m : Work writes α} {result : Except Fault α}
    {holds : Database → Prop} (attempt : Attempt m db result db') (idle : holds db)
    (commits : ∀ value sent mid, m.Returns db value sent mid → holds mid) : holds db' := by
  cases attempt with
  | committed returns => exact commits _ _ _ returns
  | unacknowledged message returns => exact commits _ _ _ returns
  | failed fails => exact idle
  | disconnected message => exact idle

/-- What a worker knows: its message has the topic that was claimed, and only
file scans wait to be recorded. -/
def Phase.Sound (db : Database) (phase : Phase) : Prop :=
  (∀ row, phase.row? = some row → Known db row) ∧
    ∀ row payload status, phase = .scanned row payload status → row.topic = "file.scan"

theorem turn_outcome {phase phase' : Phase} (turn : Turn runtime worker phase db phase' db')
    (sound : phase.Sound db) : Outcome worker phase db db' := by
  cases turn with
  | start => exact Outcome.idle rfl
  | crash => exact Outcome.idle rfl
  | claim now skipped attempt =>
      apply attempt.ends (Outcome.idle rfl)
      intro value sent mid returns
      obtain ⟨others, revised, -⟩ := claim_returns returns
      exact Outcome.moved others revised
  | unreadable => exact Outcome.idle rfl
  | deliver parsed topic attempt answer =>
      apply attempt.ends (Outcome.idle rfl)
      exact fun value sent mid returns => Outcome.idle (requireFence_reads returns).2
  | scan parsed topic attempt answer =>
      apply attempt.ends (Outcome.idle rfl)
      exact fun value sent mid returns => Outcome.idle (requireFence_reads returns).2
  | notify now parsed topic attempt =>
      apply attempt.ends (Outcome.idle rfl)
      intro value sent mid returns
      apply (dispatchNotification_returns (sound.1 _ rfl) _ returns).outcome rfl
      rw [topic]
      decide
  | announce now parsed topic attempt =>
      apply attempt.ends (Outcome.idle rfl)
      intro value sent mid returns
      apply (dispatchDomainEvent_returns (sound.1 _ rfl) _ returns).outcome rfl
      rw [topic]
      decide
  | unknown => exact Outcome.idle rfl
  | record now attempt =>
      apply attempt.ends (Outcome.idle rfl)
      intro value sent mid returns
      apply (recordScan_returns (sound.1 _ rfl) _ returns).outcome rfl
      rw [sound.2 _ _ _ rfl]
      decide
  | complete now attempt =>
      apply attempt.ends (Outcome.idle rfl)
      exact fun value sent mid returns => (complete_returns returns).outcome rfl
  | pause now attempt =>
      apply attempt.ends (Outcome.idle rfl)
      intro value sent mid returns
      exact Outcome.moved (pause_returns returns).1 (pause_returns returns).2
  | fail now failure attempt =>
      apply attempt.ends (Outcome.idle rfl)
      intro value sent mid returns
      exact Outcome.moved (fail_returns returns).1 (fail_returns returns).2

/-! ## What a run preserves -/

variable {phase phase' : Phase}

theorem fresh_not_leased {message : OutboxMessage} (fresh : Fresh message) :
    ¬ leased worker message = true := by
  intro held
  have processing := leased_processing held
  rw [fresh.1] at processing
  cases processing

/-- A message stays, moved or finished by the worker that holds its lease. -/
theorem Outcome.forward (outcome : Outcome worker phase db db') {id : Nat} {old : OutboxMessage}
    (found : (db outboxMessages).find? id = some old) :
    ∃ new, (db' outboxMessages).find? id = some new ∧ (Moves id old new ∨
      ∃ row, phase.row? = some row ∧ row.id = id ∧ leased worker old = true ∧
        Finishes old new) := by
  cases outcome with
  | idle same =>
      rw [same]
      exact ⟨old, found, Or.inl (Moves.refl id old)⟩
  | moved others revised =>
      obtain ⟨new, foundNew, moves⟩ := revised.forward found
      exact ⟨new, foundNew, Or.inl moves⟩
  | @finished row grown held change working gained foundHeld lease written finishes =>
      obtain ⟨kept, foundKept, same⟩ := gained.1.kept _ _ found
      cases same
      rw [written]
      by_cases here : id = row.id
      · subst here
        rw [foundKept] at foundHeld
        cases foundHeld
        exact ⟨_, Table.find?_modify_self _ foundKept, Or.inr ⟨row, working, rfl, lease, finishes⟩⟩
      · rw [Table.find?_modify_ne _ _ here]
        exact ⟨old, foundKept, Or.inl (Moves.refl id old)⟩

theorem Outcome.backward (outcome : Outcome worker phase db db') {id : Nat} {new : OutboxMessage}
    (found : (db' outboxMessages).find? id = some new) :
    (∃ old, (db outboxMessages).find? id = some old) ∨ Fresh new := by
  cases outcome with
  | idle same =>
      rw [same] at found
      exact Or.inl ⟨new, found⟩
  | moved others revised =>
      obtain ⟨old, foundOld, -⟩ := revised.backward found
      exact Or.inl ⟨old, foundOld⟩
  | @finished row grown held change working gained foundHeld lease written finishes =>
      rw [written] at found
      rcases Table.find?_modify_cases found with ⟨rfl, old, before, -⟩ | ⟨-, before⟩
      · rcases gained.2 _ _ before with there | fresh
        · exact Or.inl ⟨old, there⟩
        · rw [foundHeld] at before
          cases before
          exact absurd lease (fresh_not_leased fresh)
      · rcases gained.2 _ _ before with there | fresh
        · exact Or.inl ⟨new, there⟩
        · exact Or.inr fresh

theorem Outcome.known (outcome : Outcome worker phase db db') (known : Known db row) :
    Known db' row := by
  obtain ⟨message, found, topic⟩ := known
  obtain ⟨new, foundNew, moves | ⟨_, -, -, -, finishes⟩⟩ := outcome.forward found
  · exact ⟨new, foundNew, moves.topic.trans topic⟩
  · exact ⟨new, foundNew, finishes.topic.trans topic⟩

/-- A message within its attempts that keeps no sealed code once it is final. -/
structure OutboxMessage.Kept (message : OutboxMessage) : Prop where
  bounded : message.attempts ≤ message.maxAttempts
  cleared : message.Final → message.topic = "sms.deliver" → message.payloadJson = redacted

theorem Fresh.kept {message : OutboxMessage} (fresh : Fresh message) : message.Kept := by
  constructor
  · rw [fresh.2]
    exact Nat.zero_le _
  · rintro (completed | dead)
    · rw [fresh.1] at completed
      cases completed
    · rw [fresh.1] at dead
      cases dead

theorem Moves.kept {id : Nat} {old new : OutboxMessage} (moves : Moves id old new)
    (kept : old.Kept) : new.Kept := by
  constructor
  · exact moves.bounded kept.bounded
  · intro final sms
    rcases moves.dead final with same | ⟨-, cleared⟩
    · rw [same] at final sms ⊢
      exact kept.cleared final sms
    · exact cleared sms

theorem Finishes.kept {old new : OutboxMessage} (finishes : Finishes old new) (kept : old.Kept) :
    new.Kept := by
  constructor
  · rw [finishes.attempts, finishes.maxAttempts]
    exact kept.bounded
  · intro _ sms
    exact finishes.cleared (finishes.topic.symm.trans sms)

theorem Outcome.kept (outcome : Outcome worker phase db db')
    (all : ∀ id message, (db outboxMessages).find? id = some message → message.Kept) :
    ∀ id message, (db' outboxMessages).find? id = some message → message.Kept := by
  intro id new found
  rcases outcome.backward found with ⟨old, before⟩ | fresh
  · obtain ⟨same, after, change⟩ := outcome.forward before
    rw [found] at after
    cases after
    rcases change with moves | ⟨_, -, -, -, finishes⟩
    · exact moves.kept (all id old before)
    · exact finishes.kept (all id old before)
  · exact fresh.kept

/-- What holds of every state that a run reaches. -/
structure System.Sound (s : System) : Prop where
  kept : ∀ id message, (s.db outboxMessages).find? id = some message → message.Kept
  phases : ∀ worker, (s.phase worker).Sound s.db

theorem Phase.Sound.of_none (none : phase.row? = none) : phase.Sound db := by
  constructor
  · intro row working
    rw [none] at working
    cases working
  · rintro row payload status rfl
    cases none

/-- A phase that goes on with the same message still knows it. -/
theorem Phase.Sound.continued (sound : phase.Sound db) (outcome : Outcome worker phase db db')
    (same : ∀ row, phase'.row? = some row → phase.row? = some row)
    (scanned : ∀ row payload status, phase' = .scanned row payload status →
      row.topic = "file.scan") : phase'.Sound db' :=
  ⟨fun row working => outcome.known (sound.1 row (same row working)), scanned⟩

theorem Phase.Sound.dispatched {result : Except Fault Unit} (sound : phase.Sound db)
    (outcome : Outcome worker phase db db') (working : phase.row? = some row) :
    (afterDispatch row result).Sound db' := by
  cases result with
  | ok => exact Phase.Sound.of_none rfl
  | error error =>
      apply sound.continued outcome
      · rintro _ ⟨⟩
        exact working
      · rintro _ _ _ ⟨⟩

theorem afterRefusal_row {result : Except Fault Unit} : (afterRefusal result).row? = none := by
  cases result with
  | ok => rfl
  | error => rfl

theorem afterDelivery_row {permitted answer : Except Fault Unit} :
    (afterDelivery row permitted answer).row? = some row := by
  cases permitted with
  | error => rfl
  | ok =>
      cases answer with
      | error => rfl
      | ok => rfl

theorem afterDelivery_unscanned {permitted answer : Except Fault Unit} {other : OutboxRow}
    {payload : JsonValue} {status : ScanStatus} :
    afterDelivery row permitted answer ≠ .scanned other payload status := by
  cases permitted with
  | error => exact Phase.noConfusion
  | ok =>
      cases answer with
      | error => exact Phase.noConfusion
      | ok => exact Phase.noConfusion

theorem afterScan_row {payload : JsonValue} {permitted : Except Fault Unit}
    {answer : Except Fault ScanStatus} :
    (afterScan row payload permitted answer).row? = some row := by
  cases permitted with
  | error => rfl
  | ok =>
      cases answer with
      | error => rfl
      | ok => rfl

theorem afterClaim_sound {result : Except Fault (Option OutboxRow)}
    (known : ∀ row, result = .ok (some row) → Known db row) : (afterClaim result).Sound db := by
  cases result with
  | error error =>
      cases error with
      | fencePaused => exact Phase.Sound.of_none rfl
      | permanent => exact Phase.Sound.of_none rfl
      | other => exact Phase.Sound.of_none rfl
  | ok value =>
      cases value with
      | none => exact Phase.Sound.of_none rfl
      | some row =>
          constructor
          · rintro _ ⟨⟩
            exact known row rfl
          · rintro _ _ _ ⟨⟩

theorem turn_sound (turn : Turn runtime worker phase db phase' db') (sound : phase.Sound db) :
    phase'.Sound db' := by
  have outcome := turn_outcome turn sound
  cases turn with
  | start => exact Phase.Sound.of_none rfl
  | crash => exact Phase.Sound.of_none rfl
  | claim now skipped attempt =>
      apply afterClaim_sound
      rintro row rfl
      cases attempt with
      | committed returns => exact (claim_returns returns).2.2 row rfl
  | unreadable => exact sound.continued outcome (fun _ same => same) (by rintro _ _ _ ⟨⟩)
  | @deliver _ _ row _ _ _ topic =>
      apply sound.continued outcome
      · intro other working
        rw [afterDelivery_row] at working
        exact working
      · intro _ _ _ scanned
        exact absurd scanned afterDelivery_unscanned
  | @scan _ _ row payload permitted _ topic attempt answer =>
      apply sound.continued outcome
      · intro other working
        rw [afterScan_row] at working
        exact working
      · intro other _ _ scanned
        have same : some row = some other := by
          rw [← @afterScan_row row payload permitted answer, scanned]
          rfl
        cases same
        exact topic
  | notify => exact sound.dispatched outcome rfl
  | announce => exact sound.dispatched outcome rfl
  | unknown => exact sound.continued outcome (fun _ same => same) (by rintro _ _ _ ⟨⟩)
  | record => exact sound.dispatched outcome rfl
  | complete => exact sound.dispatched outcome rfl
  | pause => exact Phase.Sound.of_none afterRefusal_row
  | fail => exact Phase.Sound.of_none afterRefusal_row

theorem gains_known {adds : Database}
    (gained : (Law.gains Fresh).allows (db outboxMessages) (adds outboxMessages))
    (known : Known db row) : Known adds row := by
  obtain ⟨message, found, topic⟩ := known
  obtain ⟨kept, foundKept, same⟩ := gained.1.kept _ _ found
  cases same
  exact ⟨message, foundKept, topic⟩

theorem step_sound {s s' : System} {actor : Actor} (step : Step runtime s actor s')
    (sound : s.Sound) : s'.Sound := by
  cases step with
  | @worker id phase db turn =>
      have outcome := turn_outcome turn (sound.phases id)
      constructor
      · exact outcome.kept sound.kept
      · intro other
        by_cases here : other = id
        · subst here
          simp only [Function.update_self]
          exact turn_sound turn (sound.phases other)
        · simp only [Function.update_of_ne here]
          exact ⟨fun row working => outcome.known ((sound.phases other).1 row working),
            (sound.phases other).2⟩
  | elsewhere adds =>
      constructor
      · intro id message found
        rcases adds.2 id message found with there | fresh
        · exact sound.kept id message there
        · exact fresh.kept
      · intro other
        exact ⟨fun row working => gains_known adds ((sound.phases other).1 row working),
          (sound.phases other).2⟩

theorem Opens.sound {s : System} (opens : Opens s) : s.Sound := by
  constructor
  · intro id message found
    rw [opens.1] at found
    cases found
  · intro worker
    apply Phase.Sound.of_none
    rw [opens.2 worker]
    rfl

theorem step_final {s s' : System} {actor : Actor} (step : Step runtime s actor s')
    (sound : s.Sound) {id : Nat} {message : OutboxMessage}
    (found : (s.db outboxMessages).find? id = some message) (final : message.Final) :
    (s'.db outboxMessages).find? id = some message := by
  cases step with
  | @worker worker phase db turn =>
      obtain ⟨new, foundNew, change⟩ := (turn_outcome turn (sound.phases worker)).forward found
      rcases change with moves | ⟨_, -, -, held, -⟩
      · rw [moves.final final] at foundNew
        exact foundNew
      · exact absurd final (processing_not_final (leased_processing held))
  | elsewhere adds =>
      obtain ⟨kept, foundKept, same⟩ := adds.1.kept _ _ found
      cases same
      exact foundKept

theorem run_final {s s' : System} {actors : List Actor} (run : Run (Step runtime) s actors s')
    (sound : s.Sound) {id : Nat} {message : OutboxMessage}
    (found : (s.db outboxMessages).find? id = some message) (final : message.Final) :
    (s'.db outboxMessages).find? id = some message := by
  induction run with
  | done => exact found
  | next first _ ih => exact ih (step_sound first sound) (step_final first sound found final)

/-- Only the worker that holds the lease completes a message. -/
theorem step_holder {s s' : System} {actor : Actor} (step : Step runtime s actor s')
    (sound : s.Sound) {id : Nat} (completes : Completes s.db s'.db id) :
    ∃ worker row message, actor = .worker worker ∧ (s.phase worker).row? = some row ∧
      row.id = id ∧ (s.db outboxMessages).find? id = some message ∧
        leased worker message = true := by
  obtain ⟨⟨new, found, completed⟩, before⟩ := completes
  cases step with
  | @worker worker phase db turn =>
      have outcome := turn_outcome turn (sound.phases worker)
      rcases outcome.backward found with ⟨old, foundOld⟩ | fresh
      · obtain ⟨same, foundSame, change⟩ := outcome.forward foundOld
        rw [found] at foundSame
        cases foundSame
        rcases change with moves | ⟨row, working, here, held, -⟩
        · rcases moves.dead (Or.inl completed) with unchanged | ⟨dead, -⟩
          · rw [unchanged] at completed
            exact absurd completed (before old foundOld)
          · rw [completed] at dead
            cases dead
        · exact ⟨worker, row, old, rfl, working, here, foundOld, held⟩
      · rw [fresh.1] at completed
        cases completed
  | elsewhere adds =>
      rcases adds.2 id new found with there | fresh
      · exact absurd completed (before new there)
      · rw [fresh.1] at completed
        cases completed

/-- What a turn writes besides the columns of its messages it writes with the
completion of the message it works on. -/
theorem turn_together (turn : Turn runtime worker phase db phase' db') (sound : phase.Sound db)
    (alters : Alters db db') : ∃ row, phase.row? = some row ∧ Completes db db' row.id := by
  cases turn_outcome turn sound with
  | idle same =>
      rw [same] at alters
      rcases alters with ⟨table, -, differs⟩ | ⟨id, message, found, none⟩
      · exact absurd rfl differs
      · rw [none] at found
        cases found
  | moved others revised =>
      rcases alters with ⟨table, other, differs⟩ | ⟨id, message, found, none⟩
      · exact absurd (others table other) differs
      · obtain ⟨old, foundOld, -⟩ := revised.backward found
        rw [none] at foundOld
        cases foundOld
  | @finished row grown old change working gained found held written finishes =>
      refine ⟨row, working, ⟨change old, ?_, finishes.completed⟩, ?_⟩
      · rw [written]
        exact Table.find?_modify_self _ found
      · intro message before completed
        obtain ⟨kept, foundKept, same⟩ := gained.1.kept _ _ before
        cases same
        rw [found] at foundKept
        cases foundKept
        rw [leased_processing held] at completed
        cases completed

/-- Whatever the interleaving of workers, crashes and other transactions: no message
is tried too often, a final message stays as it is and keeps no sealed code, it is
completed once, by the holder of its lease, and what its dispatch writes is written
with that completion. -/
theorem outbox_delivery {opening s : System} {actors : List Actor} (opens : Opens opening)
    (run : Run (Step runtime) opening actors s) : Delivers runtime s := by
  have sound : s.Sound := run.preserves System.Sound step_sound opens.sound
  constructor
  · exact fun id message found => (sound.kept id message found).bounded
  · exact fun id message found => (sound.kept id message found).cleared
  · intro actor s' step id message found final
    exact step_final step sound found final
  · intro actor s' step id completes
    exact step_holder step sound completes
  · intro worker s' step alters
    cases step with
    | worker turn => exact turn_together turn (sound.phases worker) alters
  · intro actor s' actors t actor' t' first between second id completes again
    obtain ⟨⟨message, found, completed⟩, -⟩ := completes
    have later := run_final between (step_sound first sound) found (Or.inl completed)
    exact again.2 message later completed

/-! ## A message from its insert to its completion -/

def eventText : String :=
  "\x7b\"schemaVersion\":1,\"entityType\":\"warehouse\",\"entityId\":\"1\"," ++
    "\"eventType\":\"WarehouseCreated\",\"recipient\":\x7b\"kind\":\"role\"," ++
    "\"role\":\"supply_chain\"\x7d,\"data\":\x7b\x7d\x7d"

def eventPayload : JsonValue :=
  .object [("schemaVersion", .number 1), ("entityType", .text "warehouse"),
    ("entityId", .text "1"), ("eventType", .text "WarehouseCreated"),
    ("recipient", .object [("kind", .text "role"), ("role", .text "supply_chain")]),
    ("data", .object [])]

def epochRuntime : Runtime where
  iso now := if now < 0 then "1969-12-31T23:55:00.000Z" else "1970-01-01T00:00:00.000Z"
  datetime _ := "1970-01-01 08:00:01.000"
  parse text := if text = eventText then some eventPayload else none
  stringify _ := "\x7b\x7d"
  safeInteger value :=
    match value with
    | some (.number number) => some number
    | some (.text text) => if text = "1" then some 1 else none
    | _ => none
  sha256 text := text

def fencedDatabase : Database
  | .users => Table.empty.insert ⟨"lead@example.com", "supply_chain", true, none⟩
  | .writerFences => Table.empty.insert ⟨"outbox.worker", "worker-v1", 2, true⟩
  | _ => Table.empty

def eventMessage : OutboxMessage where
  topic := "domain.event"
  aggregateType := "warehouse"
  aggregateId := "1"
  deduplicationKey := "r3:WarehouseCreated:warehouse:1"
  payloadJson := eventText
  availableAt := "1970-01-01T00:00:00.000Z"

def eventRow : OutboxRow :=
  ⟨1, "domain.event", eventText, "r3:WarehouseCreated:warehouse:1", 1, 8⟩

def queuedDatabase : Database :=
  Store.put fencedDatabase outboxMessages (Table.empty.insert eventMessage)

/-- The database after a transaction, as it was when the transaction fails. -/
def after {α : Type} (m : Work writes α) (db : Database) : Database :=
  match m.run db with
  | .ok done => done.store
  | .error _ => db

def claimedDatabase : Database :=
  after (claim epochRuntime 0 "worker-1" []) queuedDatabase

def announcedDatabase : Database :=
  after (dispatchDomainEvent epochRuntime 0 "worker-1" eventRow eventPayload) claimedDatabase

def openingSystem : System := ⟨fencedDatabase, fun _ => .unstarted⟩

def announcedSystem : System :=
  ⟨announcedDatabase, Function.update (Function.update (Function.update openingSystem.phase
    "worker-1" .idle) "worker-1" (.claimed eventRow)) "worker-1" .idle⟩

theorem Step.turned {s : System} {id : String} (here : s.phase id = phase)
    (turn : Turn runtime id phase s.db phase' db) :
    Step runtime s (.worker id) { db, phase := Function.update s.phase id phase' } := by
  subst here
  exact Step.worker turn

theorem returns_after {α : Type} (m : Work writes α) (db : Database) {value : α}
    (runs : (m.run db).toOption.map (·.value) = some value) :
    ∃ sent, m.Returns db value sent (after m db) := by
  rw [after]
  cases result : m.run db with
  | error =>
      rw [result] at runs
      cases runs
  | ok done =>
      rw [result] at runs
      cases runs
      exact ⟨done.sent, result⟩

/-- A worker starts, claims a domain event, and notifies its reader as it completes it. -/
theorem outbox_delivery_announced :
    (announcedDatabase outboxMessages).find? 1 = some { eventMessage with
      status := .completed, attempts := 1, completedAt := some "1970-01-01T00:00:00.000Z" } ∧
    Delivers epochRuntime announcedSystem := by
  constructor
  · decide +kernel
  · have opens : Opens openingSystem := ⟨rfl, fun _ => rfl⟩
    have starts : Step epochRuntime openingSystem (.worker "worker-1")
        ⟨fencedDatabase, Function.update openingSystem.phase "worker-1" .idle⟩ :=
      Step.worker Turn.start
    have queues : Step epochRuntime ⟨fencedDatabase, Function.update openingSystem.phase
        "worker-1" .idle⟩ .elsewhere
        ⟨queuedDatabase, Function.update openingSystem.phase "worker-1" .idle⟩ :=
      Step.elsewhere (Law.gains_insert _ ⟨rfl, rfl⟩)
    have parsed : parsePayload epochRuntime eventRow.payloadJson = .ok eventPayload := by
      have text : epochRuntime.parse eventRow.payloadJson = some eventPayload := by
        simp only [epochRuntime, eventRow, if_true]
      rw [parsePayload, text]
      rfl
    have claims : ∃ sent, (claim epochRuntime 0 "worker-1" []).Returns queuedDatabase
        (some eventRow) sent claimedDatabase := returns_after _ _ (by decide +kernel)
    have announces : ∃ sent, (dispatchDomainEvent epochRuntime 0 "worker-1" eventRow
        eventPayload).Returns claimedDatabase () sent announcedDatabase :=
      returns_after _ _ (by decide +kernel)
    obtain ⟨_, claims⟩ := claims
    obtain ⟨_, announces⟩ := announces
    exact outbox_delivery opens (Run.next starts (Run.next queues (Run.next
      (Step.turned (Function.update_self ..) (Turn.claim 0 [] (Attempt.committed claims)))
      (Run.single (Step.turned (by simp only [Function.update_self, afterClaim])
        (Turn.announce 0 parsed rfl (Attempt.committed announces)))))))

end SupplyChain.Worker
