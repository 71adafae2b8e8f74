import SupplyChain.Commands

/-!
What the executor can do with a request: refuse it, replay the reply that the
row of its key holds, or run the command and leave the row completed. Only the
last changes anything, and only for a key without a row.
-/

namespace SupplyChain.Commands

open Relational Json

variable {State : Type} {options : Options State} {idempotencyKey requestDigest : String}
  {db db' : Database State} {identity : Identity}

/-- The row of a key. -/
def Database.row (db : Database State) (identity : Identity) : Option IdempotencyRow :=
  (db.commandIdempotency.first? fun _ row => identity.matches row).map (·.2)

theorem row_eq_none :
    db.row identity = none ↔
      (db.commandIdempotency.any fun _ row => identity.matches row) = false := by
  rw [Database.row, Option.map_eq_none_iff, Table.first?_none]

theorem matches_pendingRow (other : Identity) :
    other.matches (pendingRow identity requestDigest) = true ↔ other = identity := by
  obtain ⟨command, actorScope, key⟩ := identity
  obtain ⟨command', actorScope', key'⟩ := other
  simp only [Identity.matches, pendingRow, Bool.and_eq_true, beq_iff_eq, Identity.mk.injEq]
  constructor
  · rintro ⟨⟨rfl, rfl⟩, rfl⟩
    exact ⟨rfl, rfl, rfl⟩
  · rintro ⟨rfl, rfl, rfl⟩
    exact ⟨⟨rfl, rfl⟩, rfl⟩

/-- The database after a run: the row of the key is inserted and completed. -/
def Database.completed (db : Database State) (identity : Identity) (requestDigest : String)
    (responseStatus : Nat) (result : JsonObject) (state : State) : Database State where
  commandIdempotency :=
    (db.commandIdempotency.insert (pendingRow identity requestDigest)).update
      (completes identity requestDigest) (completedRow responseStatus result)
  writerFences := db.writerFences
  state := state

/-- What the unit of work of a request can come to. -/
inductive Worked (options : Options State) (idempotencyKey requestDigest : String)
    (db : Database State) : Except CommandError (Outcome × Database State) → Prop
  | fenced {error : CommandError}
      (closed : requireWriterFence options.fenceResource db = .error error) :
      Worked options idempotencyKey requestDigest db (.error error)
  | reused {row : IdempotencyRow} (opened : requireWriterFence options.fenceResource db = .ok ())
      (found : db.row (options.identity idempotencyKey) = some row)
      (other : row.requestDigest ≠ requestDigest) :
      Worked options idempotencyKey requestDigest db
        (.error ⟨409, "IDEMPOTENCY_KEY_REUSED", "Idempotency key was used for another request",
          by decide⟩)
  | replayed {row : IdempotencyRow} (opened : requireWriterFence options.fenceResource db = .ok ())
      (found : db.row (options.identity idempotencyKey) = some row)
      (same : row.requestDigest = requestDigest) :
      Worked options idempotencyKey requestDigest db
        ((replay options row).map fun outcome => (outcome, db))
  | failed {error : CommandError} (opened : requireWriterFence options.fenceResource db = .ok ())
      (absent : db.row (options.identity idempotencyKey) = none)
      (fails : ∀ result state responseStatus,
        options.run idempotencyKey requestDigest db.state = .ok (result, state) →
          resolvedResponseStatus options.responseStatus result options.validateResponseStatus ≠
            .ok responseStatus) :
      Worked options idempotencyKey requestDigest db (.error error)
  | ran {result : JsonObject} {state : State} {responseStatus : Nat}
      (opened : requireWriterFence options.fenceResource db = .ok ())
      (absent : db.row (options.identity idempotencyKey) = none)
      (returned : options.run idempotencyKey requestDigest db.state = .ok (result, state))
      (resolved : resolvedResponseStatus options.responseStatus result
        options.validateResponseStatus = .ok responseStatus) :
      Worked options idempotencyKey requestDigest db
        (.ok (⟨false, result, responseStatus⟩,
          db.completed (options.identity idempotencyKey) requestDigest responseStatus result state))

theorem completes_inserted (absent : db.row identity = none) :
    ((db.commandIdempotency.insert (pendingRow identity requestDigest)).select
      (completes identity requestDigest)).length = 1 := by
  have others := row_eq_none.mp absent
  have own : completes identity requestDigest db.commandIdempotency.nextId
      (pendingRow identity requestDigest) = true := by
    have key : identity.matches (pendingRow identity requestDigest) = true :=
      (matches_pendingRow identity).mpr rfl
    rw [completes, key]
    simp [pendingRow]
  rw [Table.select_insert, if_pos own, Table.select_eq_nil.mpr, List.nil_append,
    List.length_singleton]
  intro id row found
  have other := Table.any_eq_false.mp others id row found
  simp [completes, other]

theorem runCommand_worked (opened : requireWriterFence options.fenceResource db = .ok ())
    (absent : db.row (options.identity idempotencyKey) = none) :
    Worked options idempotencyKey requestDigest db
      (runCommand options (options.identity idempotencyKey) requestDigest
        { db with
          commandIdempotency := db.commandIdempotency.insert
            (pendingRow (options.identity idempotencyKey) requestDigest) }) := by
  unfold runCommand
  simp only [completes_inserted absent, if_true]
  cases returned : options.run idempotencyKey requestDigest db.state with
  | error error =>
      simp only [Options.identity, returned]
      apply Worked.failed opened absent
      intro result state responseStatus returns
      rw [returned] at returns
      cases returns
  | ok returns =>
      obtain ⟨result, state⟩ := returns
      cases resolved : resolvedResponseStatus options.responseStatus result
          options.validateResponseStatus with
      | error error =>
          simp only [Options.identity, returned, resolved, bind, Except.bind]
          apply Worked.failed opened absent
          intro result' state' responseStatus returns resolves
          rw [returned] at returns
          cases returns
          rw [resolved] at resolves
          cases resolves
      | ok responseStatus =>
          simp only [Options.identity, returned, resolved, bind, Except.bind]
          exact Worked.ran opened absent returned resolved

theorem unitOfWork_fresh (opened : requireWriterFence options.fenceResource db = .ok ())
    (absent : db.row (options.identity idempotencyKey) = none) :
    unitOfWork options idempotencyKey requestDigest db =
      runCommand options (options.identity idempotencyKey) requestDigest
        { db with
          commandIdempotency := db.commandIdempotency.insert
            (pendingRow (options.identity idempotencyKey) requestDigest) } := by
  have none := row_eq_none.mp absent
  have first : (db.commandIdempotency.insert
      (pendingRow (options.identity idempotencyKey) requestDigest)).first?
        (fun _ row => (options.identity idempotencyKey).matches row) =
      some (db.commandIdempotency.nextId,
        pendingRow (options.identity idempotencyKey) requestDigest) := by
    rw [Table.first?_insert, Table.first?_none.mpr none, if_pos ((matches_pendingRow _).mpr rfl),
      Option.none_or]
  have own : (pendingRow (options.identity idempotencyKey) requestDigest).requestDigest =
      requestDigest := rfl
  unfold unitOfWork
  simp only [opened, bind, Except.bind, none, Bool.not_false, if_true, first, own, ne_eq,
    not_true_eq_false, if_false]

theorem unitOfWork_thrown (opened : requireWriterFence options.fenceResource db = .ok ())
    (absent : db.row (options.identity idempotencyKey) = none) {error : CommandError}
    (throws : options.run idempotencyKey requestDigest db.state = .error error) :
    unitOfWork options idempotencyKey requestDigest db = .error error := by
  rw [unitOfWork_fresh opened absent]
  simp only [runCommand, Options.identity, throws]
  rfl

theorem unitOfWork_returned (opened : requireWriterFence options.fenceResource db = .ok ())
    (absent : db.row (options.identity idempotencyKey) = none) {result : JsonObject}
    {state : State} {responseStatus : Nat}
    (returned : options.run idempotencyKey requestDigest db.state = .ok (result, state))
    (resolved : resolvedResponseStatus options.responseStatus result
      options.validateResponseStatus = .ok responseStatus) :
    unitOfWork options idempotencyKey requestDigest db =
      .ok (⟨false, result, responseStatus⟩,
        db.completed (options.identity idempotencyKey) requestDigest responseStatus result
          state) := by
  have single := @completes_inserted State requestDigest db _ absent
  rw [unitOfWork_fresh opened absent]
  unfold runCommand
  simp only [single, if_true]
  simp only [Options.identity, returned, resolved, bind, Except.bind, Database.completed]
  rfl

theorem unitOfWork_used (opened : requireWriterFence options.fenceResource db = .ok ())
    {row : IdempotencyRow} (found : db.row (options.identity idempotencyKey) = some row) :
    unitOfWork options idempotencyKey requestDigest db =
      if row.requestDigest ≠ requestDigest then
        .error ⟨409, "IDEMPOTENCY_KEY_REUSED", "Idempotency key was used for another request",
          by decide⟩
      else (replay options row).map fun outcome => (outcome, db) := by
  have present : (db.commandIdempotency.any fun _ row =>
      (options.identity idempotencyKey).matches row) = true := by
    rw [← Bool.not_eq_false, ← row_eq_none, found]
    simp
  obtain ⟨⟨id, row'⟩, first, same⟩ := Option.map_eq_some_iff.mp found
  cases same
  unfold unitOfWork
  simp only [opened, bind, Except.bind, present, Bool.not_true, Bool.false_eq_true, if_false, first]
  cases replay options row' with
  | error error => rfl
  | ok outcome => rfl

theorem unitOfWork_worked (options : Options State) (idempotencyKey requestDigest : String)
    (db : Database State) :
    Worked options idempotencyKey requestDigest db
      (unitOfWork options idempotencyKey requestDigest db) := by
  cases opened : requireWriterFence options.fenceResource db with
  | error error =>
      unfold unitOfWork
      rw [opened]
      exact Worked.fenced opened
  | ok _ =>
      cases found : db.row (options.identity idempotencyKey) with
      | none =>
          rw [unitOfWork_fresh opened found]
          exact runCommand_worked opened found
      | some row =>
          rw [unitOfWork_used opened found]
          by_cases digests : row.requestDigest = requestDigest
          · rw [if_neg (not_not.mpr digests)]
            exact Worked.replayed opened found digests
          · rw [if_pos digests]
            exact Worked.reused opened found digests

/-! ## The rows after a run -/

theorem first?_completed {other : Identity} {responseStatus : Nat} {result : JsonObject}
    {state : State} :
    (db.completed identity requestDigest responseStatus result state).row other =
      (((db.commandIdempotency.insert (pendingRow identity requestDigest)).first?
        fun _ row => other.matches row).map fun r =>
          if completes identity requestDigest r.1 r.2 then completedRow responseStatus result r.2
          else r.2) := by
  have updated := Table.first?_update
    (db.commandIdempotency.insert (pendingRow identity requestDigest))
    (fun _ row => other.matches row) (completes identity requestDigest)
    (completedRow responseStatus result) fun _ _ _ => rfl
  rw [Database.row, Database.completed, updated, Option.map_map]
  rfl

theorem completed_row (absent : db.row identity = none) (responseStatus : Nat)
    (result : JsonObject) (state : State) :
    (db.completed identity requestDigest responseStatus result state).row identity =
      some (completedRow responseStatus result (pendingRow identity requestDigest)) := by
  have own : identity.matches (pendingRow identity requestDigest) = true :=
    (matches_pendingRow identity).mpr rfl
  have touched : completes identity requestDigest db.commandIdempotency.nextId
      (pendingRow identity requestDigest) = true := by
    rw [completes, own]
    simp [pendingRow]
  rw [first?_completed, Table.first?_insert, Table.first?_none.mpr (row_eq_none.mp absent),
    if_pos own, Option.none_or, Option.map_some, if_pos touched]

theorem completed_other {other : Identity} (apart : other ≠ identity) (responseStatus : Nat)
    (result : JsonObject) (state : State) :
    (db.completed identity requestDigest responseStatus result state).row other =
      db.row other := by
  have foreign : ¬ other.matches (pendingRow identity requestDigest) = true :=
    fun own => apart ((matches_pendingRow other).mp own)
  rw [first?_completed, Table.first?_insert, if_neg foreign, Option.or_none, Database.row]
  cases first : db.commandIdempotency.first? fun _ row => other.matches row with
  | none => rfl
  | some r =>
      -- a row of another key is not completed
      have key := (Table.first?_some first).2
      have untouched : completes identity requestDigest r.1 r.2 = false := by
        by_contra hit
        simp only [completes, Bool.not_eq_false, Bool.and_eq_true] at hit
        apply apart
        have both := hit.1.1
        simp only [Identity.matches, Bool.and_eq_true, beq_iff_eq] at key both
        obtain ⟨command, actorScope, idempotencyKey⟩ := identity
        obtain ⟨command', actorScope', idempotencyKey'⟩ := other
        simp_all
      simp [untouched]

/-! ## The executor -/

/-- What a committed run leaves in the row of its key. -/
structure Commit where
  requestDigest : String
  statusCode : Nat
  result : JsonObject

/-- The run that a request commits, if it does. -/
def commitOf (sha256 : String → String) (options : Options State) (ending : Ending)
    (db : Database State) : Option (Identity × Commit) :=
  match checked sha256 options with
  | .error _ => none
  | .ok (idempotencyKey, requestDigest) =>
      let commit (outcome : Outcome) := (options.identity idempotencyKey,
        (⟨requestDigest, outcome.statusCode, outcome.result⟩ : Commit))
      match unitOfWork options idempotencyKey requestDigest db, ending with
      | .ok (outcome, _), .answered => if outcome.replayed then none else some (commit outcome)
      | .ok (outcome, _), .unanswered committed =>
          if outcome.replayed = false ∧ committed = true then some (commit outcome) else none
      | _, _ => none

/-- What a request can come to: its answer, the database after it and the run it
committed. -/
inductive Handled (sha256 : String → String) (options : Options State) (db : Database State) :
    Except CommandError Response → Database State → Option (Identity × Commit) → Prop
  | refused {error : CommandError} : Handled sha256 options db (.error error) db none
  | replayed {idempotencyKey requestDigest : String} {row : IdempotencyRow} {result : JsonObject}
      {statusCode : Nat} (passes : checked sha256 options = .ok (idempotencyKey, requestDigest))
      (found : db.row (options.identity idempotencyKey) = some row)
      (same : row.requestDigest = requestDigest)
      (holds : row.responseStatus = some statusCode ∧ row.responseJson = some (.object result)) :
      Handled sha256 options db
        (.ok ⟨statusCode, options.command, idempotencyKey, requestDigest, true, result⟩) db none
  | ran {idempotencyKey requestDigest : String} {result : JsonObject} {state : State}
      {responseStatus : Nat}
      (passes : checked sha256 options = .ok (idempotencyKey, requestDigest))
      (absent : db.row (options.identity idempotencyKey) = none)
      (returned : options.run idempotencyKey requestDigest db.state = .ok (result, state))
      (resolved : resolvedResponseStatus options.responseStatus result
        options.validateResponseStatus = .ok responseStatus) :
      Handled sha256 options db
        (.ok ⟨responseStatus, options.command, idempotencyKey, requestDigest, false, result⟩)
        (db.completed (options.identity idempotencyKey) requestDigest responseStatus result state)
        (some (options.identity idempotencyKey, ⟨requestDigest, responseStatus, result⟩))
  | unreported {idempotencyKey requestDigest : String} {result : JsonObject} {state : State}
      {responseStatus : Nat}
      (passes : checked sha256 options = .ok (idempotencyKey, requestDigest))
      (absent : db.row (options.identity idempotencyKey) = none)
      (returned : options.run idempotencyKey requestDigest db.state = .ok (result, state))
      (resolved : resolvedResponseStatus options.responseStatus result
        options.validateResponseStatus = .ok responseStatus) :
      Handled sha256 options db
        (.error ⟨503, "COMMAND_OUTCOME_UNKNOWN",
          "Command outcome is unknown; retry only with the same idempotency key", by decide⟩)
        (db.completed (options.identity idempotencyKey) requestDigest responseStatus result state)
        (some (options.identity idempotencyKey, ⟨requestDigest, responseStatus, result⟩))

theorem replay_congr {options options' : Options State}
    (same : options.responseStatus = options'.responseStatus) (row : IdempotencyRow) :
    replay options row = replay options' row := by
  unfold replay
  rw [same]

theorem replay_eq_ok {row : IdempotencyRow} {outcome : Outcome}
    (answer : replay options row = .ok outcome) :
    outcome.replayed = true ∧ row.responseStatus = some outcome.statusCode ∧
      row.responseJson = some (.object outcome.result) := by
  unfold replay at answer
  cases status : row.status with
  | pending => simp [status] at answer
  | unknown => simp [status] at answer
  | completed =>
      simp only [status] at answer
      unfold parseReplay at answer
      split at answer
      · rename_i members stored json kept
        cases answer
        exact ⟨rfl, by rw [kept, Option.getD_some], json⟩
      · cases answer
      · cases answer

theorem executeIdempotentCommand_handled (sha256 : String → String) (options : Options State)
    (ending : Ending) (db : Database State) :
    Handled sha256 options db (executeIdempotentCommand sha256 options ending db).1
      (executeIdempotentCommand sha256 options ending db).2
      (commitOf sha256 options ending db) := by
  unfold executeIdempotentCommand commitOf
  cases passes : checked sha256 options with
  | error error => exact Handled.refused
  | ok keys =>
      obtain ⟨idempotencyKey, requestDigest⟩ := keys
      have worked := unitOfWork_worked options idempotencyKey requestDigest db
      dsimp only
      generalize unitOfWork options idempotencyKey requestDigest db = answer at worked
      cases worked with
      | fenced => cases ending <;> exact Handled.refused
      | reused => cases ending <;> exact Handled.refused
      | failed => cases ending <;> exact Handled.refused
      | @replayed row opened found same =>
          cases answer : replay options row with
          | error error => cases ending <;> exact Handled.refused
          | ok outcome =>
              obtain ⟨again, status, json⟩ := replay_eq_ok answer
              cases ending with
              | answered =>
                  simp only [Except.map, concluded, again, if_true]
                  exact Handled.replayed passes found same ⟨status, json⟩
              | failed => exact Handled.refused
              | unanswered committed =>
                  simp only [Except.map, concluded, again, Bool.true_eq_false, false_and, if_false, ite_self]
                  exact Handled.refused
      | ran opened absent returned resolved =>
          cases ending with
          | answered => exact Handled.ran passes absent returned resolved
          | failed => exact Handled.refused
          | unanswered committed =>
              cases committed
              · exact Handled.refused
              · exact Handled.unreported passes absent returned resolved

end SupplyChain.Commands
