import SupplyChain.Commands.Outcomes
import SupplyChain.Relational.Runs

/-!
Exactly-once commands. The row of a key is absent until the command has
committed and holds its reply ever after, so over any run of requests the key
commits one run at most and every success repeats its reply.
-/

namespace SupplyChain.Commands

open Relational Json

variable {State : Type} {sha256 : String → String} {identity : Identity}

/-! ## Steps -/

/-- The database and the runs committed for one key, the last first. -/
structure Ledger (State : Type) where
  db : Database State
  commits : List Commit

/-- A request under any key, or whatever else changes the database. -/
inductive Event (State : Type)
  | request (options : Options State) (ending : Ending)
  | elsewhere

/-- The commit counts when it is one of the key. -/
def commitsOf (identity : Identity) : Option (Identity × Commit) → List Commit
  | none => []
  | some (other, commit) => if other = identity then [commit] else []

/-- Every unit of work is one step. Nothing but the executor writes the rows of
the keys. -/
inductive Step (sha256 : String → String) (identity : Identity) :
    Ledger State → Event State → Ledger State → Prop
  | request {s : Ledger State} {options : Options State} {ending : Ending} :
      Step sha256 identity s (.request options ending)
        ⟨(executeIdempotentCommand sha256 options ending s.db).2,
          commitsOf identity (commitOf sha256 options ending s.db) ++ s.commits⟩
  | elsewhere {s : Ledger State} {db : Database State}
      (rows : db.commandIdempotency = s.db.commandIdempotency) :
      Step sha256 identity s .elsewhere ⟨db, s.commits⟩

/-! ## The row of the key -/

/-- The row of the key is absent, or holds the reply of the one run. -/
inductive Settled (identity : Identity) : Ledger State → Prop
  | free {db : Database State} (absent : db.row identity = none) : Settled identity ⟨db, []⟩
  | taken {db : Database State} {commit : Commit} {row : IdempotencyRow}
      (found : db.row identity = some row) (digest : row.requestDigest = commit.requestDigest)
      (status : row.responseStatus = some commit.statusCode)
      (json : row.responseJson = some (.object commit.result)) :
      Settled identity ⟨db, [commit]⟩

theorem row_elsewhere {db db' : Database State}
    (rows : db'.commandIdempotency = db.commandIdempotency) : db'.row identity = db.row identity := by
  rw [Database.row, rows, Database.row]

/-- A run is committed only for a key without a row, and leaves its reply there. -/
theorem settled_run {db : Database State} {commits : List Commit} {key : Identity}
    {requestDigest : String} (settled : Settled identity ⟨db, commits⟩) (absent : db.row key = none)
    (responseStatus : Nat) (result : JsonObject) (state : State) :
    Settled identity ⟨db.completed key requestDigest responseStatus result state,
      commitsOf identity (some (key, ⟨requestDigest, responseStatus, result⟩)) ++ commits⟩ := by
  by_cases own : key = identity
  · subst own
    cases settled with
    | free none =>
        rw [commitsOf, if_pos rfl, List.append_nil]
        exact Settled.taken (completed_row absent _ _ _) rfl rfl rfl
    | taken found =>
        rw [absent] at found
        cases found
  · have kept : (db.completed key requestDigest responseStatus result state).row identity =
        db.row identity := completed_other (Ne.symm own) responseStatus result state
    rw [commitsOf, if_neg own, List.nil_append]
    cases settled with
    | free none => exact Settled.free (kept.trans none)
    | taken found digest status json =>
        exact Settled.taken (kept.trans found) digest status json

theorem step_settled {a b : Ledger State} {event : Event State}
    (step : Step sha256 identity a event b) (settled : Settled identity a) :
    Settled identity b := by
  cases step with
  | @request options ending =>
      have handled := executeIdempotentCommand_handled sha256 options ending a.db
      generalize (executeIdempotentCommand sha256 options ending a.db).2 = db' at handled ⊢
      generalize (executeIdempotentCommand sha256 options ending a.db).1 = answer at handled
      generalize commitOf sha256 options ending a.db = commit at handled ⊢
      cases handled with
      | refused => exact settled
      | replayed => exact settled
      | ran _ absent => exact settled_run settled absent _ _ _
      | unreported _ absent => exact settled_run settled absent _ _ _
  | elsewhere rows =>
      cases settled with
      | free absent => exact Settled.free ((row_elsewhere rows).trans absent)
      | taken found digest status json =>
          exact Settled.taken ((row_elsewhere rows).trans found) digest status json

/-! ## What a request is answered -/

/-- The request carries the key, and its digest is the one given: its two
headers pass the checks. -/
def Carries (sha256 : String → String) (identity : Identity) (options : Options State)
    (requestDigest : String) : Prop :=
  checked sha256 options = .ok (identity.idempotencyKey, requestDigest) ∧
    options.identity identity.idempotencyKey = identity

/-- The writer fence of the request is open. -/
def Fenced (options : Options State) (db : Database State) : Prop :=
  requireWriterFence options.fenceResource db = .ok ()

/-- What holds of every request with the key, given the runs that were
committed before. -/
structure Answered (sha256 : String → String) (identity : Identity) (options : Options State) (ending : Ending)
    (requestDigest : String) (a b : Ledger State) : Prop where
  /-- every success repeats the reply of the one committed run -/
  alike : ∀ response,
    (executeIdempotentCommand sha256 options ending a.db).1 = .ok response →
      ∃ commit, b.commits = [commit] ∧ response.statusCode = commit.statusCode ∧
        response.result = commit.result ∧ response.requestDigest = commit.requestDigest ∧
        (response.replayed = true ↔ a.commits ≠ [])
  /-- another digest than the committed one is refused and changes nothing -/
  reused : ∀ commit ∈ a.commits, commit.requestDigest ≠ requestDigest →
    b.db = a.db ∧ ∃ error,
      (executeIdempotentCommand sha256 options ending a.db).1 = .error error ∧
        (Fenced options a.db → ending ≠ .failed → error.code = "IDEMPOTENCY_KEY_REUSED")
  /-- a run that throws leaves no row -/
  thrown : ∀ error, a.commits = [] →
    options.run identity.idempotencyKey requestDigest a.db.state = .error error →
      b.db = a.db ∧ b.db.row identity = none
  /-- without a row the command is run -/
  executes : ∀ result state responseStatus, a.commits = [] → Fenced options a.db →
    options.run identity.idempotencyKey requestDigest a.db.state = .ok (result, state) →
    resolvedResponseStatus options.responseStatus result options.validateResponseStatus =
        .ok responseStatus →
      ending = .answered →
        b.db.state = state ∧ b.commits = [⟨requestDigest, responseStatus, result⟩]

variable {options : Options State} {ending : Ending} {requestDigest : String} {a : Ledger State}

theorem execute_checked {db : Database State} {idempotencyKey : String}
    (passes : checked sha256 options = .ok (idempotencyKey, requestDigest)) :
    executeIdempotentCommand sha256 options ending db =
      concluded options idempotencyKey requestDigest db
        (unitOfWork options idempotencyKey requestDigest db) ending := by
  unfold executeIdempotentCommand
  simp only [passes]

theorem alike_of_settled (settled : Settled identity a)
    (carries : Carries sha256 identity options requestDigest) {response : Response}
    (answer : (executeIdempotentCommand sha256 options ending a.db).1 = .ok response) :
    ∃ commit, commitsOf identity (commitOf sha256 options ending a.db) ++ a.commits = [commit] ∧
      response.statusCode = commit.statusCode ∧ response.result = commit.result ∧
      response.requestDigest = commit.requestDigest ∧
      (response.replayed = true ↔ a.commits ≠ []) := by
  obtain ⟨passes, own⟩ := carries
  have handled := executeIdempotentCommand_handled sha256 options ending a.db
  rw [answer] at handled
  generalize (executeIdempotentCommand sha256 options ending a.db).2 = db' at handled
  generalize commitOf sha256 options ending a.db = commit at handled ⊢
  cases handled with
  | replayed passed found same holds =>
      rw [passes] at passed
      cases passed
      rw [own] at found
      cases settled with
      | free absent =>
          rw [absent] at found
          cases found
      | @taken db commit row kept digest status json =>
          rw [kept] at found
          cases found
          rw [status] at holds
          rw [json] at holds
          obtain ⟨statuses, results⟩ := holds
          cases statuses
          cases results
          exact ⟨commit, rfl, rfl, rfl, same.symm.trans digest, by simp⟩
  | ran passed absent returned resolved =>
      rw [passes] at passed
      cases passed
      rw [own] at absent
      cases settled with
      | free _ => exact ⟨_, by rw [own, commitsOf, if_pos rfl, List.append_nil], rfl, rfl, rfl, by simp⟩
      | taken found =>
          rw [found] at absent
          cases absent

theorem refused_of_settled (settled : Settled identity a)
    (carries : Carries sha256 identity options requestDigest) {commit : Commit}
    (before : commit ∈ a.commits) (other : commit.requestDigest ≠ requestDigest) :
    (executeIdempotentCommand sha256 options ending a.db).2 = a.db ∧ ∃ error,
      (executeIdempotentCommand sha256 options ending a.db).1 = .error error ∧
        (Fenced options a.db → ending ≠ .failed → error.code = "IDEMPOTENCY_KEY_REUSED") := by
  obtain ⟨passes, own⟩ := carries
  cases settled with
  | free _ => cases before
  | @taken db kept row found digest status json =>
      cases List.mem_singleton.mp before
      rw [execute_checked passes]
      have worked := unitOfWork_worked options identity.idempotencyKey requestDigest db
      generalize unitOfWork options identity.idempotencyKey requestDigest db = answer at worked
      cases worked with
      | fenced closed =>
          have shut : ¬ Fenced options db := by
            intro opened
            rw [Fenced, closed] at opened
            cases opened
          cases ending <;> exact ⟨rfl, _, rfl, fun opened _ => absurd opened shut⟩
      | reused => cases ending <;> exact ⟨rfl, _, rfl, fun _ answers => by first | rfl | exact absurd rfl answers⟩
      | replayed opened kept same =>
          rw [own, found] at kept
          cases kept
          exact absurd (digest.symm.trans same) other
      | failed opened absent =>
          rw [own, found] at absent
          cases absent
      | ran opened absent =>
          rw [own, found] at absent
          cases absent

theorem kept_of_thrown (settled : Settled identity a)
    (carries : Carries sha256 identity options requestDigest) (none : a.commits = [])
    {error : CommandError}
    (throws : options.run identity.idempotencyKey requestDigest a.db.state = .error error) :
    (executeIdempotentCommand sha256 options ending a.db).2 = a.db ∧
      a.db.row identity = Option.none := by
  obtain ⟨passes, own⟩ := carries
  cases settled with
  | taken => cases none
  | @free db absent =>
      refine ⟨?_, absent⟩
      rw [execute_checked passes]
      have worked := unitOfWork_worked options identity.idempotencyKey requestDigest db
      generalize unitOfWork options identity.idempotencyKey requestDigest db = answer at worked
      cases worked with
      | fenced => cases ending <;> rfl
      | reused _ found =>
          rw [own, absent] at found
          cases found
      | replayed _ found =>
          rw [own, absent] at found
          cases found
      | failed => cases ending <;> rfl
      | ran _ _ returned =>
          rw [throws] at returned
          cases returned

theorem executed_of_free (settled : Settled identity a)
    (carries : Carries sha256 identity options requestDigest) (none : a.commits = [])
    (opened : Fenced options a.db) {result : JsonObject} {state : State} {responseStatus : Nat}
    (returns : options.run identity.idempotencyKey requestDigest a.db.state = .ok (result, state))
    (resolved : resolvedResponseStatus options.responseStatus result
      options.validateResponseStatus = .ok responseStatus) :
    (executeIdempotentCommand sha256 options .answered a.db).2.state = state ∧
      commitsOf identity (commitOf sha256 options .answered a.db) ++ a.commits =
        [⟨requestDigest, responseStatus, result⟩] := by
  obtain ⟨passes, own⟩ := carries
  cases settled with
  | taken => cases none
  | @free db absent =>
      have absent' : db.row (options.identity identity.idempotencyKey) = Option.none := by
        rw [own, absent]
      have worked : unitOfWork options identity.idempotencyKey requestDigest db =
          .ok (⟨false, result, responseStatus⟩, db.completed identity requestDigest responseStatus
            result state) := by
        have worked := unitOfWork_worked options identity.idempotencyKey requestDigest db
        generalize unitOfWork options identity.idempotencyKey requestDigest db = answer at worked ⊢
        cases worked with
        | fenced closed =>
            rw [opened] at closed
            cases closed
        | reused _ found =>
            rw [absent'] at found
            cases found
        | replayed _ found =>
            rw [absent'] at found
            cases found
        | failed _ _ fails => exact absurd resolved (fails result state responseStatus returns)
        | ran _ _ returned resolves =>
            rw [returns] at returned
            cases returned
            rw [resolved] at resolves
            cases resolves
            rw [own]
      constructor
      · rw [execute_checked passes, worked]
        rfl
      · unfold commitOf
        simp only [passes, worked, own]
        rw [if_neg Bool.false_ne_true, commitsOf, if_pos rfl, List.append_nil]

theorem request_answered (settled : Settled identity a)
    (carries : Carries sha256 identity options requestDigest) :
    Answered sha256 identity options ending requestDigest a
      ⟨(executeIdempotentCommand sha256 options ending a.db).2,
        commitsOf identity (commitOf sha256 options ending a.db) ++ a.commits⟩ where
  alike _ answer := alike_of_settled settled carries answer
  reused _ before other := refused_of_settled settled carries before other
  thrown _ none throws :=
    have kept := kept_of_thrown settled carries none throws
    ⟨kept.1, by rw [kept.1, kept.2]⟩
  executes _ _ _ none opened returns resolved answered := by
    subst answered
    exact executed_of_free settled carries none opened returns resolved

/-! ## Runs -/

/-- What one step keeps of the exactly-once contract of a key. -/
def ExactlyOnce (sha256 : String → String) (identity : Identity) (a : Ledger State)
    (event : Event State) (b : Ledger State) : Prop :=
  b.commits.length ≤ 1 ∧ ∀ options ending requestDigest, event = .request options ending →
    Carries sha256 identity options requestDigest →
      Answered sha256 identity options ending requestDigest a b

theorem step_exactlyOnce {b : Ledger State} {event : Event State}
    (step : Step sha256 identity a event b) (settled : Settled identity a) :
    ExactlyOnce sha256 identity a event b := by
  constructor
  · cases step_settled step settled with
    | free => exact Nat.zero_le 1
    | taken => exact Nat.le_refl 1
  · rintro options ending requestDigest same carries
    cases same
    cases step
    exact request_answered settled carries

/-- Along every run from a database without a row of the key, at most one run
of it is committed, every success repeats its reply, a request with another
digest changes nothing, and a run that throws leaves the key free. -/
theorem commands_exactly_once {db : Database State} {labels : List (Event State)}
    {last : Ledger State} (absent : db.row identity = none)
    (run : Run (Step sha256 identity) ⟨db, []⟩ labels last) :
    Run (fun a event b => Step sha256 identity a event b ∧ ExactlyOnce sha256 identity a event b)
      ⟨db, []⟩ labels last := by
  apply run.imp_under (Settled identity)
  · exact step_settled
  · intro a event b _ settled step
    exact ⟨step, step_exactlyOnce step settled⟩
  · exact Settled.free absent

/-! ## Replays -/

/-- A counter behind one open fence. -/
def counterDatabase (enabled : Bool) : Database Nat where
  commandIdempotency := Table.empty
  writerFences := Table.empty.insert ⟨"r3.inventory.commands", writerOwner, enabled, 2⟩
  state := 0

def counterKey : Identity := ⟨"inventory.reserve", "user:9", "adapter-parity-key-000001"⟩

/-- Count one, under the key. -/
def counts (payload : Value) : Options Nat where
  actorScope := counterKey.actorScope
  command := counterKey.command
  fenceResource := "r3.inventory.commands"
  missingIdempotencyKeyIsInvalid := false
  payload := payload
  idempotencyKey := .text counterKey.idempotencyKey
  requestDigest := .absent
  responseStatus := .fixed 201
  run _ _ count := .ok ([("created", .boolean true)], count + 1)
  validateResponseStatus := false
  verifyOnlyStringDigestHeaders := true

/-- The ledger after one count, and after its fence was closed. -/
def counted : Ledger Nat where
  db := (executeIdempotentCommand id (counts .null) .answered (counterDatabase true)).2
  commits := commitsOf counterKey (commitOf id (counts .null) .answered (counterDatabase true))

def countedAndClosed : Ledger Nat where
  db := { counted.db with writerFences := (counterDatabase false).writerFences }
  commits := counted.commits

theorem commands_exactly_once_counted :
    Run (fun a event b => Step id counterKey a event b ∧ ExactlyOnce id counterKey a event b)
      ⟨counterDatabase true, []⟩
      [.request (counts .null) .answered, .request (counts .null) .answered]
      ⟨(executeIdempotentCommand id (counts .null) .answered counted.db).2,
        commitsOf counterKey (commitOf id (counts .null) .answered counted.db) ++
          counted.commits⟩ := by
  apply commands_exactly_once rfl
  apply Run.next Step.request
  exact Run.single Step.request

def errorCode : Except CommandError Response → Option String
  | .ok _ => none
  | .error error => some error.code

/-- The fence is checked before the digest: behind a closed one another digest
is refused with the code of the fence. -/
theorem closed_fence_hides_reuse :
    Run (Step id counterKey) ⟨counterDatabase true, []⟩
        [.request (counts .null) .answered, .elsewhere] countedAndClosed ∧
      countedAndClosed.commits.map (·.requestDigest) =
        ["\x7b\"command\":\"inventory.reserve\",\"payload\":null\x7d"] ∧
      Carries id counterKey (counts (.boolean true))
        "\x7b\"command\":\"inventory.reserve\",\"payload\":true\x7d" ∧
      errorCode (executeIdempotentCommand id (counts (.boolean true)) .answered
        countedAndClosed.db).1 = some "WRITER_FENCE_REJECTED" := by
  refine ⟨?_, by decide +kernel, ⟨?_, rfl⟩, by decide +kernel⟩
  · exact Run.next Step.request (Run.single (Step.elsewhere rfl))
  · rfl

end SupplyChain.Commands
