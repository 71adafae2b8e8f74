import SupplyChain.MutationClient
import SupplyChain.Commands.Outcomes
import SupplyChain.Relational.Runs

/-!
Retries of one mutation against the executor. A request is on its way until the
server handles it, also after the client has given it up; what the client reads
may be the answer of the server, the answer without its body, the answer of a
gateway or nothing.
-/

namespace SupplyChain.MutationClient

open Relational Json Commands

variable {State : Type}

/-! ## The system -/

/-- What the client knows of a request it sent: its answer told a commit or a
refusal of the server, or nothing. -/
inductive Verdict
  | success | refusal | nothing
  deriving DecidableEq

/-- Where the request is that the client waits for. -/
inductive Progress
  | travelling
  | answered (answer : Answer) (committed : Bool)

/-- The tab, the server and the requests between them. `verdicts` are those of
the requests sent with the pending key, `discards` what they were whenever the
key was discarded, and `commits` counts the runs since the client last returned
a success or a definite refusal. -/
structure World (State : Type) where
  tab : Tab
  server : Commands.Database State
  current : Option (Sent × Progress)
  strays : List String
  verdicts : List Verdict
  discards : List (List Verdict)
  commits : Nat

inductive Event (State : Type)
  | call (token : Option String)
  | handle (options : Options State) (ending : Ending)
  | turnAway (answer : Answer)
  | handleStray (idempotencyKey : String) (options : Options State) (ending : Ending)
  | deliver
  | deliverWithoutBody
  | gatewayError (answer : Answer)
  | networkFailure
  | elsewhere

/-- The answer of the server as it is sent; the request id is not read. -/
def answerOf : Except CommandError Response → Answer
  | .ok response =>
      ⟨response.statusCode, some (.object [
        ("command", .object [("command", .text response.command),
          ("idempotencyKey", .text response.idempotencyKey),
          ("requestDigest", .text response.requestDigest),
          ("replayed", .boolean response.replayed)]),
        ("result", .object response.result)])⟩
  | .error error =>
      ⟨error.statusCode, some (.object [("code", .text error.code), ("message", .text error.message)])⟩

def answers : Except CommandError Response → Bool
  | .ok _ => true
  | .error _ => false

/-- The verdict on a request whose fetch is over. -/
def verdictOf (progress : Progress) (fetched : Option Answer)
    (returned : Except MutationError Value) : Verdict :=
  match returned, progress, fetched with
  | .ok _, _, _ => .success
  | .error error, .answered _ false, some answer =>
      if answer.ok = false ∧ error.outcomeUnknown = false then .refusal else .nothing
  | _, _, _ => .nothing

/-- The call of a mutation: its request is on its way, unless the client refuses
it itself. -/
def World.called (browser : Browser) (mutation : Mutation) (token : Option String)
    (world : World State) : World State :=
  match begin browser token mutation world.tab with
  | (.ok sent, tab) => { world with tab, current := some (sent, .travelling) }
  | (.error _, tab) => { world with tab }

/-- The server has handled the current request. -/
def World.handled (sha256 : String → String) (options : Options State) (ending : Ending)
    (world : World State) (sent : Sent) : World State :=
  let executed := executeIdempotentCommand sha256 options ending world.server
  let committed := (commitOf sha256 options ending world.server).isSome
  { world with
    server := executed.2
    current := some (sent, .answered (answerOf executed.1) (answers executed.1 || committed))
    commits := world.commits + if committed then 1 else 0 }

/-- A request given up before its answer may still reach the server. -/
def Progress.strays (idempotencyKey : String) (strays : List String) : Progress → List String
  | .travelling => idempotencyKey :: strays
  | .answered _ _ => strays

/-- The fetch of the current request is over. -/
def World.fetched (browser : Browser) (world : World State) (sent : Sent) (progress : Progress)
    (answer : Option Answer) : World State :=
  let (returned, tab) := conclude browser sent answer world.tab
  let verdict := verdictOf progress answer returned
  let verdicts := world.verdicts ++ [verdict]
  let discarded := tab.storage sent.id = none
  { world with
    tab
    current := none
    strays := progress.strays sent.idempotencyKey world.strays
    verdicts := if discarded then [] else verdicts
    discards := if discarded then verdicts :: world.discards else world.discards
    commits := if verdict = .nothing then world.commits else 0 }

/-- The command that the route of a mutation runs, for the user at the tab. -/
structure Target where
  command : String
  actorScope : String

def Target.identity (target : Target) (idempotencyKey : String) : Identity :=
  ⟨target.command, target.actorScope, idempotencyKey⟩

/-- The route hands the request with a key to the executor. -/
def Reaches (target : Target) (idempotencyKey : String) (options : Options State) : Prop :=
  options.command = target.command ∧ options.actorScope = target.actorScope ∧
    options.idempotencyKey = .text idempotencyKey

/-- One step. Successes are answered with a status from 200 to 299; an answer of
a gateway has no code of the server and a status from 500 on; a request that is
turned away before the executor is answered with an error. -/
inductive Step (browser : Browser) (target : Target) (mutation : Mutation) :
    World State → Event State → World State → Prop
  | call {w : World State} {token : Option String} (idle : w.current = none) :
      Step browser target mutation w (.call token) (w.called browser mutation token)
  | handle {w : World State} {sent : Sent} {options : Options State} {ending : Ending}
      (travels : w.current = some (sent, .travelling))
      (reaches : Reaches target sent.idempotencyKey options)
      (standard : ∀ response,
        (executeIdempotentCommand browser.sha256 options ending w.server).1 = .ok response →
          200 ≤ response.statusCode ∧ response.statusCode ≤ 299) :
      Step browser target mutation w (.handle options ending)
        (w.handled browser.sha256 options ending sent)
  | turnAway {w : World State} {sent : Sent} {answer : Answer}
      (travels : w.current = some (sent, .travelling)) (error : answer.ok = false) :
      Step browser target mutation w (.turnAway answer)
        { w with current := some (sent, .answered answer false) }
  | handleStray {w : World State} {idempotencyKey : String} {options : Options State}
      {ending : Ending} (travels : idempotencyKey ∈ w.strays)
      (reaches : Reaches target idempotencyKey options) :
      Step browser target mutation w (.handleStray idempotencyKey options ending)
        { w with
          server := (executeIdempotentCommand browser.sha256 options ending w.server).2
          strays := w.strays.erase idempotencyKey
          commits :=
            w.commits + if (commitOf browser.sha256 options ending w.server).isSome then 1 else 0 }
  | deliver {w : World State} {sent : Sent} {answer : Answer} {committed : Bool}
      (arrived : w.current = some (sent, .answered answer committed)) :
      Step browser target mutation w .deliver
        (w.fetched browser sent (.answered answer committed) (some answer))
  | deliverWithoutBody {w : World State} {sent : Sent} {answer : Answer} {committed : Bool}
      (arrived : w.current = some (sent, .answered answer committed)) :
      Step browser target mutation w .deliverWithoutBody
        (w.fetched browser sent (.answered answer committed) (some ⟨answer.status, none⟩))
  | gatewayError {w : World State} {sent : Sent} {progress : Progress} {answer : Answer}
      (waits : w.current = some (sent, progress)) (status : 500 ≤ answer.status)
      (foreign : property (answer.json.getD (.object [])) "code" = .undefined) :
      Step browser target mutation w (.gatewayError answer)
        (w.fetched browser sent progress (some answer))
  | networkFailure {w : World State} {sent : Sent} {progress : Progress}
      (waits : w.current = some (sent, progress)) :
      Step browser target mutation w .networkFailure (w.fetched browser sent progress none)
  | elsewhere {w : World State} {server : Commands.Database State}
      (kept : ∀ identity, w.server.row identity ≠ none → server.row identity ≠ none) :
      Step browser target mutation w .elsewhere { w with server }

/-! ## What the claim asks of a step, and when the code does it -/

/-- The outcome of every request sent with a key is known: one of them told the
commit, or each was refused. -/
def Known (verdicts : List Verdict) : Prop :=
  .success ∈ verdicts ∨ ∀ verdict ∈ verdicts, verdict = .refusal

/-- At most one run is committed until the client has returned a success or a
definite refusal, and keys are discarded only when all outcomes are known. -/
def AtMostOnce (world : World State) : Prop :=
  world.commits ≤ 1 ∧ ∀ verdicts ∈ world.discards, Known verdicts

/-- A 2xx answer without the result or the command. -/
def Answer.invalid (answer : Answer) : Prop :=
  let body := answer.json.getD (.object [])
  answer.ok = true ∧ isNullish body = false ∧
    ((property body "result").isUndefined = true ∨ (property body "command").isUndefined = true)

/-- An error whose code is none of the two of an unknown outcome. -/
def Answer.definite (answer : Answer) : Prop :=
  let body := answer.json.getD (.object [])
  answer.ok = false ∧ isNullish body = false ∧
    Value.isText (errorCode answer body) "COMMAND_OUTCOME_UNKNOWN" = false ∧
    Value.isText (errorCode answer body) "NETWORK_OUTCOME_UNKNOWN" = false

/-- An answer that the client reads as what it is: no 2xx answer that lacks its
envelope, and no definite error for a request that repeats another. -/
def Unmistaken (world : World State) (answer : Answer) : Prop :=
  ¬ answer.invalid ∧ (answer.definite → world.verdicts = [])

/-- The answer that the client reads in a step. -/
def Event.read (world : World State) : Event State → Option Answer
  | .deliver =>
      match world.current with
      | some (_, .answered answer _) => some answer
      | _ => none
  | .deliverWithoutBody =>
      match world.current with
      | some (_, .answered answer _) => some ⟨answer.status, none⟩
      | _ => none
  | _ => none

def ReadsRight (world : World State) (event : Event State) : Prop :=
  ∀ answer, event.read world = some answer → Unmistaken world answer

/-! ## The executor under the keys of the mutation -/

variable {browser : Browser} {target : Target} {mutation : Mutation}

section Executor

variable {options : Options State} {ending : Ending} {server : Commands.Database State}
  {idempotencyKey : String} {sha256 : String → String}

/-- The key has a row: no request with it runs the command again. -/
def Present (target : Target) (server : Commands.Database State) (idempotencyKey : String) : Prop :=
  server.row (target.identity idempotencyKey) ≠ none

theorem checked_key {key requestDigest : String}
    (passes : checked sha256 options = .ok (key, requestDigest))
    (header : options.idempotencyKey = .text idempotencyKey) : key = idempotencyKey := by
  unfold checked at passes
  rw [header] at passes
  unfold commandIdempotencyKey at passes
  by_cases valid : isIdempotencyKey idempotencyKey = true
  · cases digest : canonicalRequestDigest sha256 options.command options.payload with
    | error error => simp [valid, digest, bind, Except.bind] at passes
    | ok value =>
        cases verified : verifyClientDigest options.requestDigest value
            options.verifyOnlyStringDigestHeaders with
        | error error => simp [valid, digest, verified, bind, Except.bind] at passes
        | ok _ =>
            simp [valid, digest, verified, bind, Except.bind, pure, Except.pure] at passes
            exact passes.1.symm
  · simp [valid, bind, Except.bind] at passes

theorem reaches_identity (reaches : Reaches target idempotencyKey options) {key : String}
    (same : key = idempotencyKey) : options.identity key = target.identity idempotencyKey := by
  rw [Options.identity, Target.identity, reaches.1, reaches.2.1, same]

theorem completed_present {db : Commands.Database State} {own other : Identity}
    {requestDigest : String} {responseStatus : Nat} {result : JsonObject} {state : State}
    (absent : db.row own = none) (present : db.row other ≠ none) :
    (db.completed own requestDigest responseStatus result state).row other ≠ none := by
  have apart : other ≠ own := fun same => present (same ▸ absent)
  rw [completed_other apart]
  exact present

theorem completed_presents {requestDigest : String} {responseStatus : Nat} {result : JsonObject}
    {state : State} (absent : server.row (target.identity idempotencyKey) = none) :
    Present target (server.completed (target.identity idempotencyKey) requestDigest responseStatus
      result state) idempotencyKey := by
  rw [Present, completed_row absent]
  simp

theorem handled_rows (sha256 : String → String) (ending : Ending) (server : Commands.Database State)
    (reaches : Reaches target idempotencyKey options) :
    (∀ identity, server.row identity ≠ none →
      (executeIdempotentCommand sha256 options ending server).2.row identity ≠ none) ∧
    (answers (executeIdempotentCommand sha256 options ending server).1 = true →
      Present target (executeIdempotentCommand sha256 options ending server).2 idempotencyKey) ∧
    ((commitOf sha256 options ending server).isSome = true →
      ¬ Present target server idempotencyKey ∧
        Present target (executeIdempotentCommand sha256 options ending server).2
          idempotencyKey) := by
  have handled := executeIdempotentCommand_handled sha256 options ending server
  generalize (executeIdempotentCommand sha256 options ending server).2 = server' at handled ⊢
  generalize (executeIdempotentCommand sha256 options ending server).1 = answer at handled ⊢
  generalize commitOf sha256 options ending server = commit at handled ⊢
  cases handled with
  | refused => exact ⟨fun _ present => present, nofun, nofun⟩
  | replayed passes found =>
      rw [reaches_identity reaches (checked_key passes reaches.2.2)] at found
      exact ⟨fun _ present => present, fun _ => by simp [Present, found], nofun⟩
  | ran passes absent =>
      rw [reaches_identity reaches (checked_key passes reaches.2.2)] at absent ⊢
      exact ⟨fun _ => completed_present absent, fun _ => completed_presents absent,
        fun _ => ⟨fun before => before absent, completed_presents absent⟩⟩
  | unreported passes absent =>
      rw [reaches_identity reaches (checked_key passes reaches.2.2)] at absent ⊢
      exact ⟨fun _ => completed_present absent, fun _ => completed_presents absent,
        fun _ => ⟨fun before => before absent, completed_presents absent⟩⟩

theorem ok_iff {answer : Answer} : answer.ok = true ↔ 200 ≤ answer.status ∧ answer.status ≤ 299 := by
  simp [Answer.ok]

theorem answerOf_error {answer : Except CommandError Response} (refused : answers answer = false) :
    (answerOf answer).ok = false := by
  cases answer with
  | ok response => cases refused
  | error error =>
      have refusal := error.refusal
      rw [← Bool.not_eq_true, ok_iff]
      simp only [answerOf]
      omega

/-- An error that hides a commit says that the outcome is unknown, with its body
or without. -/
theorem hidden_commit
    (committed : (commitOf sha256 options ending server).isSome = true)
    (error : answers (executeIdempotentCommand sha256 options ending server).1 = false) :
    ¬ (answerOf (executeIdempotentCommand sha256 options ending server).1).definite ∧
      ¬ (⟨(answerOf (executeIdempotentCommand sha256 options ending server).1).status, none⟩ :
        Answer).definite := by
  have handled := executeIdempotentCommand_handled sha256 options ending server
  generalize (executeIdempotentCommand sha256 options ending server).2 = server' at handled
  generalize (executeIdempotentCommand sha256 options ending server).1 = answer at handled error ⊢
  generalize commitOf sha256 options ending server = commit at handled committed
  cases handled with
  | refused => cases committed
  | replayed => cases committed
  | ran => cases error
  | unreported =>
      constructor
      · rintro ⟨-, -, known, -⟩
        simp [answerOf, errorCode, property, Value.isText, Value.isUndefined, orElse,
          isNullish] at known
      · rintro ⟨-, -, -, known⟩
        simp [answerOf, errorCode, property, Value.isText, Value.isUndefined] at known

end Executor

/-! ## Reading answers -/

theorem isText_text {value text : String} : Value.isText (.text value) text = (value == text) := rfl

theorem gateway_unknown {answer : Answer} (status : 500 ≤ answer.status)
    (foreign : property (answer.json.getD (.object [])) "code" = .undefined) :
    ¬ answer.invalid ∧ ¬ answer.definite := by
  constructor
  · rintro ⟨ok, -⟩
    simp [Answer.ok] at ok
    omega
  · rintro ⟨-, -, -, known⟩
    simp [errorCode, foreign, status, Value.isUndefined, isText_text] at known

/-- What a call returns on an answer, and whether it keeps the pending key. -/
inductive Concluded (browser : Browser) (sent : Sent) (tab : Tab) (answer : Answer) :
    Except MutationError Value × Tab → Prop
  | success {result : Value} (ok : answer.ok = true) (complete : ¬ answer.invalid) :
      Concluded browser sent tab answer (.ok result, tab.removeItem sent.id)
  | invalid {error : MutationError} (invalid : answer.invalid) :
      Concluded browser sent tab answer (.error error, tab.removeItem sent.id)
  | definite {error : MutationError} (definite : answer.definite)
      (known : error.outcomeUnknown = false) :
      Concluded browser sent tab answer (.error error, tab.removeItem sent.id)
  | unknown {error : MutationError} (vague : ¬ answer.definite) (complete : ¬ answer.invalid)
      (unknown : error.outcomeUnknown = true) : Concluded browser sent tab answer (.error error, tab)

theorem conclude_concluded (browser : Browser) (sent : Sent) (tab : Tab) (answer : Answer) :
    Concluded browser sent tab answer (conclude browser sent (some answer) tab) := by
  unfold conclude decode
  simp only [Option.map_some]
  by_cases nullish : isNullish (answer.json.getD (.object [])) = true
  · simp only [nullish, if_true]
    apply Concluded.unknown
    · rintro ⟨-, readable, -⟩
      rw [nullish] at readable
      cases readable
    · rintro ⟨-, readable, -⟩
      rw [nullish] at readable
      cases readable
    · rfl
  · have readable : isNullish (answer.json.getD (.object [])) = false := by simpa using nullish
    simp only [readable, Bool.false_eq_true, if_false]
    by_cases ok : answer.ok = false
    · simp only [ok, if_true]
      have incomplete : ¬ answer.invalid := by
        rintro ⟨fine, -⟩
        rw [ok] at fine
        cases fine
      generalize named : errorCode answer (answer.json.getD (.object [])) = code
      cases unknown : Value.isText code "COMMAND_OUTCOME_UNKNOWN" ||
          Value.isText code "NETWORK_OUTCOME_UNKNOWN" with
      | false =>
          simp only [MutationError.outcomeUnknown, unknown, Bool.false_eq_true, if_false]
          rw [Bool.or_eq_false_iff] at unknown
          refine Concluded.definite ⟨ok, readable, ?_⟩ ?_
          · rw [named]
            exact unknown
          · exact Bool.or_eq_false_iff.mpr unknown
      | true =>
          simp only [MutationError.outcomeUnknown, unknown, if_true]
          apply Concluded.unknown _ incomplete
          · exact unknown
          · rintro ⟨-, -, first, second⟩
            rw [named] at first second
            rw [first, second] at unknown
            cases unknown
    · have fine : answer.ok = true := by simpa using ok
      simp only [fine, Bool.true_eq_false, if_false]
      by_cases lacking : (property (answer.json.getD (.object [])) "result").isUndefined = true ∨
          (property (answer.json.getD (.object [])) "command").isUndefined = true
      · simp only [lacking, if_true]
        exact Concluded.invalid ⟨fine, readable, lacking⟩
      · simp only [lacking, if_false]
        exact Concluded.success fine fun invalid => lacking invalid.2.2

end SupplyChain.MutationClient
