import SupplyChain.Relational.Runs

/-!
The transactions of the database client over the promises of the driver. The
code is a state machine that waits at five places for a promise or for its
cancellation; what the driver, the timers, the abort signals and the callback
do comes as events in any order.
-/

namespace SupplyChain.DatabaseClient

open Relational

/-! ## Promises -/

inductive Promise (α ε : Type)
  | uncalled
  | pending
  | resolved (value : α)
  | rejected (error : ε)
  deriving DecidableEq

variable {α ε R E : Type}

/-- A promise settles once: only a pending one takes an answer. -/
def Promise.settle : Promise α ε → Except ε α → Option (Promise α ε)
  | .pending, .ok value => some (.resolved value)
  | .pending, .error error => some (.rejected error)
  | _, _ => none

/-- The reason of an `OperationCancellation`. -/
inductive Reason
  | aborted
  | timedOut
  deriving DecidableEq

/-- How a `Promise.race` of a promise and a cancellation ends. -/
inductive Raced (α ε : Type)
  | won (value : α)
  | lost (error : ε)
  | cancelled (reason : Reason)

inductive Participant
  | promise
  | cancellation
  deriving DecidableEq

/-- The end of a race with a settled participant. Which of two settled ones it
is depends on the order in which they settled and is left open. -/
def race (promise : Promise α ε) (cancellation : Option Reason) :
    Participant → Option (Raced α ε)
  | .promise =>
      match promise with
      | .resolved value => some (.won value)
      | .rejected error => some (.lost error)
      | _ => none
  | .cancellation => cancellation.map .cancelled

/-! ## Errors -/

/-- The codes of a `DatabaseClientError` that a transaction can meet. -/
inductive ErrorCode
  | clientClosed
  | operationAborted
  | operationFailed
  | operationTimedOut
  | outcomeUnknown
  deriving DecidableEq

/-- What a promise of the client rejects with: an error of the client, an
invalid argument, or an error of the callback itself. -/
inductive ClientError (E : Type)
  | client (code : ErrorCode)
  | argument
  | thrown (error : E)
  deriving DecidableEq

def cancellationError : Reason → ClientError E
  | .aborted => .client .operationAborted
  | .timedOut => .client .operationTimedOut

def operationError : ClientError E := .client .operationFailed

def transactionOutcomeUnknown : ClientError E := .client .outcomeUnknown

/-- The codes that say that a statement was cancelled. -/
def ClientError.interrupted : ClientError E → Bool
  | .client .operationAborted => true
  | .client .operationTimedOut => true
  | _ => false

/-- An error of the driver; a `PROTOCOL_SEQUENCE_TIMEOUT` is a statement that
took too long. -/
inductive DriverError
  | sequenceTimeout
  | other
  deriving DecidableEq

/-! ## The transaction -/

/-- Where the code waits. -/
inductive Stage (R E : Type)
  | connecting
  | beginning
  | calling
  | committing (result : R)
  | rollingBack (error : ClientError E)
  | settled (outcome : Except (ClientError E) R)

inductive Disposal
  | released
  | destroyed
  deriving DecidableEq

/-- The statement that the callback waits for: the answer of the driver, which
is a result of the expected shape or not, and its own cancellation. -/
structure Statement where
  operationPromise : Promise Bool DriverError := .pending
  cancellation : Option Reason := none

/-- `connected` says that `connection` is defined, `late` that
`releaseLateConnection` waits, `interrupted` that a statement on the connection
was cancelled or timed out. -/
structure State (R E : Type) where
  stage : Stage R E := .connecting
  cancellation : Option Reason := none
  connectionPromise : Promise Unit DriverError := .pending
  beginPromise : Promise Unit DriverError := .uncalled
  callbackPromise : Promise R (ClientError E) := .uncalled
  commitPromise : Promise Unit DriverError := .uncalled
  rollbackPromise : Promise Unit DriverError := .uncalled
  statement : Option Statement := none
  connected : Bool := false
  began : Bool := false
  committed : Bool := false
  destroyed : Bool := false
  late : Bool := false
  disposals : List Disposal := []
  interrupted : Bool := false

namespace State

def dispose (how : Disposal) (s : State R E) : State R E :=
  { s with disposals := how :: s.disposals }

def destroyConnection (s : State R E) : State R E :=
  { s.dispose .destroyed with destroyed := true }

/-- The `finally` block and the end. -/
def finish (s : State R E) (outcome : Except (ClientError E) R) : State R E :=
  if !s.destroyed && s.connected then { s.dispose .released with stage := .settled outcome }
  else { s with stage := .settled outcome }

/-- The outer `catch` block. -/
def caught (s : State R E) (error : ClientError E) : State R E :=
  if s.began && !s.committed && !s.destroyed && s.connected then
    if error.interrupted then s.destroyConnection.finish (.error transactionOutcomeUnknown)
    else { s with rollbackPromise := .pending, stage := .rollingBack error }
  else s.finish (.error error)

def afterConnection (s : State R E) : Raced Unit DriverError → State R E
  | .won () => { s with connected := true, beginPromise := .pending, stage := .beginning }
  | .lost _ => s.caught operationError
  | .cancelled reason => { s with late := true }.caught (cancellationError reason)

def afterBegin (s : State R E) : Raced Unit DriverError → State R E
  | .won () => { s with began := true, callbackPromise := .pending, stage := .calling }
  | .lost _ => s.destroyConnection.caught operationError
  | .cancelled _ => s.destroyConnection.caught transactionOutcomeUnknown

def afterCallback (s : State R E) : Raced R (ClientError E) → State R E
  | .won result => { s with commitPromise := .pending, stage := .committing result }
  | .lost error => s.caught error
  | .cancelled _ => s.destroyConnection.caught transactionOutcomeUnknown

def afterCommit (s : State R E) (result : R) : Raced Unit DriverError → State R E
  | .won () => { s with committed := true }.finish (.ok result)
  | _ => s.destroyConnection.caught transactionOutcomeUnknown

def afterRollback (s : State R E) (error : ClientError E) : Raced Unit DriverError → State R E
  | .won () => s.finish (.error error)
  | _ => s.destroyConnection.finish (.error transactionOutcomeUnknown)

/-- The code goes on behind the race it waits at. -/
def resume (s : State R E) (participant : Participant) : Option (State R E) :=
  match s.stage with
  | .connecting => (race s.connectionPromise s.cancellation participant).map s.afterConnection
  | .beginning => (race s.beginPromise s.cancellation participant).map s.afterBegin
  | .calling => (race s.callbackPromise s.cancellation participant).map s.afterCallback
  | .committing result =>
      (race s.commitPromise s.cancellation participant).map (s.afterCommit result)
  | .rollingBack error =>
      (race s.rollbackPromise s.cancellation participant).map (s.afterRollback error)
  | .settled _ => none

end State

/-! ## The executor and the callback -/

/-- Why the executor refuses a statement before it hands it to the driver. -/
inductive Refusal
  | emptySql
  | invalidTimeout
  | noTimeLeft
  | aborted

def Refusal.error : Refusal → ClientError E
  | .emptySql => .argument
  | .invalidTimeout => .argument
  | .noTimeLeft => cancellationError .timedOut
  | .aborted => cancellationError .aborted

/-- Who decides the race of a statement. -/
inductive StatementParticipant
  | operation
  | cancellation
  | transactionCancellation
  deriving DecidableEq

/-- An error of the executor is the one that the callback rejects with. -/
def State.rejectCallback (s : State R E) (error : ClientError E) : State R E :=
  { s with statement := none, callbackPromise := .rejected error }

/-- The race of a statement ends. -/
def State.answered (s : State R E) : Raced Bool DriverError → State R E
  | .won true => { s with statement := none }
  | .won false => s.rejectCallback operationError
  | .lost .sequenceTimeout => { s with interrupted := true }.rejectCallback (cancellationError .timedOut)
  | .lost .other => s.rejectCallback operationError
  | .cancelled reason => { s with interrupted := true }.rejectCallback (cancellationError reason)

def State.executorResumes (s : State R E) (participant : StatementParticipant) :
    Option (State R E) :=
  s.statement.bind fun statement =>
    (match participant with
      | .operation => race statement.operationPromise none .promise
      | .cancellation => race statement.operationPromise statement.cancellation .cancellation
      | .transactionCancellation =>
          race statement.operationPromise s.cancellation .cancellation).map s.answered

/-! ## Events -/

inductive Call
  | getConnection
  | beginTransaction
  | commit
  | rollback
  deriving DecidableEq

/-- What can happen: an answer of the driver, a timer or an abort signal, a
move of the callback, or the code going on. A callback waits for each statement
before it does anything else. -/
inductive Event (R E : Type)
  | answers (call : Call) (answer : Except DriverError Unit)
  | cancels (reason : Reason)
  | resumes (participant : Participant)
  | connectionArrives
  | callbackQueries
  | callbackRefused (refusal : Refusal)
  | statementAnswers (answer : Except DriverError Bool)
  | statementCancels (reason : Reason)
  | executorResumes (participant : StatementParticipant)
  | callbackReturns (result : R)
  | callbackThrows (error : ClientError E)

namespace State

def answer (s : State R E) (answer : Except DriverError Unit) : Call → Option (State R E)
  | .getConnection => (s.connectionPromise.settle answer).map fun promise =>
      { s with connectionPromise := promise }
  | .beginTransaction => (s.beginPromise.settle answer).map fun promise =>
      { s with beginPromise := promise }
  | .commit => (s.commitPromise.settle answer).map fun promise =>
      { s with commitPromise := promise }
  | .rollback => (s.rollbackPromise.settle answer).map fun promise =>
      { s with rollbackPromise := promise }

/-- The timer and the listener are cleared at the end. -/
def cancel (s : State R E) (reason : Reason) : Option (State R E) :=
  match s.stage, s.cancellation with
  | .settled _, _ => none
  | _, some _ => none
  | _, none => some { s with cancellation := some reason }

/-- The reaction of `releaseLateConnection`. -/
def releaseLate (s : State R E) : Option (State R E) :=
  match s.late, s.connectionPromise with
  | true, .resolved () => some { s.dispose .released with late := false }
  | true, .rejected _ => some { s with late := false }
  | _, _ => none

/-- A move of a callback that is not waiting. -/
def callback (s : State R E) (move : State R E → State R E) : Option (State R E) :=
  match s.callbackPromise, s.statement with
  | .pending, none => some (move s)
  | _, _ => none

def answerStatement (s : State R E) (answer : Except DriverError Bool) : Option (State R E) :=
  s.statement.bind fun statement => (statement.operationPromise.settle answer).map fun promise =>
    { s with statement := some { statement with operationPromise := promise } }

def cancelStatement (s : State R E) (reason : Reason) : Option (State R E) :=
  s.statement.bind fun statement =>
    if statement.cancellation.isNone then
      some { s with statement := some { statement with cancellation := some reason } }
    else none

def step (s : State R E) : Event R E → Option (State R E)
  | .answers call answer => s.answer answer call
  | .cancels reason => s.cancel reason
  | .resumes participant => s.resume participant
  | .connectionArrives => s.releaseLate
  | .callbackQueries => s.callback fun s => { s with statement := some {} }
  | .callbackRefused refusal => s.callback fun s => s.rejectCallback refusal.error
  | .statementAnswers answer => s.answerStatement answer
  | .statementCancels reason => s.cancelStatement reason
  | .executorResumes participant => s.executorResumes participant
  | .callbackReturns result => s.callback fun s => { s with callbackPromise := .resolved result }
  | .callbackThrows error => s.callback fun s => s.rejectCallback error

end State

/-- The step relation of a transaction. -/
def Steps (s : State R E) (event : Event R E) (s' : State R E) : Prop :=
  s.step event = some s'

/-! ## The call -/

def minimumConnectTimeoutMs : Int := 100

def maximumTransactionTimeoutMs : Int := 60000

/-- A call that is refused before it asks for a connection. -/
def refused (error : ClientError E) : State R E where
  stage := .settled (.error error)
  connectionPromise := .uncalled

/-- The start of a transaction: whether the client is closed, the timeout that
was asked for, and whether the signal is aborted already. -/
def transaction (closed : Bool) (timeoutMs : Option Int) (aborted : Bool) : State R E :=
  if closed then refused (.client .clientClosed)
  else if timeoutMs.any (fun given =>
      decide (given < minimumConnectTimeoutMs ∨ maximumTransactionTimeoutMs < given)) then
    refused .argument
  else if aborted then refused (cancellationError .aborted)
  else {}

end SupplyChain.DatabaseClient
