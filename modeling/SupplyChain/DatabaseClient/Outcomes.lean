import SupplyChain.DatabaseClient

/-!
A transaction of the database client is honest about its outcome: what it
resolves with was committed, what it rejects with as a failure was not, and its
connection is disposed of exactly once.
-/

namespace SupplyChain.DatabaseClient

open Relational

variable {α ε R E : Type} {s s' : State R E} {event : Event R E} {events : List (Event R E)}

/-! ## The invariant -/

/-- The driver has not acknowledged the call and never will. -/
def Promise.Unacknowledged (promise : Promise α ε) : Prop :=
  promise = .uncalled ∨ ∃ error, promise = .rejected error

/-- What the callback has left behind: a statement was interrupted only if the
callback rejects with an error that says so. -/
structure CallbackSound (s : State R E) : Prop where
  uncalled : s.callbackPromise = .uncalled → s.statement = none ∧ s.interrupted = false
  pending : s.callbackPromise = .pending → s.interrupted = false
  resolved : ∀ result, s.callbackPromise = .resolved result →
    s.statement = none ∧ s.interrupted = false
  rejected : ∀ error, s.callbackPromise = .rejected error →
    s.statement = none ∧ (s.interrupted = true → error.interrupted = true)

/-- No connection was obtained before the end; one that arrives later is
released. -/
structure Unconnected (s : State R E) : Prop where
  connected : s.connected = false
  callback : s.callbackPromise = .uncalled
  disposal : (s.late = true ∧ s.disposals = []) ∨
    (s.late = false ∧ s.disposals = [] ∧ s.connectionPromise.Unacknowledged) ∨
    (s.late = false ∧ s.disposals = [.released] ∧ s.connectionPromise = .resolved ())

/-- The connection was disposed of, and only released when the callback is done
and interrupted no statement. -/
structure Disposed (s : State R E) : Prop where
  connection : s.connectionPromise = .resolved ()
  late : s.late = false
  disposal : s.disposals = [.destroyed] ∨
    (s.disposals = [.released] ∧ s.interrupted = false ∧ s.callbackPromise ≠ .pending)

/-- What an outcome says about the driver. -/
structure Honest (s : State R E) (outcome : Except (ClientError E) R) : Prop where
  resolves : ∀ result, outcome = .ok result → s.commitPromise = .resolved ()
  rejects : ∀ error, outcome = .error error → error ≠ transactionOutcomeUnknown →
    s.commitPromise = .uncalled ∧
      (s.beginPromise.Unacknowledged ∨ s.rollbackPromise = .resolved ())
  disposed : Unconnected s ∨ Disposed s

/-- A connection is held, and none has been disposed of. -/
structure Holding (s : State R E) : Prop where
  connection : s.connectionPromise = .resolved ()
  connected : s.connected = true
  destroyed : s.destroyed = false
  late : s.late = false
  disposals : s.disposals = []

/-- What holds where the code waits. -/
def Lifecycle (s : State R E) : Prop :=
  match s.stage with
  | .connecting => s.connected = false ∧ s.began = false ∧ s.committed = false ∧
      s.destroyed = false ∧ s.late = false ∧ s.disposals = [] ∧ s.beginPromise = .uncalled ∧
      s.callbackPromise = .uncalled ∧ s.commitPromise = .uncalled ∧ s.rollbackPromise = .uncalled
  | .beginning => Holding s ∧ s.committed = false ∧ s.callbackPromise = .uncalled ∧
      s.commitPromise = .uncalled ∧ s.rollbackPromise = .uncalled
  | .calling => Holding s ∧ s.began = true ∧ s.committed = false ∧
      s.commitPromise = .uncalled ∧ s.rollbackPromise = .uncalled
  | .committing result => Holding s ∧ s.callbackPromise = .resolved result ∧
      s.rollbackPromise = .uncalled
  | .rollingBack error => Holding s ∧ s.callbackPromise = .rejected error ∧
      error.interrupted = false ∧ s.commitPromise = .uncalled
  | .settled outcome => Honest s outcome

/-! ## The callback -/

theorem CallbackSound.of_same (sound : CallbackSound s)
    (same : s'.callbackPromise = s.callbackPromise) (statement : s'.statement = s.statement)
    (interrupted : s'.interrupted = s.interrupted) : CallbackSound s' := by
  constructor
  · rw [same, statement, interrupted]
    exact sound.uncalled
  · rw [same, interrupted]
    exact sound.pending
  · rw [same, statement, interrupted]
    exact sound.resolved
  · rw [same, statement, interrupted]
    exact sound.rejected

/-- A callback that rejects has interrupted a statement only if its error says so. -/
theorem CallbackSound.reject {error : ClientError E}
    (reason : s.interrupted = true → error.interrupted = true) :
    CallbackSound (s.rejectCallback error) := by
  constructor
  · intro uncalled
    cases uncalled
  · intro pending
    cases pending
  · intro result resolved
    cases resolved
  · intro other rejected
    cases rejected
    exact ⟨rfl, reason⟩

theorem resume_callback {participant : Participant} (resumes : s.resume participant = some s') :
    s'.statement = s.statement ∧ s'.interrupted = s.interrupted ∧
      (s'.callbackPromise = s.callbackPromise ∨
        s.stage = .beginning ∧ s'.callbackPromise = .pending) := by
  have finished : ∀ (a : State R E) outcome, (a.finish outcome).statement = a.statement ∧
      (a.finish outcome).interrupted = a.interrupted ∧
      (a.finish outcome).callbackPromise = a.callbackPromise := by
    intro a outcome
    unfold State.finish State.dispose
    split
    · exact ⟨rfl, rfl, rfl⟩
    · exact ⟨rfl, rfl, rfl⟩
  have caught : ∀ (a : State R E) error, (a.caught error).statement = a.statement ∧
      (a.caught error).interrupted = a.interrupted ∧
      (a.caught error).callbackPromise = a.callbackPromise := by
    intro a error
    unfold State.caught
    split
    · split
      · exact finished _ _
      · exact ⟨rfl, rfl, rfl⟩
    · exact finished _ _
  unfold State.resume at resumes
  split at resumes
  case h_6 => cases resumes
  all_goals
    obtain ⟨raced, -, rfl⟩ := Option.map_eq_some_iff.mp resumes
    cases raced
  all_goals
    simp_all [State.afterConnection, State.afterBegin, State.afterCallback, State.afterCommit,
      State.afterRollback, State.destroyConnection, State.dispose]

theorem CallbackSound.waiting (sound : CallbackSound s) {statement : Statement}
    (waits : s.statement = some statement) : s.callbackPromise = .pending := by
  cases called : s.callbackPromise with
  | pending => rfl
  | uncalled => simp [(sound.uncalled called).1] at waits
  | resolved result => simp [(sound.resolved result called).1] at waits
  | rejected error => simp [(sound.rejected error called).1] at waits

theorem answered_callback (sound : CallbackSound s) {statement : Statement}
    (waits : s.statement = some statement) (raced : Raced Bool DriverError) :
    CallbackSound (s.answered raced) := by
  have called := sound.waiting waits
  have calm := sound.pending called
  cases raced with
  | won valid =>
      cases valid with
      | true =>
          refine ⟨?_, fun _ => calm, ?_, ?_⟩
          · intro uncalled
            exact ⟨rfl, calm⟩
          · intro result resolved
            exact ⟨rfl, calm⟩
          · intro error rejected
            exact ⟨rfl, fun interrupted => by simp [State.answered, calm] at interrupted⟩
      | false => exact CallbackSound.reject (by simp [calm])
  | lost error =>
      cases error with
      | sequenceTimeout => exact CallbackSound.reject fun _ => rfl
      | other => exact CallbackSound.reject (by simp [calm])
  | cancelled reason =>
      cases reason with
      | aborted => exact CallbackSound.reject fun _ => rfl
      | timedOut => exact CallbackSound.reject fun _ => rfl

/-! ## Answers -/

theorem Promise.settle_some {promise settled : Promise α ε} {answer : Except ε α}
    (settles : promise.settle answer = some settled) : promise = .pending := by
  cases promise with
  | pending => rfl
  | _ => cases answer <;> cases settles

/-- What holds where the code waits is stable under what the callback, the
timers and the signals do: only a pending callback moves. -/
theorem Lifecycle.moves (waits : Lifecycle s) (pending : s.callbackPromise = .pending)
    (callbackPromise : Promise R (ClientError E)) (statement : Option Statement)
    (interrupted : Bool) :
    Lifecycle { s with callbackPromise, statement, interrupted } := by
  unfold Lifecycle at waits ⊢
  cases stage : s.stage with
  | connecting => simp [stage, pending] at waits
  | beginning => simp [stage, pending] at waits
  | calling =>
      simp only [stage] at waits ⊢
      obtain ⟨holding, rest⟩ := waits
      exact ⟨{ holding with }, rest⟩
  | committing result => simp [stage, pending] at waits
  | rollingBack error => simp [stage, pending] at waits
  | settled outcome =>
      simp only [stage] at waits ⊢
      refine ⟨waits.resolves, waits.rejects, ?_⟩
      rcases waits.disposed with unconnected | disposed
      · rw [unconnected.callback] at pending
        cases pending
      · refine Or.inr ⟨disposed.connection, disposed.late, ?_⟩
        rcases disposed.disposal with destroyed | ⟨-, -, done⟩
        · exact Or.inl destroyed
        · exact absurd pending done

theorem Lifecycle.cancel (waits : Lifecycle s) {reason : Reason}
    (cancels : s.cancel reason = some s') : Lifecycle s' := by
  unfold State.cancel at cancels
  split at cancels
  · cases cancels
  · cases cancels
  · cases cancels
    unfold Lifecycle at waits ⊢
    cases stage : s.stage with
    | settled outcome => simp_all
    | connecting => simpa [stage] using waits
    | _ =>
        simp only [stage] at waits ⊢
        obtain ⟨holding, rest⟩ := waits
        exact ⟨{ holding with }, rest⟩

theorem Lifecycle.releaseLate (waits : Lifecycle s) (arrives : s.releaseLate = some s') :
    Lifecycle s' := by
  unfold State.releaseLate at arrives
  have late : s.late = true := by
    split at arrives
    · assumption
    · assumption
    · cases arrives
  unfold Lifecycle at waits
  cases stage : s.stage with
  | connecting => simp [stage, late] at waits
  | settled outcome =>
      simp only [stage] at waits
      have unconnected : Unconnected s := by
        rcases waits.disposed with unconnected | disposed
        · exact unconnected
        · rw [disposed.late] at late
          cases late
      have fresh : s.disposals = [] := by
        rcases unconnected.disposal with ⟨-, empty⟩ | ⟨soon, -⟩ | ⟨soon, -⟩
        · exact empty
        · rw [soon] at late
          cases late
        · rw [soon] at late
          cases late
      split at arrives
      · rename_i arrived
        cases arrives
        simp only [Lifecycle, State.dispose, stage]
        refine ⟨waits.resolves, waits.rejects, Or.inl ⟨unconnected.connected, unconnected.callback, ?_⟩⟩
        exact Or.inr (Or.inr ⟨rfl, by simp [fresh], arrived⟩)
      · rename_i error _ refused
        cases arrives
        simp only [Lifecycle, stage]
        refine ⟨waits.resolves, waits.rejects, Or.inl ⟨unconnected.connected, unconnected.callback, ?_⟩⟩
        exact Or.inr (Or.inl ⟨rfl, fresh, Or.inr ⟨error, refused⟩⟩)
      · cases arrives
  | _ =>
      simp only [stage] at waits
      rw [waits.1.late] at late
      cases late

theorem Lifecycle.asked (waits : Lifecycle s) (pending : s.connectionPromise = .pending) :
    s.stage = .connecting ∨ ∃ outcome, s.stage = .settled outcome ∧ Honest s outcome ∧
      s.late = true ∧ s.disposals = [] := by
  unfold Lifecycle at waits
  cases stage : s.stage with
  | connecting => exact Or.inl rfl
  | settled outcome =>
      simp only [stage] at waits
      refine Or.inr ⟨outcome, rfl, waits, ?_⟩
      rcases waits.disposed with unconnected | disposed
      · rcases unconnected.disposal with waiting | ⟨-, -, never | ⟨_, never⟩⟩ | ⟨-, -, obtained⟩
        · exact waiting
        · simp [never] at pending
        · simp [never] at pending
        · simp [obtained] at pending
      · simp [disposed.connection] at pending
  | _ =>
      simp only [stage] at waits
      simp [waits.1.connection] at pending

theorem Lifecycle.answer (waits : Lifecycle s) {call : Call} {answer : Except DriverError Unit}
    (answers : s.answer answer call = some s') : Lifecycle s' := by
  cases call with
  | getConnection =>
      obtain ⟨settled, settles, rfl⟩ := Option.map_eq_some_iff.mp answers
      rcases waits.asked (Promise.settle_some settles) with stage | ⟨outcome, stage, honest, late, fresh⟩
      · simpa [Lifecycle, stage] using waits
      · have unconnected : Unconnected s := by
          rcases honest.disposed with unconnected | disposed
          · exact unconnected
          · simp [disposed.late] at late
        simp only [Lifecycle, stage]
        exact ⟨honest.resolves, honest.rejects,
          Or.inl ⟨unconnected.connected, unconnected.callback, Or.inl ⟨late, fresh⟩⟩⟩
  | beginTransaction =>
      obtain ⟨settled, settles, rfl⟩ := Option.map_eq_some_iff.mp answers
      have pending := Promise.settle_some settles
      unfold Lifecycle at waits ⊢
      cases stage : s.stage with
      | connecting => simp [stage, pending] at waits
      | settled outcome =>
          simp only [stage] at waits ⊢
          refine ⟨waits.resolves, ?_, waits.disposed.imp (fun d => { d with }) fun d => { d with }⟩
          intro error failed known
          obtain ⟨uncommitted, (never | ⟨_, never⟩) | rolled⟩ := waits.rejects error failed known
          · simp [never] at pending
          · simp [never] at pending
          · exact ⟨uncommitted, Or.inr rolled⟩
      | _ =>
          simp only [stage] at waits ⊢
          exact ⟨{ waits.1 with }, waits.2⟩
  | commit =>
      obtain ⟨settled, settles, rfl⟩ := Option.map_eq_some_iff.mp answers
      have pending := Promise.settle_some settles
      unfold Lifecycle at waits ⊢
      cases stage : s.stage with
      | committing result =>
          simp only [stage] at waits ⊢
          exact ⟨{ waits.1 with }, waits.2⟩
      | settled outcome =>
          simp only [stage] at waits ⊢
          refine ⟨?_, ?_, waits.disposed.imp (fun d => { d with }) fun d => { d with }⟩
          · intro result done
            simp [waits.resolves result done] at pending
          · intro error failed known
            simp [(waits.rejects error failed known).1] at pending
      | _ => simp [stage, pending] at waits
  | rollback =>
      obtain ⟨settled, settles, rfl⟩ := Option.map_eq_some_iff.mp answers
      have pending := Promise.settle_some settles
      unfold Lifecycle at waits ⊢
      cases stage : s.stage with
      | rollingBack error =>
          simp only [stage] at waits ⊢
          exact ⟨{ waits.1 with }, waits.2⟩
      | settled outcome =>
          simp only [stage] at waits ⊢
          refine ⟨waits.resolves, ?_, waits.disposed.imp (fun d => { d with }) fun d => { d with }⟩
          intro error failed known
          obtain ⟨uncommitted, never | rolled⟩ := waits.rejects error failed known
          · exact ⟨uncommitted, Or.inl never⟩
          · simp [rolled] at pending
      | _ => simp [stage, pending] at waits

/-! ## Ends -/

/-- The ends of a transaction that holds a connection: the connection is
destroyed, or it is released when the callback is done. -/
theorem destroyed_honest (holding : Holding s) {outcome : Except (ClientError E) R}
    (resolves : ∀ result, outcome ≠ .ok result)
    (rejects : ∀ error, outcome = .error error → error ≠ transactionOutcomeUnknown →
      s.commitPromise = .uncalled ∧ s.beginPromise.Unacknowledged) :
    Lifecycle (s.destroyConnection.finish outcome) := by
  simp only [State.finish, State.destroyConnection, State.dispose, Bool.not_true, Bool.false_and,
    Bool.false_eq_true, if_false, Lifecycle]
  refine ⟨fun result done => absurd done (resolves result), ?_, Or.inr ⟨holding.connection, holding.late, ?_⟩⟩
  · intro error failed known
    obtain ⟨uncommitted, unacknowledged⟩ := rejects error failed known
    exact ⟨uncommitted, Or.inl unacknowledged⟩
  · simp [holding.disposals]

theorem released_honest (holding : Holding s) {outcome : Except (ClientError E) R}
    (resolves : ∀ result, outcome = .ok result → s.commitPromise = .resolved ())
    (rejects : ∀ error, outcome = .error error →
      s.commitPromise = .uncalled ∧ s.rollbackPromise = .resolved ())
    (calm : s.interrupted = false) (done : s.callbackPromise ≠ .pending) :
    Lifecycle (s.finish outcome) := by
  simp only [State.finish, State.dispose, holding.destroyed, holding.connected, Bool.not_false,
    Bool.and_self, if_true, Lifecycle]
  refine ⟨resolves, ?_, Or.inr ⟨holding.connection, holding.late, ?_⟩⟩
  · intro error failed known
    obtain ⟨uncommitted, rolled⟩ := rejects error failed
    exact ⟨uncommitted, Or.inr rolled⟩
  · exact Or.inr ⟨by simp [holding.disposals], calm, done⟩

/-! ## The code goes on -/

theorem race_won {promise : Promise α ε} {cancellation : Option Reason}
    {participant : Participant} {value : α}
    (raced : race promise cancellation participant = some (.won value)) :
    promise = .resolved value := by
  cases participant with
  | cancellation => simp [race] at raced
  | promise => cases promise <;> simp_all [race]

theorem race_lost {promise : Promise α ε} {cancellation : Option Reason}
    {participant : Participant} {error : ε}
    (raced : race promise cancellation participant = some (.lost error)) :
    promise = .rejected error := by
  cases participant with
  | cancellation => simp [race] at raced
  | promise => cases promise <;> simp_all [race]

theorem caught_destroyed (error : ClientError E) :
    s.destroyConnection.caught error = s.destroyConnection.finish (.error error) := by
  simp [State.caught, State.destroyConnection]

theorem unknown_honest (holding : Holding s) :
    Lifecycle (s.destroyConnection.finish (.error transactionOutcomeUnknown)) := by
  apply destroyed_honest holding
  · intro result done
    cases done
  · intro error failed known
    cases failed
    exact absurd rfl known

theorem afterConnection_lifecycle (waits : Lifecycle s) (stage : s.stage = .connecting)
    {participant : Participant} {raced : Raced Unit DriverError}
    (ended : race s.connectionPromise s.cancellation participant = some raced) :
    Lifecycle (s.afterConnection raced) := by
  simp only [Lifecycle, stage] at waits
  obtain ⟨connected, began, committed, destroyed, late, disposals, begins, called, commits, rolls⟩ :=
    waits
  -- without a connection the `catch` and the `finally` block have nothing to do
  have plain : ∀ (a : State R E) error, a.began = false → a.connected = false →
      a.caught error = { a with stage := .settled (.error error) } := by
    intro a error notBegun notConnected
    simp [State.caught, State.finish, notBegun, notConnected]
  cases raced with
  | won value =>
      exact ⟨⟨race_won ended, rfl, destroyed, late, disposals⟩, committed, called, commits, rolls⟩
  | lost error =>
      have refused := race_lost ended
      simp only [State.afterConnection, plain s _ began connected, Lifecycle]
      refine ⟨?_, fun _ _ _ => ⟨commits, Or.inl (Or.inl begins)⟩, Or.inl ⟨connected, called, ?_⟩⟩
      · intro result done
        cases done
      · exact Or.inr (Or.inl ⟨late, disposals, Or.inr ⟨error, refused⟩⟩)
  | cancelled reason =>
      simp only [State.afterConnection, Lifecycle]
      rw [plain { s with late := true } (cancellationError reason) began connected]
      refine ⟨?_, fun _ _ _ => ⟨commits, Or.inl (Or.inl begins)⟩, Or.inl ⟨connected, called, ?_⟩⟩
      · intro result done
        cases done
      · exact Or.inl ⟨rfl, disposals⟩

theorem afterBegin_lifecycle (waits : Lifecycle s) (stage : s.stage = .beginning)
    {participant : Participant} {raced : Raced Unit DriverError}
    (ended : race s.beginPromise s.cancellation participant = some raced) :
    Lifecycle (s.afterBegin raced) := by
  simp only [Lifecycle, stage] at waits
  obtain ⟨holding, committed, called, commits, rolls⟩ := waits
  cases raced with
  | won value => exact ⟨{ holding with }, rfl, committed, commits, rolls⟩
  | lost error =>
      have refused := race_lost ended
      simp only [State.afterBegin, caught_destroyed]
      apply destroyed_honest holding
      · intro result done
        cases done
      · intro other failed known
        exact ⟨commits, Or.inr ⟨error, refused⟩⟩
  | cancelled reason =>
      simp only [State.afterBegin, caught_destroyed]
      exact unknown_honest holding

theorem afterCallback_lifecycle (waits : Lifecycle s) (stage : s.stage = .calling)
    {participant : Participant} {raced : Raced R (ClientError E)}
    (ended : race s.callbackPromise s.cancellation participant = some raced) :
    Lifecycle (s.afterCallback raced) := by
  simp only [Lifecycle, stage] at waits
  obtain ⟨holding, began, committed, commits, rolls⟩ := waits
  cases raced with
  | won result => exact ⟨{ holding with }, race_won ended, rolls⟩
  | lost error =>
      have rejected := race_lost ended
      have enters : (s.began && !s.committed && !s.destroyed && s.connected) = true := by
        simp [began, committed, holding.destroyed, holding.connected]
      simp only [State.afterCallback, State.caught, enters, if_true]
      cases interrupted : error.interrupted with
      | true => exact unknown_honest holding
      | false => exact ⟨{ holding with }, rejected, interrupted, commits⟩
  | cancelled reason =>
      simp only [State.afterCallback, caught_destroyed]
      exact unknown_honest holding

theorem afterCommit_lifecycle (waits : Lifecycle s) (sound : CallbackSound s) {result : R}
    (stage : s.stage = .committing result) {participant : Participant}
    {raced : Raced Unit DriverError}
    (ended : race s.commitPromise s.cancellation participant = some raced) :
    Lifecycle (s.afterCommit result raced) := by
  simp only [Lifecycle, stage] at waits
  obtain ⟨holding, called, rolls⟩ := waits
  cases raced with
  | won value =>
      have acknowledged := race_won ended
      apply released_honest (s := { s with committed := true }) { holding with }
      · intro other done
        exact acknowledged
      · intro error failed
        cases failed
      · exact (sound.resolved result called).2
      · simp [called]
  | _ =>
      simp only [State.afterCommit, caught_destroyed]
      exact unknown_honest holding

theorem afterRollback_lifecycle (waits : Lifecycle s) (sound : CallbackSound s)
    {error : ClientError E} (stage : s.stage = .rollingBack error) {participant : Participant}
    {raced : Raced Unit DriverError}
    (ended : race s.rollbackPromise s.cancellation participant = some raced) :
    Lifecycle (s.afterRollback error raced) := by
  simp only [Lifecycle, stage] at waits
  obtain ⟨holding, called, uninterrupted, commits⟩ := waits
  cases raced with
  | won value =>
      have acknowledged := race_won ended
      apply released_honest holding
      · intro result done
        cases done
      · intro other failed
        exact ⟨commits, acknowledged⟩
      · by_cases interrupted : s.interrupted = true
        · rw [(sound.rejected error called).2 interrupted] at uninterrupted
          cases uninterrupted
        · simpa using interrupted
      · simp [called]
  | _ => exact unknown_honest holding

theorem Lifecycle.resume (waits : Lifecycle s) (sound : CallbackSound s)
    {participant : Participant} (resumes : s.resume participant = some s') : Lifecycle s' := by
  unfold State.resume at resumes
  split at resumes
  case h_6 => cases resumes
  all_goals
    rename_i stage
    obtain ⟨raced, ended, rfl⟩ := Option.map_eq_some_iff.mp resumes
  · exact afterConnection_lifecycle waits stage ended
  · exact afterBegin_lifecycle waits stage ended
  · exact afterCallback_lifecycle waits stage ended
  · exact afterCommit_lifecycle waits sound stage ended
  · exact afterRollback_lifecycle waits sound stage ended

/-! ## Runs -/

/-- What holds in every state of a transaction. -/
structure Sound (s : State R E) : Prop where
  callback : CallbackSound s
  lifecycle : Lifecycle s

theorem CallbackSound.wait (sound : CallbackSound s) (pending : s.callbackPromise = .pending)
    (statement : Option Statement) : CallbackSound { s with statement } := by
  constructor
  · intro uncalled
    rw [pending] at uncalled
    cases uncalled
  · exact sound.pending
  · intro result resolved
    rw [pending] at resolved
    cases resolved
  · intro error rejected
    rw [pending] at rejected
    cases rejected

theorem Sound.callbackMoves (sound : Sound s) {move : State R E → State R E}
    (moves : s.callback move = some s')
    (callback : s.callbackPromise = .pending → s.statement = none → CallbackSound (move s))
    (own : ∃ callbackPromise statement, move s = { s with callbackPromise, statement }) :
    Sound s' := by
  unfold State.callback at moves
  split at moves
  · rename_i pending idle
    cases moves
    refine ⟨callback pending idle, ?_⟩
    obtain ⟨callbackPromise, statement, same⟩ := own
    rw [same]
    exact sound.lifecycle.moves pending callbackPromise statement s.interrupted
  · cases moves

theorem Sound.resume (sound : Sound s) {participant : Participant}
    (resumes : s.resume participant = some s') : Sound s' := by
  refine ⟨?_, sound.lifecycle.resume sound.callback resumes⟩
  obtain ⟨statement, interrupted, same | ⟨stage, pending⟩⟩ := resume_callback resumes
  · exact sound.callback.of_same same statement interrupted
  · have waits := sound.lifecycle
    simp only [Lifecycle, stage] at waits
    have calm := (sound.callback.uncalled waits.2.2.1).2
    constructor
    · intro uncalled
      rw [pending] at uncalled
      cases uncalled
    · intro _
      rw [interrupted, calm]
    · intro result resolved
      rw [pending] at resolved
      cases resolved
    · intro error rejected
      rw [pending] at rejected
      cases rejected

theorem Sound.statementMoves (sound : Sound s) {statement next : Statement}
    (waits : s.statement = some statement) : Sound { s with statement := some next } := by
  have pending := sound.callback.waiting waits
  refine ⟨sound.callback.wait pending _, ?_⟩
  exact sound.lifecycle.moves pending s.callbackPromise (some next) s.interrupted

theorem Sound.executor (sound : Sound s) {participant : StatementParticipant}
    (resumes : s.executorResumes participant = some s') : Sound s' := by
  obtain ⟨statement, waits, ended⟩ := Option.bind_eq_some_iff.mp resumes
  obtain ⟨raced, -, rfl⟩ := Option.map_eq_some_iff.mp ended
  refine ⟨answered_callback sound.callback waits raced, ?_⟩
  have moves := sound.lifecycle.moves (sound.callback.waiting waits)
  cases raced with
  | won valid =>
      cases valid with
      | true => exact moves _ _ _
      | false => exact moves _ _ _
  | lost error =>
      cases error with
      | sequenceTimeout => exact moves _ _ _
      | other => exact moves _ _ _
  | cancelled reason => exact moves _ _ _

theorem step_sound (step : Steps s event s') (sound : Sound s) : Sound s' := by
  cases event with
  | answers call answer =>
      refine ⟨?_, sound.lifecycle.answer step⟩
      cases call
      all_goals
        obtain ⟨settled, -, rfl⟩ := Option.map_eq_some_iff.mp step
        exact sound.callback.of_same rfl rfl rfl
  | cancels reason =>
      refine ⟨?_, sound.lifecycle.cancel step⟩
      simp only [Steps, State.step, State.cancel] at step
      split at step
      · cases step
      · cases step
      · cases step
        exact sound.callback.of_same rfl rfl rfl
  | resumes participant => exact sound.resume step
  | connectionArrives =>
      refine ⟨?_, sound.lifecycle.releaseLate step⟩
      simp only [Steps, State.step, State.releaseLate] at step
      split at step
      · cases step
        exact sound.callback.of_same rfl rfl rfl
      · cases step
        exact sound.callback.of_same rfl rfl rfl
      · cases step
  | callbackQueries =>
      simp only [Steps, State.step] at step
      apply sound.callbackMoves step
      · intro pending idle
        exact sound.callback.wait pending _
      · exact ⟨_, _, rfl⟩
  | callbackRefused refusal =>
      simp only [Steps, State.step] at step
      apply sound.callbackMoves step
      · intro pending idle
        exact CallbackSound.reject (by simp [sound.callback.pending pending])
      · exact ⟨_, _, rfl⟩
  | statementAnswers answer =>
      obtain ⟨statement, waits, answered⟩ := Option.bind_eq_some_iff.mp step
      obtain ⟨settled, -, rfl⟩ := Option.map_eq_some_iff.mp answered
      exact sound.statementMoves waits
  | statementCancels reason =>
      obtain ⟨statement, waits, cancelled⟩ := Option.bind_eq_some_iff.mp step
      split at cancelled
      · cases cancelled
        exact sound.statementMoves waits
      · cases cancelled
  | executorResumes participant => exact sound.executor step
  | callbackReturns result =>
      simp only [Steps, State.step] at step
      apply sound.callbackMoves step
      · intro pending idle
        have calm := sound.callback.pending pending
        constructor
        · intro uncalled
          cases uncalled
        · intro waiting
          cases waiting
        · intro other resolved
          exact ⟨idle, calm⟩
        · intro error rejected
          cases rejected
      · exact ⟨_, _, rfl⟩
  | callbackThrows error =>
      simp only [Steps, State.step] at step
      apply sound.callbackMoves step
      · intro pending idle
        exact CallbackSound.reject (by simp [sound.callback.pending pending])
      · exact ⟨_, _, rfl⟩

theorem transaction_sound (closed : Bool) (timeoutMs : Option Int) (aborted : Bool) :
    Sound (transaction closed timeoutMs aborted : State R E) := by
  have refuses : ∀ error : ClientError E, Sound (refused error : State R E) := by
    intro error
    constructor
    · constructor <;> simp [refused]
    · simp only [Lifecycle, refused]
      refine ⟨?_, fun _ _ _ => ⟨rfl, Or.inl (Or.inl rfl)⟩, Or.inl ⟨rfl, rfl, ?_⟩⟩
      · intro result done
        cases done
      · exact Or.inr (Or.inl ⟨rfl, rfl, Or.inl rfl⟩)
  unfold transaction
  split
  · exact refuses _
  · split
    · exact refuses _
    · split
      · exact refuses _
      · constructor
        · constructor <;> simp
        · simp [Lifecycle]

/-! ## The outcome -/

/-- The transaction has ended and no connection is on its way. -/
def Finished (s : State R E) : Prop :=
  (∃ outcome, s.stage = .settled outcome) ∧ s.late = false

/-- What a caller may rely on: a value was committed, a failure that is not an
unknown outcome was not, and the connection is disposed of once, never by a
release after an interrupted statement. -/
structure OutcomeHonest (s : State R E) : Prop where
  resolves : ∀ result, s.stage = .settled (.ok result) → s.commitPromise = .resolved ()
  rejects : ∀ error, s.stage = .settled (.error error) → error ≠ transactionOutcomeUnknown →
    s.commitPromise = .uncalled ∧
      (s.beginPromise ≠ .resolved () ∨ s.rollbackPromise = .resolved ())
  once : s.disposals.length ≤ 1
  disposes : Finished s → (s.connectionPromise = .resolved () ↔ s.disposals.length = 1)
  destroys : s.interrupted = true → .released ∉ s.disposals

theorem Sound.disposals (sound : Sound s) :
    s.disposals.length ≤ 1 ∧ (s.interrupted = true → .released ∉ s.disposals) := by
  have waits := sound.lifecycle
  unfold Lifecycle at waits
  cases stage : s.stage with
  | settled outcome =>
      simp only [stage] at waits
      rcases waits.disposed with unconnected | disposed
      · have calm := (sound.callback.uncalled unconnected.callback).2
        rcases unconnected.disposal with ⟨-, fresh⟩ | ⟨-, fresh, -⟩ | ⟨-, released, -⟩
        · simp [fresh]
        · simp [fresh]
        · simp [released, calm]
      · rcases disposed.disposal with destroyed | ⟨released, calm, -⟩
        · simp [destroyed]
        · simp [released, calm]
  | connecting =>
      simp only [stage] at waits
      simp [waits.2.2.2.2.2.1]
  | _ =>
      simp only [stage] at waits
      simp [waits.1.disposals]

/-- Whatever the driver, the timers, the signals and the callback do in whatever
order, a transaction is honest about its outcome. -/
theorem transaction_honest {closed aborted : Bool} {timeoutMs : Option Int}
    (run : Run Steps (transaction closed timeoutMs aborted) events s) : OutcomeHonest s := by
  have sound : Sound s :=
    run.preserves Sound (fun step => step_sound step) (transaction_sound closed timeoutMs aborted)
  have settled : ∀ outcome, s.stage = .settled outcome → Honest s outcome := by
    intro outcome stage
    have waits := sound.lifecycle
    simpa only [Lifecycle, stage] using waits
  constructor
  · intro result stage
    exact (settled _ stage).resolves result rfl
  · intro error stage known
    obtain ⟨uncommitted, (never | ⟨_, never⟩) | rolled⟩ := (settled _ stage).rejects error rfl known
    · exact ⟨uncommitted, Or.inl (by simp [never])⟩
    · exact ⟨uncommitted, Or.inl (by simp [never])⟩
    · exact ⟨uncommitted, Or.inr rolled⟩
  · exact sound.disposals.1
  · rintro ⟨⟨outcome, stage⟩, late⟩
    rcases (settled _ stage).disposed with unconnected | disposed
    · rcases unconnected.disposal with ⟨soon, -⟩ | ⟨-, fresh, never | ⟨_, never⟩⟩ | ⟨-, released, obtained⟩
      · rw [soon] at late
        cases late
      · simp [fresh, never]
      · simp [fresh, never]
      · simp [released, obtained]
    · rcases disposed.disposal with destroyed | ⟨released, -, -⟩
      · simp [destroyed, disposed.connection]
      · simp [released, disposed.connection]
  · exact sound.disposals.2

/-- A transaction whose callback runs one statement and returns: its commit is
acknowledged. -/
def committedEvents : List (Event Nat Nat) :=
  [.answers .getConnection (.ok ()), .resumes .promise, .answers .beginTransaction (.ok ()),
    .resumes .promise, .callbackQueries, .statementAnswers (.ok true), .executorResumes .operation,
    .callbackReturns 7, .resumes .promise, .answers .commit (.ok ()), .resumes .promise]

def replay : List (Event R E) → State R E → Option (State R E)
  | [], s => some s
  | event :: rest, s => (s.step event).bind (replay rest)

theorem replay_run {events : List (Event R E)} {s s' : State R E}
    (replayed : replay events s = some s') : Run Steps s events s' := by
  induction events generalizing s with
  | nil =>
      cases replayed
      exact Run.done
  | cons event rest ih =>
      obtain ⟨mid, first, later⟩ := Option.bind_eq_some_iff.mp replayed
      exact Run.next first (ih later)

theorem transaction_honest_committed : ∃ s : State Nat Nat,
    (∃ result, s.stage = .settled (.ok result)) ∧ s.disposals = [.released] ∧ OutcomeHonest s := by
  have run : Run Steps (transaction false none false) committedEvents _ := replay_run rfl
  exact ⟨_, ⟨7, rfl⟩, rfl, transaction_honest run⟩

end SupplyChain.DatabaseClient
