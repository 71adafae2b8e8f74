import SupplyChain.MutationClient.Retries

/-!
At most once from the browser. While the outcome of a request is unknown its key
stays stored, so every retry carries it and the executor runs the command once.
-/

namespace SupplyChain.MutationClient

open Relational Json Commands

variable {State : Type} {browser : Browser} {target : Target} {mutation : Mutation}
  {w w' : World State} {event : Event State}

/-- The next call of the mutation sends this key again. -/
def Pending (browser : Browser) (mutation : Mutation) (tab : Tab) (key : String) : Prop :=
  tab.storage (mutation.id browser) = some key ∧
    (mutation.idempotencyKey = some key ∨
      (mutation.idempotencyKey = none ∧ isIdempotencyKey key = true))

/-- What holds while all answers are read for what they are. -/
structure Kept (browser : Browser) (target : Target) (mutation : Mutation) (w : World State) :
    Prop where
  verdicts : ∀ verdict ∈ w.verdicts, verdict = .nothing
  discards : ∀ verdicts ∈ w.discards, Known verdicts
  commits : w.commits ≤ 1
  committed : w.commits ≠ 0 → ∃ key, Pending browser mutation w.tab key ∧ Present target w.server key
  current : ∀ sent progress, w.current = some (sent, progress) →
    sent.id = mutation.id browser ∧ Pending browser mutation w.tab sent.idempotencyKey
  arrived : ∀ sent answer committed, w.current = some (sent, .answered answer committed) →
    (answer.ok = true → Present target w.server sent.idempotencyKey) ∧
      (committed = true → answer.ok = false →
        ¬ answer.definite ∧ ¬ (⟨answer.status, none⟩ : Answer).definite)
  repeats : w.verdicts ≠ [] → ∃ key, Pending browser mutation w.tab key
  strays : ∀ key ∈ w.strays, Present target w.server key ∨
    (Pending browser mutation w.tab key ∧ w.verdicts ≠ [])

/-! ## Calls -/

theorem pending_unique {tab : Tab} {key key' : String} (pending : Pending browser mutation tab key)
    (pending' : Pending browser mutation tab key') : key = key' := by
  have same := pending.1.symm.trans pending'.1
  exact Option.some.inj same

theorem pendingKey_stored (browser : Browser) (mutation : Mutation) (tab : Tab) :
    (pendingKey browser mutation tab).2.storage (mutation.id browser) =
      some (pendingKey browser mutation tab).1 := by
  unfold pendingKey
  cases existing : (tab.storage (mutation.id browser)).filter isIdempotencyKey <;>
    simp [existing, Tab.setItem]

theorem pendingKey_valid (uuids : ∀ n, isIdempotencyKey (browser.randomUUID n) = true)
    (mutation : Mutation) (tab : Tab) :
    isIdempotencyKey (pendingKey browser mutation tab).1 = true := by
  unfold pendingKey
  cases existing : (tab.storage (mutation.id browser)).filter isIdempotencyKey with
  | none => simp [existing, uuids]
  | some key =>
      simp only [existing]
      exact (Option.filter_eq_some_iff.mp existing).2

theorem pendingKey_again {tab : Tab} {key : String}
    (stored : tab.storage (mutation.id browser) = some key) (valid : isIdempotencyKey key = true) :
    (pendingKey browser mutation tab).1 = key := by
  have existing : (tab.storage (mutation.id browser)).filter isIdempotencyKey = some key := by
    rw [stored, Option.filter_some, if_pos valid]
  simp [pendingKey, existing]

theorem idempotencyKeyOf_pending (uuids : ∀ n, isIdempotencyKey (browser.randomUUID n) = true)
    (mutation : Mutation) (tab : Tab) :
    Pending browser mutation (idempotencyKeyOf browser mutation tab).2
      (idempotencyKeyOf browser mutation tab).1 := by
  unfold idempotencyKeyOf
  cases given : mutation.idempotencyKey with
  | none => exact ⟨pendingKey_stored browser mutation tab,
      Or.inr ⟨given, pendingKey_valid uuids mutation tab⟩⟩
  | some own => exact ⟨by simp [Tab.setItem], Or.inl given⟩

theorem idempotencyKeyOf_again {tab : Tab} {key : String}
    (pending : Pending browser mutation tab key) :
    (idempotencyKeyOf browser mutation tab).1 = key := by
  unfold idempotencyKeyOf
  obtain ⟨stored, own | ⟨none, valid⟩⟩ := pending
  · rw [own]
  · rw [none]
    exact pendingKey_again stored valid

theorem pending_call (uuids : ∀ n, isIdempotencyKey (browser.randomUUID n) = true) {tab : Tab}
    {key : String} (pending : Pending browser mutation tab key) :
    Pending browser mutation (idempotencyKeyOf browser mutation tab).2 key := by
  have called := idempotencyKeyOf_pending uuids mutation tab
  rwa [idempotencyKeyOf_again pending] at called

theorem call_kept (uuids : ∀ n, isIdempotencyKey (browser.randomUUID n) = true)
    {token : Option String} (kept : Kept browser target mutation w) (idle : w.current = none) :
    Kept browser target mutation (w.called browser mutation token) := by
  have called := idempotencyKeyOf_pending uuids mutation w.tab
  have same : ∀ current, (∀ sent progress, current = some (sent, progress) →
      progress = .travelling ∧ sent.id = mutation.id browser ∧
        sent.idempotencyKey = (idempotencyKeyOf browser mutation w.tab).1) →
      Kept browser target mutation
        { w with tab := (idempotencyKeyOf browser mutation w.tab).2, current := current } := by
    intro current sends
    refine ⟨kept.verdicts, kept.discards, kept.commits, ?_, ?_, ?_, ?_, ?_⟩
    · intro some
      obtain ⟨key, pending, present⟩ := kept.committed some
      exact ⟨key, pending_call uuids pending, present⟩
    · intro sent progress waits
      obtain ⟨-, id, key⟩ := sends sent progress waits
      exact ⟨id, key ▸ called⟩
    · intro sent answer committed waits
      cases (sends sent _ waits).1
    · intro some
      obtain ⟨key, pending⟩ := kept.repeats some
      exact ⟨key, pending_call uuids pending⟩
    · intro key stray
      rcases kept.strays key stray with present | ⟨pending, some⟩
      · exact Or.inl present
      · exact Or.inr ⟨pending_call uuids pending, some⟩
  unfold World.called begin
  cases csrf : csrfToken mutation token (idempotencyKeyOf browser mutation w.tab).1 with
  | ok token =>
      simp only [csrf]
      apply same
      rintro sent progress waits
      cases waits
      exact ⟨rfl, rfl, rfl⟩
  | error error =>
      simp only [csrf]
      apply same w.current
      rintro sent progress waits
      rw [idle] at waits
      cases waits

/-! ## The server -/

theorem Kept.served (kept : Kept browser target mutation w) {server : Commands.Database State}
    {commits : Nat}
    (rows : ∀ identity, w.server.row identity ≠ none → server.row identity ≠ none)
    (bound : commits ≤ 1)
    (backed : commits ≠ 0 →
      ∃ key, Pending browser mutation w.tab key ∧ Present target server key) :
    Kept browser target mutation { w with server := server, commits := commits } where
  verdicts := kept.verdicts
  discards := kept.discards
  commits := bound
  committed := backed
  current := kept.current
  arrived sent answer committed waits :=
    have told := kept.arrived sent answer committed waits
    ⟨fun ok => rows _ (told.1 ok), told.2⟩
  repeats := kept.repeats
  strays key stray := (kept.strays key stray).imp_left (rows _)

/-- A request that carries the pending key, or one that has a row, commits a run
only if none was committed before. -/
theorem commits_bound (kept : Kept browser target mutation w) {key : String}
    {options : Options State} (ending : Ending) (reaches : Reaches target key options)
    (known : Present target w.server key ∨ Pending browser mutation w.tab key) :
    (w.commits + if (commitOf browser.sha256 options ending w.server).isSome then 1 else 0) ≤ 1 ∧
      ((w.commits + if (commitOf browser.sha256 options ending w.server).isSome then 1 else 0) ≠ 0 →
        ∃ key, Pending browser mutation w.tab key ∧
          Present target (executeIdempotentCommand browser.sha256 options ending w.server).2 key) := by
  obtain ⟨rows, -, commits⟩ := handled_rows browser.sha256 ending w.server reaches
  cases committed : (commitOf browser.sha256 options ending w.server).isSome with
  | false =>
      simp only [Bool.false_eq_true, if_false, Nat.add_zero]
      refine ⟨kept.commits, fun some => ?_⟩
      obtain ⟨pendingKey, pending, present⟩ := kept.committed some
      exact ⟨pendingKey, pending, rows _ present⟩
  | true =>
      obtain ⟨absent, present⟩ := commits committed
      have pending := known.resolve_left absent
      have first : w.commits = 0 := by
        by_contra some
        obtain ⟨pendingKey, pending', present'⟩ := kept.committed some
        rw [pending_unique pending' pending] at present'
        exact absent present'
      rw [first]
      exact ⟨by simp, fun _ => ⟨key, pending, present⟩⟩

theorem handle_kept (kept : Kept browser target mutation w) {sent : Sent}
    {options : Options State} {ending : Ending} (travels : w.current = some (sent, .travelling))
    (reaches : Reaches target sent.idempotencyKey options)
    (standard : ∀ response,
      (executeIdempotentCommand browser.sha256 options ending w.server).1 = .ok response →
        200 ≤ response.statusCode ∧ response.statusCode ≤ 299) :
    Kept browser target mutation (w.handled browser.sha256 options ending sent) := by
  obtain ⟨id, pending⟩ := kept.current sent _ travels
  obtain ⟨bound, backed⟩ := commits_bound kept ending reaches (Or.inr pending)
  obtain ⟨rows, replied, -⟩ := handled_rows browser.sha256 ending w.server reaches
  have served := kept.served rows bound backed
  refine { served with current := ?_, arrived := ?_ }
  · rintro sent' progress waits
    cases waits
    exact ⟨id, pending⟩
  · rintro sent' answer committed waits
    cases waits
    cases replies : answers (executeIdempotentCommand browser.sha256 options ending w.server).1 with
    | true =>
        refine ⟨fun _ => replied replies, fun _ error => ?_⟩
        -- a success is read as one
        cases answer : (executeIdempotentCommand browser.sha256 options ending w.server).1 with
        | error _ =>
            rw [answer] at replies
            cases replies
        | ok response =>
            have status := standard response answer
            rw [answer, ← Bool.not_eq_true, ok_iff] at error
            exact absurd status error
    | false =>
        constructor
        · intro ok
          rw [answerOf_error replies] at ok
          cases ok
        · intro hidden _
          exact hidden_commit (by simpa using hidden) replies

theorem handleStray_kept (kept : Kept browser target mutation w) {key : String}
    {options : Options State} (ending : Ending) (travels : key ∈ w.strays)
    (reaches : Reaches target key options) :
    Kept browser target mutation
      { w with
        server := (executeIdempotentCommand browser.sha256 options ending w.server).2
        strays := w.strays.erase key
        commits :=
          w.commits + if (commitOf browser.sha256 options ending w.server).isSome then 1 else 0 } := by
  obtain ⟨bound, backed⟩ := commits_bound kept ending reaches
    ((kept.strays key travels).imp_right (·.1))
  obtain ⟨rows, -, -⟩ := handled_rows browser.sha256 ending w.server reaches
  have served := kept.served rows bound backed
  exact { served with strays := fun other stray => served.strays other (List.mem_of_mem_erase stray) }

theorem turnAway_kept (kept : Kept browser target mutation w) {sent : Sent} {answer : Answer}
    (travels : w.current = some (sent, .travelling)) (error : answer.ok = false) :
    Kept browser target mutation { w with current := some (sent, .answered answer false) } := by
  have own := kept.current sent _ travels
  refine { kept with current := ?_, arrived := ?_ }
  · rintro sent' progress waits
    cases waits
    exact own
  · rintro sent' answer' committed waits
    cases waits
    refine ⟨fun ok => ?_, nofun⟩
    rw [error] at ok
    cases ok

/-! ## The end of a fetch -/

section Fetched

variable {sent : Sent} {progress : Progress}

/-- The fetch told nothing: the key stays pending and the request may still be
on its way. -/
theorem unknown_kept (kept : Kept browser target mutation w)
    (waits : w.current = some (sent, progress)) {fetched : Option Answer} {error : MutationError}
    (concluded : conclude browser sent fetched w.tab = (.error error, w.tab))
    (verdict : verdictOf progress fetched (.error error) = .nothing) :
    Kept browser target mutation (w.fetched browser sent progress fetched) := by
  obtain ⟨id, pending⟩ := kept.current sent progress waits
  have stored : ¬ w.tab.storage sent.id = none := by
    rw [id, pending.1]
    simp
  have shape : w.fetched browser sent progress fetched =
      { w with
        current := none
        strays := progress.strays sent.idempotencyKey w.strays
        verdicts := w.verdicts ++ [.nothing] } := by
    simp only [World.fetched, concluded, verdict, if_neg stored, if_true]
  rw [shape]
  have repeated : ∀ key, Present target w.server key ∨
      (Pending browser mutation w.tab key ∧ w.verdicts ≠ []) →
      Present target w.server key ∨
        (Pending browser mutation w.tab key ∧ w.verdicts ++ [Verdict.nothing] ≠ []) :=
    fun key known => known.imp_right fun own => ⟨own.1, by simp⟩
  refine ⟨?_, kept.discards, kept.commits, kept.committed, nofun, nofun, ?_, ?_⟩
  · intro told member
    rcases List.mem_append.mp member with before | last
    · exact kept.verdicts told before
    · exact List.mem_singleton.mp last
  · intro _
    exact ⟨sent.idempotencyKey, pending⟩
  · intro key stray
    cases progress with
    | travelling =>
        rcases List.mem_cons.mp stray with rfl | before
        · exact Or.inr ⟨pending, by simp⟩
        · exact repeated key (kept.strays key before)
    | answered answer committed => exact repeated key (kept.strays key stray)

/-- The fetch told the outcome: the key is discarded, and no request with it can
commit a run any more. -/
theorem told_kept (kept : Kept browser target mutation w) {answer : Answer} {committed : Bool}
    {fetched : Option Answer}
    {returned : Except MutationError Value}
    (concluded : conclude browser sent fetched w.tab = (returned, w.tab.removeItem sent.id))
    (tells : verdictOf (.answered answer committed) fetched returned ≠ .nothing)
    (known : Known (w.verdicts ++ [verdictOf (.answered answer committed) fetched returned]))
    (settled : ∀ key, Pending browser mutation w.tab key → w.verdicts ≠ [] →
      Present target w.server key) :
    Kept browser target mutation
      (w.fetched browser sent (.answered answer committed) fetched) := by
  have shape : w.fetched browser sent (.answered answer committed) fetched =
      { w with
        tab := w.tab.removeItem sent.id
        current := none
        verdicts := []
        discards := (w.verdicts ++ [verdictOf (.answered answer committed) fetched returned]) ::
          w.discards
        commits := 0 } := by
    have removed : (w.tab.removeItem sent.id).storage sent.id = none := by simp [Tab.removeItem]
    simp only [World.fetched, concluded, removed, if_true, if_neg tells, Progress.strays]
  rw [shape]
  refine ⟨nofun, ?_, Nat.zero_le 1, fun some => absurd rfl some, nofun, nofun,
    fun some => absurd rfl some, ?_⟩
  · intro verdicts member
    rcases List.mem_cons.mp member with rfl | before
    · exact known
    · exact kept.discards verdicts before
  · intro key stray
    rcases kept.strays key stray with present | ⟨pending, some⟩
    · exact Or.inl present
    · exact Or.inl (settled key pending some)

theorem read_kept (kept : Kept browser target mutation w) {answer read : Answer} {committed : Bool}
    (waits : w.current = some (sent, .answered answer committed))
    (same : read.status = answer.status)
    (honest : committed = true → answer.ok = false → ¬ read.definite)
    (unmistaken : Unmistaken w read) :
    Kept browser target mutation
      (w.fetched browser sent (.answered answer committed) (some read)) := by
  obtain ⟨complete, first⟩ := unmistaken
  obtain ⟨replied, -⟩ := kept.arrived sent answer committed waits
  have ok : read.ok = answer.ok := by rw [Answer.ok, Answer.ok, same]
  have concluded := conclude_concluded browser sent w.tab read
  generalize named : conclude browser sent (some read) w.tab = conclusion at concluded
  cases concluded with
  | success fine _ =>
      apply told_kept kept named (by simp [verdictOf])
      · exact Or.inl (by simp [verdictOf])
      · intro key pending _
        obtain ⟨-, own⟩ := kept.current sent _ waits
        rw [pending_unique pending own]
        exact replied (ok ▸ fine)
  | invalid lacks => exact absurd lacks complete
  | @definite error definite known =>
      have alone := first definite
      have refused : committed = false := by
        cases committed
        · rfl
        · exact absurd definite (honest rfl (ok ▸ definite.1))
      subst refused
      have verdict : verdictOf (.answered answer false) (some read) (.error error) = .refusal := by
        simp [verdictOf, definite.1, known]
      apply told_kept kept named
      · rw [verdict]
        intro same
        cases same
      · right
        rw [verdict, alone]
        simp
      · intro key _ some
        exact absurd alone some
  | @unknown error vague _ unknown =>
      apply unknown_kept kept waits named
      cases committed <;> simp [verdictOf, unknown]

end Fetched

/-! ## Runs -/

theorem step_kept (uuids : ∀ n, isIdempotencyKey (browser.randomUUID n) = true)
    (step : Step browser target mutation w event w') (right : ReadsRight w event)
    (kept : Kept browser target mutation w) : Kept browser target mutation w' := by
  cases step with
  | call idle => exact call_kept uuids kept idle
  | handle travels reaches standard => exact handle_kept kept travels reaches standard
  | turnAway travels error => exact turnAway_kept kept travels error
  | handleStray travels reaches => exact handleStray_kept kept _ travels reaches
  | @deliver sent answer committed arrived =>
      apply read_kept kept arrived rfl
      · exact fun hidden error => ((kept.arrived _ _ _ arrived).2 hidden error).1
      · exact right _ (by simp [Event.read, arrived])
  | @deliverWithoutBody sent answer committed arrived =>
      have same : (⟨answer.status, none⟩ : Answer).status = answer.status := rfl
      apply read_kept kept arrived same
      · exact fun hidden error => ((kept.arrived _ _ _ arrived).2 hidden error).2
      · exact right _ (by simp [Event.read, arrived])
  | @gatewayError sent progress answer waits status foreign =>
      obtain ⟨complete, vague⟩ := gateway_unknown status foreign
      have concluded := conclude_concluded browser sent w.tab answer
      generalize named : conclude browser sent (some answer) w.tab = conclusion at concluded
      cases concluded with
      | success fine => exact absurd (ok_iff.mp fine).2 (by omega)
      | invalid lacks => exact absurd lacks complete
      | definite definite => exact absurd definite vague
      | unknown _ _ unknown =>
          apply unknown_kept kept waits named
          cases progress with
          | travelling => rfl
          | answered answer committed => cases committed <;> simp [verdictOf, unknown]
  | @networkFailure sent progress waits =>
      apply unknown_kept kept waits rfl
      cases progress with
      | travelling => rfl
      | answered answer committed => cases committed <;> rfl
  | elsewhere rows =>
      apply kept.served rows kept.commits
      intro some
      obtain ⟨key, pending, present⟩ := kept.committed some
      exact ⟨key, pending, rows _ present⟩

theorem known_last {verdicts : List Verdict} {last : Verdict}
    (before : ∀ verdict ∈ verdicts, verdict = .nothing) (known : Known (verdicts ++ [last])) :
    last = .success ∨ (last = .refusal ∧ verdicts = []) := by
  rcases known with told | refused
  · rcases List.mem_append.mp told with first | second
    · cases before _ first
    · exact Or.inl (List.mem_singleton.mp second).symm
  · right
    refine ⟨refused last (List.mem_append_right _ (List.mem_singleton.mpr rfl)), ?_⟩
    apply List.eq_nil_iff_forall_not_mem.mpr
    intro verdict member
    have nothing := before verdict member
    rw [refused verdict (List.mem_append_left _ member)] at nothing
    cases nothing

/-- A key that is discarded with a known outcome is discarded on an answer that
is read for what it is. -/
theorem unmistaken_of_known (kept : Kept browser target mutation w) {sent : Sent}
    {progress : Progress} {read : Answer}
    (known : ∀ verdicts ∈ (w.fetched browser sent progress (some read)).discards,
      Known verdicts) : Unmistaken w read := by
  have concluded := conclude_concluded browser sent w.tab read
  have removed : (w.tab.removeItem sent.id).storage sent.id = none := by simp [Tab.removeItem]
  have discarded : ∀ error, conclude browser sent (some read) w.tab =
      (.error error, w.tab.removeItem sent.id) →
        Known (w.verdicts ++ [verdictOf progress (some read) (.error error)]) := by
    intro error named
    apply known
    simp only [World.fetched, named, removed, if_true]
    exact List.mem_cons_self
  -- an error tells no success, and a refusal is one of an answer that is not ok
  have alone : ∀ error, conclude browser sent (some read) w.tab =
      (.error error, w.tab.removeItem sent.id) → read.ok = false ∧ w.verdicts = [] := by
    intro error named
    rcases known_last kept.verdicts (discarded error named) with success | ⟨refusal, first⟩
    · unfold verdictOf at success
      split at success <;> simp_all
      split at success <;> cases success
    · refine ⟨?_, first⟩
      unfold verdictOf at refusal
      split at refusal <;> simp_all
  generalize named : conclude browser sent (some read) w.tab = conclusion at concluded
  cases concluded with
  | success fine complete =>
      refine ⟨complete, fun definite => ?_⟩
      rw [definite.1] at fine
      cases fine
  | invalid lacks =>
      have error := (alone _ named).1
      rw [lacks.1] at error
      cases error
  | definite definite =>
      refine ⟨fun lacks => ?_, fun _ => (alone _ named).2⟩
      have fine := lacks.1
      rw [definite.1] at fine
      cases fine
  | unknown vague complete => exact ⟨complete, fun definite => absurd definite vague⟩

theorem right_of_atMostOnce (step : Step browser target mutation w event w')
    (kept : Kept browser target mutation w) (once : AtMostOnce w') : ReadsRight w event := by
  cases step with
  | @deliver sent answer committed arrived =>
      intro read reads
      simp only [Event.read, arrived, Option.some.injEq] at reads
      cases reads
      exact unmistaken_of_known kept once.2
  | @deliverWithoutBody sent answer committed arrived =>
      intro read reads
      simp only [Event.read, arrived, Option.some.injEq] at reads
      cases reads
      exact unmistaken_of_known kept once.2
  | _ => nofun

/-- A tab and a server before the first call of the mutation. -/
def World.opened (tab : Tab) (server : Commands.Database State) : World State where
  tab := tab
  server := server
  current := none
  strays := []
  verdicts := []
  discards := []
  commits := 0

theorem opened_kept (tab : Tab) (server : Commands.Database State) :
    Kept browser target mutation (World.opened tab server) :=
  ⟨nofun, nofun, Nat.zero_le 1, fun some => absurd rfl some, nofun, nofun,
    fun some => absurd rfl some, nofun⟩

/-- For every order of calls, answers and failures: at most one run is committed
until the client has returned a success or a definite refusal, and keys are
discarded only when the outcomes of their requests are known, exactly when the
client reads every answer for what it is. -/
theorem retries_commit_once (uuids : ∀ n, isIdempotencyKey (browser.randomUUID n) = true)
    {tab : Tab} {server : Commands.Database State} {labels : List (Event State)} :
    Run (fun a event b => Step browser target mutation a event b ∧ AtMostOnce b)
        (World.opened tab server) labels w' ↔
      Run (fun a event b => Step browser target mutation a event b ∧ ReadsRight a event)
        (World.opened tab server) labels w' := by
  apply Run.iff_under (Kept browser target mutation)
  · intro a event b step once kept
    exact step_kept uuids step (right_of_atMostOnce step kept once) kept
  · intro a event b step kept
    constructor
    · exact right_of_atMostOnce step kept
    · intro right
      have after := step_kept uuids step right kept
      exact ⟨after.commits, after.discards⟩
  · exact opened_kept tab server

/-! ## Replays -/

/-- A browser that draws one uuid first and another ever after; all its digests
are the same. -/
def plainBrowser : Browser where
  randomUUID n :=
    if n = 0 then "0b6c1a52-6f0f-4a53-9d7e-2f8f4f1b7a01"
    else "9d0e7c34-1c55-4c0b-8a49-5a6f0e2d3b02"
  sha256 _ := "aaaaaaaaaaaaaaaaaaaaaaaaaaaaaaaaaaaaaaaaaaaaaaaaaaaaaaaaaaaaaaaa"
  string _ := ""

theorem plainBrowser_uuids (n : Nat) : isIdempotencyKey (plainBrowser.randomUUID n) = true := by
  by_cases first : n = 0
  · rw [first]
    decide +kernel
  · simp only [plainBrowser, if_neg first]
    decide +kernel

def paying : Mutation where
  path := .finance
  method := .post
  body := .object [("action", .text "record_payment")]
  csrf := false

def payments : Target := ⟨"finance.command", "user:9"⟩

/-- The route of the payment: it counts payments. -/
def pays (sent : Sent) : Options Nat where
  actorScope := payments.actorScope
  command := payments.command
  fenceResource := "r3.finance.commands"
  missingIdempotencyKeyIsInvalid := false
  payload := paying.body
  idempotencyKey := .text sent.idempotencyKey
  requestDigest := (sent.requestDigest.map Header.text).getD .absent
  responseStatus := .fixed 201
  run _ _ count := .ok ([("success", .boolean true)], count + 1)
  validateResponseStatus := false
  verifyOnlyStringDigestHeaders := true

def unpaid : World Nat :=
  World.opened ⟨fun _ => none, 0⟩
    ⟨Table.empty, Table.empty.insert ⟨"r3.finance.commands", writerOwner, true, 2⟩, 0⟩

/-- The request that a call in this world sends. -/
def request (w : World Nat) : Sent :=
  ⟨paying.id plainBrowser, (idempotencyKeyOf plainBrowser paying w.tab).1, none,
    requestDigestOf plainBrowser paying⟩

/-- A call and its request handled. -/
def paid (w : World Nat) : World Nat :=
  (w.called plainBrowser paying none).handled plainBrowser.sha256 (pays (request w)) .answered
    (request w)

/-- What the server answers to it. -/
def reply (w : World Nat) : Except CommandError Response :=
  (executeIdempotentCommand plainBrowser.sha256 (pays (request w)) .answered
    (w.called plainBrowser paying none).server).1

/-- The reply arrives, with its body or without. -/
def read (w : World Nat) (json : Option Value) : World Nat :=
  (paid w).fetched plainBrowser (request w) (.answered (answerOf (reply w)) true)
    (some ⟨(answerOf (reply w)).status, json⟩)

def statusOf : Except CommandError Response → Option Nat
  | .ok response => some response.statusCode
  | .error _ => none

theorem pays_steps {w : World Nat} (idle : w.current = none) (accepted : statusOf (reply w) = some 201) :
    Run (fun a event b => Step plainBrowser payments paying a event b ∧ ReadsRight a event) w
      [.call none, .handle (pays (request w)) .answered] (paid w) := by
  apply Run.next ⟨Step.call idle, nofun⟩
  apply Run.single
  refine ⟨Step.handle rfl ⟨rfl, rfl, rfl⟩ ?_, nofun⟩
  intro response answer
  have status : statusOf (reply w) = some response.statusCode := by
    rw [reply, answer]
    rfl
  rw [accepted, Option.some.injEq] at status
  rw [← status]
  decide

theorem paid_current {w : World Nat} (accepted : statusOf (reply w) = some 201) :
    (paid w).current = some (request w, .answered (answerOf (reply w)) true) := by
  have replied : answers (reply w) = true := by
    cases answer : reply w with
    | ok response => rfl
    | error error =>
        rw [answer] at accepted
        cases accepted
  unfold paid World.handled
  simp only
  rw [← reply, replied, Bool.true_or]

theorem accepts_unpaid : statusOf (reply unpaid) = some 201 := by decide +kernel

/-- A payment whose 201 answer arrives without its body is paid again by the
next try, under another key. -/
theorem payment_repeated :
    Run (Step plainBrowser payments paying) unpaid
        [.call none, .handle (pays (request unpaid)) .answered, .deliverWithoutBody,
          .call none, .handle (pays (request (read unpaid none))) .answered]
        (paid (read unpaid none)) ∧
      (paid (read unpaid none)).commits = 2 ∧ (paid (read unpaid none)).server.state = 2 := by
  refine ⟨?_, by decide +kernel⟩
  have first := (pays_steps rfl accepts_unpaid).imp fun step => step.1
  have accepts_again : statusOf (reply (read unpaid none)) = some 201 := by decide +kernel
  have second := (pays_steps rfl accepts_again).imp fun step => step.1
  exact first.append (Run.next (Step.deliverWithoutBody (paid_current accepts_unpaid)) second)

theorem answerOf_complete (response : Response) : ¬ (answerOf (.ok response)).invalid := by
  rintro ⟨-, -, result | command⟩
  · simp [answerOf, property, Value.isUndefined] at result
  · simp [answerOf, property, Value.isUndefined] at command

/-- A payment whose answer arrives whole is paid once. -/
theorem retries_commit_once_paid :
    Run (fun a event b => Step plainBrowser payments paying a event b ∧ AtMostOnce b) unpaid
      [.call none, .handle (pays (request unpaid)) .answered, .deliver]
      (read unpaid (answerOf (reply unpaid)).json) := by
  apply (retries_commit_once plainBrowser_uuids).mpr
  have arrived := paid_current accepts_unpaid
  apply (pays_steps rfl accepts_unpaid).append
  refine Run.single ⟨Step.deliver arrived, ?_⟩
  intro answer reads
  simp only [Event.read, arrived, Option.some.injEq] at reads
  subst reads
  obtain ⟨response, accepted⟩ : ∃ response, reply unpaid = .ok response := by
    cases answer : reply unpaid with
    | ok response => exact ⟨response, rfl⟩
    | error error =>
        have accepts := accepts_unpaid
        rw [answer] at accepts
        cases accepts
  rw [accepted]
  refine ⟨answerOf_complete response, fun definite => ?_⟩
  have status := accepts_unpaid
  rw [accepted, statusOf, Option.some.injEq] at status
  have ok : (answerOf (.ok response)).ok = true := by
    rw [ok_iff]
    simp only [answerOf, status]
    decide
  rw [definite.1] at ok
  cases ok

end SupplyChain.MutationClient
