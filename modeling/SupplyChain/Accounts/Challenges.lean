import SupplyChain.Accounts.Outcomes

/-!
One-time codes. A challenge has counted every wrong code that was judged and
holds whether a code was accepted, so over any run five codes are refused and
one is accepted at most. The columns of its issue never change, so a code is
accepted, and a claim consumed, only for what the challenge was issued for.
-/

namespace SupplyChain.Accounts

open Relational Transaction Json Calendar AccountTable
open Commands (CommandError JsonObject Header commandIdempotencyKey)

variable {env : Environment} {a b : System} {event : Event}

/-! ## What an event says about a challenge -/

/-- The challenge whose code a unit of work judged, and whether it was accepted. -/
def Event.judged : Event → Option (String × Bool)
  | .served _ (.verify request _) (some result) =>
      some (request.body.challengeNo, isTrue (member result "authenticated"))
  | .served _ (.verifyStepUp _ request _) (some result) =>
      some (request.body.challengeNo, isTrue (member result "verified"))
  | _ => none

def Event.rejects (event : Event) (challengeNo : String) : Bool :=
  event.judged == some (challengeNo, false)

def Event.accepts (event : Event) (challengeNo : String) : Bool :=
  event.judged == some (challengeNo, true)

def Event.consumes (event : Event) (challengeNo : String) : Bool :=
  match event with
  | .consumed _ claim => claim.challengeNo == challengeNo
  | _ => false

/-- The event issued the challenge: its number, its user, what it is for, its
code and the time of its issue. -/
inductive Issues (env : Environment) :
    Event → String → Nat → Purpose → String → Instant → Prop
  | login {now : Instant} {request : LoginRequest} {result : JsonObject}
      {key idempotencyKey : String} {userId : Nat} (keyed : signingKey env = .ok key)
      (named : commandIdempotencyKey request.caller.idempotencyKey false = .ok idempotencyKey)
      (told : member result "challengeNo" = some (.text
        (deriveChallengeNumber env "OTP" key (loginPrincipal userId) idempotencyKey))) :
      Issues env (.served now (.login request) (some result))
        (deriveChallengeNumber env "OTP" key (loginPrincipal userId) idempotencyKey) userId .login
        (otpCode env key "auth.login" (loginPrincipal userId) idempotencyKey) now
  | stepUp {now : Instant} {access : Access} {request : StepUpRequest} {result : JsonObject}
      {key idempotencyKey : String} (keyed : signingKey env = .ok key)
      (told : member result "challengeNo" = some (.text
        (deriveChallengeNumber env "HR" key (stepUpPrincipal access) idempotencyKey))) :
      Issues env (.served now (.requestStepUp access request) (some result))
        (deriveChallengeNumber env "HR" key (stepUpPrincipal access) idempotencyKey) access.userId
        (.highRisk (request.body.bound access))
        (otpCode env key "step-up.request" (stepUpPrincipal access) idempotencyKey) now

/-- The code that a verification carries, and its time. -/
inductive Submits : Event → String → String → Instant → Prop
  | login {now : Instant} {request : VerifyRequest} {valid : Bool} {result : Option JsonObject} :
      Submits (.served now (.verify request valid) result) request.body.challengeNo
        request.body.code now
  | stepUp {now : Instant} {access : Access} {request : StepUpVerifyRequest} {valid : Bool}
      {result : Option JsonObject} :
      Submits (.served now (.verifyStepUp access request valid) result) request.body.challengeNo
        request.body.code now

/-- The session verified the challenge. -/
inductive VerifiedBy : Event → String → Access → Prop
  | stepUp {now : Instant} {access : Access} {request : StepUpVerifyRequest} {valid : Bool}
      {result : JsonObject} (verified : isTrue (member result "verified") = true) :
      VerifiedBy (.served now (.verifyStepUp access request valid) (some result))
        request.body.challengeNo access

/-! ## What a step does to the challenges -/

/-- The event judges and consumes no challenge. -/
def Event.Idle (event : Event) : Prop :=
  ∀ challengeNo, event.rejects challengeNo = false ∧ event.accepts challengeNo = false ∧
    event.consumes challengeNo = false

/-- One challenge was judged or consumed. -/
inductive Progress (event : Event) : AuthChallenge → AuthChallenge → Prop
  | wrong {row : AuthChallenge} (judged : event.judged = some (row.challengeNo, false))
      (unconsumed : ∀ challengeNo, event.consumes challengeNo = false)
      (below : row.attempts < MAX_ATTEMPTS) :
      Progress event row { row with attempts := row.attempts + 1 }
  | login {row : AuthChallenge} {now : Instant}
      (judged : event.judged = some (row.challengeNo, true))
      (unconsumed : ∀ challengeNo, event.consumes challengeNo = false)
      (unverified : row.verifiedAt = none) (own : row.purpose = .login) :
      Progress event row { row with verifiedAt := some now.text, consumedAt := some now.text }
  | stepUp {row : AuthChallenge} {now : Instant} {binding : Binding}
      (judged : event.judged = some (row.challengeNo, true))
      (unconsumed : ∀ challengeNo, event.consumes challengeNo = false)
      (unverified : row.verifiedAt = none) (own : row.purpose = .highRisk binding)
      (verifier : VerifiedBy event row.challengeNo ⟨row.userId, binding.sessionId⟩) :
      Progress event row { row with verifiedAt := some now.text }
  | consumed {row : AuthChallenge} {now : Instant} {claim : ApprovalClaim} {stamp : String}
      (consumes : event = .consumed now claim) (matched : row.matches claim now = true) :
      Progress event row { row with consumedAt := some stamp }

/-- What an event did to the challenges. -/
inductive Touched (env : Environment) (event : Event) (challenges : Table AuthChallenge) :
    Table AuthChallenge → Prop
  | kept (idle : event.Idle) : Touched env event challenges challenges
  | issued {row : AuthChallenge} {code : String} {now : Instant} (idle : event.Idle)
      (issues : Issues env event row.challengeNo row.userId row.purpose code now)
      (digest : row.codeHash = codeDigest env row.challengeNo code)
      (expires : row.expiresAt = after now OTP_SECONDS)
      (unused : row.attempts = 0 ∧ row.verifiedAt = none ∧ row.consumedAt = none)
      (fresh : (challenges.any fun _ other => other.challengeNo == row.challengeNo) = false) :
      Touched env event challenges (challenges.insert row)
  | progressed {id : Nat} {row : AuthChallenge} {change : AuthChallenge → AuthChallenge}
      (found : challenges.find? id = some row) (progress : Progress event row (change row)) :
      Touched env event challenges (challenges.modify id change)

theorem idle_of_unjudged {now : Instant} {command : AccountCommand} {result : Option JsonObject}
    (unjudged : (Event.served now command result).judged = none) :
    (Event.served now command result).Idle := by
  intro challengeNo
  simp [Event.rejects, Event.accepts, Event.consumes, unjudged]

theorem ran_touches {now : Instant} {command : AccountCommand} {result : JsonObject}
    {db db' : AccountStore} (ran : Ran env now db command result db') :
    Touched env (.served now command (some result)) (db authChallenges) (db' authChallenges) := by
  cases ran with
  | login keyed named did =>
      cases did with
      | rejected read hashed wrong counted locked others =>
          rw [others _ (by decide) (by decide)]
          exact Touched.kept (idle_of_unjudged rfl)
      | entered read right active trusted reset opened used others =>
          rw [others _ (by decide) (by decide) (by decide)]
          exact Touched.kept (idle_of_unjudged rfl)
      | requested read right active reset fresh issued others =>
          rw [issued]
          exact Touched.issued (idle_of_unjudged rfl) (Issues.login keyed named rfl) rfl rfl
            ⟨rfl, rfl, rfl⟩ fresh
  | verify did =>
      cases did with
      | wrong read invalid live below counted others =>
          rw [counted]
          obtain ⟨found, named, -⟩ := readLoginChallenge_ok read
          exact Touched.progressed found (Progress.wrong (by rw [named]; rfl) (fun _ => rfl) below)
      | right read matched live below spent trusted opened others =>
          rw [spent]
          obtain ⟨found, named, own⟩ := readLoginChallenge_ok read
          exact Touched.progressed found
            (Progress.login (by rw [named]; rfl) (fun _ => rfl) live.1 own)
  | logout sessions others =>
      rw [others _ (by decide)]
      exact Touched.kept (idle_of_unjudged rfl)
  | requestStepUp keyed did told =>
      rw [did.issued]
      exact Touched.issued (idle_of_unjudged rfl) (Issues.stepUp keyed told) rfl rfl
        ⟨rfl, rfl, rfl⟩ did.fresh
  | verifyStepUp did =>
      cases did with
      | wrong read invalid live below counted others =>
          rw [counted]
          obtain ⟨found, named, -⟩ := readStepUpChallenge_ok read
          exact Touched.progressed found (Progress.wrong (by rw [named]; rfl) (fun _ => rfl) below)
      | right read matched live below spent others =>
          rw [spent]
          obtain ⟨found, named, user, binding, own, session⟩ := readStepUpChallenge_ok read
          refine Touched.progressed found
            (Progress.stepUp (by rw [named]; rfl) (fun _ => rfl) live.1 own ?_)
          rw [named, user, session]
          exact VerifiedBy.stepUp rfl
  | createUser managed fresh account credential others =>
      rw [others _ (by decide) (by decide) (by decide)]
      exact Touched.kept (idle_of_unjudged rfl)
  | resetPassword cleared revoked others =>
      rw [others _ (by decide) (by decide) (by decide)]
      exact Touched.kept (idle_of_unjudged rfl)
  | disable moved revoked others =>
      rw [others _ (by decide) (by decide) (by decide)]
      exact Touched.kept (idle_of_unjudged rfl)
  | restore held moved others =>
      rw [others _ (by decide) (by decide)]
      exact Touched.kept (idle_of_unjudged rfl)
  | unlock held moved cleared revoked others =>
      rw [others _ (by decide) (by decide) (by decide) (by decide)]
      exact Touched.kept (idle_of_unjudged rfl)

theorem step_touches (step : Step env a event b) :
    Touched env event (a.db.state authChallenges) (b.db.state authChallenges) := by
  cases step with
  | served now command ending taken =>
      have served := serve_served env now command ending a.db
      generalize commits env now command ending a.db = result at served ⊢
      generalize (serve env now command ending a.db).2 = db at served ⊢
      cases served with
      | idle =>
          apply Touched.kept
          apply idle_of_unjudged
          cases command <;> rfl
      | ran did => exact ran_touches did
  | comparedLogin read => exact Touched.kept fun _ => ⟨rfl, rfl, rfl⟩
  | comparedStepUp read => exact Touched.kept fun _ => ⟨rfl, rfl, rfl⟩
  | @consumed db now stamp claim returns =>
      obtain ⟨single, same⟩ := consumeStepUpClaim_returns returns
      obtain ⟨id, row, found, passes, only⟩ := Table.select_single single
      dsimp only
      rw [same, Store.put_same, Table.update_single found passes only]
      exact Touched.progressed found (Progress.consumed rfl passes)
  | elsewhere own =>
      dsimp only
      rw [own _ (by decide) (by decide)]
      exact Touched.kept fun _ => ⟨rfl, rfl, rfl⟩

/-! ## What a challenge holds of its past -/

/-- A challenge, after the events of the past. -/
structure Kept (env : Environment) (past : List Event) (row : AuthChallenge) : Prop where
  issued : ∃ issue ∈ past, ∃ code issuedAt,
    Issues env issue row.challengeNo row.userId row.purpose code issuedAt ∧
      row.codeHash = codeDigest env row.challengeNo code ∧
      row.expiresAt = after issuedAt OTP_SECONDS
  rejected : past.countP (·.rejects row.challengeNo) = row.attempts
  limit : row.attempts ≤ MAX_ATTEMPTS
  accepted : past.countP (·.accepts row.challengeNo) = if row.verifiedAt.isSome then 1 else 0
  consumed : past.countP (·.consumes row.challengeNo) =
    if row.purpose ≠ .login ∧ row.consumedAt.isSome then 1 else 0
  verified : ∀ binding, row.purpose = .highRisk binding → row.verifiedAt.isSome →
    ∃ event ∈ past, VerifiedBy event row.challengeNo ⟨row.userId, binding.sessionId⟩

/-- What a comparison found, of the challenge as it is now. -/
def Compared (env : Environment) (challenges : Table AuthChallenge) : Reading → Prop
  | .login request valid => ∃ id row, challenges.find? id = some row ∧
      row.challengeNo = request.body.challengeNo ∧
      (valid = true → codeDigest env request.body.challengeNo request.body.code = row.codeHash)
  | .stepUp _ request valid => ∃ id row, challenges.find? id = some row ∧
      row.challengeNo = request.body.challengeNo ∧
      (valid = true → codeDigest env request.body.challengeNo request.body.code = row.codeHash)

def Numbered (challenges : Table AuthChallenge) : Prop :=
  ∀ id id' row row', challenges.find? id = some row → challenges.find? id' = some row' →
    row.challengeNo = row'.challengeNo → id = id'

/-- No challenge has the number. -/
def Unissued (challenges : Table AuthChallenge) (challengeNo : String) : Prop :=
  ∀ id row, challenges.find? id = some row → row.challengeNo ≠ challengeNo

structure Recorded (env : Environment) (past : List Event) (s : System) : Prop where
  numbered : Numbered (s.db.state authChallenges)
  rows : ∀ id row, (s.db.state authChallenges).find? id = some row → Kept env past row
  unissued : ∀ challengeNo, Unissued (s.db.state authChallenges) challengeNo →
    past.countP (·.rejects challengeNo) = 0 ∧ past.countP (·.accepts challengeNo) = 0 ∧
      past.countP (·.consumes challengeNo) = 0
  readings : ∀ reading ∈ s.readings, Compared env (s.db.state authChallenges) reading

theorem countP_later {p : Event → Bool} {past : List Event} :
    (past ++ [event]).countP p = past.countP p + if p event then 1 else 0 := by
  rw [List.countP_append, List.countP_singleton]

/-- The event is about no challenge with the number. -/
def Event.Spares (event : Event) (challengeNo : String) : Prop :=
  event.rejects challengeNo = false ∧ event.accepts challengeNo = false ∧
    event.consumes challengeNo = false

theorem Kept.later {past : List Event} {row : AuthChallenge} (kept : Kept env past row)
    (spares : event.Spares row.challengeNo) : Kept env (past ++ [event]) row := by
  obtain ⟨rejects, accepts, consumes⟩ := spares
  obtain ⟨issue, before, issued⟩ := kept.issued
  refine ⟨⟨issue, List.mem_append_left _ before, issued⟩, ?_, kept.limit, ?_, ?_, ?_⟩
  · rw [countP_later, rejects, kept.rejected]
    rfl
  · rw [countP_later, accepts, kept.accepted]
    rfl
  · rw [countP_later, consumes, kept.consumed]
    rfl
  · intro binding own verified
    obtain ⟨verifier, earlier, verifies⟩ := kept.verified binding own verified
    exact ⟨verifier, List.mem_append_left _ earlier, verifies⟩

theorem Progress.columns {row new : AuthChallenge} (progress : Progress event row new) :
    new.challengeNo = row.challengeNo ∧ new.codeHash = row.codeHash := by
  cases progress with
  | wrong => exact ⟨rfl, rfl⟩
  | login => exact ⟨rfl, rfl⟩
  | stepUp => exact ⟨rfl, rfl⟩
  | consumed => exact ⟨rfl, rfl⟩

theorem Progress.spares {row new : AuthChallenge} (progress : Progress event row new)
    {challengeNo : String} (other : challengeNo ≠ row.challengeNo) : event.Spares challengeNo := by
  have apart : ∀ accepted, event.judged = some (row.challengeNo, accepted) →
      event.rejects challengeNo = false ∧ event.accepts challengeNo = false := by
    intro accepted judged
    simp [Event.rejects, Event.accepts, judged, Ne.symm other]
  cases progress with
  | wrong judged unconsumed =>
      exact ⟨(apart _ judged).1, (apart _ judged).2, unconsumed challengeNo⟩
  | login judged unconsumed =>
      exact ⟨(apart _ judged).1, (apart _ judged).2, unconsumed challengeNo⟩
  | stepUp judged unconsumed =>
      exact ⟨(apart _ judged).1, (apart _ judged).2, unconsumed challengeNo⟩
  | consumed consumes matched =>
      subst consumes
      refine ⟨rfl, rfl, ?_⟩
      simp only [AuthChallenge.matches, Bool.and_eq_true, beq_iff_eq] at matched
      have own := matched.1.1.1.1.1
      rw [own] at other
      simpa [Event.consumes] using Ne.symm other

theorem Kept.progressed {past : List Event} {row new : AuthChallenge} (kept : Kept env past row)
    (progress : Progress event row new) : Kept env (past ++ [event]) new := by
  obtain ⟨issue, before, issued⟩ := kept.issued
  have verified : ∀ binding, row.purpose = .highRisk binding → row.verifiedAt.isSome →
      ∃ verifier ∈ past ++ [event],
        VerifiedBy verifier row.challengeNo ⟨row.userId, binding.sessionId⟩ := by
    intro binding own known
    obtain ⟨verifier, earlier, verifies⟩ := kept.verified binding own known
    exact ⟨verifier, List.mem_append_left _ earlier, verifies⟩
  have origin : issue ∈ past ++ [event] := List.mem_append_left _ before
  cases progress with
  | wrong judged unconsumed below =>
      refine ⟨⟨issue, origin, issued⟩, ?_, below, ?_, ?_, verified⟩
      · rw [countP_later, kept.rejected]
        simp [Event.rejects, judged]
      · rw [countP_later, kept.accepted]
        simp [Event.accepts, judged]
      · rw [countP_later, kept.consumed, unconsumed]
        rfl
  | login judged unconsumed unverified own =>
      refine ⟨⟨issue, origin, issued⟩, ?_, kept.limit, ?_, ?_, ?_⟩
      · rw [countP_later, kept.rejected]
        simp [Event.rejects, judged]
      · rw [countP_later, kept.accepted]
        simp [Event.accepts, judged, unverified]
      · rw [countP_later, kept.consumed, unconsumed]
        simp [own]
      · intro binding bound
        rw [own] at bound
        cases bound
  | @stepUp _ binding judged unconsumed unverified own verifier =>
      refine ⟨⟨issue, origin, issued⟩, ?_, kept.limit, ?_, ?_, ?_⟩
      · rw [countP_later, kept.rejected]
        simp [Event.rejects, judged]
      · rw [countP_later, kept.accepted]
        simp [Event.accepts, judged, unverified]
      · rw [countP_later, kept.consumed, unconsumed]
        rfl
      · intro binding' bound _
        dsimp only at bound
        rw [own] at bound
        cases bound
        exact ⟨event, List.mem_append_right _ List.mem_cons_self, verifier⟩
  | consumed consumes matched =>
      subst consumes
      simp only [AuthChallenge.matches, Bool.and_eq_true, beq_iff_eq, Option.isNone_iff_eq_none] at matched
      obtain ⟨⟨⟨⟨⟨number, user⟩, purpose⟩, known⟩, unconsumed⟩, live⟩ := matched
      refine ⟨⟨issue, origin, issued⟩, ?_, kept.limit, ?_, ?_, verified⟩
      · rw [countP_later, kept.rejected]
        rfl
      · rw [countP_later, kept.accepted]
        rfl
      · rw [countP_later, kept.consumed]
        simp [purpose, unconsumed, Event.consumes, number]

/-! ## Every step keeps the record -/

theorem Compared.kept {challenges challenges' : Table AuthChallenge} {reading : Reading}
    (compared : Compared env challenges reading)
    (retained : ∀ id row, challenges.find? id = some row → ∃ row',
      challenges'.find? id = some row' ∧ row'.challengeNo = row.challengeNo ∧
        row'.codeHash = row.codeHash) : Compared env challenges' reading := by
  cases reading with
  | login request valid =>
      obtain ⟨id, row, found, named, matched⟩ := compared
      obtain ⟨row', found', number, digest⟩ := retained id row found
      exact ⟨id, row', found', number.trans named, fun right => (matched right).trans digest.symm⟩
  | stepUp access request valid =>
      obtain ⟨id, row, found, named, matched⟩ := compared
      obtain ⟨row', found', number, digest⟩ := retained id row found
      exact ⟨id, row', found', number.trans named, fun right => (matched right).trans digest.symm⟩

theorem Touched.retained {challenges challenges' : Table AuthChallenge}
    (touched : Touched env event challenges challenges') {id : Nat} {row : AuthChallenge}
    (found : challenges.find? id = some row) :
    ∃ row', challenges'.find? id = some row' ∧ row'.challengeNo = row.challengeNo ∧
      row'.codeHash = row.codeHash := by
  cases touched with
  | kept => exact ⟨row, found, rfl, rfl⟩
  | issued => exact ⟨row, Table.find?_insert_of_some found, rfl, rfl⟩
  | @progressed key old change here progress =>
      by_cases same : id = key
      · subst same
        obtain rfl : old = row := Option.some.inj (here.symm.trans found)
        exact ⟨change old, Table.find?_modify_self change here, progress.columns⟩
      · exact ⟨row, (Table.find?_modify_ne _ _ same).trans found, rfl, rfl⟩

theorem Touched.numbered {challenges challenges' : Table AuthChallenge}
    (touched : Touched env event challenges challenges') (numbered : Numbered challenges) :
    Numbered challenges' := by
  intro id id' row row' found found' same
  cases touched with
  | kept => exact numbered id id' row row' found found' same
  | issued idle issues digest expires unused fresh =>
      have free := Table.any_eq_false.mp fresh
      rcases Table.find?_insert_cases found with ⟨rfl, rfl⟩ | old
      · rcases Table.find?_insert_cases found' with ⟨rfl, rfl⟩ | old'
        · rfl
        · exact absurd same.symm (by simpa using free id' row' old')
      · rcases Table.find?_insert_cases found' with ⟨rfl, rfl⟩ | old'
        · exact absurd same (by simpa using free id row old)
        · exact numbered id id' row row' old old' same
  | @progressed key old change here progress =>
      have before : ∀ {key' new}, (challenges.modify key change).find? key' = some new →
          ∃ row, challenges.find? key' = some row ∧ row.challengeNo = new.challengeNo := by
        intro key' new after
        rcases Table.find?_modify_cases after with ⟨rfl, earlier, known, rfl⟩ | ⟨-, known⟩
        · obtain rfl : old = earlier := Option.some.inj (here.symm.trans known)
          exact ⟨old, known, progress.columns.1.symm⟩
        · exact ⟨new, known, rfl⟩
      obtain ⟨one, foundOne, sameOne⟩ := before found
      obtain ⟨two, foundTwo, sameTwo⟩ := before found'
      exact numbered id id' one two foundOne foundTwo (sameOne.trans (same.trans sameTwo.symm))

theorem Takes.mem {follows : Option Reading} {before after : List Reading} {reading : Reading}
    (taken : Takes follows before after) (member : reading ∈ after) : reading ∈ before := by
  cases taken with
  | nothing => exact member
  | one =>
      rcases List.mem_append.mp member with left | right
      · exact List.mem_append_left _ left
      · exact List.mem_append_right _ (List.mem_cons_of_mem _ right)

theorem Takes.waiting {reading : Reading} {before after : List Reading}
    (taken : Takes (some reading) before after) : reading ∈ before := by
  cases taken with
  | one => exact List.mem_append_right _ List.mem_cons_self

theorem compareCode_ok {db : AccountStore} {request : VerifyRequest} {valid : Bool}
    (read : compareCode env db request = .ok valid) :
    Compared env (db authChallenges) (.login request valid) := by
  obtain ⟨challenge, found, compared⟩ := bind_eq_ok.mp read
  cases compared
  obtain ⟨here, named, -⟩ := readLoginChallenge_ok found
  exact ⟨challenge.1, challenge.2, here, named, of_decide_eq_true⟩

theorem compareStepUpCode_ok {db : AccountStore} {access : Access} {request : StepUpVerifyRequest}
    {valid : Bool} (read : compareStepUpCode env db access request = .ok valid) :
    Compared env (db authChallenges) (.stepUp access request valid) := by
  obtain ⟨challenge, found, compared⟩ := bind_eq_ok.mp read
  obtain ⟨here, named, -⟩ := readStepUpChallenge_ok found
  by_cases blank : challenge.2.codeHash = ""
  · rw [if_pos blank] at compared
    cases compared
  · rw [if_neg blank] at compared
    cases compared
    exact ⟨challenge.1, challenge.2, here, named, of_decide_eq_true⟩

theorem step_readings (step : Step env a event b)
    (readings : ∀ reading ∈ a.readings, Compared env (a.db.state authChallenges) reading) :
    ∀ reading ∈ b.readings, Compared env (b.db.state authChallenges) reading := by
  have touched := step_touches step
  have kept : ∀ reading ∈ a.readings, Compared env (b.db.state authChallenges) reading :=
    fun reading member => (readings reading member).kept fun _ _ found => touched.retained found
  cases step with
  | served now command ending taken => exact fun reading member => kept reading (taken.mem member)
  | comparedLogin read =>
      intro reading member
      rcases List.mem_cons.mp member with rfl | earlier
      · exact compareCode_ok read
      · exact kept reading earlier
  | comparedStepUp read =>
      intro reading member
      rcases List.mem_cons.mp member with rfl | earlier
      · exact compareStepUpCode_ok read
      · exact kept reading earlier
  | consumed => exact kept
  | elsewhere => exact kept

theorem Recorded.spared {past : List Event} {challengeNo : String} (spares : event.Spares challengeNo)
    (zero : past.countP (·.rejects challengeNo) = 0 ∧ past.countP (·.accepts challengeNo) = 0 ∧
      past.countP (·.consumes challengeNo) = 0) :
    (past ++ [event]).countP (·.rejects challengeNo) = 0 ∧
      (past ++ [event]).countP (·.accepts challengeNo) = 0 ∧
      (past ++ [event]).countP (·.consumes challengeNo) = 0 := by
  rw [countP_later, countP_later, countP_later, spares.1, spares.2.1, spares.2.2]
  exact zero

theorem step_recorded {past : List Event} (step : Step env a event b)
    (recorded : Recorded env past a) : Recorded env (past ++ [event]) b := by
  have touched := step_touches step
  have readings := step_readings step recorded.readings
  have numbered := touched.numbered recorded.numbered
  refine ⟨numbered, ?_, ?_, readings⟩
  · intro id row found
    generalize b.db.state authChallenges = challenges at touched found
    cases touched with
    | kept idle => exact (recorded.rows id row found).later (idle row.challengeNo)
    | @issued new code now idle issues digest expires unused fresh =>
        rcases Table.find?_insert_cases found with ⟨-, rfl⟩ | old
        · -- a new number has no past
          have unissued : Unissued (a.db.state authChallenges) row.challengeNo := by
            intro id' other found' same
            have free := Table.any_eq_false.mp fresh id' other found'
            simp [same] at free
          obtain ⟨rejects, accepts, consumes⟩ :=
            Recorded.spared (idle row.challengeNo) (recorded.unissued _ unissued)
          obtain ⟨attempts, unverified, unconsumed⟩ := unused
          refine ⟨⟨event, List.mem_append_right _ List.mem_cons_self, code, now, issues, digest,
            expires⟩, by rw [rejects, attempts], by rw [attempts]; exact Nat.zero_le _,
            by rw [accepts, unverified]; rfl, by rw [consumes, unconsumed]; simp, ?_⟩
          intro binding _ verified
          rw [unverified] at verified
          cases verified
        · exact (recorded.rows id row old).later (idle row.challengeNo)
    | @progressed key old change here progress =>
        rcases Table.find?_modify_cases found with ⟨rfl, earlier, known, rfl⟩ | ⟨apart, known⟩
        · obtain rfl : old = earlier := Option.some.inj (here.symm.trans known)
          exact (recorded.rows _ old here).progressed progress
        · refine (recorded.rows id row known).later (progress.spares ?_)
          intro same
          exact apart (recorded.numbered id key row old known here same)
  · intro challengeNo unissued
    have before : Unissued (a.db.state authChallenges) challengeNo := by
      intro id row found same
      obtain ⟨row', found', number, -⟩ := touched.retained found
      exact unissued id row' found' (number.trans same)
    have zero := recorded.unissued challengeNo before
    refine Recorded.spared ?_ zero
    generalize b.db.state authChallenges = challenges at touched
    cases touched with
    | kept idle => exact idle challengeNo
    | issued idle => exact idle challengeNo
    | @progressed key old change here progress =>
        exact progress.spares (Ne.symm (before key old here))

/-! ## What a code is accepted for -/

/-- The submitted code has the digest of the code that was issued in the past,
less than five minutes before. -/
structure Accepted (env : Environment) (past : List Event) (event : Event) (challengeNo : String) :
    Prop where
  justified : ∃ code now, Submits event challengeNo code now ∧
    ∃ issue ∈ past, ∃ userId purpose issuedCode issuedAt,
      Issues env issue challengeNo userId purpose issuedCode issuedAt ∧
        now.time < issuedAt.time + OTP_SECONDS * 1000 ∧
        codeDigest env challengeNo code = codeDigest env challengeNo issuedCode ∧
        (Function.Injective env.sha256 → code = issuedCode)

theorem codeDigest_inj {challengeNo code code' : String} (injective : Function.Injective env.sha256)
    (same : codeDigest env challengeNo code = codeDigest env challengeNo code') : code = code' := by
  have texts := congrArg String.toList (injective same)
  simp only [String.toList_append] at texts
  exact String.toList_inj.mp (List.append_cancel_left texts)

/-- A comparison that matched, followed by a unit of work on the same live
challenge. -/
theorem Recorded.accepts {past : List Event} {challengeNo code : String} {now : Instant}
    (recorded : Recorded env past a) {id : Nat} {row : AuthChallenge}
    (found : (a.db.state authChallenges).find? id = some row) (named : row.challengeNo = challengeNo)
    (live : now.text < row.expiresAt) (submits : Submits event challengeNo code now)
    (compared : ∃ id row, (a.db.state authChallenges).find? id = some row ∧
      row.challengeNo = challengeNo ∧ codeDigest env challengeNo code = row.codeHash) :
    Accepted env past event challengeNo := by
  obtain ⟨id', row', found', named', matched⟩ := compared
  obtain rfl := recorded.numbered id id' row row' found found' (named.trans named'.symm)
  obtain rfl : row = row' := Option.some.inj (found.symm.trans found')
  obtain ⟨issue, before, issuedCode, issuedAt, issues, digest, expires⟩ :=
    (recorded.rows id row found).issued
  rw [named] at issues digest
  rw [expires] at live
  have same := matched.trans digest
  exact ⟨code, now, submits, issue, before, row.userId, row.purpose, issuedCode, issuedAt, issues,
    Instant.lt_of_text_lt live, same, fun injective => codeDigest_inj injective same⟩

theorem step_accepts {past : List Event} (step : Step env a event b)
    (recorded : Recorded env past a) {challengeNo : String}
    (accepts : event.accepts challengeNo = true) : Accepted env past event challengeNo := by
  have judged : event.judged = some (challengeNo, true) := by
    simpa [Event.accepts] using accepts
  cases step with
  | served now command ending taken =>
      have served := serve_served env now command ending a.db
      generalize commits env now command ending a.db = result at served judged ⊢
      generalize (serve env now command ending a.db).2 = db at served
      cases served with
      | idle => cases command <;> cases judged
      | ran did =>
          cases did with
          | verify did =>
              cases did with
              | wrong => cases judged
              | right read matched live =>
                  cases judged
                  obtain ⟨found, named, -⟩ := readLoginChallenge_ok read
                  obtain ⟨id', row', found', named', same⟩ := recorded.readings _ taken.waiting
                  exact recorded.accepts found named live.2 Submits.login
                    ⟨id', row', found', named', same matched⟩
          | verifyStepUp did =>
              cases did with
              | wrong => cases judged
              | right read matched live =>
                  cases judged
                  obtain ⟨found, named, -⟩ := readStepUpChallenge_ok read
                  obtain ⟨id', row', found', named', same⟩ := recorded.readings _ taken.waiting
                  exact recorded.accepts found named live.2 Submits.stepUp
                    ⟨id', row', found', named', same matched⟩
          | login => cases judged
          | logout => cases judged
          | requestStepUp => cases judged
          | createUser => cases judged
          | resetPassword => cases judged
          | disable => cases judged
          | restore => cases judged
          | unlock => cases judged
  | comparedLogin => cases judged
  | comparedStepUp => cases judged
  | consumed => cases judged
  | elsewhere => cases judged

/-- The claim is what the challenge was issued for, less than five minutes
before, and its session verified it. -/
structure Consumed (env : Environment) (past : List Event) (now : Instant)
    (claim : ApprovalClaim) : Prop where
  issued : ∃ issue ∈ past, ∃ code issuedAt,
    Issues env issue claim.challengeNo claim.userId (.highRisk claim.binding) code issuedAt ∧
      now.time < issuedAt.time + OTP_SECONDS * 1000
  verified : ∃ event ∈ past,
    VerifiedBy event claim.challengeNo ⟨claim.userId, claim.binding.sessionId⟩

theorem step_consumes {past : List Event} {now : Instant} {claim : ApprovalClaim}
    (step : Step env a (.consumed now claim) b) (recorded : Recorded env past a) :
    Consumed env past now claim := by
  cases step with
  | consumed returns =>
      obtain ⟨single, -⟩ := consumeStepUpClaim_returns returns
      obtain ⟨id, row, found, passes, -⟩ := Table.select_single single
      have kept := recorded.rows id row found
      simp only [AuthChallenge.matches, Bool.and_eq_true, beq_iff_eq, decide_eq_true_eq] at passes
      obtain ⟨⟨⟨⟨⟨number, user⟩, purpose⟩, known⟩, -⟩, live⟩ := passes
      obtain ⟨issue, before, code, issuedAt, issues, -, expires⟩ := kept.issued
      obtain ⟨verifier, earlier, verifies⟩ := kept.verified claim.binding purpose known
      rw [number, user, purpose] at issues
      rw [number, user] at verifies
      rw [expires] at live
      exact ⟨⟨issue, before, code, issuedAt, issues, Instant.lt_of_text_lt live⟩,
        verifier, earlier, verifies⟩

/-! ## Sessions and trusted devices -/

/-- The event accepted the code of a login challenge of the user. -/
def AcceptsLogin (a : System) (event : Event) (userId : Nat) : Prop :=
  ∃ id row, (a.db.state authChallenges).find? id = some row ∧ row.purpose = .login ∧
    row.userId = userId ∧ row.verifiedAt = none ∧ event.accepts row.challengeNo = true

/-- The event is a login with the right password of an active user, from a
device that is still trusted. -/
def EntersTrusted (env : Environment) (a : System) (event : Event) (userId : Nat) : Prop :=
  ∃ now request result current device, event = .served now (.login request) (some result) ∧
    readCredential a.db.state (loginAccount env request.body) = .ok current ∧
    current.userId = userId ∧ current.user.accountStatus = .active ∧
    passwordHash env request.body.password current.credential.passwordSalt =
      .ok current.credential.passwordHash ∧
    trustedDevice a.db.state now userId request.body.deviceId request.caller.region = some device

/-- What a device is trusted for. -/
def TrustedDevice.trust (row : TrustedDevice) : Nat × String × String × Option String :=
  (row.userId, row.deviceId, row.trustedUntil, row.revokedAt)

/-- A session is new only after a code or a trusted device. -/
structure Entered (env : Environment) (a : System) (event : Event) (b : System) : Prop where
  sessions : ∀ id row, (b.db.state authSessions).find? id = some row →
    (a.db.state authSessions).find? id = none →
      AcceptsLogin a event row.userId ∨ EntersTrusted env a event row.userId
  devices : ∀ id row, (b.db.state trustedDevices).find? id = some row →
    (∃ old, (a.db.state trustedDevices).find? id = some old ∧ old.trust = row.trust) ∨
      AcceptsLogin a event row.userId

theorem Entered.idle (sessions : ∀ id, (a.db.state authSessions).find? id = none →
      (b.db.state authSessions).find? id = none)
    (devices : b.db.state trustedDevices = a.db.state trustedDevices) : Entered env a event b := by
  constructor
  · intro id row found absent
    rw [sessions id absent] at found
    cases found
  · intro id row found
    rw [devices] at found
    exact Or.inl ⟨row, found, rfl⟩

theorem update_absent {Row : Type} {table : Table Row} {guard : Nat → Row → Bool}
    {change : Row → Row} {id : Nat} (absent : table.find? id = none) :
    (table.update guard change).find? id = none := by
  rw [Table.find?_update, absent]
  rfl

theorem trustedDevicesWith_cases {devices : Table TrustedDevice} {new row : TrustedDevice} {id : Nat}
    (found : (trustedDevicesWith devices new).find? id = some row) :
    devices.find? id = some row ∨ row = new := by
  unfold trustedDevicesWith at found
  by_cases known : (devices.any fun _ other =>
      other.userId == new.userId && other.deviceId == new.deviceId) = true
  · rw [if_pos known, Table.find?_update] at found
    obtain ⟨old, before, after⟩ := Option.map_eq_some_iff.mp found
    by_cases own : (old.userId == new.userId && old.deviceId == new.deviceId) = true
    · rw [if_pos own] at after
      exact Or.inr after.symm
    · rw [if_neg own] at after
      subst after
      exact Or.inl before
  · rw [if_neg known] at found
    rcases Table.find?_insert_cases found with ⟨-, rfl⟩ | old
    · exact Or.inr rfl
    · exact Or.inl old

theorem acceptsLogin_right {now : Instant} {request : VerifyRequest} {valid : Bool}
    {challenge : Nat × AuthChallenge} {more : JsonObject}
    (read : readLoginChallenge a.db.state request.body.challengeNo = .ok challenge)
    (unverified : challenge.2.verifiedAt = none) :
    AcceptsLogin a (.served now (.verify request valid) (some (("authenticated", .boolean true) :: more)))
      challenge.2.userId := by
  obtain ⟨here, number, own⟩ := readLoginChallenge_ok read
  refine ⟨challenge.1, challenge.2, here, own, rfl, unverified, ?_⟩
  rw [number]
  simp [Event.accepts, Event.judged, member, isTrue]

theorem ran_entered {now : Instant} {command : AccountCommand} {result : JsonObject}
    (ran : Ran env now a.db.state command result b.db.state) :
    Entered env a (.served now command (some result)) b := by
  cases ran with
  | login keyed named did =>
      cases did with
      | rejected read hashed wrong counted locked others =>
          refine Entered.idle (fun id absent => ?_) (others _ (by decide) (by decide))
          rwa [others _ (by decide) (by decide)]
      | entered read right active trusted reset opened used others =>
          constructor
          · intro id row found absent
            rw [opened] at found
            rcases Table.find?_insert_cases found with ⟨-, rfl⟩ | old
            · exact Or.inr ⟨_, _, _, _, _, rfl, read, rfl, active, right, trusted⟩
            · rw [absent] at old
              cases old
          · intro id row found
            rw [used] at found
            rcases Table.find?_modify_cases found with ⟨rfl, old, before, rfl⟩ | ⟨-, before⟩
            · exact Or.inl ⟨old, before, rfl⟩
            · exact Or.inl ⟨row, before, rfl⟩
      | requested read right active reset fresh issued others =>
          refine Entered.idle (fun id absent => ?_) (others _ (by decide) (by decide) (by decide))
          rwa [others _ (by decide) (by decide) (by decide)]
  | verify did =>
      cases did with
      | wrong read invalid live below counted others =>
          refine Entered.idle (fun id absent => ?_) (others _ (by decide))
          rwa [others _ (by decide)]
      | right read matched live below spent trusted opened others =>
          constructor
          · intro id row found absent
            rw [opened] at found
            rcases Table.find?_insert_cases found with ⟨-, rfl⟩ | old
            · exact Or.inl (acceptsLogin_right read live.1)
            · rw [absent] at old
              cases old
          · intro id row found
            rw [trusted] at found
            rcases trustedDevicesWith_cases found with old | rfl
            · exact Or.inl ⟨row, old, rfl⟩
            · exact Or.inr (acceptsLogin_right read live.1)
  | logout sessions others =>
      refine Entered.idle (fun id absent => ?_) (others _ (by decide))
      rw [sessions]
      exact update_absent absent
  | requestStepUp keyed did told =>
      refine Entered.idle (fun id absent => ?_) (did.others _ (by decide) (by decide))
      rwa [did.others _ (by decide) (by decide)]
  | verifyStepUp did =>
      cases did with
      | wrong read invalid live below counted others =>
          refine Entered.idle (fun id absent => ?_) (others _ (by decide))
          rwa [others _ (by decide)]
      | right read matched live below spent others =>
          refine Entered.idle (fun id absent => ?_) (others _ (by decide))
          rwa [others _ (by decide)]
  | createUser managed fresh account credential others =>
      refine Entered.idle (fun id absent => ?_) (others _ (by decide) (by decide) (by decide))
      rwa [others _ (by decide) (by decide) (by decide)]
  | resetPassword cleared revoked others =>
      refine Entered.idle (fun id absent => ?_) (others _ (by decide) (by decide) (by decide))
      rw [revoked]
      exact update_absent absent
  | disable moved revoked others =>
      refine Entered.idle (fun id absent => ?_) (others _ (by decide) (by decide) (by decide))
      rw [revoked]
      exact update_absent absent
  | restore held moved others =>
      refine Entered.idle (fun id absent => ?_) (others _ (by decide) (by decide))
      rwa [others _ (by decide) (by decide)]
  | unlock held moved cleared revoked others =>
      refine Entered.idle (fun id absent => ?_)
        (others _ (by decide) (by decide) (by decide) (by decide))
      rw [revoked]
      exact update_absent absent

theorem step_entered (step : Step env a event b) : Entered env a event b := by
  cases step with
  | served now command ending taken =>
      have served := serve_served env now command ending a.db
      generalize commits env now command ending a.db = result at served ⊢
      generalize (serve env now command ending a.db).2 = db at served ⊢
      cases served with
      | idle => exact Entered.idle (fun _ absent => absent) rfl
      | ran did => exact ran_entered did
  | comparedLogin => exact Entered.idle (fun _ absent => absent) rfl
  | comparedStepUp => exact Entered.idle (fun _ absent => absent) rfl
  | consumed returns =>
      have kept := returns.unwritten
      refine Entered.idle (fun id absent => ?_) (kept _ (by decide))
      dsimp only
      rwa [kept _ (by decide)]
  | elsewhere own =>
      refine Entered.idle (fun id absent => ?_) (own _ (by decide) (by decide))
      dsimp only
      rwa [own _ (by decide) (by decide)]

/-! ## Runs -/

/-- No challenge was issued yet, and no code was compared. -/
structure Unchallenged (s : System) : Prop where
  challenges : ∀ id, (s.db.state authChallenges).find? id = none
  readings : s.readings = []

theorem Unchallenged.recorded {s : System} (opens : Unchallenged s) : Recorded env [] s := by
  have none : ∀ id row, ¬ (s.db.state authChallenges).find? id = some row := by
    intro id row found
    rw [opens.challenges] at found
    cases found
  refine ⟨fun id _ row _ found => absurd found (none id row), fun id row found =>
    absurd found (none id row), fun _ _ => ⟨rfl, rfl, rfl⟩, ?_⟩
  intro reading member
  rw [opens.readings] at member
  cases member

theorem run_recorded {s s' : System} {events : List Event} (opens : Unchallenged s)
    (run : Run (Step env) s events s') : Recorded env events s' := by
  have recorded := @Run.traced _ _ _ _ _ _ [] run (Recorded env) step_recorded opens.recorded
  rwa [List.nil_append] at recorded

theorem Recorded.counts {past : List Event} {s : System} (recorded : Recorded env past s)
    (challengeNo : String) :
    past.countP (·.rejects challengeNo) ≤ MAX_ATTEMPTS ∧
      past.countP (·.accepts challengeNo) ≤ 1 ∧ past.countP (·.consumes challengeNo) ≤ 1 := by
  by_cases issued : ∃ id row, (s.db.state authChallenges).find? id = some row ∧
      row.challengeNo = challengeNo
  · obtain ⟨id, row, found, rfl⟩ := issued
    have kept := recorded.rows id row found
    refine ⟨?_, ?_, ?_⟩
    · rw [kept.rejected]
      exact kept.limit
    · rw [kept.accepted]
      split <;> decide
    · rw [kept.consumed]
      split <;> decide
  · obtain ⟨rejects, accepts, consumes⟩ := recorded.unissued challengeNo
      fun id row found same => issued ⟨id, row, found, same⟩
    rw [rejects, accepts, consumes]
    exact ⟨Nat.zero_le _, by decide, by decide⟩

/-- What holds of the one-time codes over a run. -/
structure OneTimeCodes (env : Environment) (s : System) (events : List Event) : Prop where
  rejected : ∀ challengeNo, events.countP (·.rejects challengeNo) ≤ MAX_ATTEMPTS
  acceptedOnce : ∀ challengeNo, events.countP (·.accepts challengeNo) ≤ 1
  consumedOnce : ∀ challengeNo, events.countP (·.consumes challengeNo) ≤ 1
  accepted : ∀ past event rest, events = past ++ event :: rest → ∀ challengeNo,
    event.accepts challengeNo = true → Accepted env past event challengeNo
  consumed : ∀ past now claim rest, events = past ++ .consumed now claim :: rest →
    Consumed env past now claim
  entered : ∀ past event rest a b, events = past ++ event :: rest → Run (Step env) s past a →
    Step env a event b → Entered env a event b

theorem one_time_codes {s s' : System} {events : List Event} (opens : Unchallenged s)
    (run : Run (Step env) s events s') : OneTimeCodes env s events := by
  have counts := (run_recorded opens run).counts
  refine ⟨fun no => (counts no).1, fun no => (counts no).2.1, fun no => (counts no).2.2, ?_, ?_, ?_⟩
  · intro past event rest same challengeNo accepts
    rw [same] at run
    obtain ⟨a, b, before, step, -⟩ := run.split
    exact step_accepts step (run_recorded opens before) accepts
  · intro past now claim rest same
    rw [same] at run
    obtain ⟨a, b, before, step, -⟩ := run.split
    exact step_consumes step (run_recorded opens before)
  · intro past event rest a b _ _ step
    exact step_entered step

/-! ## A login with a code, and one without -/

/-- A right password, a wrong code and the right one, a minute apart. -/
def codeLogin : List Act :=
  [.serve (minute 0) (.login (loginWith "right" "login-key-number-0001")) .answered,
    .compare (verifyWith (challengeOf "login-key-number-0001") "000000" "verify-key-number-0001"),
    .verify (minute 1) .answered,
    .compare (verifyWith (challengeOf "login-key-number-0001") "123456" "verify-key-number-0002"),
    .verify (minute 2) .answered]

theorem unchallenged_account (status : AccountStatus) (failedAttempts : Nat) :
    Unchallenged (accountSystem status failedAttempts) :=
  ⟨fun _ => rfl, rfl⟩

theorem one_time_codes_accepted :
    ∃ events s', Run (Step shown) (accountSystem .active 0) events s' ∧
      (events.any fun event => event.rejects (challengeOf "login-key-number-0001")) = true ∧
      (events.any fun event => event.accepts (challengeOf "login-key-number-0001")) = true ∧
      OneTimeCodes shown (accountSystem .active 0) events := by
  obtain ⟨events, s', run, seen⟩ := replay_ends shown codeLogin
    (accountSystem .active 0) (fun events _ =>
      events.any (fun event => event.rejects (challengeOf "login-key-number-0001")) &&
        events.any fun event => event.accepts (challengeOf "login-key-number-0001"))
    (by decide +kernel)
  rw [Bool.and_eq_true] at seen
  exact ⟨events, s', run, seen.1, seen.2, one_time_codes (unchallenged_account .active 0) run⟩

/-- The next login from the device that the code made a trusted one opens a
session without a code. -/
theorem session_without_code :
    ∃ events a event b id row, Run (Step shown) (accountSystem .active 0) events a ∧
      Step shown a event b ∧ (b.db.state authSessions).find? id = some row ∧
      (a.db.state authSessions).find? id = none ∧ ¬ AcceptsLogin a event row.userId := by
  obtain ⟨events, a, run, seen⟩ := replay_ends shown codeLogin
    (accountSystem .active 0) (fun _ a => ((a.db.state authSessions).find? 2).isNone &&
      (((serve shown (minute 3) (.login (loginWith "right" "login-key-number-0002")) .answered
        a.db).2.state authSessions).find? 2).isSome) (by decide +kernel)
  rw [Bool.and_eq_true, Option.isNone_iff_eq_none, Option.isSome_iff_exists] at seen
  obtain ⟨absent, row, found⟩ := seen
  refine ⟨events, a, _, _, 2, row, run,
    Step.served (minute 3) (.login (loginWith "right" "login-key-number-0002")) .answered
      Takes.nothing, found, absent, ?_⟩
  rintro ⟨id, challenge, -, -, -, -, accepts⟩
  simp [Event.accepts, Event.judged] at accepts

end SupplyChain.Accounts
