import SupplyChain.Accounts.Outcomes

/-!
Sessions and credential changes. A reset, a disable and an unlock revoke the
sessions of the user, but a login that waits for its code is not among them. It
is dated when each challenge was asked for, and from when the password check
behind each session is.
-/

namespace SupplyChain.Accounts

open Relational Transaction Json Calendar AccountTable
open Commands (JsonObject)

variable {env : Environment} {a b : System} {event : Event}

/-! ## Dates -/

/-- The user whose credentials an event changed. -/
def Event.changes : Event → Option Nat
  | .served _ (.resetPassword _ userId _ _ _) (some _) => some userId
  | .served _ (.disable _ userId _) (some _) => some userId
  | .served _ (.unlock _ userId _) (some _) => some userId
  | _ => none

/-- The steps of a run are counted. It is noted when the credentials of a user
were changed last, when a challenge was asked for, and when the password behind
a session was checked. -/
structure Dates where
  clock : Nat
  changedAt : Nat → Nat
  askedAt : Nat → Nat
  checkedAt : Nat → Nat

/-- The password behind a session that an event opens was checked by the login
itself, or by the one that asked for the code. -/
def Dates.ofCheck (dates : Dates) (s : System) : Event → Nat
  | .served _ (.verify request _) _ =>
      match readLoginChallenge s.db.state request.body.challengeNo with
      | .ok challenge => dates.askedAt challenge.1
      | .error _ => dates.clock
  | _ => dates.clock

/-- What is not there yet is dated by the step that makes it. -/
def Dates.next (s : System) (event : Event) (dates : Dates) : Dates where
  clock := dates.clock + 1
  changedAt userId := if event.changes = some userId then dates.clock else dates.changedAt userId
  askedAt id :=
    if ((s.db.state authChallenges).find? id).isNone then dates.clock else dates.askedAt id
  checkedAt id :=
    if ((s.db.state authSessions).find? id).isNone then dates.ofCheck s event else dates.checkedAt id

/-- Every unrevoked session is from a password checked after the last change of
its user. -/
def FreshSessions (a : Noted Dates) : Prop :=
  ∀ id row, (a.system.db.state authSessions).find? id = some row → row.revokedAt = none →
    a.note.changedAt row.userId < a.note.checkedAt id

/-- After a step no session outlives a change, and the step spent no challenge
from before a change. -/
structure NoneOutlives (a b : Noted Dates) : Prop where
  sessions : FreshSessions b
  challenges : ∀ id row next, (a.system.db.state authChallenges).find? id = some row →
    row.purpose = .login → row.verifiedAt = none →
    (b.system.db.state authChallenges).find? id = some next → next.verifiedAt ≠ none →
    a.note.changedAt row.userId < a.note.askedAt id

/-- The verification whose unit of work accepted a code. -/
def Event.acceptedCode : Event → Option VerifyRequest
  | .served _ (.verify request true) (some _) => some request
  | _ => none

/-- The right code of a challenge finds that its user was not changed since the
challenge was asked for. -/
def acceptsFresh (a : Noted Dates) (event : Event) : Bool :=
  match event.acceptedCode with
  | none => true
  | some request =>
      match readLoginChallenge a.system.db.state request.body.challengeNo with
      | .error _ => true
      | .ok challenge => decide (a.note.changedAt challenge.2.userId < a.note.askedAt challenge.1)

/-- The changes that were noted are past. -/
def Past (a : Noted Dates) : Prop := ∀ userId, a.note.changedAt userId < a.note.clock

/-! ## What a step does to the sessions -/

/-- No session is opened; those that are not revoked are as they were. -/
def Narrowed (sessions sessions' : Table AuthSession) : Prop :=
  ∀ id row, sessions'.find? id = some row → row.revokedAt = none → sessions.find? id = some row

/-- No challenge of a login is spent. -/
def Unspent (challenges challenges' : Table AuthChallenge) : Prop :=
  ∀ id row next, challenges.find? id = some row → row.purpose = .login → row.verifiedAt = none →
    challenges'.find? id = some next → next.verifiedAt = none

inductive SessionsMoved (s : System) (event : Event) (db' : AccountStore) : Prop
  | kept (unchanged : event.changes = none) (plain : event.acceptedCode = none)
      (narrowed : Narrowed (s.db.state authSessions) (db' authSessions))
      (unspent : Unspent (s.db.state authChallenges) (db' authChallenges))
  | changed {userId : Nat} (changes : event.changes = some userId)
      (plain : event.acceptedCode = none)
      (narrowed : Narrowed (s.db.state authSessions) (db' authSessions))
      (gone : ∀ id row, (db' authSessions).find? id = some row → row.revokedAt = none →
        row.userId ≠ userId)
      (unspent : Unspent (s.db.state authChallenges) (db' authChallenges))
  | entered {new : AuthSession} (unchanged : event.changes = none)
      (plain : event.acceptedCode = none)
      (checked : ∀ dates : Dates, dates.ofCheck s event = dates.clock)
      (opened : db' authSessions = (s.db.state authSessions).insert new)
      (unspent : Unspent (s.db.state authChallenges) (db' authChallenges))
  | accepted {request : VerifyRequest} {challenge : Nat × AuthChallenge} {new : AuthSession}
      {spend : AuthChallenge → AuthChallenge} (unchanged : event.changes = none)
      (verified : event.acceptedCode = some request)
      (checked : ∀ dates : Dates, dates.ofCheck s event = dates.askedAt challenge.1)
      (read : readLoginChallenge s.db.state request.body.challengeNo = .ok challenge)
      (own : new.userId = challenge.2.userId) (live : new.revokedAt = none)
      (opened : db' authSessions = (s.db.state authSessions).insert new)
      (spent : db' authChallenges = (s.db.state authChallenges).modify challenge.1 spend)

theorem Narrowed.same {sessions sessions' : Table AuthSession} (same : sessions' = sessions) :
    Narrowed sessions sessions' := by
  intro id row found _
  rwa [same] at found

theorem Unspent.same {challenges challenges' : Table AuthChallenge}
    (same : challenges' = challenges) : Unspent challenges challenges' := by
  intro id row next found _ unverified later
  rw [same, found] at later
  cases later
  exact unverified

theorem Unspent.inserted {challenges : Table AuthChallenge} {new : AuthChallenge} :
    Unspent challenges (challenges.insert new) := by
  intro id row next found _ unverified later
  rw [Table.find?_insert_of_some found] at later
  cases later
  exact unverified

theorem Unspent.modified {challenges : Table AuthChallenge} {target : Nat} {held : AuthChallenge}
    {change : AuthChallenge → AuthChallenge} (here : challenges.find? target = some held)
    (unspent : held.purpose = .login → (change held).verifiedAt = held.verifiedAt) :
    Unspent challenges (challenges.modify target change) := by
  intro id row next found own unverified later
  rcases Table.find?_modify_cases later with ⟨rfl, old, before, rfl⟩ | ⟨-, before⟩
  · rw [found] at before here
    cases before
    cases here
    rw [unspent own, unverified]
  · rw [found] at before
    cases before
    exact unverified

theorem Unspent.updated {challenges : Table AuthChallenge} {guard : Nat → AuthChallenge → Bool}
    {change : AuthChallenge → AuthChallenge}
    (keeps : ∀ row, (change row).verifiedAt = row.verifiedAt) :
    Unspent challenges (challenges.update guard change) := by
  intro id row next found _ unverified later
  rw [Table.find?_update, found] at later
  cases later
  dsimp only
  split
  · rw [keeps, unverified]
  · exact unverified

theorem narrowed_revoked {sessions : Table AuthSession} {guard : Nat → AuthSession → Bool}
    {now : Instant} : Narrowed sessions
      (sessions.update guard fun row => { row with revokedAt := some now.text }) := by
  intro id row found live
  rw [Table.find?_update] at found
  obtain ⟨old, before, after⟩ := Option.map_eq_some_iff.mp found
  split at after
  · subst after
    cases live
  · subst after
    exact before

theorem revokedSessions_gone {sessions : Table AuthSession} {now : Instant} {userId id : Nat}
    {row : AuthSession} (found : (revokedSessions sessions now userId).find? id = some row)
    (live : row.revokedAt = none) : row.userId ≠ userId := by
  unfold revokedSessions at found
  rw [Table.find?_update] at found
  obtain ⟨old, before, after⟩ := Option.map_eq_some_iff.mp found
  split at after
  · subst after
    cases live
  · rename_i other
    subst after
    intro same
    simp [same, live] at other

theorem SessionsMoved.apart {s : System} {db' : AccountStore} (unchanged : event.changes = none)
    (plain : event.acceptedCode = none) (sessions : db' authSessions = s.db.state authSessions)
    (challenges : db' authChallenges = s.db.state authChallenges) : SessionsMoved s event db' :=
  SessionsMoved.kept unchanged plain (Narrowed.same sessions) (Unspent.same challenges)

theorem SessionsMoved.revoked {s : System} {db' : AccountStore} {now : Instant} {userId : Nat}
    (changes : event.changes = some userId) (plain : event.acceptedCode = none)
    (sessions : db' authSessions = revokedSessions (s.db.state authSessions) now userId)
    (challenges : db' authChallenges = s.db.state authChallenges) : SessionsMoved s event db' := by
  apply SessionsMoved.changed changes plain _ _ (Unspent.same challenges)
  · rw [sessions]
    exact narrowed_revoked
  · intro id row found live
    rw [sessions] at found
    exact revokedSessions_gone found live

theorem ran_sessions {now : Instant} {command : AccountCommand} {result : JsonObject}
    {db' : AccountStore} (ran : Ran env now a.db.state command result db') :
    SessionsMoved a (.served now command (some result)) db' := by
  cases ran with
  | login keyed named did =>
      cases did with
      | rejected read hashed wrong counted locked others =>
          exact SessionsMoved.apart rfl rfl (others _ (by decide) (by decide))
            (others _ (by decide) (by decide))
      | entered read right active trusted reset opened used others =>
          exact SessionsMoved.entered rfl rfl (fun _ => rfl) opened
            (Unspent.same (others _ (by decide) (by decide) (by decide)))
      | requested read right active reset fresh issued others =>
          apply SessionsMoved.kept rfl rfl
            (Narrowed.same (others _ (by decide) (by decide) (by decide)))
          rw [issued]
          exact Unspent.inserted
  | verify did =>
      cases did with
      | wrong read invalid live below counted others =>
          subst invalid
          apply SessionsMoved.kept rfl rfl (Narrowed.same (others _ (by decide)))
          rw [counted]
          exact Unspent.modified (readLoginChallenge_ok read).1 fun _ => rfl
      | right read matched live below spent trusted opened others =>
          subst matched
          apply SessionsMoved.accepted rfl rfl _ read rfl rfl opened spent
          intro dates
          unfold Dates.ofCheck
          dsimp only
          rw [read]
  | logout sessions others =>
      apply SessionsMoved.kept rfl rfl _ (Unspent.same (others _ (by decide)))
      rw [sessions]
      exact narrowed_revoked
  | requestStepUp keyed did told =>
      apply SessionsMoved.kept rfl rfl (Narrowed.same (did.others _ (by decide) (by decide)))
      rw [did.issued]
      exact Unspent.inserted
  | verifyStepUp did =>
      cases did with
      | wrong read invalid live below counted others =>
          apply SessionsMoved.kept rfl rfl (Narrowed.same (others _ (by decide)))
          rw [counted]
          exact Unspent.modified (readStepUpChallenge_ok read).1 fun _ => rfl
      | right read matched live below spent others =>
          apply SessionsMoved.kept rfl rfl (Narrowed.same (others _ (by decide)))
          obtain ⟨found, -, -, binding, own, -⟩ := readStepUpChallenge_ok read
          rw [spent]
          apply Unspent.modified found
          intro login
          rw [own] at login
          cases login
  | createUser managed fresh account credential others =>
      exact SessionsMoved.apart rfl rfl (others _ (by decide) (by decide) (by decide))
        (others _ (by decide) (by decide) (by decide))
  | resetPassword cleared revoked others =>
      exact SessionsMoved.revoked rfl rfl revoked (others _ (by decide) (by decide) (by decide))
  | disable moved revoked others =>
      exact SessionsMoved.revoked rfl rfl revoked (others _ (by decide) (by decide) (by decide))
  | restore held moved others =>
      exact SessionsMoved.apart rfl rfl (others _ (by decide) (by decide))
        (others _ (by decide) (by decide))
  | unlock held moved cleared revoked others =>
      exact SessionsMoved.revoked rfl rfl revoked
        (others _ (by decide) (by decide) (by decide) (by decide))

theorem step_sessions (step : Step env a event b) : SessionsMoved a event b.db.state := by
  cases step with
  | served now command ending taken =>
      have served := serve_served env now command ending a.db
      generalize commits env now command ending a.db = result at served ⊢
      generalize (serve env now command ending a.db).2 = db at served ⊢
      cases served with
      | idle =>
          apply SessionsMoved.apart _ _ rfl rfl
          · cases command <;> rfl
          · cases command with
            | verify request valid => cases valid <;> rfl
            | _ => rfl
      | ran did => exact ran_sessions did
  | comparedLogin => exact SessionsMoved.apart rfl rfl rfl rfl
  | comparedStepUp => exact SessionsMoved.apart rfl rfl rfl rfl
  | consumed returns =>
      apply SessionsMoved.kept rfl rfl (Narrowed.same (returns.unwritten _ (by decide)))
      rw [(consumeStepUpClaim_returns returns).2, Store.put_same]
      exact Unspent.updated fun _ => rfl
  | elsewhere own =>
      exact SessionsMoved.apart rfl rfl (own _ (by decide) (by decide)) (own _ (by decide) (by decide))

/-! ## Runs -/

section Dated

variable {a b : Noted Dates}

theorem next_past (step : NotedStep env Dates.next a event b) (past : Past a) : Past b := by
  intro userId
  rw [step.2]
  unfold Dates.next
  dsimp only
  by_cases changed : event.changes = some userId
  · rw [if_pos changed]
    omega
  · rw [if_neg changed]
    have before := past userId
    omega

theorem next_kept (step : NotedStep env Dates.next a event b) {id : Nat} {row : AuthSession}
    (found : (a.system.db.state authSessions).find? id = some row)
    (unchanged : event.changes ≠ some row.userId)
    (fresh : a.note.changedAt row.userId < a.note.checkedAt id) :
    b.note.changedAt row.userId < b.note.checkedAt id := by
  rw [step.2]
  unfold Dates.next
  dsimp only
  rw [if_neg unchanged, found]
  exact fresh

theorem freshSessions_insert (step : NotedStep env Dates.next a event b) {new : AuthSession}
    (opened : b.system.db.state authSessions = (a.system.db.state authSessions).insert new)
    (unchanged : event.changes = none) (fresh : FreshSessions a)
    (checked : a.note.changedAt new.userId < a.note.ofCheck a.system event) : FreshSessions b := by
  have untouched : ∀ userId, event.changes ≠ some userId := by
    intro userId
    rw [unchanged]
    simp
  intro id row found live
  rw [opened] at found
  rcases Table.find?_insert_cases found with ⟨rfl, rfl⟩ | old
  · rw [step.2]
    unfold Dates.next
    dsimp only
    rw [if_neg (untouched _), Table.find?_nextId]
    exact checked
  · exact next_kept step old (untouched _) (fresh id row old live)

theorem acceptsFresh_plain (plain : event.acceptedCode = none) : acceptsFresh a event = true := by
  simp [acceptsFresh, plain]

theorem noneOutlives_iff (step : NotedStep env Dates.next a event b) (past : Past a)
    (fresh : FreshSessions a) : NoneOutlives a b ↔ acceptsFresh a event = true := by
  cases step_sessions step.1 with
  | kept unchanged plain narrowed unspent =>
      refine ⟨fun _ => acceptsFresh_plain plain, fun _ => ⟨?_, ?_⟩⟩
      · intro id row found live
        have old := narrowed id row found live
        exact next_kept step old (by rw [unchanged]; simp) (fresh id row old live)
      · intro id row next found own unverified later verified
        exact absurd (unspent id row next found own unverified later) verified
  | changed changes plain narrowed gone unspent =>
      refine ⟨fun _ => acceptsFresh_plain plain, fun _ => ⟨?_, ?_⟩⟩
      · intro id row found live
        have old := narrowed id row found live
        apply next_kept step old _ (fresh id row old live)
        rw [changes]
        intro same
        exact gone id row found live (Option.some.inj same).symm
      · intro id row next found own unverified later verified
        exact absurd (unspent id row next found own unverified later) verified
  | entered unchanged plain checked opened unspent =>
      refine ⟨fun _ => acceptsFresh_plain plain, fun _ => ⟨?_, ?_⟩⟩
      · apply freshSessions_insert step opened unchanged fresh
        rw [checked]
        exact past _
      · intro id row next found own unverified later verified
        exact absurd (unspent id row next found own unverified later) verified
  | @accepted request challenge new spend unchanged verified checked read own live opened spent =>
      have accepts : acceptsFresh a event = true ↔
          a.note.changedAt new.userId < a.note.askedAt challenge.1 := by
        unfold acceptsFresh
        rw [verified]
        dsimp only
        rw [read, own, decide_eq_true_iff]
      rw [accepts]
      constructor
      · intro outlives
        have session := outlives.sessions (a.system.db.state authSessions).nextId new
          (by rw [opened, Table.find?_insert_nextId]) live
        rw [step.2] at session
        unfold Dates.next at session
        dsimp only at session
        rw [unchanged, Table.find?_nextId, Option.isNone_none, if_pos rfl, checked] at session
        simpa using session
      · intro earlier
        refine ⟨freshSessions_insert step opened unchanged fresh (by rwa [checked]), ?_⟩
        intro id row next found login unverified later verified
        rw [spent] at later
        rcases Table.find?_modify_cases later with ⟨rfl, old, before, rfl⟩ | ⟨-, before⟩
        · rw [found] at before
          have here := (readLoginChallenge_ok read).1
          rw [found] at here
          cases here
          rw [own] at earlier
          exact earlier
        · rw [found] at before
          cases before
          exact absurd unverified verified

/-- Along a run no session outlives a change of its user exactly when no code
is accepted for a challenge that was asked for before such a change. -/
theorem none_outlives_iff {events : List Event} (past : Past a) (fresh : FreshSessions a) :
    Run (fun a event b => NotedStep env Dates.next a event b ∧ NoneOutlives a b) a events b ↔
      Run (fun a event b => NotedStep env Dates.next a event b ∧ acceptsFresh a event = true)
        a events b := by
  apply Run.iff_under fun a => Past a ∧ FreshSessions a
  · rintro a event b step outlives ⟨past, -⟩
    exact ⟨next_past step past, outlives.sessions⟩
  · rintro a event b step ⟨past, fresh⟩
    exact noneOutlives_iff step past fresh
  · exact ⟨past, fresh⟩

end Dated

/-! ### A reset between a login and its code -/

/-- An account with a right password, and nothing dated. -/
def undated : Noted Dates :=
  ⟨accountSystem .active 0, { clock := 1, changedAt := fun _ => 0, askedAt := fun _ => 0
                              checkedAt := fun _ => 0 }⟩

theorem undated_past : Past undated := fun _ => Nat.zero_lt_one

theorem undated_fresh : FreshSessions undated := by
  intro id row found
  cases found

def asksForCode : Act :=
  .serve (minute 0) (.login (loginWith "right" "login-key-number-0001")) .answered

def resetsPassword : Act :=
  .serve (minute 1) (.resetPassword ⟨2, 1⟩ 1 "Another-password-1" zeroSalt
    (callerWith "reset-key-number-0001")) .answered

def enters : List Act :=
  [.compare (verifyWith (challengeOf "login-key-number-0001") "123456" "verify-key-number-0001"),
    .verify (minute 2) .answered]

def openFor (id : Nat) (a : Noted Dates) : Bool :=
  ((a.system.db.state authSessions).find? id).any fun row =>
    row.userId == 1 && row.revokedAt.isNone

theorem none_outlives_reset :
    ∃ events b, openFor 1 b = false ∧
      Run (fun a event b => NotedStep shown Dates.next a event b ∧ NoneOutlives a b)
        undated events b := by
  obtain ⟨events, b, run, seen⟩ := replay_reaches shown Dates.next acceptsFresh
    (asksForCode :: enters ++ [resetsPassword]) undated
    (fun _ b => ((b.system.db.state authSessions).find? 1).isSome && !openFor 1 b)
    (by decide +kernel)
  simp only [Bool.and_eq_true, Bool.not_eq_true'] at seen
  exact ⟨events, b, seen.2, (none_outlives_iff undated_past undated_fresh).mpr run⟩

/-- The code of a login from before the reset opens a session after it. -/
theorem session_after_reset :
    ∃ events b row, Run (NotedStep shown Dates.next) undated events b ∧
      (b.system.db.state authSessions).find? 1 = some row ∧ row.userId = 1 ∧
      row.revokedAt = none ∧ b.note.checkedAt 1 < b.note.changedAt 1 ∧ ¬ FreshSessions b := by
  obtain ⟨events, b, run, seen⟩ := replay_reaches shown Dates.next (fun _ _ => true)
    (asksForCode :: resetsPassword :: enters) undated
    (fun _ b => openFor 1 b && decide (b.note.checkedAt 1 < b.note.changedAt 1))
    (by decide +kernel)
  rw [Bool.and_eq_true, decide_eq_true_eq] at seen
  obtain ⟨row, found, holds⟩ := (Option.any_eq_true _ _).mp seen.1
  simp only [Bool.and_eq_true, beq_iff_eq, Option.isNone_iff_eq_none] at holds
  refine ⟨events, b, row, run.imp fun step => step.1, found, holds.1, holds.2, seen.2, ?_⟩
  intro fresh
  have late := fresh 1 row found holds.2
  rw [holds.1] at late
  exact absurd seen.2 (Nat.lt_asymm late)

end SupplyChain.Accounts
