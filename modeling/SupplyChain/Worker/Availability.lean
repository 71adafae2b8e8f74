import Mathlib.Data.String.Basic
import SupplyChain.Calendar.Moments
import SupplyChain.Worker.Loop

/-!
When a message of the outbox becomes available. Its writers mean an instant:
`enqueueOutbox` and `fail` write it as the clock of UTC, `pause` as the clock of
the database session, and a claim compares the texts. What a claim makes of the
instants is said for every set of messages that other transactions hold locked.
-/

namespace SupplyChain.Worker

open Relational Transaction WorkerTable
open Calendar (Moment Zone utcDay)

variable {runtime : Runtime} {zone : Zone} {worker : String} {db db' : Database} {now : Moment}
  {id : Nat} {message : OutboxMessage} {row : OutboxRow}

/-! ## Writers -/

/-- The texts of the runtime are those of `toISOString` and of a session in the zone. -/
structure Clocked (runtime : Runtime) (zone : Zone) : Prop where
  iso : ∀ time : Nat, runtime.iso time = Calendar.toISOString time
  datetime : ∀ time : Nat, runtime.datetime time = zone.datetime time

/-- `enqueueOutbox` of the server; `availableAt` is the time that it is given. -/
def enqueueOutbox (runtime : Runtime) (now : Moment) (message : OutboxMessage)
    (availableAt : Option Moment) (maxAttempts : Option Nat) : Work [outboxMessages] Unit := do
  let _ ← insertUnique outboxMessages
    (fun other => other.deduplicationKey == message.deduplicationKey)
    { message with
      status := .pending, availableAt := runtime.iso (availableAt.getD now).time, attempts := 0
      maxAttempts := maxAttempts.getD 8 }
    (.other "ER_DUP_ENTRY")
  return ()

/-- Who wrote the time of a message, and when. -/
inductive Writing
  | enqueued (availableAt : Moment)
  | failed (now : Moment) (attempts : Nat)
  | paused (now : Moment)

def delayMs (attempts : Nat) : Nat := min 3600 (2 ^ min attempts 10 * 5) * 1000

theorem delayMs_le (attempts : Nat) : delayMs attempts ≤ Calendar.dayLength := by
  have length : Calendar.dayLength = 86400000 := rfl
  unfold delayMs
  omega

/-- The instant that the writer means. -/
def Writing.meant : Writing → Nat
  | .enqueued availableAt => availableAt.time
  | .failed now attempts => now.time + delayMs attempts
  | .paused now => now.time + 1000

def Writing.text (zone : Zone) : Writing → String
  | .paused now => zone.datetime (now.time + 1000)
  | writing => Calendar.toISOString writing.meant

theorem Writing.inside (writing : Writing) (zone : Zone) :
    utcDay writing.meant < Calendar.lastDay ∧ zone.localDay writing.meant < Calendar.lastDay := by
  cases writing with
  | enqueued availableAt => exact availableAt.inside (Nat.zero_le _) zone
  | failed now attempts => exact now.inside (delayMs_le attempts) zone
  | paused now => exact now.inside (by decide) zone

section Writers

variable {sent : List Empty} {u : Unit} {availableAt : Option Moment} {maxAttempts : Option Nat}
  {error : Fault}

theorem enqueueOutbox_writes (clocked : Clocked runtime zone)
    (returns : (enqueueOutbox runtime now message availableAt maxAttempts).Returns db u sent db') :
    ∃ id written, (db' outboxMessages).find? id = some written ∧
      written.availableAt = (Writing.enqueued (availableAt.getD now)).text zone := by
  simp only [enqueueOutbox, returns_bind_insertUnique, returns_pure] at returns
  obtain ⟨-, -, -, rfl⟩ := returns
  rw [Store.put_same]
  exact ⟨_, _, Table.find?_insert_nextId _ _, clocked.iso _⟩

theorem pause_writes (clocked : Clocked runtime zone)
    (returns : (pause runtime now.time worker row).Returns db u sent db') :
    ∃ written, (db' outboxMessages).find? row.id = some written ∧
      written.availableAt = (Writing.paused now).text zone := by
  obtain ⟨⟨old, found, -⟩, -, rfl⟩ := returns_updateRow.mp returns
  rw [Store.put_same]
  exact ⟨_, Table.find?_modify_self _ found, clocked.datetime (now.time + 1000)⟩

theorem fail_writes (clocked : Clocked runtime zone)
    (returns : (fail runtime now.time worker row error).Returns db u sent db') :
    ∃ written, (db' outboxMessages).find? row.id = some written ∧
      written.availableAt = (Writing.failed now row.attempts).text zone := by
  obtain ⟨⟨old, found, -⟩, -, rfl⟩ := returns_updateRow.mp returns
  rw [Store.put_same]
  exact ⟨_, Table.find?_modify_self _ found, clocked.iso (now.time + delayMs row.attempts)⟩

end Writers

/-! ## Texts and instants -/

/-- What the comparison with the text of now comes to. -/
def Writing.Selectable (zone : Zone) (now : Moment) (writing : Writing) : Prop :=
  match writing with
  | .paused _ => zone.localDay writing.meant ≤ utcDay now.time
  | _ => writing.meant ≤ now.time

/-- What the comparison of two texts comes to. -/
def Writing.Before (zone : Zone) (a b : Writing) : Prop :=
  match a, b with
  | .paused _, .paused _ => zone.clock a.meant < zone.clock b.meant
  | .paused _, _ => zone.localDay a.meant ≤ utcDay b.meant
  | _, .paused _ => utcDay a.meant < zone.localDay b.meant
  | _, _ => a.meant < b.meant

theorem Writing.text_le_now (clocked : Clocked runtime zone) {writing : Writing} :
    writing.text zone ≤ runtime.iso now.time ↔ writing.Selectable zone now := by
  have here := (now.inside (Nat.zero_le _) zone).1
  have inside := writing.inside zone
  rw [Nat.add_zero] at here
  rw [clocked.iso, ← String.not_lt]
  cases writing with
  | enqueued availableAt =>
      change ¬ Calendar.toISOString now.time <
        Calendar.toISOString (Writing.meant (.enqueued availableAt)) ↔ _
      rw [Calendar.toISOString_lt here inside.1, Nat.not_lt]
      rfl
  | failed failedAt attempts =>
      change ¬ Calendar.toISOString now.time <
        Calendar.toISOString (Writing.meant (.failed failedAt attempts)) ↔ _
      rw [Calendar.toISOString_lt here inside.1, Nat.not_lt]
      rfl
  | paused pausedAt =>
      change ¬ Calendar.toISOString now.time <
        zone.datetime (Writing.meant (.paused pausedAt)) ↔ _
      rw [Calendar.iso_lt_datetime here inside.2, Nat.not_lt]
      rfl

theorem Writing.text_lt {a b : Writing} : a.text zone < b.text zone ↔ a.Before zone b := by
  have insideA := a.inside zone
  have insideB := b.inside zone
  cases a with
  | paused first =>
      cases b with
      | paused second => exact Calendar.datetime_lt insideA.2 insideB.2
      | enqueued availableAt => exact Calendar.datetime_lt_iso insideA.2 insideB.1
      | failed second attempts => exact Calendar.datetime_lt_iso insideA.2 insideB.1
  | enqueued first =>
      cases b with
      | paused second => exact Calendar.iso_lt_datetime insideA.1 insideB.2
      | enqueued availableAt => exact Calendar.toISOString_lt insideA.1 insideB.1
      | failed second attempts => exact Calendar.toISOString_lt insideA.1 insideB.1
  | failed first attempts =>
      cases b with
      | paused second => exact Calendar.iso_lt_datetime insideA.1 insideB.2
      | enqueued availableAt => exact Calendar.toISOString_lt insideA.1 insideB.1
      | failed second attempts => exact Calendar.toISOString_lt insideA.1 insideB.1

/-! ## What a claim takes -/

/-- A message with attempts left that waits, or whose lease is over. -/
def waiting (runtime : Runtime) (now : Moment) (message : OutboxMessage) : Bool :=
  decide (message.attempts < message.maxAttempts) && (message.status == .pending ||
    staleSince (runtime.iso (now.time - leaseMs)) message)

/-- A waiting message that no other transaction holds locked. -/
structure Candidate (runtime : Runtime) (now : Moment) (skipped : List Nat) (db : Database)
    (id : Nat) (message : OutboxMessage) : Prop where
  found : (db outboxMessages).find? id = some message
  waits : waiting runtime now message = true
  free : id ∉ skipped

/-- `ORDER BY available_at ASC, id ASC` -/
def Precedes (a b : Nat × OutboxMessage) : Prop :=
  a.2.availableAt < b.2.availableAt ∨ a.2.availableAt = b.2.availableAt ∧ a.1 < b.1

theorem earliest_none {rows : List (Nat × OutboxMessage)} (none : earliest rows = none) :
    rows = [] := by
  cases rows with
  | nil => rfl
  | cons head rest =>
      rw [earliest] at none
      split at none
      · cases none
      · split at none <;> cases none

theorem earliest_precedes {rows : List (Nat × OutboxMessage)} {first : Nat × OutboxMessage}
    (ascending : rows.Pairwise fun a b => a.1 < b.1) (found : earliest rows = some first) :
    ∀ other ∈ rows, other = first ∨ Precedes first other := by
  induction rows generalizing first with
  | nil => cases found
  | cons head rest ih =>
      rw [List.pairwise_cons] at ascending
      obtain ⟨before, ascending⟩ := ascending
      rw [earliest] at found
      cases next : earliest rest with
      | none =>
          rw [next] at found
          cases found
          intro other member
          rw [earliest_none next] at member
          exact Or.inl (List.mem_singleton.mp member)
      | some least =>
          have later := ih ascending next
          rw [next] at found
          by_cases sooner : least.2.availableAt < head.2.availableAt
          · simp only [if_pos sooner, Option.some.injEq] at found
            subst found
            intro other member
            rcases List.mem_cons.mp member with rfl | member
            · exact Or.inr (Or.inl sooner)
            · exact later other member
          · simp only [if_neg sooner, Option.some.injEq] at found
            subst found
            intro other member
            rcases List.mem_cons.mp member with rfl | member
            · exact Or.inl rfl
            · -- the head comes before the least of the rest, and so before all of them
              have smaller := before other member
              rcases lt_trichotomy head.2.availableAt other.2.availableAt with
                less | same | more
              · exact Or.inr (Or.inl less)
              · exact Or.inr (Or.inr ⟨same, smaller⟩)
              · exfalso
                rcases later other member with rfl | first | ⟨same, -⟩
                · exact sooner more
                · exact sooner (lt_trans first more)
                · rw [← same] at more
                  exact sooner more

/-- What a claim returns: the first candidate in the order of the texts, if the text
of one is not after that of now. -/
inductive Takes (runtime : Runtime) (now : Moment) (skipped : List Nat) (db : Database) :
    Option OutboxRow → Prop
  | nothing (later : ∀ id message, Candidate runtime now skipped db id message →
      ¬ message.availableAt ≤ runtime.iso now.time) : Takes runtime now skipped db none
  | one {row : OutboxRow} {message : OutboxMessage}
      (candidate : Candidate runtime now skipped db row.id message)
      (available : message.availableAt ≤ runtime.iso now.time)
      (first : ∀ id other, Candidate runtime now skipped db id other →
        other.availableAt ≤ runtime.iso now.time →
          id = row.id ∨ Precedes (row.id, message) (id, other)) :
      Takes runtime now skipped db (some row)

theorem mem_available {skipped : List Nat} {change : OutboxMessage → OutboxMessage}
    (same : ∀ old, (change old).attempts = old.attempts ∧
      (change old).maxAttempts = old.maxAttempts) :
    (id, message) ∈ ((db outboxMessages).update
        (fun _ old => staleSince (runtime.iso (now.time - leaseMs)) old &&
          decide (old.maxAttempts ≤ old.attempts)) change).select
      (fun key old => decide (old.attempts < old.maxAttempts) &&
        decide (old.availableAt ≤ runtime.iso now.time) &&
        (old.status == .pending || staleSince (runtime.iso (now.time - leaseMs)) old) &&
        !skipped.contains key) ↔
    Candidate runtime now skipped db id message ∧
      message.availableAt ≤ runtime.iso now.time := by
  rw [Table.mem_select, Table.find?_update]
  constructor
  · rintro ⟨found, passes⟩
    obtain ⟨old, foundOld, rfl⟩ := Option.map_eq_some_iff.mp found
    by_cases exhausted : (staleSince (runtime.iso (now.time - leaseMs)) old &&
        decide (old.maxAttempts ≤ old.attempts)) = true
    · exfalso
      rw [if_pos exhausted] at passes
      simp only [Bool.and_eq_true, decide_eq_true_eq, (same old).1, (same old).2] at passes exhausted
      omega
    · rw [if_neg exhausted] at passes ⊢
      simp only [Bool.and_eq_true, decide_eq_true_eq, Bool.not_eq_true', List.contains_eq_mem,
        decide_eq_false_iff_not] at passes
      obtain ⟨⟨⟨left, available⟩, waits⟩, free⟩ := passes
      exact ⟨⟨foundOld, by simp [waiting, left, waits], free⟩, available⟩
  · rintro ⟨⟨found, waits, free⟩, available⟩
    simp only [waiting, Bool.and_eq_true, decide_eq_true_eq] at waits
    obtain ⟨left, waits⟩ := waits
    have kept : ¬ (staleSince (runtime.iso (now.time - leaseMs)) message &&
        decide (message.maxAttempts ≤ message.attempts)) = true := by
      simp only [Bool.and_eq_true, decide_eq_true_eq, not_and]
      omega
    refine ⟨?_, ?_⟩
    · rw [found, Option.map_some, if_neg kept]
    · simp [left, available, waits, free]

theorem claim_takes {skipped : List Nat} {value : Option OutboxRow} {sent : List Empty}
    (returns : (claim runtime now.time worker skipped).Returns db value sent db') :
    Takes runtime now skipped db value := by
  rw [claim, returns_bind_of_reads requireFence_reads] at returns
  obtain ⟨_, -, returns⟩ := returns
  simp only [returns_bind_updateWhere, returns_bind_query, Store.put_same] at returns
  generalize listed : ((db outboxMessages).update _ _).select _ = rows at returns
  have members : ∀ id message, (id, message) ∈ rows ↔
      Candidate runtime now skipped db id message ∧
        message.availableAt ≤ runtime.iso now.time := by
    intro id message
    rw [← listed]
    exact mem_available fun _ => ⟨rfl, rfl⟩
  have ascending : rows.Pairwise fun a b => a.1 < b.1 := by
    rw [← listed]
    exact Table.select_ascending _ _
  cases first : earliest rows with
  | none =>
      rw [first] at returns
      obtain ⟨rfl, -⟩ := returns_pure.mp returns
      apply Takes.nothing
      intro id message candidate available
      have empty : rows = [] := earliest_none first
      have member := (members id message).mpr ⟨candidate, available⟩
      rw [empty] at member
      cases member
  | some found =>
      obtain ⟨id, message⟩ := found
      rw [first] at returns
      simp only [returns_bind_updateRow, returns_pure] at returns
      obtain ⟨-, rfl, -⟩ := returns
      obtain ⟨candidate, available⟩ := (members id message).mp (earliest_mem first)
      apply Takes.one candidate available
      intro other message' candidate' available'
      rcases earliest_precedes ascending first _ ((members other message').mpr
        ⟨candidate', available'⟩) with same | precedes
      · exact Or.inl (congrArg Prod.fst same)
      · exact Or.inr precedes

/-! ## Instants -/

variable {writing : Nat → Writing}

/-- The times of the messages are the texts of their writers. -/
def Written (zone : Zone) (writing : Nat → Writing) (db : Database) : Prop :=
  ∀ id message, (db outboxMessages).find? id = some message →
    message.availableAt = (writing id).text zone

/-- What a claim should return: the candidate meant for the earliest instant of those
that are due, and nothing only when none is due. -/
def Right (runtime : Runtime) (now : Moment) (writing : Nat → Writing) (skipped : List Nat)
    (db : Database) : Option OutboxRow → Prop
  | none => ∀ id message, Candidate runtime now skipped db id message →
      now.time < (writing id).meant
  | some row => (∃ message, Candidate runtime now skipped db row.id message) ∧
      (writing row.id).meant ≤ now.time ∧
      ∀ id message, Candidate runtime now skipped db id message →
        (writing id).meant ≤ now.time → (writing row.id).meant ≤ (writing id).meant

/-- Every claim, whatever messages are locked elsewhere. -/
def Prompt (runtime : Runtime) (now : Moment) (writing : Nat → Writing) (db : Database) : Prop :=
  ∀ worker skipped value sent db',
    (claim runtime now.time worker skipped).Returns db value sent db' →
      Right runtime now writing skipped db value

/-- A paused message is at or before the day of now when it is due, and of two due
messages the one whose text comes first is not meant for later. -/
structure InStep (runtime : Runtime) (zone : Zone) (now : Moment) (writing : Nat → Writing)
    (db : Database) : Prop where
  timely : ∀ id message, Candidate runtime now [] db id message →
    ((writing id).Selectable zone now ↔ (writing id).meant ≤ now.time)
  ordered : ∀ id message other message', Candidate runtime now [] db id message →
    Candidate runtime now [] db other message' → id ≠ other →
    (writing id).meant ≤ now.time → (writing other).meant ≤ now.time →
    ((writing id).Before zone (writing other) ∨
      ¬ (writing other).Before zone (writing id) ∧ id < other) →
    (writing id).meant ≤ (writing other).meant

section Claims

variable {skipped : List Nat} {keep : List Nat} {other : Nat} {message' : OutboxMessage}

theorem precedes_iff (first : message.availableAt = (writing id).text zone)
    (second : message'.availableAt = (writing other).text zone) :
    Precedes (id, message) (other, message') ↔
      ((writing id).Before zone (writing other) ∨
        ¬ (writing other).Before zone (writing id) ∧ id < other) := by
  rw [Precedes, first, second, ← Writing.text_lt, ← Writing.text_lt]
  constructor
  · rintro (less | ⟨same, smaller⟩)
    · exact Or.inl less
    · refine Or.inr ⟨?_, smaller⟩
      rw [same]
      exact lt_irrefl _
  · rintro (less | ⟨notMore, smaller⟩)
    · exact Or.inl less
    · rcases lt_trichotomy ((writing id).text zone) ((writing other).text zone) with
        less | same | more
      · exact Or.inl less
      · exact Or.inr ⟨same, smaller⟩
      · exact absurd more notMore

/-- The keys outside a list. -/
def outside (db : Database) (keep : List Nat) : List Nat :=
  ((db outboxMessages).select fun key _ => !keep.contains key).map (·.1)

theorem candidate_outside : Candidate runtime now (outside db keep) db id message ↔
    Candidate runtime now [] db id message ∧ id ∈ keep := by
  constructor
  · rintro ⟨found, waits, free⟩
    refine ⟨⟨found, waits, List.not_mem_nil⟩, ?_⟩
    by_contra absent
    apply free
    refine List.mem_map.mpr ⟨(id, message), Table.mem_select.mpr ⟨found, ?_⟩, rfl⟩
    simp [absent]
  · rintro ⟨⟨found, waits, -⟩, member⟩
    refine ⟨found, waits, fun locked => ?_⟩
    obtain ⟨⟨key, row⟩, selected, rfl⟩ := List.mem_map.mp locked
    have absent := (Table.mem_select.mp selected).2
    simp [member] at absent

theorem Candidate.unlocked (candidate : Candidate runtime now skipped db id message) :
    Candidate runtime now [] db id message :=
  ⟨candidate.found, candidate.waits, List.not_mem_nil⟩

theorem in_step_prompt (clocked : Clocked runtime zone) (written : Written zone writing db)
    (inStep : InStep runtime zone now writing db) : Prompt runtime now writing db := by
  intro worker skipped value sent db' returns
  have due : ∀ id message, Candidate runtime now skipped db id message →
      (message.availableAt ≤ runtime.iso now.time ↔ (writing id).meant ≤ now.time) := by
    intro id message candidate
    rw [written id message candidate.found, Writing.text_le_now clocked]
    exact inStep.timely id message candidate.unlocked
  cases claim_takes returns with
  | nothing later =>
      intro id message candidate
      by_contra past
      exact later id message candidate ((due id message candidate).mpr (Nat.not_lt.mp past))
  | @one row message candidate available first =>
      have here := (due _ _ candidate).mp available
      refine ⟨⟨message, candidate⟩, here, fun id other candidate' past => ?_⟩
      rcases first id other candidate' ((due _ _ candidate').mpr past) with rfl | precedes
      · exact Nat.le_refl _
      · by_cases same : row.id = id
        · rw [same]
        · exact inStep.ordered _ _ _ _ candidate.unlocked candidate'.unlocked same here past
            ((precedes_iff (written _ _ candidate.found) (written _ _ candidate'.found)).mp
              precedes)

theorem prompt_timely (clocked : Clocked runtime zone) (written : Written zone writing db)
    (opened : fenceOpen "outbox.worker" db = true) (prompt : Prompt runtime now writing db)
    (candidate : Candidate runtime now [] db id message) :
    (writing id).Selectable zone now ↔ (writing id).meant ≤ now.time := by
  obtain ⟨value, sent, db', returns⟩ := @claim_total "" now.time (outside db [id]) db runtime opened
  have right := prompt _ _ _ _ _ returns
  have alone : Candidate runtime now (outside db [id]) db id message :=
    candidate_outside.mpr ⟨candidate, List.mem_singleton.mpr rfl⟩
  rw [← Writing.text_le_now clocked, ← written id message candidate.found]
  cases claim_takes returns with
  | nothing later =>
      apply iff_of_false (later id message alone)
      exact Nat.not_le.mpr (right id message alone)
  | @one row taken takes available first =>
      have same : row.id = id := List.mem_singleton.mp (candidate_outside.mp takes).2
      subst same
      have found := takes.found
      rw [candidate.found] at found
      cases found
      exact iff_of_true available right.2.1

theorem prompt_ordered (clocked : Clocked runtime zone) (written : Written zone writing db)
    (opened : fenceOpen "outbox.worker" db = true) (prompt : Prompt runtime now writing db)
    (candidate : Candidate runtime now [] db id message)
    (candidate' : Candidate runtime now [] db other message')
    (due : (writing id).meant ≤ now.time)
    (precedes : (writing id).Before zone (writing other) ∨
      ¬ (writing other).Before zone (writing id) ∧ id < other)
    (due' : (writing other).meant ≤ now.time) :
    (writing id).meant ≤ (writing other).meant := by
  obtain ⟨value, sent, db', returns⟩ :=
    @claim_total "" now.time (outside db [id, other]) db runtime opened
  have right := prompt _ _ _ _ _ returns
  have one : Candidate runtime now (outside db [id, other]) db id message :=
    candidate_outside.mpr ⟨candidate, by simp⟩
  have two : Candidate runtime now (outside db [id, other]) db other message' :=
    candidate_outside.mpr ⟨candidate', by simp⟩
  cases claim_takes returns with
  | nothing later => exact absurd due (Nat.not_le.mpr (right id message one))
  | @one row taken takes available first =>
      have either := (candidate_outside.mp takes).2
      rcases List.mem_cons.mp either with same | either
      · have least := right.2.2 other message' two due'
        rw [same] at least
        exact least
      · -- the other one was taken, so its text comes first
        obtain same := List.mem_singleton.mp either
        subst same
        have found := takes.found
        rw [candidate'.found] at found
        cases found
        have selectable := (prompt_timely clocked written opened prompt candidate).mpr due
        rw [← Writing.text_le_now clocked, ← written id message candidate.found] at selectable
        rcases first id message one selectable with rfl | before
        · exact Nat.le_refl _
        · have reverse := (precedes_iff (written _ _ candidate'.found)
            (written _ _ candidate.found)).mp before
          exfalso
          rcases precedes with less | ⟨notMore, smaller⟩
          · rcases reverse with more | ⟨notLess, -⟩
            · exact lt_asymm (Writing.text_lt.mpr less) (Writing.text_lt.mpr more)
            · exact notLess less
          · rcases reverse with more | ⟨-, greater⟩
            · exact notMore more
            · omega

end Claims

/-- Behind an open fence every claim takes the message meant for the earliest
instant of those that are due exactly when the paused messages are in step. -/
theorem outbox_prompt_iff (clocked : Clocked runtime zone) (written : Written zone writing db)
    (opened : fenceOpen "outbox.worker" db = true) :
    Prompt runtime now writing db ↔ InStep runtime zone now writing db := by
  constructor
  · intro prompt
    constructor
    · intro id message candidate
      exact prompt_timely clocked written opened prompt candidate
    · intro id message other message' candidate candidate' _ due due' precedes
      exact prompt_ordered clocked written opened prompt candidate candidate' due precedes due'
  · exact in_step_prompt clocked written

/-! ## One evening -/

def clockRuntime (zone : Zone) : Runtime where
  iso time := Calendar.toISOString time.toNat
  datetime time := zone.datetime time.toNat
  parse _ := none
  stringify _ := "\x7b\x7d"
  safeInteger _ := none
  sha256 text := text

theorem clockRuntime_clocked : Clocked (clockRuntime zone) zone := ⟨fun _ => rfl, fun _ => rfl⟩

/-- A zone so many hours ahead of UTC. -/
def hoursAhead (hours : Fin 12) : Zone where
  ahead _ := hours * 3600000
  bounded := by
    intro _
    have bound := hours.isLt
    have length : Calendar.dayLength = 86400000 := rfl
    omega

/-- Eight in the evening of the first of March 2026, UTC, and so many milliseconds. -/
def evening (later : Fin 10000) : Moment where
  time := 1772395200000 + later
  early := by
    have bound := later.isLt
    have last : Calendar.lastDay = 3652425 := by decide
    unfold Calendar.epoch Calendar.dayLength
    omega

/-- A message of one worker; the fence is open. -/
def heldDatabase : Database :=
  Store.put fencedDatabase outboxMessages (Table.empty.insert { eventMessage with
    status := .processing, attempts := 1, lockedBy := some "worker-1"
    lockedAt := some eventMessage.availableAt })

/-- The worker finds a fence paused that evening and pauses the message. -/
def pausedDatabase (zone : Zone) : Database :=
  after (pause (clockRuntime zone) (evening 0).time "worker-1" eventRow) heldDatabase

theorem pausedDatabase_returns : ∃ sent, (pause (clockRuntime zone) (evening 0).time "worker-1"
    eventRow).Returns heldDatabase () sent (pausedDatabase zone) := by
  have held : ∃ message, (heldDatabase outboxMessages).find? 1 = some message ∧
      leased "worker-1" message = true := ⟨_, rfl, by decide +kernel⟩
  have returns : (pause (clockRuntime zone) (evening 0).time "worker-1" eventRow).Returns
      heldDatabase () [] _ := returns_updateRow.mpr ⟨held, rfl, rfl⟩
  refine ⟨[], ?_⟩
  rw [pausedDatabase, after, returns]
  exact returns

theorem pausedDatabase_written :
    Written zone (fun _ => .paused (evening 0)) (pausedDatabase zone) := by
  obtain ⟨sent, returns⟩ := @pausedDatabase_returns zone
  obtain ⟨-, -, same⟩ := returns_updateRow.mp returns
  intro id message found
  rw [same, Store.put_same] at found
  rcases Table.find?_modify_cases found with ⟨-, old, -, rfl⟩ | ⟨other, kept⟩
  · exact clockRuntime_clocked.datetime ((evening 0).time + 1000)
  · rcases Table.find?_insert_cases kept with ⟨first, -⟩ | none
    · exact absurd first other
    · cases none

theorem outbox_prompt_midnight :
    Prompt (clockRuntime (hoursAhead 0)) (evening 5000) (fun _ => .paused (evening 0))
        (pausedDatabase (hoursAhead 0)) ↔
      InStep (clockRuntime (hoursAhead 0)) (hoursAhead 0) (evening 5000)
        (fun _ => .paused (evening 0)) (pausedDatabase (hoursAhead 0)) :=
  outbox_prompt_iff clockRuntime_clocked pausedDatabase_written (by decide +kernel)

/-- With a session eight hours ahead a claim four seconds late finds nothing, and
with one in UTC a claim takes the message eight tenths of a second too early. -/
theorem outbox_unprompt :
    ((∃ sent, (pause (clockRuntime (hoursAhead 8)) (evening 0).time "worker-1" eventRow).Returns
        heldDatabase () sent (pausedDatabase (hoursAhead 8))) ∧
      ¬ Prompt (clockRuntime (hoursAhead 8)) (evening 5000) (fun _ => .paused (evening 0))
        (pausedDatabase (hoursAhead 8))) ∧
    (∃ sent, (pause (clockRuntime (hoursAhead 0)) (evening 0).time "worker-1" eventRow).Returns
        heldDatabase () sent (pausedDatabase (hoursAhead 0))) ∧
      ¬ Prompt (clockRuntime (hoursAhead 0)) (evening 200) (fun _ => .paused (evening 0))
        (pausedDatabase (hoursAhead 0)) := by
  refine ⟨⟨pausedDatabase_returns, ?_⟩, pausedDatabase_returns, ?_⟩
  · intro prompt
    obtain ⟨sent, returns⟩ := @returns_after [outboxMessages] _ (claim (clockRuntime (hoursAhead 8))
      (evening 5000).time "worker-2" []) (pausedDatabase (hoursAhead 8)) none (by decide +kernel)
    have waits : (((pausedDatabase (hoursAhead 8)) outboxMessages).find? 1).any
        (waiting (clockRuntime (hoursAhead 8)) (evening 5000)) = true := by decide +kernel
    obtain ⟨message, found, waits⟩ := (Option.any_eq_true _ _).mp waits
    have later := prompt _ _ _ _ _ returns 1 message ⟨found, waits, List.not_mem_nil⟩
    exact absurd later (by decide)
  · intro prompt
    obtain ⟨sent, returns⟩ := @returns_after [outboxMessages] _ (claim (clockRuntime (hoursAhead 0))
      (evening 200).time "worker-2" []) (pausedDatabase (hoursAhead 0)) (some eventRow)
      (by decide +kernel)
    have past := (prompt _ _ _ _ _ returns).2.1
    exact absurd past (by decide)

end SupplyChain.Worker
