import Mathlib.Algebra.BigOperators.Group.Finset.Basic
import Mathlib.Algebra.Order.BigOperators.Group.Finset
import Mathlib.Data.Fintype.EquivFin
import Mathlib.Data.Fintype.Lattice
import Mathlib.Tactic.Common
import SupplyChain.Relational.Replays

/-!
Units of work that lock rows before they read and write them. A unit locks its rows one
after another, waits where another unit holds the next one, reads what it locked, and
writes it and releases the rows in one move. Whatever the interleaving, the rows are
written as if the units ran one after another in the order in which they commit; and when
every unit locks its rows in ascending order, none waits for ever.
-/

namespace Locking

open Relational

/-- The rows to lock, in this order, and what is written in them for what was read of
them. Where nothing is to be written the unit of work is rolled back. -/
structure Job (Row Value : Type) where
  rows : List Row
  work : List Value → Option (List Value)

inductive Phase (Row Value : Type)
  | locking (held wanted : List Row)
  | working (view : List Value)
  | finished

structure State (Row Party Value : Type) where
  data : Row → Value
  owner : Row → Option Party
  phase : Party → Phase Row Value

/-- A unit may be abandoned at any time. -/
inductive Move (Party : Type)
  | lock (party : Party)
  | read (party : Party)
  | commit (party : Party)
  | abandon (party : Party)

variable {Row Party Value : Type} [DecidableEq Row] [DecidableEq Party]
  {jobs : Party → Job Row Value} {s s' : State Row Party Value} {move : Move Party}
  {moves : List (Move Party)} {party other : Party} {row : Row} {data : Row → Value}

def write : List Row → List Value → (Row → Value) → Row → Value
  | row :: rows, value :: values, data => write rows values (Function.update data row value)
  | _, _, data => data

/-- The unit of work alone. -/
def Job.run (job : Job Row Value) (data : Row → Value) : Row → Value :=
  match job.work (job.rows.map data) with
  | some values => write job.rows values data
  | none => data

def release (owner : Row → Option Party) (party : Party) : Row → Option Party := fun row =>
  if owner row = some party then none else owner row

def State.finish (s : State Row Party Value) (party : Party) (data : Row → Value) :
    State Row Party Value where
  data := data
  owner := release s.owner party
  phase := Function.update s.phase party .finished

inductive Step (jobs : Party → Job Row Value) :
    State Row Party Value → Move Party → State Row Party Value → Prop
  | lock {s : State Row Party Value} {party : Party} {held wanted : List Row} {row : Row}
      (waits : s.phase party = .locking held (row :: wanted)) (free : s.owner row = none) :
      Step jobs s (.lock party)
        { s with
          owner := Function.update s.owner row (some party)
          phase := Function.update s.phase party (.locking (held ++ [row]) wanted) }
  | read {s : State Row Party Value} {party : Party} {held : List Row}
      (locked : s.phase party = .locking held []) :
      Step jobs s (.read party)
        { s with phase := Function.update s.phase party (.working ((jobs party).rows.map s.data)) }
  | commit {s : State Row Party Value} {party : Party} {view values : List Value}
      (working : s.phase party = .working view) (worked : (jobs party).work view = some values) :
      Step jobs s (.commit party) (s.finish party (write (jobs party).rows values s.data))
  | rollback {s : State Row Party Value} {party : Party} {view : List Value}
      (working : s.phase party = .working view) (refused : (jobs party).work view = none) :
      Step jobs s (.commit party) (s.finish party s.data)
  | abandon {s : State Row Party Value} {party : Party} (unfinished : s.phase party ≠ .finished) :
      Step jobs s (.abandon party) (s.finish party s.data)

/-- The state after a move, where it can be made. -/
def State.next (jobs : Party → Job Row Value) (s : State Row Party Value) :
    Move Party → Option (State Row Party Value)
  | .lock party =>
      match s.phase party with
      | .locking held (row :: wanted) =>
          if s.owner row = none then
            some { s with
              owner := Function.update s.owner row (some party)
              phase := Function.update s.phase party (.locking (held ++ [row]) wanted) }
          else none
      | _ => none
  | .read party =>
      match s.phase party with
      | .locking _ [] =>
          some { s with
            phase := Function.update s.phase party (.working ((jobs party).rows.map s.data)) }
      | _ => none
  | .commit party =>
      match s.phase party with
      | .working view =>
          match (jobs party).work view with
          | some values => some (s.finish party (write (jobs party).rows values s.data))
          | none => some (s.finish party s.data)
      | _ => none
  | .abandon party =>
      match s.phase party with
      | .finished => none
      | _ => some (s.finish party s.data)

theorem next_step (made : s.next jobs move = some s') : Step jobs s move s' := by
  cases move with
  | lock party =>
      simp only [State.next] at made
      split at made
      · rename_i held row wanted waits
        split at made
        · rename_i free
          cases made
          exact Step.lock waits free
        · cases made
      · cases made
  | read party =>
      simp only [State.next] at made
      split at made
      · rename_i held locked
        cases made
        exact Step.read locked
      · cases made
  | commit party =>
      simp only [State.next] at made
      split at made
      · rename_i view working
        split at made
        · rename_i values worked
          cases made
          exact Step.commit working worked
        · rename_i refused
          cases made
          exact Step.rollback working refused
      · cases made
  | abandon party =>
      simp only [State.next] at made
      split at made
      · cases made
      · rename_i unfinished
        cases made
        exact Step.abandon unfinished

/-! ## What a unit holds -/

def Phase.held (job : Job Row Value) : Phase Row Value → List Row
  | .locking held _ => held
  | .working _ => job.rows
  | .finished => []

/-- The rows are owned by the units that hold them, and what a unit has read is what the
rows still hold. -/
structure Consistent (jobs : Party → Job Row Value) (s : State Row Party Value) : Prop where
  owners : ∀ row party, s.owner row = some party ↔ row ∈ (s.phase party).held (jobs party)
  sequence : ∀ party held wanted, s.phase party = .locking held wanted →
    held ++ wanted = (jobs party).rows
  current : ∀ party view, s.phase party = .working view → view = (jobs party).rows.map s.data

/-- No unit has locked anything. -/
structure Opens (jobs : Party → Job Row Value) (s : State Row Party Value) : Prop where
  free : ∀ row, s.owner row = none
  waiting : ∀ party, s.phase party = .locking [] (jobs party).rows

omit [DecidableEq Row] [DecidableEq Party] in
theorem Opens.consistent (opens : Opens jobs s) : Consistent jobs s := by
  constructor
  · intro row party
    rw [opens.free, opens.waiting]
    simp [Phase.held]
  · intro party held wanted locking
    rw [opens.waiting] at locking
    cases locking
    rfl
  · intro party view working
    rw [opens.waiting] at working
    cases working

omit [DecidableEq Row] [DecidableEq Party] in
theorem Consistent.exclusive (consistent : Consistent jobs s)
    (mine : row ∈ (s.phase party).held (jobs party))
    (theirs : row ∈ (s.phase other).held (jobs other)) : party = other := by
  have first := (consistent.owners row party).mpr mine
  have second := (consistent.owners row other).mpr theirs
  rw [first] at second
  exact Option.some.inj second

theorem write_other {rows : List Row} {values : List Value} (outside : row ∉ rows) :
    write rows values data row = data row := by
  induction rows generalizing values data with
  | nil => rfl
  | cons first rest ih =>
      cases values with
      | nil => rfl
      | cons value values =>
          rw [write, ih (fun inside => outside (List.mem_cons_of_mem _ inside)),
            Function.update_of_ne]
          rintro rfl
          exact outside List.mem_cons_self

omit [DecidableEq Row] in
theorem release_eq_some {owner : Row → Option Party} :
    release owner party row = some other ↔ owner row = some other ∧ other ≠ party := by
  unfold release
  by_cases mine : owner row = some party
  · rw [if_pos mine, mine]
    simp only [reduceCtorEq, Option.some.injEq, false_iff, not_and, not_not]
    exact Eq.symm
  · rw [if_neg mine]
    constructor
    · intro owned
      refine ⟨owned, ?_⟩
      rintro rfl
      exact mine owned
    · rintro ⟨owned, -⟩
      exact owned

omit [DecidableEq Row] in
/-- A unit that ends releases its rows and leaves what the others read as it is. -/
theorem Consistent.finish (consistent : Consistent jobs s)
    (others : ∀ row, row ∉ (s.phase party).held (jobs party) → data row = s.data row) :
    Consistent jobs (s.finish party data) := by
  constructor
  · intro row other
    simp only [State.finish, release_eq_some]
    by_cases same : other = party
    · subst same
      simp [Phase.held]
    · rw [Function.update_of_ne same, consistent.owners]
      exact and_iff_left same
  · intro other held wanted locking
    simp only [State.finish] at locking
    by_cases same : other = party
    · subst same
      rw [Function.update_self] at locking
      cases locking
    · rw [Function.update_of_ne same] at locking
      exact consistent.sequence other held wanted locking
  · intro other view working
    simp only [State.finish] at working
    by_cases same : other = party
    · subst same
      rw [Function.update_self] at working
      cases working
    · rw [Function.update_of_ne same] at working
      rw [consistent.current other view working]
      apply List.map_congr_left
      intro row inside
      symm
      apply others row
      -- the rows of a unit at work are its own
      intro taken
      have theirs : row ∈ (s.phase other).held (jobs other) := by
        rw [working]
        exact inside
      exact same (consistent.exclusive theirs taken)

theorem step_consistent (step : Step jobs s move s') (consistent : Consistent jobs s) :
    Consistent jobs s' := by
  cases step with
  | @lock party held wanted row waits free =>
      constructor
      · intro taken other
        by_cases same : other = party
        · subst same
          simp only [Function.update_self, Phase.held, List.mem_append, List.mem_singleton]
          by_cases here : taken = row
          · subst here
            simp
          · rw [Function.update_of_ne here, consistent.owners, waits]
            simp [Phase.held, here]
        · simp only [Function.update_of_ne same]
          by_cases here : taken = row
          · subst here
            rw [Function.update_self, ← consistent.owners, free]
            simp only [Option.some.injEq, reduceCtorEq, iff_false]
            exact Ne.symm same
          · rw [Function.update_of_ne here, consistent.owners]
      · intro other locked later locking
        by_cases same : other = party
        · subst same
          simp only [Function.update_self, Phase.locking.injEq] at locking
          obtain ⟨rfl, rfl⟩ := locking
          rw [List.append_assoc, List.singleton_append]
          exact consistent.sequence _ _ _ waits
        · simp only [Function.update_of_ne same] at locking
          exact consistent.sequence other locked later locking
      · intro other view working
        by_cases same : other = party
        · subst same
          simp only [Function.update_self, reduceCtorEq] at working
        · simp only [Function.update_of_ne same] at working
          exact consistent.current other view working
  | @read party held locked =>
      have all : held = (jobs party).rows := by
        have sequence := consistent.sequence _ _ _ locked
        rwa [List.append_nil] at sequence
      constructor
      · intro row other
        rw [consistent.owners]
        by_cases same : other = party
        · subst same
          simp only [Function.update_self, Phase.held]
          rw [locked, ← all]
        · simp only [Function.update_of_ne same]
      · intro other locked later locking
        by_cases same : other = party
        · subst same
          simp only [Function.update_self, reduceCtorEq] at locking
        · simp only [Function.update_of_ne same] at locking
          exact consistent.sequence other locked later locking
      · intro other view working
        by_cases same : other = party
        · subst same
          simp only [Function.update_self, Phase.working.injEq] at working
          exact working.symm
        · simp only [Function.update_of_ne same] at working
          exact consistent.current other view working
  | commit working worked =>
      apply consistent.finish
      intro row outside
      rw [working] at outside
      exact write_other outside
  | rollback working refused => exact consistent.finish fun _ _ => rfl
  | abandon unfinished => exact consistent.finish fun _ _ => rfl

theorem run_consistent (run : Run (Step jobs) s moves s') (consistent : Consistent jobs s) :
    Consistent jobs s' :=
  run.preserves (Consistent jobs) step_consistent consistent

/-! ## As if one after another -/

/-- A unit that commits runs on what the rows hold then, and no other move writes. -/
def Move.run (jobs : Party → Job Row Value) (data : Row → Value) : Move Party → Row → Value
  | .commit party => (jobs party).run data
  | _ => data

theorem step_data (step : Step jobs s move s') (consistent : Consistent jobs s) :
    s'.data = move.run jobs s.data := by
  cases step with
  | lock | read | abandon => rfl
  | commit working worked =>
      rw [Move.run, Job.run, ← consistent.current _ _ working, worked]
      rfl
  | rollback working refused =>
      rw [Move.run, Job.run, ← consistent.current _ _ working, refused]
      rfl

theorem run_data (run : Run (Step jobs) s moves s') (consistent : Consistent jobs s) :
    s'.data = moves.foldl (Move.run jobs) s.data := by
  induction run with
  | done => rfl
  | next first _ ih =>
      rw [ih (step_consistent first consistent), step_data first consistent, List.foldl_cons]

/-- The parties that commit, in their order. -/
def commits (moves : List (Move Party)) : List Party :=
  moves.filterMap fun
    | .commit party => some party
    | _ => none

omit [DecidableEq Party] in
theorem foldl_run (moves : List (Move Party)) (data : Row → Value) :
    moves.foldl (Move.run jobs) data =
      (commits moves).foldl (fun data party => (jobs party).run data) data := by
  induction moves generalizing data with
  | nil => rfl
  | cons move rest ih =>
      rw [List.foldl_cons, ih]
      cases move <;> rfl

theorem step_finished (step : Step jobs s move s') (finished : s.phase party = .finished) :
    s'.phase party = .finished ∧ move ≠ .commit party := by
  have kept : ∀ {other : Party} {phase : Phase Row Value}, other ≠ party →
      Function.update s.phase other phase party = .finished := by
    intro other phase apart
    rw [Function.update_of_ne (Ne.symm apart), finished]
  cases step with
  | @lock other _ _ _ waits _ =>
      have apart : other ≠ party := by
        rintro rfl
        rw [finished] at waits
        cases waits
      exact ⟨kept apart, fun same => by cases same⟩
  | @read other _ locked =>
      have apart : other ≠ party := by
        rintro rfl
        rw [finished] at locked
        cases locked
      exact ⟨kept apart, fun same => by cases same⟩
  | @commit other _ _ working _ | @rollback other _ working _ =>
      have apart : other ≠ party := by
        rintro rfl
        rw [finished] at working
        cases working
      refine ⟨kept apart, ?_⟩
      rintro same
      cases same
      exact apart rfl
  | @abandon other unfinished =>
      have apart : other ≠ party := by
        rintro rfl
        exact unfinished finished
      exact ⟨kept apart, fun same => by cases same⟩

theorem run_finished (run : Run (Step jobs) s moves s') (finished : s.phase party = .finished) :
    Move.commit party ∉ moves := by
  induction run with
  | done => exact List.not_mem_nil
  | next first _ ih =>
      obtain ⟨later, other⟩ := step_finished first finished
      rw [List.mem_cons, not_or]
      exact ⟨other.symm, ih later⟩

omit [DecidableEq Party] in
theorem mem_commits : party ∈ commits moves ↔ Move.commit party ∈ moves := by
  unfold commits
  rw [List.mem_filterMap]
  constructor
  · rintro ⟨move, member, same⟩
    cases move with
    | commit other =>
        cases same
        exact member
    | lock | read | abandon => cases same
  · intro member
    exact ⟨_, member, rfl⟩

theorem commits_nodup (run : Run (Step jobs) s moves s') : (commits moves).Nodup := by
  induction run with
  | done => exact List.nodup_nil
  | @next a b _ move rest first later ih =>
      cases first with
      | lock | read | abandon => exact ih
      | @commit party _ _ working worked | @rollback party _ working worked =>
          have once := run_finished later (Function.update_self ..)
          rw [← mem_commits] at once
          exact List.nodup_cons.mpr ⟨once, ih⟩

/-- The rows hold what the units of work that committed write one after another. -/
theorem serializable (opens : Opens jobs s) (run : Run (Step jobs) s moves s') :
    (commits moves).Nodup ∧
      s'.data = (commits moves).foldl (fun data party => (jobs party).run data) s.data := by
  refine ⟨commits_nodup run, ?_⟩
  rw [run_data run opens.consistent, foldl_run]

/-! ## Locking in order -/

/-- What is left to do of a unit. -/
def Phase.left : Phase Row Value → Nat
  | .locking _ wanted => wanted.length + 2
  | .working _ => 1
  | .finished => 0

def State.left [Fintype Party] (s : State Row Party Value) : Nat :=
  ∑ party, (s.phase party).left

omit [DecidableEq Row] in
theorem update_left [Fintype Party] {phase : Party → Phase Row Value} {next : Phase Row Value}
    (less : next.left < (phase party).left) :
    ∑ other, (Function.update phase party next other).left < ∑ other, (phase other).left := by
  apply Finset.sum_lt_sum
  · intro other _
    by_cases same : other = party
    · subst same
      rw [Function.update_self]
      exact Nat.le_of_lt less
    · rw [Function.update_of_ne same]
  · refine ⟨party, Finset.mem_univ party, ?_⟩
    rw [Function.update_self]
    exact less

theorem step_left [Fintype Party] (step : Step jobs s move s') : s'.left < s.left := by
  cases step with
  | lock waits free =>
      apply update_left
      rw [waits]
      simp [Phase.left]
  | read locked =>
      apply update_left
      rw [locked]
      simp [Phase.left]
  | commit working worked | rollback working worked =>
      apply update_left
      rw [working]
      simp [Phase.left]
  | @abandon party unfinished =>
      apply update_left
      cases phase : s.phase party with
      | locking held wanted => simp [Phase.left]
      | working view => simp [Phase.left]
      | finished => exact absurd phase unfinished

theorem run_left [Fintype Party] (run : Run (Step jobs) s moves s') :
    moves.length + s'.left ≤ s.left := by
  induction run with
  | done => simp
  | next first _ ih =>
      have less := step_left first
      rw [List.length_cons]
      omega

def Move.abandons : Move Party → Prop
  | .abandon _ => True
  | _ => False

omit [DecidableEq Row] [DecidableEq Party] in
theorem Opens.left [Fintype Party] (opens : Opens jobs s) :
    s.left = ∑ party, ((jobs party).rows.length + 2) := by
  unfold State.left
  apply Finset.sum_congr rfl
  intro party _
  rw [opens.waiting]
  rfl

/-- A step that abandons no unit. -/
def Advances (jobs : Party → Job Row Value) (s : State Row Party Value) (move : Move Party)
    (s' : State Row Party Value) : Prop :=
  Step jobs s move s' ∧ ¬ move.abandons

/-- Where no move is left but to abandon, every unit that is not finished waits for a row
that another one holds. -/
theorem stuck_waits (stuck : ∀ move s', ¬ Advances jobs s move s')
    (unfinished : s.phase party ≠ .finished) :
    ∃ held row wanted other, s.phase party = .locking held (row :: wanted) ∧
      s.owner row = some other := by
  cases phase : s.phase party with
  | finished => exact absurd phase unfinished
  | working view =>
      exfalso
      cases worked : (jobs party).work view with
      | none => exact stuck _ _ ⟨Step.rollback phase worked, id⟩
      | some values => exact stuck _ _ ⟨Step.commit phase worked, id⟩
  | locking held wanted =>
      cases wanted with
      | nil => exact absurd ⟨Step.read phase, id⟩ (stuck _ _)
      | cons row wanted =>
          cases owned : s.owner row with
          | none => exact absurd ⟨Step.lock phase owned, id⟩ (stuck _ _)
          | some other => exact ⟨held, row, wanted, other, rfl, owned⟩

omit [DecidableEq Row] [DecidableEq Party] in
theorem Consistent.unfinished (consistent : Consistent jobs s)
    (owned : s.owner row = some party) : s.phase party ≠ .finished := by
  intro finished
  have held := (consistent.owners row party).mp owned
  rw [finished] at held
  exact absurd held List.not_mem_nil

section Ordered

variable {Row Party Value : Type} [LinearOrder Row] [DecidableEq Row] [DecidableEq Party]
  [Fintype Party] {jobs : Party → Job Row Value} {s : State Row Party Value}

/-- The unit that waits for the greatest row waits for a unit that waits for a greater one,
unless a move is left. -/
theorem progress (ascending : ∀ party, (jobs party).rows.Pairwise (· < ·))
    (consistent : Consistent jobs s) (unfinished : ∃ party, s.phase party ≠ .finished) :
    ∃ move s', Advances jobs s move s' := by
  by_contra none
  have stuck : ∀ move s', ¬ Advances jobs s move s' := fun move s' advances =>
    none ⟨move, s', advances⟩
  have waits (party : { party // s.phase party ≠ .finished }) :
      ∃ row, ∃ held wanted other, s.phase party = .locking held (row :: wanted) ∧
        s.owner row = some other := by
    obtain ⟨held, row, wanted, other, waiting⟩ := stuck_waits stuck party.2
    exact ⟨row, held, wanted, other, waiting⟩
  choose next held wanted other waiting owned using waits
  obtain ⟨party, unfinished⟩ := unfinished
  have : Nonempty { party // s.phase party ≠ .finished } := ⟨party, unfinished⟩
  obtain ⟨last, greatest⟩ := Finite.exists_max next
  let holder : { party // s.phase party ≠ .finished } :=
    ⟨other last, consistent.unfinished (owned last)⟩
  have taken : next last ∈ held holder := by
    have inside := (consistent.owners _ _).mp (owned last)
    rwa [waiting holder] at inside
  have sorted := ascending holder
  rw [← consistent.sequence _ _ _ (waiting holder), List.pairwise_append] at sorted
  have later := sorted.2.2 _ taken _ List.mem_cons_self
  exact absurd (greatest holder) (not_le.mpr later)

theorem completes (ascending : ∀ party, (jobs party).rows.Pairwise (· < ·))
    (consistent : Consistent jobs s) :
    ∃ moves s', Run (Advances jobs) s moves s' ∧ ∀ party, s'.phase party = .finished := by
  induction left : s.left using Nat.strongRecOn generalizing s with
  | ind count ih =>
      by_cases unfinished : ∃ party, s.phase party ≠ .finished
      · obtain ⟨move, mid, advances⟩ := progress ascending consistent unfinished
        have less := step_left advances.1
        obtain ⟨moves, s', run, finished⟩ :=
          ih mid.left (left ▸ less) (step_consistent advances.1 consistent) rfl
        exact ⟨move :: moves, s', Run.next advances run, finished⟩
      · refine ⟨[], s, Run.done, ?_⟩
        intro party
        by_contra waits
        exact unfinished ⟨party, waits⟩

end Ordered

end Locking
