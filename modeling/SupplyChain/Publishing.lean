import Mathlib.Logic.Function.Basic
import Mathlib.Tactic.Common
import SupplyChain.Relational.Replays

/-!
Publication of files by writing a temporary file and renaming it. Writers run at the same
time, write in pieces, and may fail or be killed at any point. What is seen under the
published paths is what an atomic store would hold: whole bodies, put and deleted in the
order in which the files were renamed and removed.
-/

namespace Publishing

open Relational

structure Publication (Path Byte : Type) where
  target : Path
  temporary : Path
  body : List Byte

inductive Phase (Byte : Type)
  | waiting
  | writing (left : List Byte)
  | leaving (published : Bool)
  | finished (published : Bool)
  | killed
  deriving DecidableEq

structure State (Path Writer Byte : Type) where
  files : Path → Option (List Byte)
  phase : Writer → Phase Byte

inductive Move (Path Writer : Type)
  | create (writer : Writer)
  | append (writer : Writer) (count : Nat)
  | fail (writer : Writer)
  | rename (writer : Writer)
  | clean (writer : Writer)
  | kill (writer : Writer)
  | remove (path : Path)

variable {Path Writer Byte : Type} [DecidableEq Path] [DecidableEq Writer]
  {publications : Writer → Publication Path Byte} {s s' : State Path Writer Byte}
  {move : Move Path Writer} {moves : List (Move Path Writer)}
  {writer other : Writer} {path : Path}

def State.enter (s : State Path Writer Byte) (writer : Writer) (phase : Phase Byte) :
    State Path Writer Byte :=
  { s with phase := Function.update s.phase writer phase }

def State.put (s : State Path Writer Byte) (path : Path) (content : Option (List Byte)) :
    State Path Writer Byte :=
  { s with files := Function.update s.files path content }

omit [DecidableEq Path] in
@[simp] theorem State.enter_self (phase : Phase Byte) :
    (s.enter writer phase).phase writer = phase :=
  Function.update_self ..

omit [DecidableEq Path] in
theorem State.enter_other (distinct : other ≠ writer) (phase : Phase Byte) :
    (s.enter writer phase).phase other = s.phase other :=
  Function.update_of_ne distinct ..

omit [DecidableEq Writer] in
@[simp] theorem State.put_phase (content : Option (List Byte)) :
    (s.put path content).phase = s.phase := rfl

/-- The temporary file is created exclusively and removed whether or not the renaming
was reached. The removal can fail as well. -/
inductive Step (publications : Writer → Publication Path Byte) :
    State Path Writer Byte → Move Path Writer → State Path Writer Byte → Prop
  | create {s : State Path Writer Byte} {writer : Writer} (waits : s.phase writer = .waiting)
      (free : s.files (publications writer).temporary = none) :
      Step publications s (.create writer)
        ((s.put (publications writer).temporary (some [])).enter writer
          (.writing (publications writer).body))
  | refuse {s : State Path Writer Byte} {writer : Writer} (waits : s.phase writer = .waiting)
      (taken : s.files (publications writer).temporary ≠ none) :
      Step publications s (.create writer) (s.enter writer (.leaving false))
  | append {s : State Path Writer Byte} {writer : Writer} {count : Nat} {left written : List Byte}
      (writes : s.phase writer = .writing left)
      (content : s.files (publications writer).temporary = some written) :
      Step publications s (.append writer count)
        ((s.put (publications writer).temporary (some (written ++ left.take count))).enter writer
          (.writing (left.drop count)))
  | fail {s : State Path Writer Byte} {writer : Writer} {left : List Byte}
      (writes : s.phase writer = .writing left) :
      Step publications s (.fail writer) (s.enter writer (.leaving false))
  | rename {s : State Path Writer Byte} {writer : Writer} {written : List Byte}
      (writes : s.phase writer = .writing [])
      (content : s.files (publications writer).temporary = some written) :
      Step publications s (.rename writer)
        (((s.put (publications writer).temporary none).put (publications writer).target
          (some written)).enter writer (.leaving true))
  | clean {s : State Path Writer Byte} {writer : Writer} {published : Bool}
      (leaves : s.phase writer = .leaving published) :
      Step publications s (.clean writer)
        ((s.put (publications writer).temporary none).enter writer (.finished published))
  | stay {s : State Path Writer Byte} {writer : Writer} {published : Bool}
      (leaves : s.phase writer = .leaving published) :
      Step publications s (.clean writer) (s.enter writer (.finished false))
  | kill {s : State Path Writer Byte} {writer : Writer}
      (runs : ∀ published, s.phase writer ≠ .finished published) :
      Step publications s (.kill writer) (s.enter writer .killed)
  | remove {s : State Path Writer Byte} {path : Path} :
      Step publications s (.remove path) (s.put path none)

/-- The state after a move, where it can be made and nothing fails but what it says. -/
def State.next (publications : Writer → Publication Path Byte) (s : State Path Writer Byte) :
    Move Path Writer → Option (State Path Writer Byte)
  | .create writer =>
      match s.phase writer, s.files (publications writer).temporary with
      | .waiting, none =>
          some ((s.put (publications writer).temporary (some [])).enter writer
            (.writing (publications writer).body))
      | .waiting, some _ => some (s.enter writer (.leaving false))
      | _, _ => none
  | .append writer count =>
      match s.phase writer, s.files (publications writer).temporary with
      | .writing left, some written =>
          some ((s.put (publications writer).temporary
            (some (written ++ left.take count))).enter writer (.writing (left.drop count)))
      | _, _ => none
  | .fail writer =>
      match s.phase writer with
      | .writing _ => some (s.enter writer (.leaving false))
      | _ => none
  | .rename writer =>
      match s.phase writer, s.files (publications writer).temporary with
      | .writing [], some written =>
          some (((s.put (publications writer).temporary none).put (publications writer).target
            (some written)).enter writer (.leaving true))
      | _, _ => none
  | .clean writer =>
      match s.phase writer with
      | .leaving published =>
          some ((s.put (publications writer).temporary none).enter writer (.finished published))
      | _ => none
  | .kill writer =>
      match s.phase writer with
      | .finished _ => none
      | _ => some (s.enter writer .killed)
  | .remove path => some (s.put path none)

theorem next_step (made : s.next publications move = some s') : Step publications s move s' := by
  cases move with
  | create writer =>
      simp only [State.next] at made
      split at made
      · rename_i waits free
        cases made
        exact Step.create waits free
      · rename_i content waits taken
        cases made
        refine Step.refuse waits ?_
        rw [taken]
        exact Option.some_ne_none content
      · cases made
  | append writer count =>
      simp only [State.next] at made
      split at made
      · rename_i writes content
        cases made
        exact Step.append writes content
      · cases made
  | fail writer =>
      simp only [State.next] at made
      split at made
      · rename_i writes
        cases made
        exact Step.fail writes
      · cases made
  | rename writer =>
      simp only [State.next] at made
      split at made
      · rename_i writes content
        cases made
        exact Step.rename writes content
      · cases made
  | clean writer =>
      simp only [State.next] at made
      split at made
      · rename_i leaves
        cases made
        exact Step.clean leaves
      · cases made
  | kill writer =>
      simp only [State.next] at made
      split at made
      · cases made
      · rename_i runs
        cases made
        exact Step.kill runs
  | remove path =>
      cases made
      exact Step.remove

/-! ## The atomic store -/

inductive Effect (Path Byte : Type)
  | put (path : Path) (body : List Byte)
  | delete (path : Path)

def Effect.apply (files : Path → Option (List Byte)) :
    Effect Path Byte → Path → Option (List Byte)
  | .put path body => Function.update files path (some body)
  | .delete path => Function.update files path none

/-- What a move does to the atomic store. -/
def effect (publications : Writer → Publication Path Byte) :
    Move Path Writer → Option (Effect Path Byte)
  | .rename writer => some (.put (publications writer).target (publications writer).body)
  | .remove path => some (.delete path)
  | _ => none

/-- The store after the moves. -/
def settle (publications : Writer → Publication Path Byte)
    (files : Path → Option (List Byte)) (moves : List (Move Path Writer)) :
    Path → Option (List Byte) :=
  (moves.filterMap (effect publications)).foldl Effect.apply files

omit [DecidableEq Writer] in
theorem settle_cons {files : Path → Option (List Byte)} {rest : List (Move Path Writer)} :
    settle publications files (move :: rest) =
      settle publications (settle publications files [move]) rest := by
  rw [← List.singleton_append]
  simp only [settle, List.filterMap_append, List.foldl_append]

omit [DecidableEq Writer] in
/-- What is stored under a path depends on what was stored under it. -/
theorem settle_congr {files files' : Path → Option (List Byte)}
    (same : files path = files' path) :
    settle publications files moves path = settle publications files' moves path := by
  unfold settle
  induction moves.filterMap (effect publications) generalizing files files' with
  | nil => exact same
  | cons effect rest ih =>
      apply ih
      cases effect <;> simp [Effect.apply, Function.update_apply, same]

omit [DecidableEq Writer] in
theorem settle_put {files : Path → Option (List Byte)} :
    settle publications files [.rename writer] (publications writer).target =
      some (publications writer).body :=
  Function.update_self ..

omit [DecidableEq Writer] in
theorem effect_source {files : Path → Option (List Byte)} {body : List Byte}
    (stored : settle publications files [move] path = some body) :
    files path = some body ∨ ∃ writer, move = .rename writer ∧
      (publications writer).target = path ∧ (publications writer).body = body := by
  cases move with
  | rename writer =>
      by_cases same : path = (publications writer).target
      · subst same
        rw [settle_put] at stored
        exact Or.inr ⟨writer, rfl, rfl, Option.some.inj stored⟩
      · exact Or.inl ((Function.update_of_ne same ..).symm.trans stored)
  | remove removed =>
      by_cases same : path = removed
      · subst same
        simp [settle, effect, Effect.apply] at stored
      · exact Or.inl ((Function.update_of_ne same ..).symm.trans stored)
  | create | append | fail | clean | kill => exact Or.inl stored

omit [DecidableEq Writer] in
theorem effect_kept {files : Path → Option (List Byte)} {body : List Byte}
    (kept : move ≠ .remove path) (held : files path = some body) :
    ∃ body, settle publications files [move] path = some body := by
  cases move with
  | rename writer =>
      by_cases same : path = (publications writer).target
      · exact ⟨_, same ▸ settle_put⟩
      · exact ⟨body, (Function.update_of_ne same ..).trans held⟩
  | remove removed =>
      refine ⟨body, (Function.update_of_ne ?_ ..).trans held⟩
      rintro rfl
      exact kept rfl
  | create | append | fail | clean | kill => exact ⟨body, held⟩

/-! ## What a writer has written -/

/-- Each writer has a temporary file of its own, and none is a published path. -/
structure Separate (publications : Writer → Publication Path Byte) (published : Path → Prop) :
    Prop where
  own : ∀ writer other, (publications writer).temporary = (publications other).temporary →
    writer = other
  hidden : ∀ writer, ¬ published (publications writer).temporary
  targets : ∀ writer, published (publications writer).target

/-- The temporary file of a writer holds what it has written of its body. -/
def Faithful (publications : Writer → Publication Path Byte) (s : State Path Writer Byte) : Prop :=
  ∀ writer left, s.phase writer = .writing left →
    ∃ written, s.files (publications writer).temporary = some written ∧
      written ++ left = (publications writer).body

omit [DecidableEq Path] [DecidableEq Writer] in
theorem faithful_of_waiting (waiting : ∀ writer, s.phase writer = .waiting) :
    Faithful publications s := by
  intro writer left writing
  rw [waiting writer] at writing
  cases writing

/-- The moves remove published paths only. -/
def Removes (published : Path → Prop) (move : Move Path Writer) : Prop :=
  ∀ path, move = .remove path → published path

omit [DecidableEq Path] in
/-- A writer that goes on changes no file of another writer. -/
theorem Faithful.enter (faithful : Faithful publications s) {files : Path → Option (List Byte)}
    {phase : Phase Byte}
    (mine : ∀ left, phase = .writing left →
      ∃ written, files (publications writer).temporary = some written ∧
        written ++ left = (publications writer).body)
    (others : ∀ other, other ≠ writer →
      files (publications other).temporary = s.files (publications other).temporary) :
    Faithful publications ⟨files, Function.update s.phase writer phase⟩ := by
  intro other left writes
  change Function.update s.phase writer phase other = .writing left at writes
  by_cases same : other = writer
  · subst same
    rw [Function.update_self] at writes
    exact mine left writes
  · rw [Function.update_of_ne same] at writes
    obtain ⟨written, held, whole⟩ := faithful other left writes
    exact ⟨written, (others other same).trans held, whole⟩

section

variable {published : Path → Prop} (separate : Separate publications published)

include separate

omit [DecidableEq Path] [DecidableEq Writer] in
theorem Separate.apart (distinct : other ≠ writer) :
    (publications other).temporary ≠ (publications writer).temporary := by
  intro same
  exact distinct (separate.own other writer same)

omit [DecidableEq Path] [DecidableEq Writer] in
theorem Separate.unseen (shown : published path) : path ≠ (publications writer).temporary := by
  rintro rfl
  exact separate.hidden writer shown

theorem step_faithful (step : Step publications s move s') (removes : Removes published move)
    (faithful : Faithful publications s) : Faithful publications s' := by
  cases step with
  | create waits free =>
      apply faithful.enter
      · intro left writes
        cases writes
        exact ⟨[], Function.update_self .., rfl⟩
      · intro other distinct
        exact Function.update_of_ne (separate.apart distinct) ..
  | append writes content =>
      apply faithful.enter
      · intro left same
        cases same
        obtain ⟨written, held, whole⟩ := faithful _ _ writes
        rw [content] at held
        cases held
        refine ⟨_, Function.update_self .., ?_⟩
        rw [List.append_assoc, List.take_append_drop, whole]
      · intro other distinct
        exact Function.update_of_ne (separate.apart distinct) ..
  | rename writes content =>
      apply faithful.enter
      · intro left same
        cases same
      · intro other distinct
        simp only [State.put]
        rw [Function.update_of_ne (separate.unseen (separate.targets _)).symm,
          Function.update_of_ne (separate.apart distinct)]
  | clean leaves =>
      apply faithful.enter
      · intro left same
        cases same
      · intro other distinct
        exact Function.update_of_ne (separate.apart distinct) ..
  | remove =>
      intro other left writes
      obtain ⟨written, held, whole⟩ := faithful other left writes
      refine ⟨written, ?_, whole⟩
      simp only [State.put]
      rw [Function.update_of_ne (separate.unseen (removes _ rfl)).symm, held]
  | refuse | fail | stay | kill =>
      -- No file changes, and the writer writes no more.
      apply faithful.enter
      · intro left same
        cases same
      · intro other distinct
        rfl

/-- A move changes the published files as the atomic store does. -/
theorem step_settles (step : Step publications s move s') (faithful : Faithful publications s)
    (shown : published path) : s'.files path = settle publications s.files [move] path := by
  cases step with
  | create | append | clean => exact Function.update_of_ne (separate.unseen shown) ..
  | @rename writer _ writes content =>
      obtain ⟨whole, held, complete⟩ := faithful _ _ writes
      rw [content] at held
      cases held
      rw [List.append_nil] at complete
      subst complete
      change Function.update (Function.update s.files _ none) _ _ path =
        Function.update s.files _ _ path
      by_cases same : path = (publications writer).target
      · rw [same, Function.update_self, Function.update_self]
      · rw [Function.update_of_ne same, Function.update_of_ne same,
          Function.update_of_ne (separate.unseen shown)]
  | remove | refuse | fail | stay | kill => rfl

/-- Whatever the interleaving, the published files are those of the atomic store. -/
theorem run_settles (run : Run (Step publications) s moves s') (faithful : Faithful publications s)
    (removes : ∀ move ∈ moves, Removes published move) (shown : published path) :
    s'.files path = settle publications s.files moves path := by
  induction run with
  | done => rfl
  | @next s mid s' move rest first later ih =>
      have kept := step_faithful separate first (removes _ List.mem_cons_self) faithful
      rw [ih kept fun move member => removes move (List.mem_cons_of_mem _ member),
        settle_cons, settle_congr (step_settles separate first faithful shown)]

end

/-! ## What the atomic store holds -/

omit [DecidableEq Writer] in
/-- A stored body was there before or was put by one of the writers. -/
theorem settle_source {files : Path → Option (List Byte)} {body : List Byte}
    (stored : settle publications files moves path = some body) :
    files path = some body ∨ ∃ writer, .rename writer ∈ moves ∧
      (publications writer).target = path ∧ (publications writer).body = body := by
  induction moves generalizing files with
  | nil => exact Or.inl stored
  | cons move rest ih =>
      rw [settle_cons] at stored
      rcases ih stored with held | ⟨writer, member, put⟩
      · rcases effect_source held with before | ⟨writer, moved, put⟩
        · exact Or.inl before
        · exact Or.inr ⟨writer, moved ▸ List.mem_cons_self, put⟩
      · exact Or.inr ⟨writer, List.mem_cons_of_mem _ member, put⟩

omit [DecidableEq Writer] in
theorem settle_kept {files : Path → Option (List Byte)}
    (kept : ∀ move ∈ moves, move ≠ .remove path)
    (put : (∃ body, files path = some body) ∨
      ∃ writer, .rename writer ∈ moves ∧ (publications writer).target = path) :
    ∃ body, settle publications files moves path = some body := by
  induction moves generalizing files with
  | nil =>
      rcases put with held | ⟨writer, member, -⟩
      · exact held
      · cases member
  | cons move rest ih =>
      rw [settle_cons]
      apply ih fun move member => kept move (List.mem_cons_of_mem _ member)
      rcases put with ⟨body, held⟩ | ⟨writer, member, same⟩
      · exact Or.inl (effect_kept (kept move List.mem_cons_self) held)
      · rcases List.mem_cons.mp member with moved | later
        · refine Or.inl ⟨(publications writer).body, ?_⟩
          rw [← moved, ← same]
          exact settle_put
        · exact Or.inr ⟨writer, later, same⟩

/-! ## Each writer publishes once -/

/-- How often a writer can still publish. -/
def Phase.turns : Phase Byte → Nat
  | .waiting | .writing _ => 1
  | _ => 0

def Phase.published : Phase Byte → Bool
  | .leaving published | .finished published => published
  | _ => false

def renames (writer : Writer) : Move Path Writer → Bool
  | .rename other => decide (other = writer)
  | _ => false

theorem step_turns (step : Step publications s move s') (writer : Writer) :
    [move].countP (renames writer) + (s'.phase writer).turns ≤ (s.phase writer).turns := by
  cases step with
  | remove => exact Nat.le_of_eq (Nat.zero_add _)
  | @create other before | @refuse other before | @append other _ _ _ before
  | @fail other _ before | @rename other _ before | @clean other _ before
  | @stay other _ before | @kill other before =>
      by_cases same : other = writer
      · subst same
        simp [renames, Phase.turns, before]
      · simp [State.enter_other (Ne.symm same), renames, same]

theorem step_published (step : Step publications s move s')
    (published : (s'.phase writer).published = true) :
    (s.phase writer).published = true ∨ move = .rename writer := by
  cases step with
  | remove => exact Or.inl published
  | @create other before | @refuse other before | @append other _ _ _ before
  | @fail other _ before | @rename other _ before | @clean other _ before
  | @stay other _ before | @kill other before =>
      by_cases same : other = writer
      · subst same
        simp_all [Phase.published]
      · rw [State.enter_other (Ne.symm same)] at published
        exact Or.inl published

theorem step_finished (step : Step publications s move s') {published : Bool}
    (finished : s.phase writer = .finished published) :
    s'.phase writer = .finished published := by
  cases step with
  | remove => exact finished
  | @create other before | @refuse other before | @append other _ _ _ before
  | @fail other _ before | @rename other _ before | @clean other _ before
  | @stay other _ before =>
      have apart : writer ≠ other := by
        rintro rfl
        rw [finished] at before
        cases before
      exact (State.enter_other apart _).trans finished
  | @kill other runs =>
      have apart : writer ≠ other := by
        rintro rfl
        exact runs published finished
      exact (State.enter_other apart _).trans finished

/-- A writer puts its body at most once, and has put it when it ends well. -/
theorem run_publishes (run : Run (Step publications) s moves s') (writer : Writer) :
    moves.countP (renames writer) + (s'.phase writer).turns ≤ (s.phase writer).turns ∧
      ((s'.phase writer).published = true →
        (s.phase writer).published = true ∨ .rename writer ∈ moves) := by
  induction run with
  | done => exact ⟨Nat.le_of_eq (Nat.zero_add _), Or.inl⟩
  | @next s mid s' move rest first later ih =>
      constructor
      · have before := step_turns first writer
        have after := ih.1
        rw [← List.singleton_append, List.countP_append]
        omega
      · intro published
        rcases ih.2 published with earlier | member
        · rcases step_published first earlier with before | moved
          · exact Or.inl before
          · exact Or.inr (moved ▸ List.mem_cons_self)
        · exact Or.inr (List.mem_cons_of_mem _ member)

/-- The moves of a writer that nothing disturbs. -/
def undisturbed (publications : Writer → Publication Path Byte) (writer : Writer) :
    List (Move Path Writer) :=
  [.create writer, .append writer (publications writer).body.length, .rename writer, .clean writer]

theorem undisturbed_finishes (waits : s.phase writer = .waiting)
    (free : s.files (publications writer).temporary = none) :
    ∃ s', Run (Step publications) s (undisturbed publications writer) s' ∧
      s'.phase writer = .finished true := by
  have created := Step.create waits free
  refine ⟨_, Run.next created (Run.next (Step.append (State.enter_self _) (Function.update_self ..))
    (Run.next (Step.rename ?_ (Function.update_self ..)) (Run.next (Step.clean (State.enter_self _))
      Run.done))), State.enter_self _⟩
  rw [State.enter_self, List.drop_length]

end Publishing
