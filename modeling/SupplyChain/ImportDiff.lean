import SupplyChain.Json.Texts

/-!
The difference between an import batch and the batch that it duplicates. The rows are matched by
their keys and compared field by field, by the texts of their values. A difference says all that
changed and nothing else, so that it makes the rows of one batch out of those of the other.
-/

namespace SupplyChain.ImportDiff

open Json

/-- An object that was read from a JSON text. -/
structure NormalizedImportRow where
  members : List (String × Value)
  json : MembersAreJson members

def NormalizedImportRow.get (row : NormalizedImportRow) (field : String) : Option Value :=
  row.members.lookup field

structure StagingRow where
  id : Nat
  importBatchId : Nat
  sourceRowNo : Nat
  businessKey : Option String
  normalized : NormalizedImportRow

abbrev Keyed := List (String × NormalizedImportRow)

structure FieldChange where
  field : String
  oldValue : Value
  newValue : Value

structure ImportDiffChanged where
  key : String
  fields : List FieldChange

structure ImportDiffResponse where
  added : Keyed
  changed : List ImportDiffChanged
  removed : Keyed

/-! ## The comparison -/

def StagingRow.key (row : StagingRow) : String := row.businessKey.getD (toString row.sourceRowNo)

def fieldNames (old value : NormalizedImportRow) : List String :=
  (old.members.map Prod.fst ++ value.members.map Prod.fst).eraseDups

/-- The text of a field, where the row has it. -/
def NormalizedImportRow.text (row : NormalizedImportRow) (field : String) : Option (List Char) :=
  (row.get field).map stringify

def changedFields (old value : NormalizedImportRow) : List FieldChange :=
  ((fieldNames old value).filter fun field => old.text field ≠ value.text field).map fun field =>
    ⟨field, (old.get field).getD .null, (value.get field).getD .null⟩

structure ImportBatch where
  id : Nat
  duplicateOfBatchId : Option Nat

/-- The order in which the rows of a batch are read. -/
def comesBefore (row other : StagingRow) : Prop :=
  row.sourceRowNo < other.sourceRowNo ∨ row.sourceRowNo = other.sourceRowNo ∧ row.id ≤ other.id

instance comesBefore_decidable : DecidableRel comesBefore := fun _ _ =>
  inferInstanceAs (Decidable (_ ∨ _))

variable {entries values current previous : Keyed} {rows : List StagingRow}
  {key : String} {row old value : NormalizedImportRow} {d : ImportDiffResponse}

section

variable {Entry : Type} {entry : Entry} {table : List (String × Entry)}

theorem lookup_cons_ne {name : String} {other : Entry} (apart : key ≠ name) :
    List.lookup key ((name, other) :: table) = table.lookup key := by
  rw [List.lookup_cons, beq_false_of_ne apart]

theorem lookup_eq_some (once : (table.map Prod.fst).Nodup) :
    table.lookup key = some entry ↔ (key, entry) ∈ table := by
  induction table with
  | nil => simp
  | cons head rest ih =>
      obtain ⟨name, other⟩ := head
      rw [List.map_cons, List.nodup_cons] at once
      by_cases same : key = name
      · subst same
        have absent : (key, entry) ∉ rest := by
          intro member
          exact once.1 (List.mem_map.mpr ⟨_, member, rfl⟩)
        simp [absent, eq_comm]
      · rw [lookup_cons_ne same, ih once.2, List.mem_cons, Prod.mk.injEq]
        constructor
        · exact Or.inr
        · rintro (⟨equal, -⟩ | member)
          · exact absurd equal same
          · exact member

end

def changes (previous current : Keyed) : List ImportDiffChanged :=
  current.filterMap fun entry => (previous.lookup entry.1).bind fun old =>
    if (changedFields old entry.2).isEmpty then none
    else some ⟨entry.1, changedFields old entry.2⟩

/-- What two batches differ in. -/
def difference (previous current : Keyed) : ImportDiffResponse where
  added := current.filter fun entry => (previous.lookup entry.1).isNone
  changed := changes previous current
  removed := previous.filter fun entry => (current.lookup entry.1).isNone

theorem text_eq {field : String} :
    old.text field = value.text field ↔ old.get field = value.get field := by
  have read : ∀ (row : NormalizedImportRow) found, row.get field = some found → found.IsJson := by
    intro row found stored
    obtain ⟨before, after, split, -⟩ := List.lookup_eq_some_iff.mp stored
    exact membersAreJson_iff.mp row.json (field, found) (split ▸ by simp)
  unfold NormalizedImportRow.text
  constructor
  · intro same
    cases first : old.get field with
    | none =>
        cases second : value.get field with
        | none => rfl
        | some found => rw [first, second] at same; cases same
    | some held =>
        cases second : value.get field with
        | none => rw [first, second] at same; cases same
        | some found =>
            rw [first, second, Option.map_some, Option.map_some, Option.some.injEq] at same
            rw [stringify_injective (read old held first) (read value found second) same]
  · intro same
    rw [same]

/-- A difference names each row that is only in one batch, with its value, and each field in which
the rows of a key differ, with both values, and nothing twice. -/
structure Exact (previous current : Keyed) (d : ImportDiffResponse) : Prop where
  added : ∀ key row, (key, row) ∈ d.added ↔
    current.lookup key = some row ∧ previous.lookup key = none
  removed : ∀ key row, (key, row) ∈ d.removed ↔
    previous.lookup key = some row ∧ current.lookup key = none
  changed : ∀ change ∈ d.changed, ∃ old value, previous.lookup change.key = some old ∧
    current.lookup change.key = some value ∧ change.fields ≠ [] ∧
      (change.fields.map FieldChange.field).Nodup ∧
      ∀ field, field ∈ change.fields ↔ old.get field.field ≠ value.get field.field ∧
        field.oldValue = (old.get field.field).getD .null ∧
          field.newValue = (value.get field.field).getD .null
  complete : ∀ key old value, previous.lookup key = some old → current.lookup key = some value →
    (∃ field, old.get field ≠ value.get field) → key ∈ d.changed.map ImportDiffChanged.key
  once : (d.added.map Prod.fst ++ d.changed.map ImportDiffChanged.key ++
    d.removed.map Prod.fst).Nodup

/-- What a batch says of a field: nothing, as long as the row of the key is not there. -/
def valuesOf (entries : Keyed) (key : String) : Option (String → Value) :=
  (entries.lookup key).map fun row field => (row.get field).getD .null

/-- What is left of the values when a difference is made. -/
def ImportDiffResponse.patch (d : ImportDiffResponse) (before : String → Option (String → Value))
    (key : String) : Option (String → Value) :=
  if key ∈ d.added.map Prod.fst then valuesOf d.added key
  else if key ∈ d.removed.map Prod.fst then none
  else
    match d.changed.find? (fun change => change.key == key) with
    | none => before key
    | some change => (before key).map fun old field =>
        match change.fields.find? (fun change => change.field == field) with
        | none => old field
        | some change => change.newValue

theorem Exact.patch (exact : Exact previous current d) :
    d.patch (valuesOf previous) = valuesOf current := by
  have added : (d.added.map Prod.fst).Nodup :=
    (List.nodup_append.mp (List.nodup_append.mp exact.once).1).1
  have onlyNew : ∀ {key}, key ∈ d.added.map Prod.fst → previous.lookup key = none := by
    intro key member
    obtain ⟨entry, held, rfl⟩ := List.mem_map.mp member
    exact ((exact.added entry.1 entry.2).mp held).2
  have onlyOld : ∀ {key}, key ∈ d.removed.map Prod.fst → current.lookup key = none := by
    intro key member
    obtain ⟨entry, held, rfl⟩ := List.mem_map.mp member
    exact ((exact.removed entry.1 entry.2).mp held).2
  funext key
  unfold ImportDiffResponse.patch
  by_cases new : key ∈ d.added.map Prod.fst
  · obtain ⟨entry, held, rfl⟩ := List.mem_map.mp new
    rw [if_pos new, valuesOf, valuesOf, (lookup_eq_some added).mpr held,
      ((exact.added entry.1 entry.2).mp held).1]
  · rw [if_neg new]
    by_cases gone : key ∈ d.removed.map Prod.fst
    · rw [if_pos gone, valuesOf, onlyOld gone]
      rfl
    · rw [if_neg gone]
      cases found : d.changed.find? (fun change => change.key == key) with
      | some change =>
          have matched := List.find?_some found
          have same : change.key = key := beq_iff_eq.mp matched
          obtain ⟨old, value, before, after, -, -, fields⟩ :=
            exact.changed change (List.mem_of_find?_eq_some found)
          rw [same] at before after
          simp only [valuesOf, before, after, Option.map_some, Option.some.injEq]
          funext field
          cases listed : change.fields.find? (fun change => change.field == field) with
          | some noted =>
              have matched := List.find?_some listed
              have named : noted.field = field := beq_iff_eq.mp matched
              have read := ((fields noted).mp (List.mem_of_find?_eq_some listed)).2.2
              rw [named] at read
              exact read
          | none =>
              by_contra differs
              have unlike : old.get field ≠ value.get field := by
                intro equal
                exact differs (by rw [equal])
              have noted := (fields ⟨field, (old.get field).getD .null,
                (value.get field).getD .null⟩).mpr ⟨unlike, rfl, rfl⟩
              exact List.find?_eq_none.mp listed _ noted (beq_self_eq_true field)
      | none =>
          have unchanged : key ∉ d.changed.map ImportDiffChanged.key := by
            intro member
            obtain ⟨change, held, rfl⟩ := List.mem_map.mp member
            exact List.find?_eq_none.mp found change held (beq_self_eq_true _)
          cases before : previous.lookup key with
          | none =>
              cases after : current.lookup key with
              | none => simp only [valuesOf, before, after]
              | some value =>
                  exact absurd (List.mem_map.mpr ⟨_, (exact.added key value).mpr ⟨after, before⟩,
                    rfl⟩) new
          | some old =>
              cases after : current.lookup key with
              | none =>
                  exact absurd (List.mem_map.mpr ⟨_, (exact.removed key old).mpr ⟨before, after⟩,
                    rfl⟩) gone
              | some value =>
                  simp only [valuesOf, before, after, Option.map_some, Option.some.injEq]
                  funext field
                  by_contra differs
                  refine unchanged (exact.complete key old value before after ⟨field, ?_⟩)
                  intro equal
                  exact differs (by rw [equal])

end SupplyChain.ImportDiff
