import SupplyChain.Files

/-!
Runs of the uploads. Any number of uploads write to the storage at the same time, and each
writes its row when its file is stored. Files are scanned in any order. Whoever may read a
clean file gets the bytes that were uploaded with its row.
-/

namespace SupplyChain.Files

open FileStorage Publishing Relational

structure State (Writer : Type) where
  storage : Publishing.State FileStorage.Path Writer UInt8
  fileObjects : List FileObjectRecord

inductive Event (Writer : Type)
  | storage (move : Move FileStorage.Path Writer)
  | insert (writer : Writer)
  | scan (index : Nat) (status : ScanStatus)

variable {Writer : Type} [DecidableEq Writer]
  {publications : Writer → Publication FileStorage.Path UInt8} {uploads : Writer → Upload}
  {s s' : State Writer} {events : List (Event Writer)} {event : Event Writer} {writer : Writer}

/-- Nothing in the application removes an object. -/
inductive Step (publications : Writer → Publication FileStorage.Path UInt8)
    (uploads : Writer → Upload) : State Writer → Event Writer → State Writer → Prop
  | storage {s : State Writer} {move : Move FileStorage.Path Writer}
      {storage : Publishing.State FileStorage.Path Writer UInt8}
      (moves : Publishing.Step publications s.storage move storage)
      (keeps : ∀ path, move ≠ .remove path) :
      Step publications uploads s (.storage move) { s with storage }
  | insert {s : State Writer} {writer : Writer}
      (stored : s.storage.phase writer = .finished true) :
      Step publications uploads s (.insert writer)
        { s with fileObjects := s.fileObjects ++ [(uploads writer).record] }
  | scan {s : State Writer} {index : Nat} {status : ScanStatus}
      (verdict : status ≠ .quarantined) :
      Step publications uploads s (.scan index status)
        { s with fileObjects := s.fileObjects.modify index fun row =>
            { row with scanStatus := status } }

/-- The moves of the storage in a run. -/
def storageMoves (events : List (Event Writer)) : List (Move FileStorage.Path Writer) :=
  events.filterMap fun
    | .storage move => some move
    | _ => none

theorem run_storage (run : Run (Step publications uploads) s events s') :
    Run (Publishing.Step publications) s.storage (storageMoves events) s'.storage ∧
      ∀ move ∈ storageMoves events, ∀ path, move ≠ .remove path := by
  induction run with
  | done =>
      refine ⟨Run.done, ?_⟩
      intro move member
      cases member
  | next first later ih =>
      cases first with
      | storage moves keeps =>
          refine ⟨Run.next moves ih.1, ?_⟩
          intro move member
          rcases List.mem_cons.mp member with rfl | rest
          · exact keeps
          · exact ih.2 move rest
      | insert stored => exact ih
      | scan verdict => exact ih

theorem storage_run {storage storage' : Publishing.State FileStorage.Path Writer UInt8}
    {moves : List (Move FileStorage.Path Writer)} {rows : List FileObjectRecord}
    (run : Run (Publishing.Step publications) storage moves storage')
    (keeps : ∀ move ∈ moves, ∀ path, move ≠ .remove path) :
    Run (Step publications uploads) ⟨storage, rows⟩ (moves.map .storage) ⟨storage', rows⟩ := by
  induction run with
  | done => exact Run.done
  | next first later ih =>
      refine Run.next (Step.storage first (keeps _ List.mem_cons_self)) (ih ?_)
      exact fun move member => keeps move (List.mem_cons_of_mem _ member)

/-! ## The rows of files -/

/-- A row was written for an upload whose file is stored. -/
def Stored (uploads : Writer → Upload) (s : State Writer) (row : FileObjectRecord) : Prop :=
  ∃ writer, s.storage.phase writer = .finished true ∧
    row = { (uploads writer).record with scanStatus := row.scanStatus }

theorem step_stored (step : Step publications uploads s event s')
    (stored : ∀ row ∈ s.fileObjects, Stored uploads s row) :
    ∀ row ∈ s'.fileObjects, Stored uploads s' row := by
  intro row member
  cases step with
  | storage moves keeps =>
      obtain ⟨writer, finished, same⟩ := stored row member
      exact ⟨writer, step_finished moves finished, same⟩
  | @insert writer finished =>
      rcases List.mem_append.mp member with before | added
      · exact stored row before
      · rw [List.mem_singleton] at added
        subst added
        exact ⟨writer, finished, rfl⟩
  | @scan index status verdict =>
      obtain ⟨position, inside, rfl⟩ := List.getElem_of_mem member
      rw [List.getElem_modify]
      rw [List.length_modify] at inside
      obtain ⟨writer, finished, same⟩ := stored _ (List.getElem_mem inside)
      refine ⟨writer, finished, ?_⟩
      split
      · rw [same]
      · exact same

theorem run_stored (run : Run (Step publications uploads) s events s')
    (empty : s.fileObjects = []) : ∀ row ∈ s'.fileObjects, Stored uploads s' row := by
  refine run.preserves (fun s => ∀ row ∈ s.fileObjects, Stored uploads s row)
    (fun step stored => step_stored step stored) ?_
  intro row member
  rw [empty] at member
  cases member

/-! ## What is read -/

variable {sha256 : List UInt8 → Text} {authorizeEntity : AccessContext → String → String → Bool}
  {root : FileStorage.Path} {requests : Writer → UploadRequest} {uuids : Writer → Text}

/-- What is answered to a download of the row of an upload whose object is stored. -/
def answer (authorizeEntity : AccessContext → String → String → Bool) (access : AccessContext)
    (upload : Upload) (row : FileObjectRecord) : Except FilesError Download := do
  refuse ((headerString row.fileName && nullableInteger row.factoryId &&
    nullableInteger row.supplierId) = false) filesUnavailable
  refuse (canRead access row = false) fileForbidden
  refuse (authorizeEntity access upload.entityType upload.entityId = false) fileForbidden
  refuse (row.scanStatus ≠ .clean)
    (platformError 423 "FILE_QUARANTINED" "File is not available until scanning completes")
  return ⟨upload.contentType, upload.fileName, upload.bytes⟩

/-- The row of a stored upload is one that can be read, unless its name may not stand in a
header or the caller had no valid organisation. -/
theorem fileObject_record {request : UploadRequest} {u : Upload}
    {status : ScanStatus} (accepted : Accepted sha256 request u)
    (user : isSafeInteger u.access.userId ∧ 0 < u.access.userId) (keyed : u.objectKey ≠ []) :
    fileObject { u.record with scanStatus := status } =
      (do
        refuse ((headerString u.fileName && nullableInteger u.access.factoryId &&
          nullableInteger u.access.supplierId) = false) filesUnavailable
        return { u.record with scanStatus := status }) := by
  have types : ∀ type ∈ allowedContentTypes, headerString type = true := by decide
  have header := types _ accepted.type
  simp only [fileObject, Upload.record, header, accepted.type, accepted.bounded, user.1,
    user.2, refuse]
  cases headerString u.fileName <;> cases nullableInteger u.access.factoryId <;>
    cases nullableInteger u.access.supplierId <;>
      simp [keyed, accepted.category, bind, Except.bind, pure, Except.pure]

/-- What the uploads publish. -/
def published (root : FileStorage.Path) (uploads : Writer → Upload) (uuids : Writer → Text)
    (writer : Writer) : Publication FileStorage.Path UInt8 :=
  (uploads writer).publication root (uuids writer)

theorem stored_read (digests : ∀ bytes, IsHexDigest (sha256 bytes))
    (collision : ∀ writer other, sha256 (uploads writer).bytes = sha256 (uploads other).bytes →
      (uploads writer).bytes = (uploads other).bytes)
    (accepted : ∀ writer, Accepted sha256 (requests writer) (uploads writer))
    (users : ∀ writer,
      isSafeInteger (uploads writer).access.userId ∧ 0 < (uploads writer).access.userId)
    (length : ∀ writer, (uuids writer).length = 36)
    (distinct : ∀ writer other, uuids writer = uuids other → writer = other)
    (waiting : ∀ writer, s.storage.phase writer = .waiting)
    (nothing : ∀ path, s.storage.files path = none)
    (run : Run (Step (published root uploads uuids) uploads) s events s')
    (finished : s'.storage.phase writer = .finished true) :
    readObject root s'.storage.files (uploads writer).objectKey =
      .ok (some (uploads writer).bytes) := by
  obtain ⟨moves, keeps⟩ := run_storage run
  have kept : ∀ writer, writeQuarantinedObject sha256 root
      ((uploads writer).write (uuids writer)) = .ok (published root uploads uuids writer) :=
    fun writer => upload_kept digests (accepted writer) (users writer) (uuids writer)
  have lasting := fun writer => (accepted writer).lasting
  have apart := separate kept lasting length distinct
  obtain ⟨⟨passed, led⟩, -, -⟩ := writeQuarantinedObject_ok (kept writer)
  have whole : s'.storage.files (published root uploads uuids writer).target =
      some (uploads writer).bytes := by
    rw [run_settles apart moves (faithful_of_waiting waiting)
      (fun move member path same => absurd same (keeps move member path)) (apart.targets writer)]
    have renamed : .rename writer ∈ storageMoves events := by
      have published := (run_publishes moves writer).2
      rw [finished, waiting writer] at published
      rcases published rfl with before | member
      · cases before
      · exact member
    have put : (∃ body, s.storage.files (published root uploads uuids writer).target = some body) ∨
        ∃ other, Move.rename other ∈ storageMoves events ∧
          (published root uploads uuids other).target =
            (published root uploads uuids writer).target :=
      Or.inr ⟨writer, renamed, rfl⟩
    obtain ⟨body, held⟩ := settle_kept (fun move member => keeps move member _) put
    rw [held]
    rcases settle_source held with before | ⟨other, -, target, same⟩
    · rw [nothing] at before
      cases before
    · obtain ⟨⟨-, put⟩, -, content⟩ := writeQuarantinedObject_ok (kept other)
      have key : (uploads other).objectKey = (uploads writer).objectKey := by
        have named := objectPath_key put
        rw [target, objectPath_key led] at named
        exact named.symm
      rw [(accepted other).key, (accepted writer).key, (accepted other).digest,
        (accepted writer).digest] at key
      rw [← same, content]
      exact congrArg some (collision other writer (uploadObjectKey_digest digests key))
  have bounded := (accepted writer).bounded
  unfold readObject
  change (objectPath root (uploads writer).objectKey) = _ at led
  rw [led]
  simp only [bind, Except.bind, whole, if_neg (Nat.not_lt.mpr bounded)]
  rfl

/-- Whatever the interleaving of uploads, scans and crashes, every row is that of an upload, and
its download answers the bytes of that upload or refuses: because the file name cannot stand in
a header, because of who asks, or because the file is not known to be clean. -/
theorem downloads_exact (digests : ∀ bytes, IsHexDigest (sha256 bytes))
    (collision : ∀ writer other, sha256 (uploads writer).bytes = sha256 (uploads other).bytes →
      (uploads writer).bytes = (uploads other).bytes)
    (uploaded : ∀ writer, upload sha256 authorizeEntity (requests writer) = .ok (uploads writer))
    (users : ∀ writer,
      isSafeInteger (uploads writer).access.userId ∧ 0 < (uploads writer).access.userId)
    (length : ∀ writer, (uuids writer).length = 36)
    (distinct : ∀ writer other, uuids writer = uuids other → writer = other)
    (waiting : ∀ writer, s.storage.phase writer = .waiting)
    (nothing : ∀ path, s.storage.files path = none) (empty : s.fileObjects = [])
    (run : Run (Step (published root uploads uuids) uploads) s events s') :
    ∀ row ∈ s'.fileObjects, ∃ writer,
      row = { (uploads writer).record with scanStatus := row.scanStatus } ∧
        ∀ authorizeRead access,
          download root s'.storage.files authorizeRead access (some row) =
            answer authorizeRead access (uploads writer) row := by
  intro row member
  obtain ⟨writer, finished, same⟩ := run_stored run empty row member
  refine ⟨writer, same, ?_⟩
  intro authorizeRead access
  have accepted := fun writer => upload_accepted (uploaded writer)
  have read :=
    stored_read digests collision accepted users length distinct waiting nothing run finished
  have keyed : (uploads writer).objectKey ≠ [] := by
    intro none
    have valid := (accepted writer).isObjectKey digests (users writer).1
    exact (valid.names [] (by simp [none])).1 rfl
  have readable : fileObject row =
      (do
        refuse ((headerString row.fileName && nullableInteger row.factoryId &&
          nullableInteger row.supplierId) = false) filesUnavailable
        return row) := by
    rw [same]
    exact fileObject_record (accepted writer) (users writer) keyed
  have key : row.objectKey = (uploads writer).objectKey := congrArg FileObjectRecord.objectKey same
  have type : row.contentType = (uploads writer).contentType :=
    congrArg FileObjectRecord.contentType same
  have name : row.fileName = (uploads writer).fileName := congrArg FileObjectRecord.fileName same
  have size : row.sizeBytes = (uploads writer).bytes.length :=
    congrArg FileObjectRecord.sizeBytes same
  have entity : row.entityType = some (uploads writer).entityType ∧
      row.entityId = some (uploads writer).entityId :=
    ⟨congrArg FileObjectRecord.entityType same, congrArg FileObjectRecord.entityId same⟩
  -- The checks of the row and of the caller stand in both; what is left is what is read.
  have complete : ¬ (maxFileSizeBytes < (uploads writer).bytes.length ∨
      (uploads writer).bytes.length ≠ (uploads writer).bytes.length) := by
    simp [Nat.not_lt.mpr (accepted writer).bounded]
  simp only [download, answer, required, pure_bind, readable, bind_assoc, entity.1, entity.2, key,
    read, size, type, name, refuse, if_neg complete]

/-! ### Two uploads of one file -/

def twoRequests (writer : Bool) : UploadRequest where
  access := {
    userId := if writer then 7 else 8
    sessionId := some 1
    roles := [.supplyChain]
    factoryId := none
    supplierId := none }
  parts := [.field "category" "invoice", .field "entityType" "purchase_order",
    .field "entityId" "12", .file "file" "a.pdf" "application/pdf" [0x25, 0x50, 0x44, 0x46, 0x2d]]
  idempotencyKey := "k1"

def twoUploads (writer : Bool) : Upload where
  access := (twoRequests writer).access
  objectKey := uploadObjectKey samplesSha256 (twoRequests writer).access.userId "invoice" "k1"
    (samplesSha256 [0x25, 0x50, 0x44, 0x46, 0x2d]) "application/pdf"
  fileName := "a.pdf"
  contentType := "application/pdf"
  bytes := [0x25, 0x50, 0x44, 0x46, 0x2d]
  category := "invoice"
  entityType := "purchase_order"
  entityId := "12"
  sensitive := true
  contentSha256 := samplesSha256 [0x25, 0x50, 0x44, 0x46, 0x2d]

theorem twoUploads_accepted (writer : Bool) :
    upload samplesSha256 (fun _ _ _ => true) (twoRequests writer) = .ok (twoUploads writer) := by
  cases writer <;> rfl

-- decided along the digest, and not for every character there is
theorem IsHexDigest.of_all {digest : Text} (length : digest.length = 64)
    (hex : digest.all (fun c => decide (c ∈ "0123456789abcdef".toList)) = true) :
    IsHexDigest digest :=
  ⟨length, fun c member => of_decide_eq_true (List.all_eq_true.mp hex c member)⟩

theorem samplesSha256_hex (bytes : List UInt8) : IsHexDigest (samplesSha256 bytes) := by
  unfold samplesSha256
  split
  · exact IsHexDigest.of_all (by decide) (by decide)
  · split
    · exact IsHexDigest.of_all (by decide) (by decide)
    · split
      · exact IsHexDigest.of_all (by decide) (by decide)
      · exact IsHexDigest.of_all (by decide) (by decide)

/-- The file of one upload is stored, its row is written, and the file is found clean. -/
theorem downloads_exact_two : ∃ events s',
    Run (Step (published pdfRoot twoUploads sampleUUID) twoUploads) ⟨emptyStorage, []⟩ events s' ∧
      ∃ row ∈ s'.fileObjects, row.scanStatus = .clean ∧ ∃ writer, ∀ authorizeRead access,
        download pdfRoot s'.storage.files authorizeRead access (some row) =
          answer authorizeRead access (twoUploads writer) row := by
  have begins : emptyStorage.phase true = .waiting := rfl
  have free : emptyStorage.files (published pdfRoot twoUploads sampleUUID true).temporary = none :=
    rfl
  obtain ⟨storage, moves, stored⟩ := undisturbed_finishes begins free
  have stores : Run (Step (published pdfRoot twoUploads sampleUUID) twoUploads)
      ⟨emptyStorage, []⟩ _ ⟨storage, []⟩ := storage_run moves (by simp [undisturbed])
  have inserts := stores.append (Run.single (Step.insert stored))
  have scanned : ScanStatus.clean ≠ .quarantined := by decide
  have run := inserts.append (Run.single (@Step.scan Bool _ _ _ _ 0 _ scanned))
  have uuids : ∀ writer, (sampleUUID writer).length = 36 := by decide
  have users : ∀ writer, isSafeInteger (twoUploads writer).access.userId ∧
      0 < (twoUploads writer).access.userId := by
    intro writer
    cases writer <;> exact ⟨⟨by decide, by decide⟩, by decide⟩
  obtain ⟨writer, -, same⟩ := downloads_exact samplesSha256_hex (fun _ _ _ => rfl)
    twoUploads_accepted users uuids sampleUUID_distinct (fun _ => rfl) (fun _ => rfl) rfl run _
    (List.mem_singleton.mpr rfl)
  exact ⟨_, _, run, _, List.mem_singleton.mpr rfl, rfl, writer, same⟩

end SupplyChain.Files
