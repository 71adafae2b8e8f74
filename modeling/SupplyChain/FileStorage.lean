import SupplyChain.Finance.PaymentGuard
import SupplyChain.Platform
import SupplyChain.Publishing

/-!
The local storage of uploaded files. The key of an object is a path below the root of the
storage, which no key leaves. An object is written to a temporary file beside it, which is
renamed when it is complete.
-/

namespace SupplyChain.FileStorage

open Publishing Relational PaymentGuard

abbrev Text := List Char

/-- The names on the way from the root of the file system. -/
abbrev Path := List Text

def dot : Text := ['.']
def dotDot : Text := ['.', '.']
def backslash : Char := Char.ofNat 92
def tmp : Text := ['.', 't', 'm', 'p']

/-! ## Paths -/

/-- One name of a path, read from where the names before it lead. -/
def enter (location : Path) (name : Text) : Path :=
  if name = [] ∨ name = dot then location
  else if name = dotDot then location.dropLast
  else location ++ [name]

def follow (location : Path) (path : Text) : Path :=
  if path.head? = some '/' then (path.splitOn '/').foldl enter []
  else (path.splitOn '/').foldl enter location

/-- `path.resolve` of an absolute location and the paths after it. -/
def resolve (location : Path) (paths : List Text) : Path := paths.foldl follow location

def relativeNames : Path → Path → Path
  | origin :: origins, name :: names =>
      if origin = name then relativeNames origins names
      else List.replicate (origins.length + 1) dotDot ++ name :: names
  | origins, names => List.replicate origins.length dotDot ++ names

/-- `path.relative` of two absolute locations. -/
def relative (origin target : Path) : Text := ['/'].intercalate (relativeNames origin target)

def isAbsolute (path : Text) : Bool := path.head? = some '/'

def keyLength (key : Text) : Nat := textLength (String.ofList key)

def objectPath (root : Path) (objectKey : Text) : Except String Path :=
  if objectKey.length = 0 ∨ 1024 < keyLength objectKey ∨ backslash ∈ objectKey ∨
      ∃ name ∈ objectKey.splitOn '/', name = [] ∨ name = dot ∨ name = dotDot then
    .error "Local file object key rejected"
  else
    let target := resolve root (objectKey.splitOn '/')
    let fromRoot := relative root target
    if fromRoot = [] ∨ dotDot <+: fromRoot ∨ isAbsolute fromRoot then
      .error "Local file object key rejected"
    else .ok target

/-- The keys of objects. No name of a key leads out of the root, and a key that begins with
two points is refused whatever follows them. -/
structure IsObjectKey (key : Text) : Prop where
  length : keyLength key ≤ 1024
  slashes : backslash ∉ key
  names : ∀ name ∈ key.splitOn '/', name ≠ [] ∧ name ≠ dot ∧ name ≠ dotDot
  inside : ¬ dotDot <+: key

theorem slash_not_mem_splitOn {key name : Text} (member : name ∈ key.splitOn '/') :
    '/' ∉ name := by
  induction key generalizing name with
  | nil =>
      rw [List.splitOn_nil, List.mem_singleton] at member
      simp [member]
  | cons c rest ih =>
      rw [List.splitOn_cons_eq_if_modifyHead] at member
      by_cases slash : (c == '/') = true
      · rw [if_pos slash] at member
        rcases List.mem_cons.mp member with same | later
        · simp [same]
        · exact ih later
      · rw [if_neg slash] at member
        cases parts : rest.splitOn '/' with
        | nil => exact absurd parts (List.splitOn_ne_nil '/' rest)
        | cons first others =>
            rw [parts, List.modifyHead_cons, List.mem_cons] at member
            rcases member with same | later
            · rw [same, List.mem_cons, not_or]
              refine ⟨?_, ih (parts ▸ List.mem_cons_self)⟩
              intro equal
              exact slash (beq_iff_eq.mpr equal.symm)
            · exact ih (parts ▸ List.mem_cons_of_mem _ later)

theorem follow_name (location : Path) {name : Text} (single : '/' ∉ name) (named : name ≠ [])
    (other : name ≠ dot) (down : name ≠ dotDot) : follow location name = location ++ [name] := by
  have relative : name.head? ≠ some '/' := by
    intro absolute
    exact single (List.mem_of_mem_head? absolute)
  rw [follow, if_neg relative, List.splitOn_eq_singleton single, List.foldl_cons, List.foldl_nil,
    enter, if_neg (not_or.mpr ⟨named, other⟩), if_neg down]

theorem resolve_names (location : Path) {names : Path} (single : ∀ name ∈ names, '/' ∉ name)
    (valid : ∀ name ∈ names, name ≠ [] ∧ name ≠ dot ∧ name ≠ dotDot) :
    resolve location names = location ++ names := by
  induction names generalizing location with
  | nil => exact (List.append_nil location).symm
  | cons name rest ih =>
      obtain ⟨named, other, down⟩ := valid name List.mem_cons_self
      have first := follow_name location (single name List.mem_cons_self) named other down
      change resolve (follow location name) rest = _
      rw [first, ih _ (fun name member => single name (List.mem_cons_of_mem _ member))
        (fun name member => valid name (List.mem_cons_of_mem _ member)), List.append_assoc,
        List.singleton_append]

theorem relativeNames_append (root names : Path) : relativeNames root (root ++ names) = names := by
  induction root with
  | nil => rfl
  | cons name rest ih => rw [List.cons_append, relativeNames, if_pos rfl, ih]

theorem objectPath_ok {root path : Path} {key : Text} :
    objectPath root key = .ok path ↔ IsObjectKey key ∧ path = root ++ key.splitOn '/' := by
  unfold objectPath
  by_cases refused : key.length = 0 ∨ 1024 < keyLength key ∨ backslash ∈ key ∨
      ∃ name ∈ key.splitOn '/', name = [] ∨ name = dot ∨ name = dotDot
  · rw [if_pos refused]
    constructor
    · intro accepted
      cases accepted
    · rintro ⟨valid, -⟩
      rcases refused with empty | long | slash | ⟨name, member, invalid⟩
      · have none : key = [] := List.length_eq_zero_iff.mp empty
        exact absurd rfl (valid.names [] (by simp [none])).1
      · exact absurd valid.length (Nat.not_le.mpr long)
      · exact absurd slash valid.slashes
      · obtain ⟨named, other, down⟩ := valid.names name member
        rcases invalid with same | same | same
        · exact absurd same named
        · exact absurd same other
        · exact absurd same down
  · rw [if_neg refused]
    simp only [not_or, Nat.not_lt, not_exists, not_and] at refused
    obtain ⟨filled, short, slashes, names⟩ := refused
    have target := resolve_names root (fun name => slash_not_mem_splitOn) names
    have back : relative root (root ++ key.splitOn '/') = key := by
      rw [relative, relativeNames_append, List.intercalate_splitOn]
    have relates : isAbsolute key = false := by
      cases key with
      | nil => rfl
      | cons c rest =>
          simp only [isAbsolute, List.head?_cons, decide_eq_false_iff_not, Option.some.injEq]
          rintro rfl
          exact (names [] (by simp [List.splitOn_cons_eq_if_modifyHead])).1 rfl
    simp only [target, back, relates]
    by_cases up : dotDot <+: key
    · rw [if_pos (Or.inr (Or.inl up))]
      constructor
      · intro accepted
        cases accepted
      · rintro ⟨valid, -⟩
        exact absurd up valid.inside
    · rw [if_neg]
      · constructor
        · intro accepted
          cases accepted
          exact ⟨⟨short, slashes, names, up⟩, rfl⟩
        · rintro ⟨-, rfl⟩
          rfl
      · rintro (empty | inside | absolute)
        · exact filled (List.length_eq_zero_iff.mpr empty)
        · exact up inside
        · cases absolute

theorem objectPath_key {root path : Path} {key : Text} (led : objectPath root key = .ok path) :
    relative root path = key := by
  rw [(objectPath_ok.mp led).2, relative, relativeNames_append, List.intercalate_splitOn]

/-- Which keys are accepted, and where they lead: to a path properly below the root, on which no
name goes back or contains a separator, and to a different one for each key. -/
theorem objects_confined (root : Path) :
    (∀ key path, objectPath root key = .ok path ↔
      IsObjectKey key ∧ path = root ++ key.splitOn '/') ∧
    (∀ key path, objectPath root key = .ok path →
      relative root path = key ∧ root <+: path ∧ path ≠ root ∧
        ∀ name ∈ path.drop root.length,
          name ≠ [] ∧ name ≠ dot ∧ name ≠ dotDot ∧ '/' ∉ name) ∧
    ∀ key key' path, objectPath root key = .ok path → objectPath root key' = .ok path →
      key = key' := by
  refine ⟨fun key path => objectPath_ok, ?_, ?_⟩
  · intro key path led
    obtain ⟨valid, below⟩ := objectPath_ok.mp led
    refine ⟨objectPath_key led, below ▸ List.prefix_append .., ?_, ?_⟩
    · rw [below]
      intro same
      exact List.splitOn_ne_nil _ _ (List.append_right_eq_self.mp same)
    · intro name member
      rw [below, List.drop_left] at member
      obtain ⟨named, other, down⟩ := valid.names name member
      exact ⟨named, other, down, slash_not_mem_splitOn member⟩
  · intro key key' path led led'
    rw [← objectPath_key led, objectPath_key led']

/-! ## Objects -/

def maxFileSizeBytes : Nat := 20 * 1024 * 1024

def quarantine : Text := "quarantine/".toList

structure Metadata where
  contentType : String
  sha256 : Text
  uploadedBy : Number

/-- A call of `writeQuarantinedObject`, with the identifier that it draws. -/
structure Write where
  objectKey : Text
  body : List UInt8
  metadata : Metadata
  randomUUID : Text

section

variable (sha256 : List UInt8 → Text) (root : Path)

def rejected (write : Write) : Bool :=
  !quarantine.isPrefixOf write.objectKey || decide (write.body.length = 0) ||
    decide (maxFileSizeBytes < write.body.length) ||
    decide (sha256 write.body ≠ write.metadata.sha256) ||
    decide (textLength (trim write.metadata.contentType) = 0) ||
    !safeAnd write.metadata.uploadedBy fun userId => decide (0 < userId)

def temporaryPath (target : Path) (randomUUID : Text) : Path :=
  target.dropLast ++ [target.getLastD [] ++ ('.' :: randomUUID ++ tmp)]

/-- What is published for an object that is accepted. -/
def writeQuarantinedObject (write : Write) : Except String (Publication Path UInt8) :=
  if rejected sha256 write then .error "Local quarantined file rejected"
  else do
    let target ← objectPath root write.objectKey
    return ⟨target, temporaryPath target write.randomUUID, write.body⟩

/-- The path that is removed. -/
def deleteObject (objectKey : Text) : Except String Path :=
  if quarantine.isPrefixOf objectKey then objectPath root objectKey
  else .error "Local file object key rejected"

def readObject (files : Path → Option (List UInt8)) (objectKey : Text) :
    Except String (Option (List UInt8)) := do
  let target ← objectPath root objectKey
  match files target with
  | none => return none
  | some body =>
      if maxFileSizeBytes < body.length then .error "Local file object is invalid"
      else return some body

end

variable {sha256 : List UInt8 → Text} {root path : Path} {key : Text} {write : Write}
  {publication : Publication Path UInt8}

theorem writeQuarantinedObject_ok
    (accepted : writeQuarantinedObject sha256 root write = .ok publication) :
    (rejected sha256 write = false ∧ objectPath root write.objectKey = .ok publication.target) ∧
      publication.temporary = temporaryPath publication.target write.randomUUID ∧
      publication.body = write.body := by
  unfold writeQuarantinedObject at accepted
  by_cases refused : rejected sha256 write = true
  · rw [if_pos refused] at accepted
    cases accepted
  · rw [if_neg refused] at accepted
    cases led : objectPath root write.objectKey with
    | error message =>
        rw [led] at accepted
        cases accepted
    | ok target =>
        rw [led] at accepted
        cases accepted
        exact ⟨⟨Bool.not_eq_true _ ▸ refused, rfl⟩, rfl, rfl⟩

/-- An accepted body is complete and not empty, and it has the digest it was sent with. -/
theorem rejected_eq_false (accepted : rejected sha256 write = false) :
    (1 ≤ write.body.length ∧ write.body.length ≤ maxFileSizeBytes) ∧
      sha256 write.body = write.metadata.sha256 := by
  simp only [rejected, Bool.or_eq_false_iff, decide_eq_false_iff_not, not_not, Nat.not_lt]
    at accepted
  obtain ⟨⟨⟨⟨⟨-, filled⟩, bounded⟩, digest⟩, -⟩, -⟩ := accepted
  exact ⟨⟨Nat.pos_of_ne_zero filled, bounded⟩, digest⟩

/-! ## Temporary files -/

/-- The paths of objects, whose keys do not end as temporary files do. -/
def IsObject (root path : Path) : Prop :=
  ∃ key, objectPath root key = .ok path ∧ ¬ tmp <:+ key

theorem last_suffix_intercalate (names : Path) (name : Text) :
    name <:+ ['/'].intercalate (names ++ [name]) := by
  induction names with
  | nil => simp
  | cons first rest ih =>
      rw [List.cons_append, List.intercalate_cons_of_ne_nil (by simp)]
      exact ih.trans (List.suffix_append ..)

theorem temporaryPath_hidden (path : Path) (randomUUID : Text)
    (led : objectPath root key = .ok (temporaryPath path randomUUID)) (inside : root <+: path)
    (proper : root ≠ path) : tmp <:+ key := by
  have same := objectPath_key led
  obtain ⟨names, rfl⟩ := inside
  have some : names ≠ [] := by
    rintro rfl
    exact proper (List.append_nil root).symm
  rw [temporaryPath, List.dropLast_append_of_ne_nil some, List.append_assoc, relative,
    relativeNames_append] at same
  rw [← same]
  refine List.IsSuffix.trans ?_ (last_suffix_intercalate ..)
  rw [← List.append_assoc]
  exact List.suffix_append ..

theorem temporaryPath_randomUUID {path' : Path} {uuid uuid' : Text}
    (length : uuid.length = uuid'.length)
    (same : temporaryPath path uuid = temporaryPath path' uuid') : uuid = uuid' := by
  have last := (List.append_inj' same rfl).2
  simp only [List.cons.injEq, and_true] at last
  have dotted := (List.append_inj' last (by simp [length])).2
  simp only [List.cons_append, List.cons.injEq, true_and] at dotted
  exact (List.append_inj' dotted rfl).1

/-! ## Writes at the same time -/

section

variable {Writer : Type} {writes : Writer → Write}
  {publications : Writer → Publication Path UInt8}

/-- The temporary files of different writers are different, and none is read as an object. -/
theorem separate (accepted : ∀ writer,
      writeQuarantinedObject sha256 root (writes writer) = .ok (publications writer))
    (lasting : ∀ writer, ¬ tmp <:+ (writes writer).objectKey)
    (uuids : ∀ writer, (writes writer).randomUUID.length = 36)
    (distinct : ∀ writer other, (writes writer).randomUUID = (writes other).randomUUID →
      writer = other) :
    Separate publications (IsObject root) := by
  constructor
  · intro writer other same
    apply distinct
    rw [(writeQuarantinedObject_ok (accepted writer)).2.1,
      (writeQuarantinedObject_ok (accepted other)).2.1] at same
    exact temporaryPath_randomUUID ((uuids writer).trans (uuids other).symm) same
  · rintro writer ⟨key, led, named⟩
    obtain ⟨⟨-, target⟩, temporary, -⟩ := writeQuarantinedObject_ok (accepted writer)
    obtain ⟨-, below⟩ := objectPath_ok.mp target
    rw [temporary] at led
    apply named
    apply temporaryPath_hidden _ _ led
    · rw [below]
      exact List.prefix_append ..
    · rw [below]
      intro same
      exact List.splitOn_ne_nil _ _ (List.self_eq_append_right.mp same)
  · intro writer
    exact ⟨_, (writeQuarantinedObject_ok (accepted writer)).1.2, lasting writer⟩

variable [DecidableEq Writer] {s s' : Publishing.State Path Writer UInt8}
  {moves : List (Move Path Writer)}

/-- However writes and deletions interleave and wherever they fail or are killed, an object is
read as if each had been done at once: a write when its file is renamed, at most once and
always when it succeeds. What is read is a complete body with the digest of its write. -/
theorem storage_atomic
    (accepted : ∀ writer,
      writeQuarantinedObject sha256 root (writes writer) = .ok (publications writer))
    (lasting : ∀ writer, ¬ tmp <:+ (writes writer).objectKey)
    (uuids : ∀ writer, (writes writer).randomUUID.length = 36)
    (distinct : ∀ writer other, (writes writer).randomUUID = (writes other).randomUUID →
      writer = other)
    (waiting : ∀ writer, s.phase writer = .waiting)
    (deleted : ∀ path, .remove path ∈ moves →
      ∃ key, deleteObject root key = .ok path ∧ ¬ tmp <:+ key)
    (run : Run (Step publications) s moves s') :
    (∀ key, ¬ tmp <:+ key →
      readObject root s'.files key = readObject root (settle publications s.files moves) key) ∧
    (∀ writer, moves.countP (renames writer) ≤ 1 ∧
      (s'.phase writer = .finished true → moves.countP (renames writer) = 1)) ∧
    ∀ key body, ¬ tmp <:+ key → readObject root s'.files key = .ok (some body) →
      readObject root s.files key = .ok (some body) ∨
        ∃ writer, .rename writer ∈ moves ∧ (writes writer).objectKey = key ∧
          (writes writer).body = body ∧ (1 ≤ body.length ∧ body.length ≤ maxFileSizeBytes) ∧
          sha256 body = (writes writer).metadata.sha256 := by
  have apart := separate accepted lasting uuids distinct
  have faithful : Faithful publications s := faithful_of_waiting waiting
  have removes : ∀ move ∈ moves, Removes (IsObject root) move := by
    rintro move member path rfl
    obtain ⟨key, led, named⟩ := deleted path member
    refine ⟨key, ?_, named⟩
    unfold deleteObject at led
    split at led
    · exact led
    · cases led
  have reads : ∀ key, ¬ tmp <:+ key →
      readObject root s'.files key = readObject root (settle publications s.files moves) key := by
    intro key named
    unfold readObject
    cases led : objectPath root key with
    | error message => rfl
    | ok path =>
        simp only [bind, Except.bind]
        rw [run_settles apart run faithful removes ⟨key, led, named⟩]
  refine ⟨reads, ?_, ?_⟩
  · intro writer
    obtain ⟨once, published⟩ := run_publishes run writer
    rw [waiting writer] at once published
    simp only [Phase.turns] at once
    refine ⟨by omega, ?_⟩
    intro finished
    rw [finished] at published
    rcases published rfl with before | member
    · cases before
    · have counted : 0 < moves.countP (renames writer) :=
        List.countP_pos_iff.mpr ⟨_, member, by simp [renames]⟩
      omega
  · intro key body named read
    rw [reads key named] at read
    unfold readObject at read ⊢
    cases led : objectPath root key with
    | error message =>
        rw [led] at read
        cases read
    | ok path =>
        simp only [led, bind, Except.bind, pure, Except.pure] at read ⊢
        split at read
        · cases read
        · rename_i stored held
          split at read
          · cases read
          · rename_i bounded
            cases read
            rcases settle_source held with before | ⟨writer, member, target, whole⟩
            · simp only [before, if_neg bounded, true_or]
            · obtain ⟨⟨kept, put⟩, -, same⟩ := writeQuarantinedObject_ok (accepted writer)
              obtain ⟨size, digest⟩ := rejected_eq_false kept
              have sent : (writes writer).body = body := same.symm.trans whole
              have named : (writes writer).objectKey = key := by
                rw [← objectPath_key put, target, objectPath_key led]
              rw [sent] at size digest
              exact Or.inr ⟨writer, member, named, sent, size, digest⟩

end

/-! ### Two writes of one object -/

/-- The digests of the bytes of `%PDF-`, `invoice` and `k1`. -/
def samplesSha256 (bytes : List UInt8) : Text :=
  if bytes = [0x25, 0x50, 0x44, 0x46, 0x2d] then
    "38523c087796e5d5dd1cf9bad1fb026781a838dd9dd2cf8af58b9f6502a46778".toList
  else if bytes = [105, 110, 118, 111, 105, 99, 101] then
    "52d6e3de4fa0dcc29946695f93940c3e7f26f30e1e39f4b1a49ad98839112786".toList
  else if bytes = [107, 49] then
    "6ab9f1eb8f7d3388f4f9d586f66e99fd54080df2c446f0e58668b09c08a16dd0".toList
  else List.replicate 64 '0'

def pdfRoot : Path := ["srv".toList]

def pdfWrite (randomUUID : Text) : Write where
  objectKey := "quarantine/a.pdf".toList
  body := [0x25, 0x50, 0x44, 0x46, 0x2d]
  metadata := {
    contentType := "application/pdf"
    sha256 := "38523c087796e5d5dd1cf9bad1fb026781a838dd9dd2cf8af58b9f6502a46778".toList
    uploadedBy := some 7 }
  randomUUID

def sampleUUID (writer : Bool) : Text :=
  "00000000-0000-4000-8000-00000000000".toList ++ [if writer then '1' else '2']

theorem sampleUUID_distinct (writer other : Bool) (same : sampleUUID writer = sampleUUID other) :
    writer = other := by
  revert same
  cases writer <;> cases other <;> decide

def pdfPath : Path := ["srv".toList, "quarantine".toList, "a.pdf".toList]

def pdfPublication (writer : Bool) : Publication Path UInt8 :=
  ⟨pdfPath, temporaryPath pdfPath (sampleUUID writer), [0x25, 0x50, 0x44, 0x46, 0x2d]⟩

theorem pdfWrite_accepted (writer : Bool) :
    writeQuarantinedObject samplesSha256 pdfRoot (pdfWrite (sampleUUID writer)) =
      .ok (pdfPublication writer) := by
  have passed : rejected samplesSha256 (pdfWrite (sampleUUID writer)) = false := by
    cases writer <;> decide
  have key : IsObjectKey "quarantine/a.pdf".toList :=
    ⟨by decide, by decide, by decide, by decide⟩
  have led : objectPath pdfRoot (pdfWrite (sampleUUID writer)).objectKey = .ok pdfPath :=
    objectPath_ok.mpr ⟨key, rfl⟩
  rw [writeQuarantinedObject, if_neg (by simp [passed]), led]
  rfl

/-- Nothing is stored and nobody has begun to write. -/
def emptyStorage : Publishing.State Path Bool UInt8 := ⟨fun _ => none, fun _ => .waiting⟩

/-- The second write is killed in the middle; the first is renamed and ends. -/
def pdfMoves : List (Move Path Bool) :=
  [.create true, .create false, .append false 2, .append true 5, .kill false, .rename true,
    .clean true]

theorem pdf_run : ∃ s', Run (Publishing.Step pdfPublication) emptyStorage pdfMoves s' ∧
    decide (s'.files pdfPath = some [0x25, 0x50, 0x44, 0x46, 0x2d]) = true :=
  Relational.replay_reaches (State.next pdfPublication) (fun _ _ _ => next_step) emptyStorage
    pdfMoves (fun s' => decide (s'.files pdfPath = some [0x25, 0x50, 0x44, 0x46, 0x2d])) (by decide)

theorem storage_atomic_pdf : ∃ s',
    Run (Publishing.Step pdfPublication) emptyStorage pdfMoves s' ∧
      s'.files pdfPath = some [0x25, 0x50, 0x44, 0x46, 0x2d] ∧
      (∀ writer, pdfMoves.countP (renames writer) ≤ 1 ∧
        (s'.phase writer = .finished true → pdfMoves.countP (renames writer) = 1)) ∧
      ∀ key, ¬ tmp <:+ key → readObject pdfRoot s'.files key =
        readObject pdfRoot (settle pdfPublication emptyStorage.files pdfMoves) key := by
  obtain ⟨s', run, stored⟩ := pdf_run
  have lasting : ∀ writer, ¬ tmp <:+ (pdfWrite (sampleUUID writer)).objectKey := by
    intro writer
    change ¬ tmp <:+ "quarantine/a.pdf".toList
    decide
  have uuids : ∀ writer, (sampleUUID writer).length = 36 := by decide
  have deleted : ∀ path, .remove path ∈ pdfMoves →
      ∃ key, deleteObject pdfRoot key = .ok path ∧ ¬ tmp <:+ key := by
    intro path member
    simp [pdfMoves] at member
  obtain ⟨reads, once, -⟩ := storage_atomic pdfWrite_accepted lasting uuids sampleUUID_distinct
    (fun _ => rfl) deleted run
  exact ⟨s', run, of_decide_eq_true stored, once, reads⟩

end SupplyChain.FileStorage
