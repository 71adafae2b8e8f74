import SupplyChain.SafeXlsx.Zip

/-!
What the writer of the container writes, and that its reader reads it back: the local
records one after the other, the directory that names their offsets, the end record.
-/

namespace SupplyChain.SafeXlsx

open Buffers

variable {checksum : UInt32} {sizeOf nameLength localOffset count limit : Nat} {entry : ZipEntry}
  {entries : List ZipEntry}

/-! ## Headers -/

theorem localFields_adjacent : Adjacent 0 (localFields checksum sizeOf nameLength) := by
  simp [Adjacent, localFields]

theorem centralFields_adjacent :
    Adjacent 0 (centralFields checksum sizeOf nameLength localOffset) := by
  simp [Adjacent, centralFields]

theorem endFields_adjacent : Adjacent 0 (endFields count sizeOf localOffset) := by
  simp [Adjacent, endFields]

theorem size_localFields : size (localFields checksum sizeOf nameLength) = 30 := by
  simp [size, localFields]

theorem size_centralFields : size (centralFields checksum sizeOf nameLength localOffset) = 46 := by
  simp [size, centralFields]

theorem size_endFields : size (endFields count sizeOf localOffset) = 22 := by
  simp [size, endFields]

theorem localFields_fits (sized : sizeOf ≤ maxZipUint32) (named : nameLength ≤ 0xffff) :
    Fits (localFields checksum sizeOf nameLength) := by
  have sum := checksum.toNat_lt
  unfold maxZipUint32 at sized
  simp only [Fits, localFields, zipVersion, zipUtf8Flag, zipStoreMethod, dosTime, dosDate,
    List.forall_mem_cons, List.not_mem_nil, false_implies, implies_true, Nat.reducePow, Nat.reduceLT,
    true_and, and_true]
  omega

theorem centralFields_fits (sized : sizeOf ≤ maxZipUint32) (named : nameLength ≤ 0xffff)
    (placed : localOffset ≤ maxZipUint32) :
    Fits (centralFields checksum sizeOf nameLength localOffset) := by
  have sum := checksum.toNat_lt
  unfold maxZipUint32 at sized placed
  simp only [Fits, centralFields, zipVersion, zipUtf8Flag, zipStoreMethod, dosTime, dosDate,
    List.forall_mem_cons, List.not_mem_nil, false_implies, implies_true, Nat.reducePow, Nat.reduceLT,
    true_and, and_true]
  omega

theorem endFields_fits (counted : count ≤ maxZipEntries) (sized : sizeOf ≤ maxZipUint32)
    (placed : localOffset ≤ maxZipUint32) : Fits (endFields count sizeOf localOffset) := by
  unfold maxZipUint32 at sized placed
  unfold maxZipEntries at counted
  simp only [Fits, endFields, List.forall_mem_cons, List.not_mem_nil, false_implies, implies_true,
    Nat.reducePow, Nat.reduceLT, true_and, and_true]
  omega

theorem record_encode {fields : List Field} (adjacent : Adjacent 0 fields) (fits : Fits fields) :
    record (size fields) fields = .ok (encode fields) := by
  rw [record, writeAll_alloc adjacent fits]

/-! ## The writer -/

theorem crc32_reader (data : Bytes) : crc32 data = .ok (Reader.crc32 data) := by
  have step : ∀ value byte, crc32Byte value byte = .ok (Reader.crc32Byte value byte) := by
    intro value byte
    have length : crc32Table.length = 256 := by
      rw [crc32Table, List.length_map, List.length_range]
    have inside : ((value ^^^ byte.toUInt32) &&& 0xff).toNat < crc32Table.length := by
      rw [length, UInt32.toNat_and]
      exact Nat.lt_of_le_of_lt Nat.and_le_right (by decide)
    rw [crc32Byte, Reader.crc32Byte, List.getElem?_eq_getElem inside]
    rfl
  have folds : ∀ value, data.foldlM crc32Byte value = .ok (data.foldl Reader.crc32Byte value) := by
    induction data with
    | nil => intro value; rfl
    | cons byte rest ih =>
        intro value
        rw [List.foldlM_cons, step, List.foldl_cons]
        exact ih _
  rw [crc32, folds]
  rfl

def localRecord (entry : ZipEntry) : Bytes :=
  encode (localFields (Reader.crc32 entry.data) entry.data.length (utf8 entry.name).length) ++
    utf8 entry.name ++ entry.data

def centralRecord (localOffset : Nat) (entry : ZipEntry) : Bytes :=
  encode (centralFields (Reader.crc32 entry.data) entry.data.length (utf8 entry.name).length
    localOffset) ++ utf8 entry.name

def localArea (entries : List ZipEntry) : Bytes := entries.flatMap localRecord

/-- The directory of entries of which the first is at the given offset. -/
def directory : Nat → List ZipEntry → Bytes
  | _, [] => []
  | start, entry :: rest =>
      centralRecord start entry ++ directory (start + (localRecord entry).length) rest

theorem length_localRecord (entry : ZipEntry) :
    (localRecord entry).length = 30 + (utf8 entry.name).length + entry.data.length := by
  simp only [localRecord, List.length_append, length_encode, size_localFields]

theorem length_centralRecord (localOffset : Nat) (entry : ZipEntry) :
    (centralRecord localOffset entry).length = 46 + (utf8 entry.name).length := by
  simp only [centralRecord, List.length_append, length_encode, size_centralFields]

/-- The bytes of the entries themselves. -/
def dataSize (entries : List ZipEntry) : Nat := (entries.map fun entry => entry.data.length).sum

theorem zipOverhead_cons (fileName : String) (rest : List String) :
    zipOverhead (fileName :: rest) = 76 + 2 * (utf8 fileName).length + zipOverhead rest := by
  have shift : ∀ (names : List String) (total : Nat),
      names.foldl (fun total fileName =>
        total + 30 + (utf8 fileName).length + 46 + (utf8 fileName).length) total + 22 =
          total + zipOverhead names := by
    intro names
    induction names with
    | nil => intro total; rfl
    | cons name rest ih =>
        intro total
        have here := ih (total + 30 + (utf8 name).length + 46 + (utf8 name).length)
        have there := ih (22 + 30 + (utf8 name).length + 46 + (utf8 name).length)
        rw [List.foldl_cons, zipOverhead, List.foldl_cons]
        omega
  have first := shift rest (22 + 30 + (utf8 fileName).length + 46 + (utf8 fileName).length)
  rw [zipOverhead, List.foldl_cons]
  omega

theorem length_areas (start : Nat) (entries : List ZipEntry) :
    (localArea entries).length + (directory start entries).length + 22 =
      zipOverhead (entries.map ZipEntry.name) + dataSize entries := by
  induction entries generalizing start with
  | nil => rfl
  | cons entry rest ih =>
      have later := ih (start + (localRecord entry).length)
      have area : (localArea (entry :: rest)).length =
          (localRecord entry).length + (localArea rest).length := by
        rw [localArea, List.flatMap_cons, List.length_append]
        rfl
      have sizes : dataSize (entry :: rest) = entry.data.length + dataSize rest := by
        rw [dataSize, List.map_cons, List.sum_cons]
        rfl
      rw [area, sizes, directory, List.length_append, List.map_cons, zipOverhead_cons,
        length_centralRecord]
      rw [length_localRecord] at *
      omega

/-- The name of the entry is written in its headers. -/
def Storable (entry : ZipEntry) : Prop :=
  utf8 entry.name ≠ [] ∧ (utf8 entry.name).length ≤ 0xffff

theorem addEntry_total {parts : ZipParts} (storable : Storable entry)
    (sized : entry.data.length ≤ maxZipUint32) (placed : parts.localOffset ≤ maxZipUint32) :
    ∃ next, addEntry parts entry = .ok next ∧
      next.localParts.flatten = parts.localParts.flatten ++ localRecord entry ∧
      next.centralParts.flatten =
        parts.centralParts.flatten ++ centralRecord parts.localOffset entry ∧
      next.localOffset = parts.localOffset + (localRecord entry).length := by
  obtain ⟨filled, short⟩ := storable
  have named : (utf8 entry.name).length ≠ 0 := fun none => filled (List.length_eq_zero_iff.mp none)
  have accepted : ¬ ((utf8 entry.name).length = 0 ∨ 0xffff < (utf8 entry.name).length ∨
      maxZipUint32 < entry.data.length ∨ maxZipUint32 < parts.localOffset) := by
    omega
  have locals := @record_encode (localFields (Reader.crc32 entry.data) entry.data.length
    (utf8 entry.name).length) localFields_adjacent (localFields_fits sized short)
  have centrals := @record_encode (centralFields (Reader.crc32 entry.data) entry.data.length
    (utf8 entry.name).length parts.localOffset) centralFields_adjacent
      (centralFields_fits sized short placed)
  rw [size_localFields] at locals
  rw [size_centralFields] at centrals
  refine ⟨⟨parts.localParts ++ [encode (localFields (Reader.crc32 entry.data) entry.data.length
      (utf8 entry.name).length), utf8 entry.name, entry.data],
    parts.centralParts ++ [encode (centralFields (Reader.crc32 entry.data) entry.data.length
      (utf8 entry.name).length parts.localOffset), utf8 entry.name],
    parts.localOffset + (localRecord entry).length⟩, ?_, ?_, ?_, rfl⟩
  · rw [length_localRecord]
    simp only [addEntry, unavailableIf, if_neg accepted, crc32_reader, locals, centrals, bind,
      Except.bind, pure, Except.pure, length_encode, size_localFields]
  · rw [List.flatten_append, localRecord, List.append_assoc]
    simp only [List.flatten_cons, List.flatten_nil, List.append_nil]
  · rw [List.flatten_append, centralRecord]
    simp only [List.flatten_cons, List.flatten_nil, List.append_nil]

theorem localArea_cons (entry : ZipEntry) (rest : List ZipEntry) :
    localArea (entry :: rest) = localRecord entry ++ localArea rest := List.flatMap_cons

theorem addEntries_total {parts : ZipParts} (storable : ∀ entry ∈ entries, Storable entry)
    (placed : parts.localOffset + (localArea entries).length ≤ maxZipUint32) :
    ∃ last, entries.foldlM addEntry parts = .ok last ∧
      last.localParts.flatten = parts.localParts.flatten ++ localArea entries ∧
      last.centralParts.flatten =
        parts.centralParts.flatten ++ directory parts.localOffset entries ∧
      last.localOffset = parts.localOffset + (localArea entries).length := by
  induction entries generalizing parts with
  | nil => exact ⟨parts, rfl, (List.append_nil _).symm, (List.append_nil _).symm, rfl⟩
  | cons entry rest ih =>
      rw [localArea_cons, List.length_append] at placed
      have sized : entry.data.length ≤ maxZipUint32 := by
        rw [length_localRecord] at placed
        omega
      obtain ⟨next, added, locals, centrals, offset⟩ := @addEntry_total entry parts
        (storable entry List.mem_cons_self) sized (by omega)
      obtain ⟨last, rests, localsRest, centralsRest, offsetRest⟩ := @ih next
        (fun other member => storable other (List.mem_cons_of_mem entry member)) (by omega)
      refine ⟨last, ?_, ?_, ?_, ?_⟩
      · rw [List.foldlM_cons, added]
        exact rests
      · rw [localsRest, locals, localArea_cons, List.append_assoc]
      · rw [centralsRest, centrals, offset, directory, List.append_assoc]
      · rw [offsetRest, offset, localArea_cons, List.length_append]
        omega

/-- The file: the local records, the directory, the end record. -/
def archive (entries : List ZipEntry) : Bytes :=
  localArea entries ++ directory 0 entries ++
    encode (endFields entries.length (directory 0 entries).length (localArea entries).length)

theorem length_archive (entries : List ZipEntry) :
    (archive entries).length = zipOverhead (entries.map ZipEntry.name) + dataSize entries := by
  have areas := length_areas 0 entries
  simp only [archive, List.length_append, length_encode, size_endFields]
  exact areas

/-- Entries within the budget, and the budget within what an offset can say: no check of
the writer fails. -/
theorem storedZip_archive (filled : entries ≠ []) (counted : entries.length ≤ maxZipEntries)
    (storable : ∀ entry ∈ entries, Storable entry)
    (budget : zipOverhead (entries.map ZipEntry.name) + dataSize entries ≤ limit)
    (bounded : limit ≤ maxZipUint32) : storedZip entries limit = .ok (archive entries) := by
  have length := length_archive entries
  have areas := length_areas 0 entries
  obtain ⟨parts, added, locals, centrals, offset⟩ := @addEntries_total entries ⟨[], [], 0⟩ storable
    (by dsimp only; omega)
  simp only [List.flatten_nil, List.nil_append, Nat.zero_add] at locals centrals offset
  have accepted : ¬ (entries = [] ∨ maxZipEntries < entries.length) := by
    rintro (none | many)
    · exact filled none
    · omega
  have addressed : ¬ (maxZipUint32 < (localArea entries).length ∨
      maxZipUint32 < (directory 0 entries).length) := by
    omega
  have finish := @record_encode (endFields entries.length (directory 0 entries).length
    (localArea entries).length) endFields_adjacent (endFields_fits counted (by omega) (by omega))
  rw [size_endFields] at finish
  have within : ¬ ((archive entries).length = 0 ∨ limit < (archive entries).length) := by
    omega
  rw [archive] at within
  simp only [storedZip, unavailableIf, if_neg accepted, added, locals, centrals, offset,
    if_neg addressed, finish, if_neg within, bind, Except.bind, pure, Except.pure, archive]

/-! ## The reader -/

open Reader

section Reading

variable {decode : Bytes → String} {buffer front back before between after : Bytes}
  {files : List (String × Bytes)} {fields : List Field} {width value offset : Nat}

theorem readUInt_record (adjacent : Adjacent 0 fields) (fits : Fits fields)
    (split : buffer = front ++ encode fields ++ back) (member : ⟨width, value, offset⟩ ∈ fields) :
    readUInt width buffer (front.length + offset) = .ok value := by
  have found := @read_record front back fields ⟨width, value, offset⟩ adjacent fits member
  rw [readUInt, split, found]

/-- The reader takes the next entry out of the directory and the local area. -/
theorem readEntry_record (decodes : ∀ text, decode (utf8 text) = text) (storable : Storable entry)
    (sized : entry.data.length ≤ maxZipUint32) (placed : before.length ≤ maxZipUint32)
    (fresh : entry.name ∉ files.map (·.1)) {centralOffset start : Nat}
    (inside : before.length + (localRecord entry).length ≤ centralOffset)
    (split : buffer = before ++ localRecord entry ++ between ++
      centralRecord before.length entry ++ after)
    (here : start = (before ++ localRecord entry ++ between).length) :
    readEntry decode buffer centralOffset ⟨files, start⟩ =
      .ok ⟨files ++ [(entry.name, entry.data)],
        start + (centralRecord before.length entry).length⟩ := by
  obtain ⟨-, short⟩ := storable
  subst here
  have centrals : buffer = before ++ localRecord entry ++ between ++
      encode (centralFields (Reader.crc32 entry.data) entry.data.length (utf8 entry.name).length
        before.length) ++ (utf8 entry.name ++ after) := by
    rw [split, centralRecord]
    simp only [List.append_assoc]
  have locals : buffer = before ++ encode (localFields (Reader.crc32 entry.data) entry.data.length
      (utf8 entry.name).length) ++ (utf8 entry.name ++ entry.data ++ between ++
        centralRecord before.length entry ++ after) := by
    rw [split, localRecord]
    simp only [List.append_assoc]
  have central := fun width value offset => @readUInt_record buffer _ _ _ width value offset
    centralFields_adjacent (centralFields_fits sized short placed) centrals
  have locally := fun width value offset => @readUInt_record buffer _ _ _ width value offset
    localFields_adjacent (localFields_fits sized short) locals
  have name : slice buffer ((before ++ localRecord entry ++ between).length + 46)
      ((before ++ localRecord entry ++ between).length + 46 + (utf8 entry.name).length) =
        utf8 entry.name := by
    rw [centrals, ← List.append_assoc, ← @size_centralFields (Reader.crc32 entry.data)
      entry.data.length (utf8 entry.name).length before.length, ← length_encode, ← List.length_append]
    exact slice_between
  have localName : slice buffer (before.length + 30)
      (before.length + 30 + (utf8 entry.name).length) = utf8 entry.name := by
    rw [locals, ← @size_localFields (Reader.crc32 entry.data) entry.data.length
      (utf8 entry.name).length, ← length_encode, ← List.length_append]
    simp only [List.append_assoc (utf8 entry.name)]
    rw [← List.append_assoc _ (utf8 entry.name)]
    exact slice_between
  have data : slice buffer (before.length + 30 + (utf8 entry.name).length)
      (before.length + 30 + (utf8 entry.name).length + entry.data.length) = entry.data := by
    rw [locals, ← @size_localFields (Reader.crc32 entry.data) entry.data.length
      (utf8 entry.name).length, ← length_encode, ← List.length_append, ← List.length_append]
    simp only [List.append_assoc (utf8 entry.name), List.append_assoc entry.data]
    rw [← List.append_assoc _ (utf8 entry.name), ← List.append_assoc _ entry.data]
    exact slice_between
  generalize (before ++ localRecord entry ++ between).length = start at central name ⊢
  have signature := central 4 0x02014b50 0 (by simp [centralFields])
  have flags := central 2 zipUtf8Flag 8 (by simp [centralFields])
  have method := central 2 zipStoreMethod 10 (by simp [centralFields])
  have checksum := central 4 (Reader.crc32 entry.data).toNat 16 (by simp [centralFields])
  have compressed := central 4 entry.data.length 20 (by simp [centralFields])
  have uncompressed := central 4 entry.data.length 24 (by simp [centralFields])
  have nameLength := central 2 (utf8 entry.name).length 28 (by simp [centralFields])
  have extraLength := central 2 0 30 (by simp [centralFields])
  have commentLength := central 2 0 32 (by simp [centralFields])
  have localOffset := central 4 before.length 42 (by simp [centralFields])
  have localSignature := locally 4 0x04034b50 0 (by simp [localFields])
  have localFlags := locally 2 zipUtf8Flag 6 (by simp [localFields])
  have localMethod := locally 2 zipStoreMethod 8 (by simp [localFields])
  have localChecksum := locally 4 (Reader.crc32 entry.data).toNat 14 (by simp [localFields])
  have localCompressed := locally 4 entry.data.length 18 (by simp [localFields])
  have localSize := locally 4 entry.data.length 22 (by simp [localFields])
  have localNameLength := locally 2 (utf8 entry.name).length 26 (by simp [localFields])
  have localExtraLength := locally 2 0 28 (by simp [localFields])
  rw [Nat.add_zero] at signature localSignature
  have marked : zipUtf8Flag &&& 0x0800 ≠ 0 := by decide
  have stored : zipStoreMethod = 0 := rfl
  have ends : before.length + 30 + (utf8 entry.name).length + entry.data.length ≤ centralOffset := by
    rw [length_localRecord] at inside
    omega
  simp only [readEntry, readUInt16LE, readUInt32LE, check, signature, flags, method, checksum,
    compressed, uncompressed, nameLength, extraLength, commentLength, localOffset, localSignature,
    localFlags, localMethod, localChecksum, localCompressed, localSize, localNameLength,
    localExtraLength, name, localName, data, decodes, if_pos marked, if_pos stored, if_pos ends,
    if_pos fresh, if_true, and_self, Nat.add_zero, bind, Except.bind, pure, Except.pure]
  rw [length_centralRecord, Nat.add_assoc]

theorem localArea_append (done rest : List ZipEntry) :
    localArea (done ++ rest) = localArea done ++ localArea rest := List.flatMap_append

theorem directory_append (start : Nat) (done rest : List ZipEntry) :
    directory start (done ++ rest) =
      directory start done ++ directory (start + (localArea done).length) rest := by
  induction done generalizing start with
  | nil => rfl
  | cons entry later ih =>
      rw [List.cons_append, directory, ih, directory, localArea_cons, List.length_append,
        List.append_assoc, Nat.add_assoc]

def ZipEntry.file (entry : ZipEntry) : String × Bytes := (entry.name, entry.data)

/-- The entries that can be stored and read: every name once, and all offsets in range. -/
structure Sound (entries : List ZipEntry) : Prop where
  storable : ∀ entry ∈ entries, Storable entry
  distinct : (entries.map ZipEntry.name).Nodup
  counted : entries.length ≤ maxZipEntries
  bounded : (localArea entries).length + (directory 0 entries).length ≤ maxZipUint32

theorem sized_of_mem (member : entry ∈ entries) :
    entry.data.length ≤ (localArea entries).length := by
  obtain ⟨done, rest, rfl⟩ := List.append_of_mem member
  rw [localArea_append, localArea_cons, List.length_append, List.length_append, length_localRecord]
  omega

theorem readEntries_rest (decodes : ∀ text, decode (utf8 text) = text) (sound : Sound entries)
    {done rest : List ZipEntry} (split : entries = done ++ rest) :
    readEntries decode (archive entries) (localArea entries).length rest.length
        ⟨done.map ZipEntry.file, (localArea entries).length + (directory 0 done).length⟩ =
      .ok ⟨entries.map ZipEntry.file,
        (localArea entries).length + (directory 0 entries).length⟩ := by
  induction rest generalizing done with
  | nil =>
      rw [List.append_nil] at split
      subst split
      rfl
  | cons entry rest ih =>
      have next : entries = (done ++ [entry]) ++ rest := by
        rw [split, List.append_assoc, List.singleton_append]
      have member : entry ∈ entries := by
        rw [split]
        exact List.mem_append_right done List.mem_cons_self
      have bounded := sound.bounded
      have sized := sized_of_mem member
      have area : localArea entries = localArea done ++ localRecord entry ++ localArea rest := by
        rw [split, localArea_append, localArea_cons, List.append_assoc]
      have lengths := congrArg List.length area
      simp only [List.length_append] at lengths
      have fresh : entry.name ∉ (done.map ZipEntry.file).map (·.1) := by
        have distinct := sound.distinct
        rw [split, List.map_append, List.nodup_append] at distinct
        rw [List.map_map]
        intro inside
        exact distinct.2.2 _ inside _ (List.mem_map_of_mem List.mem_cons_self) rfl
      have parts : archive entries = localArea done ++ localRecord entry ++
          (localArea rest ++ directory 0 done) ++ centralRecord (localArea done).length entry ++
            (directory ((localArea done).length + (localRecord entry).length) rest ++
              encode (endFields entries.length (directory 0 entries).length
                (localArea entries).length)) := by
        have central : directory 0 entries = directory 0 done ++
            (centralRecord (localArea done).length entry ++
              directory ((localArea done).length + (localRecord entry).length) rest) := by
          rw [split, directory_append, directory, Nat.zero_add]
        rw [archive]
        generalize encode _ = finish
        rw [area, central]
        simp only [List.append_assoc]
      have start : (localArea entries).length + (directory 0 done).length =
          (localArea done ++ localRecord entry ++ (localArea rest ++ directory 0 done)).length := by
        simp only [List.length_append]
        omega
      have read := @readEntry_record entry decode (archive entries) (localArea done) _ _
        (done.map ZipEntry.file) decodes (sound.storable entry member) (by omega) (by omega) fresh
        (localArea entries).length _ (by omega) parts start
      have advanced : (localArea entries).length + (directory 0 done).length +
          (centralRecord (localArea done).length entry).length =
            (localArea entries).length + (directory 0 (done ++ [entry])).length := by
        rw [directory_append, directory, directory, List.append_nil, List.length_append,
          Nat.zero_add, Nat.add_assoc]
      have files : done.map ZipEntry.file ++ [(entry.name, entry.data)] =
          (done ++ [entry]).map ZipEntry.file := by
        rw [List.map_append]
        rfl
      rw [advanced, files] at read
      rw [List.length_cons, readEntries, read]
      exact ih next

theorem searchEnd_here {least : Nat} (found : read buffer 4 offset = some 0x06054b50) :
    searchEnd buffer least offset = some offset := by
  cases offset with
  | zero => rw [searchEnd, if_pos found]
  | succ offset => rw [searchEnd, if_pos found]

theorem readStoredZip_archive (decodes : ∀ text, decode (utf8 text) = text)
    (sound : Sound entries) :
    readStoredZip decode (archive entries) = .ok (entries.map ZipEntry.file) := by
  have bounded := sound.bounded
  have split : archive entries = localArea entries ++ directory 0 entries ++
      encode (endFields entries.length (directory 0 entries).length (localArea entries).length) ++
        [] := by
    rw [List.append_nil, archive]
  have fits := @endFields_fits (directory 0 entries).length (localArea entries).length
    entries.length sound.counted (by omega) (by omega)
  have field := fun width value offset => @readUInt_record (archive entries) _ _ _ width value
    offset endFields_adjacent fits split
  have total : (archive entries).length = (localArea entries ++ directory 0 entries).length + 22 := by
    rw [archive, List.length_append, length_encode, size_endFields]
  have ends : (archive entries).length - 22 = (localArea entries ++ directory 0 entries).length := by
    omega
  have signature := @read_record (localArea entries ++ directory 0 entries) [] _
    ⟨4, 0x06054b50, 0⟩ endFields_adjacent fits (by simp [endFields])
  rw [← split, Nat.add_zero] at signature
  have found : findEndOfCentralDirectory (archive entries) =
      .ok (localArea entries ++ directory 0 entries).length := by
    have long : ¬ (archive entries).length < 22 := by omega
    rw [findEndOfCentralDirectory, if_neg long, ends, searchEnd_here signature]
  have read := readEntries_rest decodes sound (List.nil_append entries).symm
  rw [List.map_nil, directory, List.length_nil, Nat.add_zero] at read
  have disk := field 2 0 4 (by simp [endFields])
  have centralDisk := field 2 0 6 (by simp [endFields])
  have diskCount := field 2 entries.length 8 (by simp [endFields])
  have entryCount := field 2 entries.length 10 (by simp [endFields])
  have centralSize := field 4 (directory 0 entries).length 12 (by simp [endFields])
  have centralOffset := field 4 (localArea entries).length 16 (by simp [endFields])
  have commentLength := field 2 0 20 (by simp [endFields])
  have adds : (localArea entries).length + (directory 0 entries).length =
      (localArea entries ++ directory 0 entries).length := List.length_append.symm
  simp only [readStoredZip, found, readUInt16LE, readUInt32LE, check, disk, centralDisk, diskCount,
    entryCount, centralSize, centralOffset, commentLength, read, if_pos adds, if_true, bind,
    Except.bind, pure, Except.pure]

end Reading

end SupplyChain.SafeXlsx
