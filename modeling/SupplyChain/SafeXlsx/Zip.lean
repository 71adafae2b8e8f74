import Mathlib.Logic.Function.Iterate
import SupplyChain.Buffers

/-!
The container of a workbook: a ZIP file whose entries are stored as they are, as the
server writes it and as the reader of its tests reads it.
-/

namespace SupplyChain.SafeXlsx

open Buffers

/-! ## The writer -/

def maxZipEntries : Nat := 65535

def maxZipUint32 : Nat := 0xffffffff

def zipUtf8Flag : Nat := 0x0800

def zipStoreMethod : Nat := 0

def zipVersion : Nat := 20

def dosTime : Nat := 0

def dosDate : Nat := 0x0021

structure ZipEntry where
  name : String
  data : Bytes
  deriving DecidableEq

/-- "XLSX generation failed"; every other error is turned into it. -/
inductive SafeXlsxError
  | generationFailed
  deriving DecidableEq

abbrev Outcome := Except SafeXlsxError

def unavailable {α : Type} : Outcome α := .error .generationFailed

def unavailableIf (bad : Prop) [Decidable bad] : Outcome Unit :=
  if bad then unavailable else .ok ()

/-- `Buffer.from(value, "utf8")` -/
def utf8 (value : String) : Bytes := value.toByteArray.data.toList

def crc32Bit (value : UInt32) : UInt32 :=
  if value &&& 1 = 1 then (0xedb88320 : UInt32) ^^^ (value >>> 1) else value >>> 1

def crc32Table : List UInt32 :=
  (List.range 256).map fun index => crc32Bit^[8] (UInt32.ofNat index)

def crc32Byte (value : UInt32) (byte : UInt8) : Outcome UInt32 :=
  match crc32Table[((value ^^^ byte.toUInt32) &&& 0xff).toNat]? with
  | some tableValue => .ok (tableValue ^^^ (value >>> 8))
  | none => unavailable

def crc32 (data : Bytes) : Outcome UInt32 := do
  let value ← data.foldlM crc32Byte 0xffffffff
  return value ^^^ 0xffffffff

def zipOverhead (fileNames : List String) : Nat :=
  fileNames.foldl (fun total fileName =>
    total + 30 + (utf8 fileName).length + 46 + (utf8 fileName).length) 22

/-- A value or an offset out of range throws. -/
def record (size : Nat) (fields : List Field) : Outcome Bytes :=
  match writeAll (alloc size) fields with
  | some written => .ok written
  | none => unavailable

def localFields (checksum : UInt32) (size nameLength : Nat) : List Field :=
  [⟨4, 0x04034b50, 0⟩, ⟨2, zipVersion, 4⟩, ⟨2, zipUtf8Flag, 6⟩, ⟨2, zipStoreMethod, 8⟩,
    ⟨2, dosTime, 10⟩, ⟨2, dosDate, 12⟩, ⟨4, checksum.toNat, 14⟩, ⟨4, size, 18⟩, ⟨4, size, 22⟩,
    ⟨2, nameLength, 26⟩, ⟨2, 0, 28⟩]

def centralFields (checksum : UInt32) (size nameLength localOffset : Nat) : List Field :=
  [⟨4, 0x02014b50, 0⟩, ⟨2, zipVersion, 4⟩, ⟨2, zipVersion, 6⟩, ⟨2, zipUtf8Flag, 8⟩,
    ⟨2, zipStoreMethod, 10⟩, ⟨2, dosTime, 12⟩, ⟨2, dosDate, 14⟩, ⟨4, checksum.toNat, 16⟩,
    ⟨4, size, 20⟩, ⟨4, size, 24⟩, ⟨2, nameLength, 28⟩, ⟨2, 0, 30⟩, ⟨2, 0, 32⟩, ⟨2, 0, 34⟩,
    ⟨2, 0, 36⟩, ⟨4, 0, 38⟩, ⟨4, localOffset, 42⟩]

def endFields (count centralSize localOffset : Nat) : List Field :=
  [⟨4, 0x06054b50, 0⟩, ⟨2, 0, 4⟩, ⟨2, 0, 6⟩, ⟨2, count, 8⟩, ⟨2, count, 10⟩, ⟨4, centralSize, 12⟩,
    ⟨4, localOffset, 16⟩, ⟨2, 0, 20⟩]

structure ZipParts where
  localParts : List Bytes
  centralParts : List Bytes
  localOffset : Nat

def addEntry (parts : ZipParts) (entry : ZipEntry) : Outcome ZipParts := do
  let name := utf8 entry.name
  let size := entry.data.length
  unavailableIf (name.length = 0 ∨ 0xffff < name.length ∨ maxZipUint32 < size ∨
    maxZipUint32 < parts.localOffset)
  let checksum ← crc32 entry.data
  let localHeader ← record 30 (localFields checksum size name.length)
  let centralHeader ← record 46 (centralFields checksum size name.length parts.localOffset)
  return {
    localParts := parts.localParts ++ [localHeader, name, entry.data]
    centralParts := parts.centralParts ++ [centralHeader, name]
    localOffset := parts.localOffset + (localHeader.length + name.length + size) }

def storedZip (entries : List ZipEntry) (maximumBytes : Nat) : Outcome Bytes := do
  unavailableIf (entries = [] ∨ maxZipEntries < entries.length)
  let parts ← entries.foldlM addEntry ⟨[], [], 0⟩
  let centralDirectory := parts.centralParts.flatten
  unavailableIf (maxZipUint32 < parts.localOffset ∨ maxZipUint32 < centralDirectory.length)
  let finish ← record 22 (endFields entries.length centralDirectory.length parts.localOffset)
  let output := parts.localParts.flatten ++ centralDirectory ++ finish
  unavailableIf (output.length = 0 ∨ maximumBytes < output.length)
  return output

/-! ## The reader -/

namespace Reader

inductive ReadError
  | failed (message : String)
  | outOfRange
  deriving DecidableEq

abbrev Reading := Except ReadError

def check (condition : Prop) [Decidable condition] (message : String) : Reading Unit :=
  if condition then .ok () else .error (.failed message)

def readUInt (width : Nat) (buffer : Bytes) (offset : Nat) : Reading Nat :=
  match read buffer width offset with
  | some value => .ok value
  | none => .error .outOfRange

def readUInt16LE : Bytes → Nat → Reading Nat := readUInt 2

def readUInt32LE : Bytes → Nat → Reading Nat := readUInt 4

/-- An index that is out of range would read `undefined`, which counts as zero. -/
def crc32Byte (value : UInt32) (byte : UInt8) : UInt32 :=
  crc32Table[((value ^^^ byte.toUInt32) &&& 0xff).toNat]?.getD 0 ^^^ (value >>> 8)

def crc32 (data : Bytes) : UInt32 := data.foldl crc32Byte 0xffffffff ^^^ 0xffffffff

/-- The offsets from the given one down to the least, the first with the signature. -/
def searchEnd (buffer : Bytes) (minimumOffset : Nat) : Nat → Option Nat
  | 0 => if read buffer 4 0 = some 0x06054b50 then some 0 else none
  | offset + 1 =>
      if read buffer 4 (offset + 1) = some 0x06054b50 then some (offset + 1)
      else if offset < minimumOffset then none
      else searchEnd buffer minimumOffset offset

def findEndOfCentralDirectory (buffer : Bytes) : Reading Nat :=
  let found :=
    if buffer.length < 22 then none
    else searchEnd buffer (buffer.length - 65557) (buffer.length - 22)
  match found with
  | some offset => .ok offset
  | none => .error (.failed "ZIP end-of-central-directory record is missing")

/-- The files read so far, in the order in which they were set, and where the next central
header is. -/
structure Cursor where
  files : List (String × Bytes)
  offset : Nat
  deriving DecidableEq

variable (decode : Bytes → String)

def readEntry (buffer : Bytes) (centralOffset : Nat) (cursor : Cursor) : Reading Cursor := do
  let offset := cursor.offset
  let signature ← readUInt32LE buffer offset
  check (signature = 0x02014b50) "central header is invalid"
  let flags ← readUInt16LE buffer (offset + 8)
  let method ← readUInt16LE buffer (offset + 10)
  let checksum ← readUInt32LE buffer (offset + 16)
  let compressedSize ← readUInt32LE buffer (offset + 20)
  let size ← readUInt32LE buffer (offset + 24)
  let nameLength ← readUInt16LE buffer (offset + 28)
  let extraLength ← readUInt16LE buffer (offset + 30)
  let fileCommentLength ← readUInt16LE buffer (offset + 32)
  let localOffset ← readUInt32LE buffer (offset + 42)
  let nameStart := offset + 46
  let nameEnd := nameStart + nameLength
  let name := decode (slice buffer nameStart nameEnd)
  check (flags &&& 0x0800 ≠ 0) (name ++ " is not marked UTF-8")
  check (method = 0) (name ++ " is unexpectedly compressed")
  check (compressedSize = size) (name ++ " stored size differs")
  check (name ∉ cursor.files.map (·.1)) (name ++ " is duplicated")
  let localSignature ← readUInt32LE buffer localOffset
  check (localSignature = 0x04034b50) (name ++ " local header is invalid")
  let localFlags ← readUInt16LE buffer (localOffset + 6)
  check (localFlags = flags) (name ++ " flags differ")
  let localMethod ← readUInt16LE buffer (localOffset + 8)
  check (localMethod = method) (name ++ " method differs")
  let localChecksum ← readUInt32LE buffer (localOffset + 14)
  check (localChecksum = checksum) (name ++ " CRC differs")
  let localCompressedSize ← readUInt32LE buffer (localOffset + 18)
  let localSize ← readUInt32LE buffer (localOffset + 22)
  check (localCompressedSize = compressedSize ∧ localSize = size) (name ++ " local sizes differ")
  let localNameLength ← readUInt16LE buffer (localOffset + 26)
  let localExtraLength ← readUInt16LE buffer (localOffset + 28)
  let localNameStart := localOffset + 30
  let localNameEnd := localNameStart + localNameLength
  check (decode (slice buffer localNameStart localNameEnd) = name) (name ++ " local name differs")
  let dataStart := localNameEnd + localExtraLength
  let dataEnd := dataStart + size
  check (dataEnd ≤ centralOffset) (name ++ " data exceeds local file area")
  let data := slice buffer dataStart dataEnd
  check ((crc32 data).toNat = checksum) (name ++ " CRC32 is invalid")
  return ⟨cursor.files ++ [(name, data)], nameEnd + extraLength + fileCommentLength⟩

def readEntries (buffer : Bytes) (centralOffset : Nat) : Nat → Cursor → Reading Cursor
  | 0, cursor => .ok cursor
  | count + 1, cursor => do
      let next ← readEntry decode buffer centralOffset cursor
      readEntries buffer centralOffset count next

/-- `decode` is `toString("utf8")`. -/
def readStoredZip (buffer : Bytes) : Reading (List (String × Bytes)) := do
  let endOffset ← findEndOfCentralDirectory buffer
  let disk ← readUInt16LE buffer (endOffset + 4)
  check (disk = 0) "multi-disk ZIP is unsupported"
  let centralDisk ← readUInt16LE buffer (endOffset + 6)
  check (centralDisk = 0) "multi-disk ZIP is unsupported"
  let entryCount ← readUInt16LE buffer (endOffset + 10)
  let diskEntryCount ← readUInt16LE buffer (endOffset + 8)
  check (diskEntryCount = entryCount) "central-directory entry count differs"
  let centralSize ← readUInt32LE buffer (endOffset + 12)
  let centralOffset ← readUInt32LE buffer (endOffset + 16)
  let commentLength ← readUInt16LE buffer (endOffset + 20)
  check (commentLength = 0) "ZIP comment was not deterministic"
  check (centralOffset + centralSize = endOffset) "central-directory bounds are invalid"
  let cursor ← readEntries decode buffer centralOffset entryCount ⟨[], centralOffset⟩
  check (cursor.offset = endOffset) "central-directory size is invalid"
  return cursor.files

end Reader

/-- The check value of CRC-32. -/
example : Reader.crc32 (utf8 "123456789") = 0xcbf43926 := by decide +kernel

end SupplyChain.SafeXlsx
