import TemplateCompiler.Cache.Store
import TemplateCompiler.Msgpack.Basic
import TemplateCompiler.Source.Disk

/-!
# Records of compilations

A record is what a compilation leaves behind for a later run on the same inputs: the output, and
whether there was anything to report.  Records are kept in packed form, one under each digest of
inputs.  A record of another schema counts as missing, and one that cannot be read is an error; a
session treats both as a miss.

On a disk, records lie in a directory of their own below the directory of the cache, each in a file
that is named after its digest.  Files with other names are none of the cache's business.
-/

namespace TemplateCompiler

/-- What a compilation leaves behind for later ones: the generated text and whatever a reader needs
to tell whether it may be used, which are the layout of the record, the digests of what was
compiled, and the outcome. -/
structure CacheRecord where
  schema : UInt16 := 0
  path : Text := []
  sourceDigest : Digest := .zero
  helperDigest : Digest := .zero
  output : Text := []
  diagnosticCount : Int := 0
  hasErrors : Bool := false

namespace CacheRecord

/-- The schema of the records that are written. -/
def currentSchema : UInt16 := 1

/-- The identity of a record: what was compiled, and the tag helpers in scope. -/
def key (r : CacheRecord) : Digest := r.sourceDigest.combine [r.helperDigest]

def packDigest (d : Digest) : Msgpack := .raw (Msgpack.binaryHeader d.bytes.length ++ d.bytes)

/-- The packed form of a record.  The schema takes its full width. -/
def pack (r : CacheRecord) : Text :=
  (Msgpack.map [
    (.text "Schema", .raw (0xCD :: Msgpack.bigEndian 2 r.schema.toNat)),
    (.text "Path", .text r.path),
    (.text "SourceChecksum", packDigest r.sourceDigest),
    (.text "TagHelperChecksum", packDigest r.helperDigest),
    (.text "Output", .text r.output),
    (.text "DiagnosticCount", .int r.diagnosticCount),
    (.text "HasErrors", .bool r.hasErrors)]).write

/-- The digest with its first bytes replaced.  There may be fewer bytes than the digest has, but not
more. -/
def overwrite? (d : Digest) (bytes : Text) : Option Digest :=
  if h : bytes.length ≤ 32 then
    some ⟨bytes ++ d.bytes.drop bytes.length, by
      have := d.length_bytes
      simp only [List.length_append, List.length_drop]
      omega⟩
  else none

def unpackDigest? (old : Digest) (v : Msgpack) : Option Digest := do overwrite? old (← v.text?)

def fields : List (String × (CacheRecord → Msgpack → Option CacheRecord)) :=
  [("Schema", fun r v => v.int?.map fun n => { r with schema := (n % 65536).toNat.toUInt16 }),
    ("Path", fun r v => v.text?.map fun t => { r with path := t }),
    ("SourceChecksum", fun r v =>
      (unpackDigest? r.sourceDigest v).map fun d => { r with sourceDigest := d }),
    ("TagHelperChecksum", fun r v =>
      (unpackDigest? r.helperDigest v).map fun d => { r with helperDigest := d }),
    ("Output", fun r v => v.text?.map fun t => { r with output := t }),
    ("DiagnosticCount", fun r v => v.int?.map fun n => { r with diagnosticCount := n }),
    ("HasErrors", fun r v => v.bool?.map fun b => { r with hasErrors := b })]

/-- Read the packed form of a record. -/
def unpack? (t : Text) : Option CacheRecord := do Msgpack.record? {} fields (← Msgpack.read? t)

end CacheRecord

/-- Packed records by the digest of what went into them.  A cache whose directory cannot be made
still answers from what it has, and nothing is written to it. -/
structure RecordCache where
  contents : Store Text := {}
  /-- Why nothing can be written, if so. -/
  closed? : Option Text := none

namespace RecordCache

instance : Inhabited RecordCache := ⟨{}⟩

/-- A stored content is not the packed form of a record. -/
structure Unreadable where
  key : Digest

/-- The record under a digest, if there is one of the current schema. -/
def read (c : RecordCache) (key : Digest) : Except Unreadable (Option CacheRecord) :=
  match c.contents.get? key with
  | none => .ok none
  | some content => match CacheRecord.unpack? content with
    | none => .error ⟨key⟩
    | some r => .ok (if r.schema == CacheRecord.currentSchema then some r else none)

/-- The cache with a record under a digest.  Records are written with the current schema. -/
def write (c : RecordCache) (key : Digest) (r : CacheRecord) : RecordCache :=
  { c with contents := c.contents.put key { r with schema := CacheRecord.currentSchema }.pack }

end RecordCache

/-! ## Records on disk -/

namespace RecordCache

def recordExtension : Text := ".mp"

def recordPlace (directory : Text) : Text := Path.join [directory, "docs"]

/-- The name of the file of a digest. -/
def recordName (key : Digest) : Text := key.hex ++ recordExtension

/-- The digest that a file is named after. -/
def keyOfName? (name : Text) : Option Digest := do
  let key ← (Digest.read (← name.stripEnd? recordExtension)).toOption
  if recordName key == name then some key else none

/-- The records of a directory.  They cannot be written if there is no way to make their place a
directory. -/
def ofDisk (disk : Disk) (directory : Text) : RecordCache :=
  let place := recordPlace directory
  { contents := ⟨disk.files.filterMap fun (path, content) => do
      let key ← keyOfName? (← path.stripStart? (place ++ "/"))
      return (key, content)⟩
    closed? := match disk.makeDirectories place with
      | .ok _ => none
      | .error failure => some failure.message }

/-- The disk with the records of a directory as the cache has them. -/
def save (c : RecordCache) (disk : Disk) (directory : Text) : Disk :=
  c.contents.entries.foldr (fun (key, content) disk =>
    disk.put (Path.join [recordPlace directory, recordName key]) content) disk

end RecordCache

end TemplateCompiler
