import TemplateCompiler.Json.Basic

/-!
# Reading records from JSON

A record is read from an object field by field, in the order in which the members are written; keys
are compared without regard to case, and members that are no fields are ignored.  A null leaves a
text, a truth value or a number as it is, and empties a list.  A member that is repeated is read
again into what the earlier one left.

A value that has not the shape its place asks for is a `Mismatch`.  It says what was found, which
shape was expected, and under which record and along which keys.
-/

namespace TemplateCompiler

namespace Json

/-- The name of a kind of record within a group of kinds. -/
structure RecordName where
  group : String
  name : String

/-- The name of a kind of record with its group. -/
def RecordName.full (n : RecordName) : Text :=
  Text.ofString n.group ++ "." ++ Text.ofString n.name

/-- What a place of a record asks for. -/
inductive Shape where
  | text
  | truth
  | integer
  /-- Texts by key. -/
  | texts
  | record (name : RecordName)
  | list (item : Shape)

def Shape.name : Shape → Text
  | text => "string"
  | truth => "bool"
  | integer => "int"
  | texts => "map[string]string"
  | record name => name.full
  | list item => "[]" ++ item.name

/-- The word for what a value is. -/
def kindName : Json → Text
  | null => "null"
  | bool _ => "bool"
  | number _ => "number"
  | string _ => "string"
  | array _ => "array"
  | object _ => "object"

/-- A value of the wrong shape, with the place where it was found, from which the message for users
is put together. -/
structure Mismatch where
  found : Text
  expected : Shape
  /-- The record that has the field; none for the outermost value. -/
  owner? : Option RecordName := none
  /-- The keys that lead to the field from the outermost record. -/
  path : List String := []

namespace Mismatch

/-- The mismatch of a value as a whole. -/
def of (found : Json) (expected : Shape) : Mismatch := { found := found.kindName, expected }

/-- A mismatch seen from the record of which a field holds it.  The innermost record owns it. -/
def under (owner : RecordName) (key : String) (e : Mismatch) : Mismatch :=
  { e with owner? := e.owner?.or (some owner), path := key :: e.path }

def message (e : Mismatch) : Text :=
  "json: cannot unmarshal " ++ e.found ++ " into Go "
    ++ (match e.owner? with
      | some owner =>
        "struct field " ++ Text.ofString (String.intercalate "." (owner.name :: e.path))
      | none => "value")
    ++ " of type " ++ e.expected.name

end Mismatch

/-- How a value changes what was there before. -/
abbrev ReadValue (α : Type) := α → Json → Except Mismatch α

/-- A field of a record: its key, and how a value changes the record. -/
abbrev RecordField (α : Type) := String × ReadValue α

/-- Read the members of an object into a record. -/
def readInto {α : Type} (name : RecordName) (fields : List (RecordField α)) : ReadValue α
  | old, null => .ok old
  | old, object members =>
    members.foldlM (fun a (key, v) =>
      match fields.find? fun f => Text.equalFold (Text.ofString f.1) key with
      | some f => (f.2 a v).mapError (·.under name f.1)
      | none => .ok a) old
  | _, other => .error (.of other (.record name))

def readText : ReadValue Text
  | old, null => .ok old
  | _, string value => .ok value
  | _, other => .error (.of other .text)

def readBool : ReadValue Bool
  | old, null => .ok old
  | _, bool value => .ok value
  | _, other => .error (.of other .truth)

/-- Whether an integer has 64 bits. -/
def isInt64 (n : Int) : Bool := -9223372036854775808 ≤ n && n ≤ 9223372036854775807

/-- Read an integer of 64 bits.  The mismatch of any other number tells the number. -/
def readInt : ReadValue Int
  | old, null => .ok old
  | _, number literal =>
    match (literalInt? literal).filter isInt64 with
    | some n => .ok n
    | none => .error { found := "number " ++ literal, expected := .integer }
  | _, other => .error (.of other .integer)

/-- Read items one by one, each into the old item of its place. -/
def readItems {α : Type} (zero : α) (item : ReadValue α) : List α → List Json →
    Except Mismatch (List α)
  | _, [] => .ok []
  | old, v :: vs => do
    let x ← item (old.headD zero) v
    let xs ← readItems zero item old.tail vs
    return x :: xs

def readRecords {α : Type} (name : RecordName) (zero : α) (fields : List (RecordField α)) :
    ReadValue (List α)
  | _, null => .ok []
  | old, array items => readItems zero (readInto name fields) old items
  | _, other => .error (.of other (.list (.record name)))

/-- Read pairs of texts; none for null. -/
def readTexts : Json → Except Mismatch (List (Text × Text))
  | null => .ok []
  | object members => members.mapM fun (key, v) => (readText [] v).map fun t => (key, t)
  | other => .error (.of other .texts)

end Json

end TemplateCompiler
