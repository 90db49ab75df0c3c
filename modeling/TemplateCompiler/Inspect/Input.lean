import TemplateCompiler.Diagnostic.Basic
import TemplateCompiler.Digest.Fields
import TemplateCompiler.Directive.Standard
import TemplateCompiler.Json.Basic
import TemplateCompiler.Language.Options
import TemplateCompiler.Source.File

/-!
# Values described in JSON

A tool describes values by objects whose members may be left out: a member that is missing has the
zero value of its type.  A text is a string, or an object that holds its bytes in hexadecimal
digits if they are not well-formed.
-/

namespace TemplateCompiler

namespace Json

/-- The value of a member, or null. -/
def get (j : Json) (key : String) : Json := (j.member? key).getD .null

def has (j : Json) (key : String) : Bool := (j.member? key).isSome

def bytes (j : Json) : Text :=
  match j with
  | .string t => t
  | .object _ =>
    match Digest.readHex (((j.member? "hex").bind text?).getD []) with
    | .ok b => b
    | .error _ => []
  | _ => []

def str (j : Json) (key : String) : Text := (j.get key).bytes

/-- The well-formed text of a member. -/
def word (j : Json) (key : String) : String :=
  (String.fromUTF8? (j.str key).toByteArray).getD ""

def int (j : Json) (key : String) : Int := (j.get key).int?.getD 0

/-- The natural number a value is. -/
def natural (j : Json) : Nat := (j.int?.getD 0).toNat

/-- The natural number of a member. -/
def nat (j : Json) (key : String) : Nat := (j.get key).natural

/-- An integer reduced to a byte. -/
def wrap (n : Int) : UInt8 := (n % 256).toNat.toUInt8

/-- The integer of a member as an ordinal. -/
def ordinal (j : Json) (key : String) : UInt8 := wrap (j.int key)

/-- The truth value a value is. -/
def truth (j : Json) : Bool := match j with | .bool b => b | _ => false

/-- The truth value of a member. -/
def flag (j : Json) (key : String) : Bool := (j.get key).truth

def all (j : Json) (key : String) : List Json := (j.get key).items

def texts (j : Json) (key : String) : List Text := (j.all key).map bytes

/-- The text at a place of an array. -/
def textAt (j : Json) (i : Nat) : Text := ((j.items[i]?).getD .null).bytes

def span? (j : Json) : Option Span :=
  match j.items.map natural with
  | [file, start, stop] => some ⟨file, start, stop⟩
  | _ => none

def span (j : Json) (key : String) : Span := (j.get key).span?.getD .none

mutual

/-- Show texts that are not well-formed by their bytes. -/
def shown : Json → Json
  | .string t => if t.isWellFormed then .string t else .record [("hex", .string t.toHex)]
  | .array items => .array (shownItems items)
  | .object members => .object (shownMembers members)
  | j => j

/-- Show the items of an array. -/
def shownItems : List Json → List Json
  | [] => []
  | j :: js => shown j :: shownItems js

/-- Show the members of an object. -/
def shownMembers : List (Text × Json) → List (Text × Json)
  | [] => []
  | (key, j) :: ms => (key, shown j) :: shownMembers ms

end

end Json

/-- The directive that a value describes: a standard one by its keyword, or a new one. -/
def DirectiveDescriptor.ofJson (j : Json) : Except DirectiveError DirectiveDescriptor :=
  match j with
  | .string name =>
    match standard.find? fun d => d.keyword == name with
    | some d => .ok d
    | none => .error .emptyKeyword
  | _ => make (j.str "keyword") (.ofOrdinal (j.ordinal "kind"))
      { usage := .ofOrdinal (j.ordinal "usage"), displayName := j.str "display"
        description := j.str "desc"
        slots := (j.all "tokens").map fun t =>
          ⟨.ofOrdinal (t.ordinal "kind"), t.str "name", t.flag "optional"⟩ }

/-- The hashed field that a value describes; none for a negative size. -/
def Digest.Field.ofJson? (j : Json) : Option Digest.Field :=
  let v := j.get "v"
  let n : Int := v.int?.getD 0
  match j.word "t" with
  | "string" => some (.text v.bytes)
  | "optional" => some (.optional v.bytes)
  | "int" | "enum" => some (.int (Int64.ofInt n))
  | "uint" => some (.nat n.toNat.toUInt64)
  | "len" => if n < 0 then none else some (.size n.toNat)
  | "bool" => some (.bool v.truth)
  | "digest" => match Digest.read v.bytes with
    | .ok d => some (.digest d)
    | .error _ => none
  | "kind" => some (.record (Json.wrap n))
  | _ => some .null

def Diagnostic.ofJson (j : Json) : Diagnostic :=
  { severity := .ofOrdinal (j.ordinal "sev"), code := ⟨j.nat "code"⟩, message := j.str "msg"
    span? := (j.get "span").span?
    notes := (j.all "notes").map fun n => ⟨n.span "span", n.str "msg"⟩ }

def CodeOptions.ofJson (j : Json) : CodeOptions :=
  { indentSize := if j.has "indentSize" then Int64.ofInt (j.int "indentSize") else 4
    indentWithTabs := j.flag "tabs"
    lineEnd := .ofOrdinal (j.ordinal "newLine"), designTime := j.flag "designTime"
    rootNamespace := j.str "rootNamespace", suppressChecksum := j.flag "suppressChecksum"
    suppressMetadata := j.flag "suppressMetadata", suppressBody := j.flag "suppressBody" }

/-- A set with the file that a value describes, under a path. -/
def FileSet.addJson (s : FileSet) (j : Json) (path : Text) : FileSet × Nat :=
  let flags : FileFlags := ⟨j.ordinal "flags"⟩
  let content := j.str "content"
  if j.has "rel" then s.addRelative path (j.str "rel") content flags
  else s.add path content flags

end TemplateCompiler
