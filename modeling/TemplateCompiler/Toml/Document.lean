import TemplateCompiler.Toml.Statement

/-!
# Configuration documents

The statements of a TOML file, carried out one after another, build a tree of tables.  A table that
was only implied, by a longer header or a dotted key, may be opened once afterwards; an array may
be given again; anything else has one definition.  Beside the tree a document keeps the keys that
were written, in their order.
-/

namespace TemplateCompiler

namespace Toml

/-- A value of a configuration document.  Dates and times are kept as they are written, for no key
of a configuration asks for one. -/
inductive Value where
  | string (value : Text)
  | integer (value : Int)
  | fraction (literal : Text)
  | bool (value : Bool)
  | moment (literal : Text)
  | array (items : List Value)
  | table (entries : List (Text × Value))
  /-- The tables that headers of one name opened. -/
  | elements (tables : List (List (Text × Value)))
  deriving Inhabited

/-- The entries of a table, in the order in which they were made. -/
abbrev Table := List (Text × Value)

namespace Table

def get? (t : Table) (key : Text) : Option Value := (t.find? fun e => e.1 == key).map Prod.snd

def set (t : Table) (key : Text) (value : Value) : Table :=
  if t.any fun e => e.1 == key then t.map fun e => if e.1 == key then (key, value) else e
  else t ++ [(key, value)]

/-- The table that a key leads to; of several tables under one key the last. -/
def child? (t : Table) (key : Text) : Option Table :=
  match get? t key with
  | some (.table entries) => some entries
  | some (.elements tables) => tables.getLast?
  | _ => none

def at? (t : Table) (path : List Text) : Option Table := path.foldlM child? t

/-- The table with the table that a key leads to replaced. -/
def setChild (t : Table) (key : Text) (new : Table) : Table :=
  match get? t key with
  | some (.elements tables) => set t key (.elements (tables.dropLast ++ [new]))
  | _ => set t key (.table new)

/-- The table with a value under a key of the table that a path leads to. -/
def setAt? (t : Table) (key : Text) (value : Value) : List Text → Option Table
  | [] => some (set t key value)
  | step :: path => do
    let inner ← child? t step
    let inner ← setAt? inner key value path
    return setChild t step inner

end Table

/-! ## Carrying out statements -/

/-- A document under construction. -/
structure Assembly where
  root : Table := []
  /-- The path of the open table. -/
  context : List Text := []
  /-- The key that is being given a value. -/
  current : Text := []
  /-- The paths whose latest value is a written array. -/
  arrays : List (List Text) := []
  /-- The paths of tables that were only implied. -/
  implied : List (List Text) := []
  /-- The keys as they were written. -/
  keys : List (List Text) := []

namespace Assembly

/-- Note whether the value of a key of the open table, or the open table itself, is an array. -/
def setKind (a : Assembly) (key : Text) (isArray : Bool) : Assembly :=
  let path := if key.isEmpty then a.context else a.context ++ [key]
  let path := if path.isEmpty then [[]] else path
  let others := a.arrays.filter (· != path)
  { a with arrays := if isArray then path :: others else others }

/-- Give a key of the open table a value. -/
def define? (a : Assembly) (key : Text) (value : Value) : Option Assembly := do
  let path := a.context ++ [key]
  let table ← a.root.at? a.context
  let settled := { a with implied := a.implied.filter (· != path) }
  match table.get? key with
  | none => return { a with root := ← a.root.setAt? key value a.context }
  | some _ =>
    if a.arrays.contains path then
      return { settled with root := ← a.root.setAt? key value a.context }
    else if a.implied.contains path then return settled
    else none

/-- Make sure that a path leads to a table; one that is missing is implied. -/
def imply? (a : Assembly) (path : List Text) : Option Assembly := do
  let key ← path.getLast?
  let outer := path.dropLast
  let table ← a.root.at? outer
  match table.get? key with
  | none =>
    return { a with root := ← a.root.setAt? key (.table []) outer, implied := path :: a.implied }
  | some (.table _) | some (.elements _) => return a
  | _ => none

/-- Add a table to those that headers of one name opened. -/
def append? (a : Assembly) (key : Text) : Option Assembly := do
  let table ← a.root.at? a.context
  let tables ← match table.get? key with
    | none => some []
    | some (.elements tables) => some tables
    | _ => none
  return { a with root := ← a.root.setAt? key (.elements (tables ++ [[]])) a.context }

/-- The paths to the tables around the last key of a path, outermost first. -/
def outerPaths (path : List Text) : List (List Text) :=
  (List.range (path.length - 1)).map fun n => path.take (n + 1)

/-- Open the table of a path, or the next one of an array of tables. -/
def enter? (a : Assembly) (path : List Text) (element : Bool) : Option Assembly := do
  let key ← path.getLast?
  let a ← (outerPaths path).foldlM imply? a
  let a := { a with context := path.dropLast }
  let a ← if element then a.append? key else a.define? key (.table [])
  return { a with context := path }

/-- Open a table inside the open one that a dotted key implies. -/
def enterImplied? (a : Assembly) (key : Text) : Option Assembly :=
  let path := a.context ++ [key]
  { a with implied := path :: a.implied }.enter? path false

/-- Open the tables that all but the last part of a dotted key imply, and note the key. -/
def enterKey? (a : Assembly) (key : List Text) : Option Assembly := do
  let last ← key.getLast?
  let a ← key.dropLast.foldlM enterImplied? a
  return { a with current := last, keys := a.keys ++ [a.context ++ [last]] }

def isArray : Written → Bool
  | .array _ => true
  | _ => false

mutual

/-- The value that a written one stands for.  A table inside an array is the next element of the
key's tables while it is read. -/
def value? (a : Assembly) (inArray : Bool) : Written → Option (Assembly × Value)
  | .string value => some (a, .string value)
  | .integer value => some (a, .integer value)
  | .fraction literal => some (a, .fraction literal)
  | .bool value => some (a, .bool value)
  | .moment literal => some (a, .moment literal)
  | .array items => do
    let (a, values) ← items? (a.setKind a.current true) items
    return (a, .array values)
  | .table entries => do
    let path := a.context ++ [a.current]
    let inside ← { a with implied := path :: a.implied, current := [] }.enter? path inArray
    let (done, values) ← entries? inside path [] entries
    return ({ done with context := a.context, current := a.current }, .table values)

/-- The values of the items of an array. -/
def items? (a : Assembly) : List Written → Option (Assembly × List Value)
  | [] => some (a, [])
  | w :: ws => do
    let (a, v) ← value? a true w
    let (a, vs) ← items? a ws
    return (a, v :: vs)

/-- The values of the entries of a table on one line, by the last parts of their keys. -/
def entries? (a : Assembly) (path : List Text) (values : Table) :
    List (List Text × Written) → Option (Assembly × Table)
  | [] => some (a, values)
  | (key, w) :: rest => do
    let a ← a.enterKey? key
    let (a, v) ← value? a false w
    let a ← a.define? a.current v
    let values := values.set a.current v
    entries? { a.setKind a.current (isArray w) with context := path } path values rest

end

def run? (a : Assembly) : Statement → Option Assembly
  | .table key => do
    let a ← a.enter? key false
    return { a.setKind [] false with keys := a.keys ++ [key] }
  | .element key => do
    let a ← a.enter? key true
    return { a.setKind [] false with keys := a.keys ++ [key] }
  | .assign key w => do
    let outer := a.context
    let a ← a.enterKey? key
    let (a, v) ← a.value? false w
    let a ← a.define? a.current v
    return { a.setKind a.current (isArray w) with context := outer, current := [] }

end Assembly

/-- A configuration document, as a table of values that may be tables themselves. -/
structure Document where
  root : Table := []
  /-- The keys that were written, in order. -/
  keys : List (List Text) := []

def Document.read? (t : Text) : Option Document := do
  let statements ← Toml.read? t
  let a ← statements.foldlM Assembly.run? ({} : Assembly)
  return ⟨a.root, a.keys⟩

/-! ## Texts of keys -/

/-- How a byte of a quoted key is written. -/
def quotedKeyByte (b : UInt8) : Text :=
  if b == '"'.toUInt8 then "\\\""
  else if b == '\\'.toUInt8 then "\\\\"
  else if b == 0x08 then "\\b"
  else if b == 0x09 then "\\t"
  else if b == 0x0A then "\\n"
  else if b == 0x0C then "\\f"
  else if b == 0x0D then "\\r"
  else if b < 0x20 || b == 0x7F then "\\u" ++ Text.ofNatHex 4 b.toNat
  else [b]

/-- One part of a key, in quotation marks where it needs them. -/
def keyPartText (part : Text) : Text :=
  if !part.isEmpty && part.all isBareKeyByte then part
  else "\"" ++ part.flatMap quotedKeyByte ++ "\""

def keyText (key : List Text) : Text := Text.join "." (key.map keyPartText)

end Toml

end TemplateCompiler
