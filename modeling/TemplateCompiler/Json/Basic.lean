import TemplateCompiler.Text.Case

/-!
# JSON values

A value keeps the members of an object in the order in which they were written, repeated keys
included, and a number as it was written, so that a reader of a document can decide for itself
what a repetition or a fraction means.
-/

namespace TemplateCompiler

/-- A JSON value.  Numbers are kept by their literals, so that reading and writing one loses
nothing, and the members of an object are kept in their order with repetitions. -/
inductive Json where
  | null
  | bool (value : Bool)
  /-- A number by its literal. -/
  | number (literal : Text)
  | string (value : Text)
  | array (items : List Json)
  | object (members : List (Text × Json))
  deriving Inhabited

namespace Json

instance : Coe String Json := ⟨fun s => .string s⟩

instance : Coe Text Json := ⟨.string⟩

instance : Coe Bool Json := ⟨.bool⟩

/-- The number of a natural number. -/
def ofNat (n : Nat) : Json := .number (Text.ofNat n)

def ofInt (n : Int) : Json := .number (Text.ofInt n)

/-- The object of members with literal keys. -/
def record (members : List (String × Json)) : Json :=
  .object (members.map fun m => (Text.ofString m.1, m.2))

/-- The array of the images of a list's items. -/
def list {α : Type} (items : List α) (f : α → Json) : Json := .array (items.map f)

def orNull (value : Option Json) : Json := value.getD .null

def optional (key : String) (value : Option Json) : List (String × Json) :=
  value.toList.map fun v => (key, v)

/-- The value of a member; of repeated members the last counts. -/
def member? (key : Text) : Json → Option Json
  | object members => (members.reverse.find? fun m => m.1 == key).map Prod.snd
  | _ => none

/-- The items of an array; none for any other value. -/
def items : Json → List Json
  | array items => items
  | _ => []

/-- The members of an object; none for any other value. -/
def members : Json → List (Text × Json)
  | object members => members
  | _ => []

def digitsValue (digits : Text) : Nat :=
  digits.foldl (fun n b => 10 * n + (b.toNat - 0x30)) 0

/-- The integer that a literal of digits with an optional minus sign denotes. -/
def literalInt? (literal : Text) : Option Int :=
  match literal with
  | [] => none
  | b :: rest =>
    if b == '-'.toUInt8 then
      if !rest.isEmpty && rest.all (fun c => 0x30 ≤ c && c ≤ 0x39) then
        some (-(digitsValue rest : Int))
      else none
    else if literal.all (fun c => 0x30 ≤ c && c ≤ 0x39) then some (digitsValue literal) else none

def int? : Json → Option Int
  | number literal => literalInt? literal
  | _ => none

def text? : Json → Option Text
  | string value => some value
  | _ => none

end Json

end TemplateCompiler
