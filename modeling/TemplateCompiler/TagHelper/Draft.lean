import TemplateCompiler.TagHelper.Metadata

/-!
# Drafts of tag helpers

A tag helper is first drafted by a provider, field by field, and then built into a descriptor,
which checks the draft and completes it.  A draft says nothing about whether it is sensible: names
may be blank, types unknown.  Empty texts stand for fields that were not given.
-/

namespace TemplateCompiler

/-- How the elements that a rule selects may be written. -/
inductive TagStructure where
  | unspecified
  | normalOrSelfClosing
  | withoutEndTag
  /-- A structure this language does not define. -/
  | unknown (ordinal : UInt8) (undefined : 2 < ordinal)
  deriving Repr, Inhabited

namespace TagStructure

def ofOrdinal (n : UInt8) : TagStructure :=
  if h : 2 < n then unknown n h
  else if n == 0 then unspecified else if n == 1 then normalOrSelfClosing else withoutEndTag

def ordinal : TagStructure → Nat
  | unspecified => 0
  | normalOrSelfClosing => 1
  | withoutEndTag => 2
  | unknown n _ => n.toNat

theorem ordinal_lt (x : TagStructure) : x.ordinal < 256 := by
  cases x with
  | unknown n _ => exact n.toNat_lt
  | _ => decide

theorem ordinal_injective {x y : TagStructure} (same : x.ordinal = y.ordinal) : x = y := by
  cases x <;> cases y <;> grind [ordinal, UInt8.lt_iff_toNat_lt, UInt8.toNat_inj]

instance : DecidableEq TagStructure := fun x y =>
  decidable_of_iff (x.ordinal = y.ordinal) ⟨ordinal_injective, congrArg ordinal⟩

def name : TagStructure → Text
  | normalOrSelfClosing => "normal-or-self-closing"
  | withoutEndTag => "without-end-tag"
  | _ => "unspecified"

/-- The structure of a name; any other name is unspecified. -/
def ofName (name : Text) : TagStructure :=
  if name == "normal-or-self-closing" then normalOrSelfClosing
  else if name == "without-end-tag" then withoutEndTag
  else unspecified

end TagStructure

/-- How the name of a required attribute is compared. -/
inductive NameComparison where
  | full
  /-- The written name has to start with the required one and go on. -/
  | leading
  /-- A comparison this language does not define: every name will do. -/
  | unknown (ordinal : UInt8) (undefined : 1 < ordinal)
  deriving Repr, Inhabited

namespace NameComparison

def ordinal : NameComparison → Nat
  | full => 0
  | leading => 1
  | unknown n _ => n.toNat

theorem ordinal_lt (x : NameComparison) : x.ordinal < 256 := by
  cases x with
  | unknown n _ => exact n.toNat_lt
  | _ => decide

theorem ordinal_injective {x y : NameComparison} (same : x.ordinal = y.ordinal) : x = y := by
  cases x <;> cases y <;> grind [ordinal, UInt8.lt_iff_toNat_lt, UInt8.toNat_inj]

instance : DecidableEq NameComparison := fun x y =>
  decidable_of_iff (x.ordinal = y.ordinal) ⟨ordinal_injective, congrArg ordinal⟩

def name : NameComparison → Text
  | leading => "prefix"
  | _ => "full"

/-- The comparison of a name; any other name compares in full. -/
def ofName (name : Text) : NameComparison := if name == "prefix" then leading else full

end NameComparison

/-- How the value of a required attribute is compared. -/
inductive ValueComparison where
  /-- Any value will do. -/
  | none
  | full
  | leading
  | trailing
  /-- A comparison this language does not define: no value will do. -/
  | unknown (ordinal : UInt8) (undefined : 3 < ordinal)
  deriving Repr, Inhabited

namespace ValueComparison

def ordinal : ValueComparison → Nat
  | none => 0
  | full => 1
  | leading => 2
  | trailing => 3
  | unknown n _ => n.toNat

theorem ordinal_lt (x : ValueComparison) : x.ordinal < 256 := by
  cases x with
  | unknown n _ => exact n.toNat_lt
  | _ => decide

theorem ordinal_injective {x y : ValueComparison} (same : x.ordinal = y.ordinal) : x = y := by
  cases x <;> cases y <;> grind [ordinal, UInt8.lt_iff_toNat_lt, UInt8.toNat_inj]

instance : DecidableEq ValueComparison := fun x y =>
  decidable_of_iff (x.ordinal = y.ordinal) ⟨ordinal_injective, congrArg ordinal⟩

def name : ValueComparison → Text
  | full => "full"
  | leading => "prefix"
  | trailing => "suffix"
  | _ => "none"

/-- The comparison of a name; any other name accepts any value. -/
def ofName (name : Text) : ValueComparison :=
  if name == "full" then full else if name == "prefix" then leading
  else if name == "suffix" then trailing else none

end ValueComparison

namespace TagHelper

/-- The draft of a parameter of a directive attribute. -/
structure ParameterDraft where
  kind : Text := []
  name : Text := []
  typeName : Text := []
  displayName : Text := []
  documentation : Text := []
  isEnum : Bool := false
  metadata : Metadata := {}
  deriving DecidableEq, Repr, Inhabited

/-- The draft of an attribute that markup can set. -/
structure AttributeDraft where
  /-- The kind of the attribute; empty for that of its tag helper. -/
  kind : Text := []
  name : Text := []
  typeName : Text := []
  /-- What the names of dictionary entries start with; empty if there are none. -/
  indexerStart : Text := []
  indexerTypeName : Text := []
  displayName : Text := []
  documentation : Text := []
  isEnum : Bool := false
  isDirectiveAttribute : Bool := false
  isEditorRequired : Bool := false
  parameters : List ParameterDraft := []
  metadata : Metadata := {}
  deriving DecidableEq, Repr, Inhabited

/-- The draft of an attribute that a rule requires. -/
structure RequiredAttributeDraft where
  name : Text := []
  nameComparison : NameComparison := .full
  value : Text := []
  valueComparison : ValueComparison := .none
  displayName : Text := []
  isDirectiveAttribute : Bool := false
  metadata : Metadata := {}
  deriving DecidableEq, Repr, Inhabited

/-- The draft of a rule that selects elements. -/
structure RuleDraft where
  tagName : Text := []
  parentTag : Text := []
  structure' : TagStructure := .unspecified
  attributes : List RequiredAttributeDraft := []
  deriving DecidableEq, Repr, Inhabited

/-- The draft of a child tag that a tag helper allows. -/
structure ChildTagDraft where
  name : Text := []
  displayName : Text := []
  deriving DecidableEq, Repr, Inhabited

/-- The draft of a tag helper, which is filled in field by field and then built.  Drafts come from a
pool and go back to it, and building one checks what was filled in and computes the digest. -/
structure Draft where
  kind : Text := []
  name : Text := []
  assembly : Text := []
  displayName : Text := []
  documentation : Text := []
  outputHint : Text := []
  caseSensitive : Bool := false
  fullyQualified : Bool := false
  rules : List RuleDraft := []
  attributes : List AttributeDraft := []
  childTags : List ChildTagDraft := []
  metadata : Metadata := {}
  deriving DecidableEq, Repr, Inhabited

end TagHelper

end TemplateCompiler
