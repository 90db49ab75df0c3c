import TemplateCompiler.Binding.Match
import TemplateCompiler.Cache.Store

/-!
# Binding elements to tag helpers

A binder holds the tag helpers in scope and the text that elements have to start with to be bound.
It finds the tag helpers of an element through an index: under the names of their rules in lower
case, and, for the rules that select every element, in a list of their own.
-/

namespace TemplateCompiler

/-- The tag helpers in scope of a document, with the text that the names of bound elements have to
start with.  Binders with the same digest stand for each other, so that an engine keeps one of each.
-/
structure Binder where
  /-- What the names of bound elements start with; empty if nothing is required. -/
  tagStart : Text := []
  helpers : List TagHelper := []

namespace Binder

instance : Inhabited Binder := ⟨{}⟩

/-- The fields that identify a binder. -/
def digest (b : Binder) : Digest :=
  .ofFields ([.record 'B'.toUInt8, .text b.tagStart, .size b.helpers.length]
    ++ b.helpers.map fun d => .digest d.digest)

/-- The binder that the documents of an engine share: the one that stands under the digest, or else
this one, which is kept there. -/
def shared (b : Binder) (kept : Store Binder) : Store Binder × Binder :=
  kept.getOrAdd b.digest fun _ => b

/-- The name of an element without the required start; nothing if it does not have it or consists
of nothing else. -/
def strip? (b : Binder) (tagName : Text) : Option Text :=
  if b.tagStart.isEmpty then some tagName
  else if b.tagStart.length < tagName.length
      && Text.equalFold (tagName.take b.tagStart.length) b.tagStart then
    some (tagName.drop b.tagStart.length)
  else none

/-- The name without the required start, or as it is. -/
def strip (b : Binder) (tagName : Text) : Text := (b.strip? tagName).getD tagName

end Binder

/-- The tag helpers of one element, each with the rules that selected it. -/
structure ElementBinding where
  tagName : Text
  parentTag : Text
  attributes : List Binding.WrittenAttribute
  tagStart : Text
  matched : List (TagHelper × List TagHelper.Rule)
  deriving DecidableEq

namespace ElementBinding

def helpers (b : ElementBinding) : List TagHelper := b.matched.map Prod.fst

/-- Whether only rules that select every element matched: the element itself is then no tag
helper, only some of its attributes are. -/
def isAttributeMatch (b : ElementBinding) : Bool :=
  b.matched.all fun m => m.2.all TagHelper.Rule.isCatchAll

/-- The first structure that a matched rule asks for. -/
def tagStructure (b : ElementBinding) : TagStructure :=
  (((b.matched.flatMap Prod.snd).map TagHelper.Rule.structure').find? (· != .unspecified)).getD
    .unspecified

end ElementBinding

namespace Binder

/-! ## The index -/

/-- Where the tag helpers of a binder are found, by their positions. -/
structure Index where
  /-- Each rule's name in lower case, with the tag helpers that have such a rule. -/
  byName : List (Text × List Nat) := []
  /-- The tag helpers with a rule that selects every element. -/
  catchAll : List Nat := []
  deriving DecidableEq, Repr

namespace Index

/-- Add a position to a list, unless it was the last one added. -/
def appendOnce (found : List Nat) (i : Nat) : List Nat :=
  if found.getLast? == some i then found else found ++ [i]

/-- Add a position under a name. -/
def fileUnder (key : Text) (i : Nat) : List (Text × List Nat) → List (Text × List Nat)
  | [] => [(key, [i])]
  | (k, found) :: rest =>
    if k == key then (k, appendOnce found i) :: rest else (k, found) :: fileUnder key i rest

/-- Enter one rule of the tag helper at a position. -/
def addRule (i : Nat) (x : Index) (rule : TagHelper.Rule) : Index :=
  if rule.isCatchAll then { x with catchAll := appendOnce x.catchAll i }
  else { x with byName := fileUnder rule.tagName.toLower i x.byName }

/-- Enter all rules of a tag helper. -/
def addHelper (x : Index) (entry : TagHelper × Nat) : Index :=
  entry.1.rules.foldl (addRule entry.2) x

/-- The index of tag helpers in the order of their registration. -/
def ofHelpers (helpers : List TagHelper) : Index := helpers.zipIdx.foldl addHelper {}

/-- The tag helpers that are entered under a name in lower case. -/
def named (x : Index) (key : Text) : List Nat := (x.byName.lookup key).getD []

/-- Add positions to a list, each unless it is there already. -/
def join (found more : List Nat) : List Nat :=
  more.foldl (fun found i => if found.contains i then found else found ++ [i]) found

/-- The tag helpers to look at for an element of a name, each once, in the order of their
registration. -/
def candidates (x : Index) (name : Text) : List Nat :=
  (join (x.named name.toLower) x.catchAll).mergeSort

end Index

/-- The index of a binder's tag helpers. -/
def index (b : Binder) : Index := .ofHelpers b.helpers

/-! ## Binding -/

/-- A tag helper with its rules that select an element, if there are any. -/
def matched? (name parent : Text) (attributes : List Binding.WrittenAttribute)
    (helper : TagHelper) : Option (TagHelper × List TagHelper.Rule) :=
  match helper.rules.filter fun r => Binding.selects r name parent attributes with
  | [] => none
  | rules => some (helper, rules)

/-- The tag helpers that apply to an element, or nothing if there are none.  The name of a parent
that is itself a tag helper is compared without the required start. -/
def bind? (b : Binder) (tagName : Text) (attributes : List Binding.WrittenAttribute)
    (parentTag : Text) (parentIsHelper : Bool) : Option ElementBinding :=
  match b.strip? tagName with
  | none => none
  | some name =>
    let parent := if parentIsHelper then b.strip parentTag else parentTag
    let matched := (b.index.candidates name).filterMap fun i =>
      (b.helpers[i]?).bind (matched? name parent attributes)
    if matched.isEmpty then none
    else some { tagName, parentTag, attributes, tagStart := b.tagStart, matched }

end Binder

end TemplateCompiler
