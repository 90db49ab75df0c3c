import TemplateCompiler.Syntax.Node

/-!
# Binding tag helpers in a tree

An element that a tag helper selects becomes a tag helper node.  What an element may be bound to
depends on its name, its attributes and the element around it, so a `Scope` describes the
surrounding element while a tree is walked.  The body of a directive starts with an empty scope.

A tag helper node is left as it is, so binding a tree twice is binding it once.
-/

namespace TemplateCompiler

namespace Syntax

/-- The element around the nodes that are looked at, as far as binding the tag helpers inside of it
depends on it. -/
structure Scope where
  tagName : Text := []
  /-- The element is itself a tag helper, and does not merely have attributes of one. -/
  isHelper : Bool := false
  /-- The names of the children that are allowed; any child if there are none. -/
  allowed : List Text := []
  /-- The tag helper that restricts the children. -/
  owner : Text := []

/-- What binding depends on: the tag helpers in scope, and what the version of the language allows
in the elements of tag helpers. -/
structure HelperRules where
  binder : Binder
  features : LanguageFeatures

namespace HelperRules

/-- The attributes of an element as rules see them.  Code in the place of an attribute is none. -/
def writtenAttributes (attributes : List Attribute) : List Binding.WrittenAttribute :=
  (attributes.filter fun a => !a.isCode).map fun a =>
    { name := a.name, value := a.literalValue?.getD [], dynamic := a.literalValue?.isNone
      minimized := a.minimized }

/-- The names of the allowed children, for a message. -/
def allowedNames (scope : Scope) : Text := Text.join ", " scope.allowed

/-! ## Children -/

/-- The findings about an element among the children of its parent.  A parent that restricts its
children allows the names that its tag helpers list, without regard to the start that tag names have
to have. -/
def checkChild (r : HelperRules) (scope : Scope) (tag : StartTag) : List Diagnostic :=
  let name := r.binder.strip tag.name
  if scope.allowed.isEmpty
      || scope.allowed.any (fun a => a == TagHelper.catchAll || a.equalFold name) then []
  else
    [.error .invalidNestedTag tag.span
      ("the <" ++ tag.name ++ "> tag is not allowed by parent <" ++ scope.tagName
        ++ "> tag helper " ++ scope.owner ++ ", only child tags named " ++ allowedNames scope)]

/-- The findings about text among the children of its parent.  Text between the children of a parent
that restricts them has to be white space. -/
def checkText (scope : Scope) (span : Span) (text : Text) : List Diagnostic :=
  if scope.allowed.isEmpty || text.isAllBlank then []
  else
    [.error .invalidNestedTag span
      ("the parent <" ++ scope.tagName
        ++ "> tag helper does not allow non-tag content, only child tags named "
        ++ allowedNames scope)]

/-- The findings about a markup comment among the children of its parent. -/
def checkComment (r : HelperRules) (scope : Scope) (span : Span) : List Diagnostic :=
  if scope.allowed.isEmpty || r.features.commentsInTagHelpers then []
  else
    [.error .commentInTagHelper span
      ("the parent <" ++ scope.tagName ++ "> tag helper does not allow comments")]

/-! ## Tag structure -/

/-- The structures that the matched rules ask for, each with its tag helper. -/
def askedStructures (binding : ElementBinding) : List (TagStructure × TagHelper) :=
  binding.matched.flatMap fun m =>
    (m.2.filter fun rule => rule.structure' != .unspecified).map fun rule => (rule.structure', m.1)

/-- The findings about rules that ask for different structures.  The first rule that asks for one is
compared with all others, each of which that differs is reported. -/
def checkStructures (tag : StartTag) (binding : ElementBinding) : List Diagnostic :=
  match askedStructures binding with
  | [] => []
  | first :: others =>
    (others.filter fun other => other.1 != first.1).map fun other =>
      .error .inconsistentStructure tag.span
        ("tag helpers " ++ first.2.displayName ++ " and " ++ other.2.displayName ++ " targeting <"
          ++ tag.name ++ "> must not expect different tag structures")

/-- How an element was written, with the findings if the matched rules ask for another form. -/
def tagMode (tag : StartTag) (endTag? : Option Span) (binding : ElementBinding) :
    TagMode × List Diagnostic :=
  let conflicts := checkStructures tag binding
  if tag.selfClosing then (.selfClosing, conflicts)
  else if binding.tagStructure == .withoutEndTag then
    (.startOnly, conflicts ++ endTag?.toList.map fun span =>
      .error .inconsistentStructure span
        ("the <" ++ tag.name ++ "> tag helper must not have an end tag"))
  else if tag.void then (.startOnly, conflicts)
  else if endTag?.isNone then
    (.startOnly, conflicts ++ [.error .missingEndTag tag.span
      ("found a malformed <" ++ tag.name ++ "> tag helper, tag helpers must have a start and end"
        ++ " tag or be self closing")])
  else (.startAndEnd, conflicts)

/-! ## Attributes -/

/-- How an attribute is named in messages. -/
def attributeName (tag : StartTag) (a : Attribute) : Text :=
  "attribute " ++ a.name.quoted ++ " on tag helper element <" ++ tag.name ++ ">"

/-- The findings about an attribute that is the start of a dictionary's entries without a key. -/
def checkKey (tag : StartTag) (a : Attribute) (helper : TagHelper) : List Diagnostic :=
  (helper.attributes.filter fun bound => Binding.missesKey bound a.name).map fun bound =>
    .error .indexerMissingKey a.nameSpan
      ("the tag helper attribute " ++ a.name.quoted ++ " in element <" ++ tag.name
        ++ "> is missing a key, the syntax is <" ++ tag.name ++ " " ++ bound.indexerStart
        ++ "\x7b key \x7d=\"value\">")

/-- The finding about a parameter that a directive attribute does not have, where the attribute is
written with a sigil and a bound tag helper knows it by its name. -/
def checkParameter (tag : StartTag) (a : Attribute) (binding : ElementBinding) :
    List Diagnostic :=
  match Binding.splitParameter a.name with
  | (base, some parameter) =>
    let known := binding.helpers.any fun d => d.attributes.any fun bound =>
      bound.flags.isDirectiveAttribute && Binding.matchesName bound base
    if base.startsWith "@" && known then
      [.error .unknownParameter a.nameSpan
        ("the directive attribute " ++ base.quoted ++ " on <" ++ tag.name
          ++ "> has no parameter named " ++ parameter.quoted)]
    else []
  | (_, none) => []

/-- The finding about the value of an attribute that something governs.  Only truth values may be
left out, in versions that allow it, and only texts may be blank. -/
def checkValue (r : HelperRules) (tag : StartTag) (a : Attribute)
    (governs : Binding.AttributeMatch) : List Diagnostic :=
  if a.minimized then
    if !governs.expectsBoolean then
      [.error .minimizedNonBoolean a.nameSpan
        (attributeName tag a ++ " requires a value, tag helper bound attributes of type "
          ++ governs.typeName.quoted ++ " cannot be minimized")]
    else if !r.features.minimizedBooleanAttributes then
      [.error .minimizedNonBoolean a.nameSpan (attributeName tag a ++ " requires a value")]
    else []
  else if !governs.expectsString && a.literalValue?.any Text.isAllBlank then
    [.error .emptyBoundValue a.nameSpan
      (attributeName tag a ++ " requires a value, tag helper bound attributes of type "
        ++ governs.typeName.quoted ++ " cannot be empty or contain only whitespace")]
  else []

def bindAttribute (r : HelperRules) (tag : StartTag) (binding : ElementBinding) (a : Attribute) :
    HelperAttribute × List Diagnostic :=
  let bound := binding.helpers.flatMap fun d =>
    (Binding.governing d a.name).map fun governs => ⟨d, governs⟩
  let found := match bound with
    | [] => checkParameter tag a binding
    | b :: _ => r.checkValue tag a b.governs
  ({ span := a.span, name := a.name, value := a.value, minimized := a.minimized
     quote? := a.quote?, bound },
    binding.helpers.flatMap (checkKey tag a) ++ found)

/-- Bind the attributes of an element.  Code in the place of an attribute is reported and dropped. -/
def bindAttributes (r : HelperRules) (tag : StartTag) (binding : ElementBinding) :
    List Attribute → List HelperAttribute × List Diagnostic
  | [] => ([], [])
  | a :: rest =>
    let (bound, found) := r.bindAttributes tag binding rest
    if a.isCode then
      (bound, .error .codeInAttributeArea a.span
        ("the <" ++ tag.name
          ++ "> tag helper must not have code in the attribute area of its start tag") :: found)
    else
      let (b, here) := r.bindAttribute tag binding a
      (b :: bound, here ++ found)

/-! ## Nodes -/

def bind? (r : HelperRules) (scope : Scope) (tag : StartTag) : Option ElementBinding :=
  if tag.optOut then none
  else r.binder.bind? tag.name (writtenAttributes tag.attributes) scope.tagName scope.isHelper

/-- The scope of the children of a bound element.  Only tag helpers that list allowed children
restrict them, and messages speak of the last of these. -/
def innerScope (tag : StartTag) (binding : ElementBinding) : Scope :=
  let restricting := binding.helpers.filter fun d => !d.childTags.isEmpty
  { tagName := tag.name, isHelper := !binding.isAttributeMatch
    allowed := restricting.flatMap fun d => d.childTags.map (·.name)
    owner := (restricting.getLast?.map TagHelper.displayName).getD [] }

mutual

/-- Bind the elements of a node, with the findings in the order of the tree.  An element that a rule
selects becomes a tag helper node with the same span and body; its children are bound in the scope
that it opens for them. -/
def bindNode (r : HelperRules) (scope : Scope) : Node → Node × List Diagnostic
  | .element span tag endTag? body =>
    let child := r.checkChild scope tag
    match r.bind? scope tag with
    | none =>
      let (body, found) := r.bindNodes { tagName := tag.name } body
      (.element span tag endTag? body, child ++ found)
    | some binding =>
      let (mode, structures) := tagMode tag endTag? binding
      let (attributes, governed) := r.bindAttributes tag binding tag.attributes
      let (body, found) := r.bindNodes (innerScope tag binding) body
      (.helper span { name := tag.name, mode, binding, attributes, startTag := tag.span } body,
        child ++ structures ++ governed ++ found)
  | .text span text => (.text span text, checkText scope span text)
  | .markupComment span text => (.markupComment span text, r.checkComment scope span)
  | .directive span head body =>
    let (body, found) := r.bindNodes {} body
    (.directive span head body, found)
  | n => (n, [])

def bindNodes (r : HelperRules) (scope : Scope) : List Node → List Node × List Diagnostic
  | [] => ([], [])
  | n :: ns =>
    let (n, here) := r.bindNode scope n
    let (ns, found) := r.bindNodes scope ns
    (n :: ns, here ++ found)

end

end HelperRules

/-- Replace every element that the binder's tag helpers select by a tag helper node.  The findings
are added to those of the tree. -/
def Tree.bindHelpers (t : Tree) (binder : Binder) : Tree :=
  if binder.helpers.isEmpty then t
  else
    let (body, found) := HelperRules.bindNodes ⟨binder, t.options.features⟩ {} t.body
    { t with body, diagnostics := t.diagnostics ++ found }

end Syntax

end TemplateCompiler
