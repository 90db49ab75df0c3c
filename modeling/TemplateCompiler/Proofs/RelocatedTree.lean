import Mathlib.Data.List.Forall2
import TemplateCompiler.Pipeline.Discovery
import TemplateCompiler.Proofs.Relocation
import TemplateCompiler.Syntax.HelperBinding

/-!
# Relocated trees

Two files with one content have the same tree, except that each is in its own file
(`Syntax.parse_moved`, `Syntax.normalized_moved`).  Which tag helpers are in scope and what they
bind does not depend on places: a relocated tree has the same tag helpers in scope, binding relocates
with it, and the findings are the same ones at the new places.
-/

namespace TemplateCompiler

/-- Lists that are put together from related items are related by what relates the parts. -/
theorem List.flatMap_eq_map_of_forall₂ {α β : Type} {R : α → α → Prop} {xs ys : List α}
    (related : List.Forall₂ R xs ys) {f g : α → List β} {h : β → β}
    (each : ∀ {x y}, R x y → g y = (f x).map h) : ys.flatMap g = (xs.flatMap f).map h := by
  induction related with
  | nil => rfl
  | cons first _ ih => rw [List.flatMap_cons, List.flatMap_cons, List.map_append, each first, ih]

namespace Syntax

/-! ## Trees of files -/

/-- The second tree is the first one, relocated, with its findings at their new places. -/
structure Tree.Moved (r : Relocation) (t t' : Tree) : Prop where
  body : t'.body = Node.relocateAll r t.body
  diagnostics : t'.diagnostics = t.diagnostics.map r.finding

section Files

variable {file other : SourceFile} {options options' : ParserOptions} {number : Nat → Nat}

theorem Tree.Moved.of_toFile {t t' : Tree} {k k' : Nat} (body : t'.body = t.body)
    (diagnostics : t'.diagnostics = t.diagnostics) (numbers : k' = number k) :
    Moved (.renumber number) (t.toFile k) (t'.toFile k') := by
  constructor
  · rw [Tree.toFile, Tree.toFile, Node.relocateAll_relocateAll, Relocation.renumber_after_toFile,
      body, numbers]
  · rw [Tree.toFile, Tree.toFile, diagnostics, List.map_map, numbers]
    refine List.map_congr_left fun d _ => ?_
    rw [Function.comp_apply, Relocation.finding_finding, Relocation.renumber_after_toFile]

/-- Parsing looks at the content of a file and at the grammar. -/
theorem parse_congr (content : other.content = file.content)
    (grammar : Grammar.ofOptions 0 options' = Grammar.ofOptions 0 options) :
    (parse { other with id := 0 } options').body = (parse { file with id := 0 } options).body
      ∧ (parse { other with id := 0 } options').diagnostics =
        (parse { file with id := 0 } options).diagnostics := by
  rw [parse, parse, content, grammar]
  exact ⟨rfl, rfl⟩

theorem parse_moved (content : other.content = file.content) (numbers : other.id = number file.id)
    (grammar : Grammar.ofOptions 0 options' = Grammar.ofOptions 0 options) :
    Tree.Moved (.renumber number) (parse file options) (parse other options') := by
  have moved := parse_toFile { file with id := 0 } options file.id
  have moved' := parse_toFile { other with id := 0 } options' other.id
  have same := parse_congr content grammar
  change parse file options = _ at moved
  change parse other options' = _ at moved'
  rw [moved, moved']
  exact .of_toFile same.1 same.2 numbers

theorem normalized_moved (content : other.content = file.content)
    (numbers : other.id = number file.id) :
    Tree.Moved (.renumber number) (parse file options).mergeText.1.trimTokens.1
      (parse other options).mergeText.1.trimTokens.1 := by
  have moved := normalized_toFile { file with id := 0 } options file.id
  have moved' := normalized_toFile { other with id := 0 } options other.id
  have same := parse_congr content (rfl : Grammar.ofOptions 0 options = _)
  change (parse file options).mergeText.1.trimTokens.1 = _ at moved
  change (parse other options).mergeText.1.trimTokens.1 = _ at moved'
  rw [moved, moved']
  refine .of_toFile ?_ same.2 numbers
  simp only [Tree.mergeText, Tree.trimTokens, same.1]

end Files

/-! ## Directives -/

section Directives

variable (r : Relocation)

mutual

theorem Node.directives_relocate (n : Node) :
    (n.relocate r).directives = n.directives.map (DirectiveHead.relocate r) := by
  cases n with
  | element s tag endTag? body => exact Node.directivesAll_relocateAll body
  | directive s head body =>
    exact congrArg (head.relocate r :: ·) (Node.directivesAll_relocateAll body)
  | helper s head body => exact Node.directivesAll_relocateAll body
  | _ => rfl

theorem Node.directivesAll_relocateAll (ns : List Node) :
    Node.directivesAll (Node.relocateAll r ns) =
      (Node.directivesAll ns).map (DirectiveHead.relocate r) := by
  cases ns with
  | nil => rfl
  | cons n ns =>
    rw [Node.relocateAll, Node.directivesAll, Node.directivesAll, Node.directives_relocate n,
      Node.directivesAll_relocateAll ns, List.map_append]

end

@[simp]
theorem DirectiveHead.isMalformed_relocate (h : DirectiveHead) :
    (h.relocate r).isMalformed = h.isMalformed := by
  rw [isMalformed, isMalformed, DirectiveHead.relocate, Diagnostic.anyError, Diagnostic.anyError,
    List.any_map]
  rfl

variable {r}

theorem Tree.Moved.directives {t t' : Tree} (moved : Moved r t t') :
    t'.directives = t.directives.map (DirectiveHead.relocate r) := by
  rw [Tree.directives, Tree.directives, moved.body, Node.directivesAll_relocateAll]

end Directives

end Syntax

/-! ## Scopes -/

namespace Discovery

open Syntax

namespace Selection

/-- A selection with its findings at their new places. -/
def relocate (r : Relocation) (s : Selection) : Selection :=
  { s with found := s.found.map r.finding }

variable (r : Relocation) (s : Selection)

theorem report_relocate {d d' : Diagnostic} (moved : d' = r.finding d) :
    { s.relocate r with found := (s.relocate r).found ++ [d'] } =
      relocate r { s with found := s.found ++ [d] } := by
  rw [moved, relocate, relocate, List.map_append, List.map_singleton]

theorem lookup_relocate (token : DirectiveToken) {next : Selection → Lookup → Selection}
    (follows : ∀ l, next (s.relocate r) l = (next s l).relocate r) :
    (s.relocate r).lookup (token.relocate r) next = (s.lookup token next).relocate r := by
  have value : (token.relocate r).value = token.value := rfl
  rw [lookup, lookup, value]
  cases Lookup.read? token.value.trimBlank with
  | none => exact report_relocate r s (by rfl)
  | some l => exact follows l

theorem requireStart_relocate (token : DirectiveToken) :
    (s.relocate r).requireStart (token.relocate r) = (s.requireStart token).relocate r := by
  have value : (token.relocate r).value = token.value := rfl
  rw [requireStart, requireStart, value]
  cases (token.value.trimBlank).chars.find? isInvalidInStart with
  | some c => exact report_relocate r s (by rfl)
  | none => rfl

theorem follow_relocate (available : List TagHelper) (d : DirectiveHead) :
    follow available (s.relocate r) (d.relocate r) = (follow available s d).relocate r := by
  have keyword : (d.relocate r).keyword = d.keyword := rfl
  have tokens : (d.relocate r).tokens = d.tokens.map (DirectiveToken.relocate r) := rfl
  rw [follow.eq_def, follow.eq_def, DirectiveHead.isMalformed_relocate, keyword, tokens]
  cases d.tokens with
  | nil => rfl
  | cons token rest =>
    simp only [List.map_cons]
    split
    · rfl
    · split
      · exact lookup_relocate r s token fun _ => rfl
      · split
        · exact lookup_relocate r s token fun _ => rfl
        · split
          · exact requireStart_relocate r s token
          · rfl

theorem foldl_follow_relocate (available : List TagHelper) (ds : List DirectiveHead) :
    (ds.map (DirectiveHead.relocate r)).foldl (follow available) (s.relocate r) =
      (ds.foldl (follow available) s).relocate r := by
  induction ds generalizing s with
  | nil => rfl
  | cons d ds ih => rw [List.map_cons, List.foldl_cons, List.foldl_cons, follow_relocate, ih]

end Selection

/-- Relocated trees have the same tag helpers in scope, for the same reasons. -/
theorem discover_moved {r : Relocation} {tree tree' : Tree} {imports imports' : List Tree}
    (all : List TagHelper) (kind : FileKind) (moved : Tree.Moved r tree tree')
    (importsMoved : List.Forall₂ (Tree.Moved r) imports imports') :
    discover all kind tree' imports' =
      ((discover all kind tree imports).1,
        (discover all kind tree imports).2.map r.finding) := by
  have directives : imports'.flatMap Tree.directives ++ tree'.directives =
      (imports.flatMap Tree.directives ++ tree.directives).map (DirectiveHead.relocate r) := by
    rw [List.map_append, moved.directives,
      List.flatMap_eq_map_of_forall₂ importsMoved Tree.Moved.directives]
  have followed := Selection.foldl_follow_relocate r {}
    (all.filter fun h => !TagHelper.isComponentKind h.kind)
    (imports.flatMap Tree.directives ++ tree.directives)
  change _ = Selection.relocate r _ at followed
  rw [discover, discover]
  split
  · rfl
  · dsimp only
    rw [directives]
    exact congrArg (fun s => (HelperScope.mk s.tagStart s.selected, s.found)) followed

end Discovery

/-! ## Binding -/

namespace Syntax

section Binding

variable (q : Relocation)

@[simp]
theorem literalValue?_relocate (parts : List ValuePart) :
    literalValue? (parts.map (ValuePart.relocate q)) = literalValue? parts := by
  have each : ∀ p : ValuePart, (p.relocate q).literal? = p.literal? := by
    intro p
    cases p <;> rfl
  rw [literalValue?, literalValue?]
  congr 1
  induction parts with
  | nil => rfl
  | cons p parts ih => rw [List.map_cons, List.mapM_cons, List.mapM_cons, each, ih]

@[simp]
theorem Attribute.literalValue?_relocate (a : Attribute) :
    (a.relocate q).literalValue? = a.literalValue? := Syntax.literalValue?_relocate q a.value

@[simp]
theorem Attribute.isCode_relocate (a : Attribute) : (a.relocate q).isCode = a.isCode := by
  rcases a with ⟨span, name, value, minimized, quote?, nameSpan⟩
  cases value with
  | nil => rfl
  | cons p rest =>
    cases p <;> cases rest <;> rfl

namespace HelperRules

@[simp]
theorem writtenAttributes_relocate (attributes : List Attribute) :
    writtenAttributes (attributes.map (Attribute.relocate q)) = writtenAttributes attributes := by
  rw [writtenAttributes, writtenAttributes, List.filter_map, List.map_map]
  simp only [Function.comp_def, Attribute.isCode_relocate, Attribute.literalValue?_relocate]
  rfl

variable (r : HelperRules)

theorem bind?_relocate (scope : Scope) (tag : StartTag) :
    r.bind? scope (tag.relocate q) = r.bind? scope tag := by
  rw [bind?, bind?]
  dsimp only [StartTag.relocate]
  rw [writtenAttributes_relocate]
  rfl

theorem checkChild_relocate (scope : Scope) (tag : StartTag) :
    r.checkChild scope (tag.relocate q) = (r.checkChild scope tag).map q.finding := by
  rw [checkChild, checkChild, apply_ite (List.map _)]
  rfl

theorem checkText_relocate (scope : Scope) (s : Span) (text : Text) :
    checkText scope (q.span s) text = (checkText scope s text).map q.finding := by
  rw [checkText, checkText, apply_ite (List.map _)]
  rfl

theorem checkComment_relocate (scope : Scope) (s : Span) :
    r.checkComment scope (q.span s) = (r.checkComment scope s).map q.finding := by
  rw [checkComment, checkComment, apply_ite (List.map _)]
  rfl

theorem checkStructures_relocate (tag : StartTag) (binding : ElementBinding) :
    checkStructures (tag.relocate q) binding = (checkStructures tag binding).map q.finding := by
  rw [checkStructures, checkStructures]
  cases askedStructures binding with
  | nil => rfl
  | cons first others =>
    rw [List.map_map]
    rfl

theorem tagMode_relocate (tag : StartTag) (endTag? : Option Span) (binding : ElementBinding) :
    tagMode (tag.relocate q) (endTag?.map q.span) binding =
      ((tagMode tag endTag? binding).1, (tagMode tag endTag? binding).2.map q.finding) := by
  have conflicts := checkStructures_relocate q tag binding
  have ended : (endTag?.map q.span).isNone = endTag?.isNone := Option.isNone_map
  have selfClosing : (tag.relocate q).selfClosing = tag.selfClosing := rfl
  have void : (tag.relocate q).void = tag.void := rfl
  rw [tagMode, tagMode, ended, selfClosing, void, conflicts]
  split
  · rfl
  · split
    · rw [List.map_append]
      cases endTag? <;> rfl
    · split
      · rfl
      · split
        · rw [List.map_append]
          rfl
        · rfl

theorem checkKey_relocate (tag : StartTag) (a : Attribute) (helper : TagHelper) :
    checkKey (tag.relocate q) (a.relocate q) helper = (checkKey tag a helper).map q.finding := by
  rw [checkKey, checkKey, List.map_map]
  rfl

theorem checkParameter_relocate (tag : StartTag) (a : Attribute) (binding : ElementBinding) :
    checkParameter (tag.relocate q) (a.relocate q) binding =
      (checkParameter tag a binding).map q.finding := by
  have name : (a.relocate q).name = a.name := rfl
  rw [checkParameter, checkParameter, name]
  rcases Binding.splitParameter a.name with ⟨base, parameter?⟩
  cases parameter? with
  | none => rfl
  | some parameter =>
    dsimp only
    split <;> rfl

theorem checkValue_relocate (tag : StartTag) (a : Attribute) (governs : Binding.AttributeMatch) :
    r.checkValue (tag.relocate q) (a.relocate q) governs =
      (r.checkValue tag a governs).map q.finding := by
  have minimized : (a.relocate q).minimized = a.minimized := rfl
  rw [checkValue, checkValue, minimized, Attribute.literalValue?_relocate]
  split
  · split
    · rfl
    · split <;> rfl
  · split <;> rfl

theorem bindAttribute_relocate (tag : StartTag) (binding : ElementBinding) (a : Attribute) :
    r.bindAttribute (tag.relocate q) binding (a.relocate q) =
      ((r.bindAttribute tag binding a).1.relocate q,
        (r.bindAttribute tag binding a).2.map q.finding) := by
  have name : (a.relocate q).name = a.name := rfl
  have keys : binding.helpers.flatMap (checkKey (tag.relocate q) (a.relocate q)) =
      (binding.helpers.flatMap (checkKey tag a)).map q.finding := by
    rw [List.map_flatMap]
    exact List.flatMap_congr fun helper _ => checkKey_relocate q tag a helper
  rw [bindAttribute, bindAttribute, name]
  dsimp only
  rw [List.map_append, keys]
  refine congrArg (Prod.mk _) (congrArg _ ?_)
  split
  · exact checkParameter_relocate q tag a binding
  · exact checkValue_relocate q r tag a _

theorem bindAttributes_relocate (tag : StartTag) (binding : ElementBinding)
    (attributes : List Attribute) :
    r.bindAttributes (tag.relocate q) binding (attributes.map (Attribute.relocate q)) =
      ((r.bindAttributes tag binding attributes).1.map (HelperAttribute.relocate q),
        (r.bindAttributes tag binding attributes).2.map q.finding) := by
  induction attributes with
  | nil => rfl
  | cons a attributes ih =>
    rw [List.map_cons, bindAttributes, bindAttributes, Attribute.isCode_relocate, ih,
      bindAttribute_relocate]
    dsimp only
    split
    · rfl
    · rw [List.map_append, List.map_cons]

mutual

theorem bindNode_relocate (scope : Scope) (n : Node) :
    r.bindNode scope (n.relocate q) =
      ((r.bindNode scope n).1.relocate q, (r.bindNode scope n).2.map q.finding) := by
  cases n with
  | element s tag endTag? body =>
    rw [Node.relocate, bindNode, bindNode, bind?_relocate, checkChild_relocate]
    cases r.bind? scope tag with
    | none =>
      have inside := bindNodes_relocate { tagName := tag.name } body
      change r.bindNodes { tagName := (tag.relocate q).name } _ = _ at inside
      dsimp only
      rw [inside, List.map_append]
      rfl
    | some binding =>
      have inside := bindNodes_relocate (innerScope tag binding) body
      have inner : innerScope (tag.relocate q) binding = innerScope tag binding := rfl
      have written : (tag.relocate q).attributes = tag.attributes.map (Attribute.relocate q) := rfl
      dsimp only
      rw [inner, written, tagMode_relocate, bindAttributes_relocate, inside]
      simp only [List.map_append]
      rfl
  | text s text => exact congrArg (Prod.mk _) (checkText_relocate q scope s text)
  | markupComment s text => exact congrArg (Prod.mk _) (checkComment_relocate q r scope s)
  | directive s head body =>
    have inside := bindNodes_relocate {} body
    rw [Node.relocate, bindNode, bindNode, inside]
    rfl
  | transition | expression | codeBlock | comment | helper => rfl

theorem bindNodes_relocate (scope : Scope) (ns : List Node) :
    r.bindNodes scope (Node.relocateAll q ns) =
      (Node.relocateAll q (r.bindNodes scope ns).1, (r.bindNodes scope ns).2.map q.finding) := by
  cases ns with
  | nil => rfl
  | cons n ns =>
    simp only [Node.relocateAll, bindNodes, bindNode_relocate scope n,
      bindNodes_relocate scope ns, List.map_append]

end

end HelperRules

/-- The same tag helpers bind the same elements of a relocated tree. -/
theorem Tree.Moved.bindHelpers {q : Relocation} {t t' : Tree} (moved : Moved q t t')
    (features : t'.options.features = t.options.features) (binder : Binder) :
    Moved q (t.bindHelpers binder) (t'.bindHelpers binder) := by
  unfold Tree.bindHelpers
  split
  · exact moved
  · rw [features, moved.body, HelperRules.bindNodes_relocate]
    refine ⟨rfl, ?_⟩
    dsimp only
    rw [List.map_append, moved.diagnostics]

end Binding

end Syntax

end TemplateCompiler
