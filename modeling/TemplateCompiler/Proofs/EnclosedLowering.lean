import TemplateCompiler.Proofs.SilentNodes
import TemplateCompiler.Proofs.SpanBounds

/-!
# Lowering keeps spans inside their files

A node of the intermediate tree is *fit* if it is there, declares nothing around other nodes, and
its span, where it has one, lies inside a file of the set.  Everything that lowering makes of an
enclosed tree is fit: a node takes its span from one place of the tree, except that the code of a
bound attribute covers all parts of its value.  The declarations come later.
-/

namespace TemplateCompiler

namespace IR

/-- The kinds of declarations around others. -/
inductive Declaration where
  | namespaceOf
  | classOf
  | methodOf
  deriving DecidableEq

def Content.declaration? : Content → Option Declaration
  | .namespaceDecl .. => some .namespaceOf
  | .classDecl _ => some .classOf
  | .methodDecl _ => some .methodOf
  | _ => none

/-- A span, where there is one, lies inside its file. -/
def Head.Enclosed (files : FileSet) (head : Head) : Prop :=
  ∀ span, head.span? = some span → files.Encloses span

namespace Node

/-- A node that is there, has its span inside a file and declares nothing around others. -/
def Fit (files : FileSet) : Node → Prop
  | .absent => False
  | .node head _ => head.Enclosed files ∧ head.content.declaration? = none

/-- All of some nodes are fit, with everything inside them. -/
def AllFit (files : FileSet) (ns : List Node) : Prop := EveryIn (Fit files) ns

variable {files : FileSet} {content : Content} {children : List Node}

theorem synthetic_fit (plain : content.declaration? = none) (inside : AllFit files children) :
    (synthetic content children).Every (Fit files) := by
  refine .intro _ ⟨?_, plain⟩ inside
  intro span located
  cases located

theorem node_fit_of_span {span : Span} {diagnostics : List Diagnostic}
    (encloses : files.Encloses span) (plain : content.declaration? = none)
    (inside : AllFit files children) :
    (node { content, span? := some span, diagnostics } children).Every (Fit files) := by
  refine .intro _ ⟨?_, plain⟩ inside
  intro other located
  cases located
  exact encloses

theorem located_fit {span : Span} (encloses : files.Encloses span)
    (plain : content.declaration? = none) (inside : AllFit files children) :
    (located content span children).Every (Fit files) := node_fit_of_span encloses plain inside

theorem codeToken_fit (code : Text) : (codeToken code).Every (Fit files) :=
  synthetic_fit rfl EveryIn.nil

theorem markupToken_fit (text : Text) : (markupToken text).Every (Fit files) :=
  synthetic_fit rfl EveryIn.nil

end Node

end IR

namespace Lowering

open IR IR.Node

variable {files : FileSet} {features : LanguageFeatures}

/-! ## Markup -/

theorem markup_fit (text : Text) : AllFit files (markup text) := by
  unfold markup
  split
  · exact EveryIn.nil
  · exact .single (synthetic_fit rfl (.single (markupToken_fit text)))

theorem gathers_fit : Gathers (AllFit files) := ⟨markup_fit, EveryIn.append⟩

theorem expression_fit {span : Span} (encloses : files.Encloses span) (code : Text) :
    (expression span code).Every (Fit files) :=
  located_fit encloses rfl (.single (codeToken_fit code))

theorem attributePart_fit {part : Syntax.ValuePart} (encloses : files.Encloses part.span) :
    (attributePart part).Every (Fit files) := by
  cases part with
  | text span text => exact located_fit encloses rfl (.single (markupToken_fit text))
  | transition span => exact synthetic_fit rfl (.single (markupToken_fit _))
  | code span code explicit => exact expression_fit encloses code

theorem tag_fit {tag : Syntax.StartTag}
    (enclosed : ∀ a ∈ tag.attributes, Syntax.AttributeEnclosed files a.span a.value) :
    AllFit files (gather (tagPieces features tag)) := by
  apply gathers_fit.tag
  · intro a among span code explicit inside
    exact .single (expression_fit ((enclosed a among).2 _ inside) code)
  · intro a among opening quote
    apply EveryIn.single
    apply located_fit (enclosed a among).1 rfl
    exact .map fun part inside => attributePart_fit ((enclosed a among).2 part inside)

/-! ## Tag helpers -/

theorem markupValue_fit {value : List Syntax.ValuePart}
    (enclosed : ∀ part ∈ value, files.Encloses part.span) : AllFit files (markupValue value) :=
  gathers_fit.markupValue fun inside => .single (expression_fit (enclosed _ inside) _)

/-- What covers spans inside of files lies inside a file. -/
theorem encloses_foldl_cover {parts : List Syntax.ValuePart} :
    ∀ {span : Span}, files.Encloses span → (∀ part ∈ parts, files.Encloses part.span) →
      files.Encloses (parts.foldl (fun s q => s.cover q.span) span) := by
  induction parts with
  | nil =>
    intro span encloses _
    exact encloses
  | cons part parts ih =>
    intro span encloses enclosed
    rcases List.forall_mem_cons.mp enclosed with ⟨first, rest⟩
    exact ih (encloses.cover first) rest

theorem codeValue_fit {value : List Syntax.ValuePart}
    (enclosed : ∀ part ∈ value, files.Encloses part.span) : AllFit files (codeValue value) := by
  cases value with
  | nil => exact EveryIn.nil
  | cons p ps =>
    rcases List.forall_mem_cons.mp enclosed with ⟨first, rest⟩
    apply EveryIn.single
    apply located_fit (encloses_foldl_cover first rest) rfl
    exact .map fun q _ => codeToken_fit (partCode q)

theorem boundContent_declares_nothing (a : Syntax.HelperAttribute) (b : Syntax.BoundMatch) :
    (boundContent a b).declaration? = none := by
  unfold boundContent
  dsimp only
  split
  · split <;> rfl
  · rfl

theorem helperAttribute_fit {a : Syntax.HelperAttribute}
    (enclosed : Syntax.AttributeEnclosed files a.span a.value) :
    AllFit files (helperAttribute a) := by
  unfold helperAttribute
  split
  · exact .single (located_fit enclosed.1 rfl (markupValue_fit enclosed.2))
  · apply EveryIn.map
    intro b _
    apply located_fit enclosed.1 (boundContent_declares_nothing a b)
    split
    · exact markupValue_fit enclosed.2
    · exact codeValue_fit enclosed.2

/-! ## Nodes -/

theorem tokens_fit {head : Syntax.DirectiveHead}
    (enclosed : ∀ t ∈ head.tokens, t.Enclosed files) : AllFit files (tokens head) :=
  .map fun t among => located_fit (enclosed t among).1 rfl EveryIn.nil

theorem importNamespace_fit {head : Syntax.DirectiveHead}
    (enclosed : ∀ t ∈ head.tokens, t.Enclosed files) (seen : List Text) :
    AllFit files (importNamespace seen head).1 := by
  unfold importNamespace
  split
  · exact EveryIn.nil
  · next t rest same =>
    split
    · exact EveryIn.nil
    · apply EveryIn.single
      apply located_fit (enclosed t ?_).1 rfl EveryIn.nil
      simp [same]

mutual

/-- What an enclosed node becomes is fit. -/
theorem node_fit :
    ∀ (seen : List Text) {n : Syntax.Node}, n.Every (Syntax.Node.Enclosed files) →
      AllFit files (node features seen n).1
  | _, .text _ text, _ => markup_fit text
  | _, .transition _, _ => markup_fit "@"
  | _, .markupComment _ text, _ => markup_fit ("<!--" ++ text ++ "-->")
  | _, .comment .., _ => EveryIn.nil
  | _, .expression _ code _, every => .single (expression_fit every.self.span code)
  | _, .codeBlock _ code _, every =>
    .single (located_fit every.self.span rfl (.single (codeToken_fit code)))
  | seen, .directive span head body, every => by
    have encloses : files.Encloses span := every.self.span
    have tokens : AllFit files (tokens head) := tokens_fit every.self.parts
    have directive {block : List Node} (inside : AllFit files block) :
        AllFit files [directive span head block] :=
      .single (node_fit_of_span encloses rfl (tokens.append inside))
    have block := nodes_fit seen every.inside
    unfold node
    split
    · exact .single (node_fit_of_span encloses rfl tokens)
    split
    · exact importNamespace_fit every.self.parts seen
    split
    · exact directive block
    · exact directive (.single (located_fit encloses rfl (.single (codeToken_fit head.code))))
    · exact directive .nil
  | seen, .element span tag endTag? body, every => by
    have pieces : AllFit files (gather (tagPieces features tag)) := tag_fit every.self.parts
    apply (pieces.append (nodes_fit seen every.inside)).append
    split
    · exact markup_fit _
    · exact EveryIn.nil
  | seen, .helper span head body, every => by
    have attributes : AllFit files (head.attributes.flatMap helperAttribute) :=
      .flatMap fun a among => helperAttribute_fit (every.self.parts a among)
    apply EveryIn.single
    apply located_fit every.self.span rfl
    apply attributes.append
    split
    · exact .single (synthetic_fit rfl (nodes_fit seen every.inside))
    · exact EveryIn.nil

theorem nodes_fit :
    ∀ (seen : List Text) {ns : List Syntax.Node}, Syntax.Node.AllEnclosed files ns →
      AllFit files (nodes features seen ns).1
  | _, [], _ => EveryIn.nil
  | seen, _ :: _, enclosed => by
    rcases List.forall_mem_cons.mp enclosed with ⟨first, rest⟩
    exact (node_fit seen first).append (nodes_fit _ rest)

end

/-- The document of enclosed trees is fit. -/
theorem document_fit {tree : Syntax.Tree} {imports : List Syntax.Tree}
    (enclosed : Syntax.Node.AllEnclosed files tree.body)
    (imported : ∀ t ∈ imports, Syntax.Node.AllEnclosed files t.body) :
    AllFit files (document tree imports).children := by
  apply EveryIn.append
  · apply nodes_fit
    intro n member
    rcases List.mem_flatMap.mp member with ⟨t, among, here⟩
    exact imported t among n (List.mem_filter.mp here).1
  · exact nodes_fit _ enclosed

end Lowering

end TemplateCompiler
