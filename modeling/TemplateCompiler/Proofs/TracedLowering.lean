import TemplateCompiler.Proofs.LoweredNodes
import TemplateCompiler.Proofs.SourceTrace

/-!
# Lowering keeps the trace

In the intermediate tree two kinds of nodes repeat what a template says: expressions and imports of
namespaces.  Such a node is traced if its span, when it has one, names a file of the set that says
the same there.  An expression is one token of code; passes that move and join nodes leave it as it
is, because there is nothing in it to move or join.

The trees that are lowered may come from several files.
-/

namespace TemplateCompiler

namespace IR

namespace Node

/-- What an expression or an import repeats of a template stands there. -/
def Traced (files : FileSet) : Node → Prop
  | .absent => True
  | .node head children =>
    match head.content with
    | .usingDecl name => ∀ span, head.span? = some span →
        files.Holds span fun content => content.slice span.start span.stop = name
    | .expression => ∃ code, children = [.codeToken code] ∧ ∀ span, head.span? = some span →
        files.Holds span fun content => ∃ explicit,
          Syntax.ExpressionWritten content span code explicit
    | _ => True

/-- All of some nodes are traced, with everything inside them. -/
def AllTraced (files : FileSet) (ns : List Node) : Prop := ∀ n ∈ ns, n.Every (Traced files)

variable {files : FileSet}

theorem AllTraced.nil : AllTraced files [] := EveryIn.nil

theorem AllTraced.cons {n : Node} {ns : List Node} (first : n.Every (Traced files))
    (rest : AllTraced files ns) : AllTraced files (n :: ns) := EveryIn.cons first rest

theorem AllTraced.single {n : Node} (traced : n.Every (Traced files)) : AllTraced files [n] :=
  EveryIn.single traced

theorem AllTraced.head {n : Node} {ns : List Node} (traced : AllTraced files (n :: ns)) :
    n.Every (Traced files) := EveryIn.head traced

theorem AllTraced.tail {n : Node} {ns : List Node} (traced : AllTraced files (n :: ns)) :
    AllTraced files ns := EveryIn.tail traced

theorem AllTraced.append {ns ms : List Node} (first : AllTraced files ns)
    (second : AllTraced files ms) : AllTraced files (ns ++ ms) := EveryIn.append first second

theorem AllTraced.filter {ns : List Node} (traced : AllTraced files ns) (p : Node → Bool) :
    AllTraced files (ns.filter p) := EveryIn.filter traced p

/-- Whether a node repeats a part of a template, so that its trace says something about it. -/
def repeatsSource (content : Content) : Bool :=
  match content with
  | .usingDecl _ | .expression => true
  | _ => false

/-- A node that repeats nothing is traced if its children are. -/
theorem every_of_children {head : Head} {children : List Node}
    (plain : repeatsSource head.content = false) (inside : AllTraced files children) :
    (Node.node head children).Every (Traced files) := by
  refine .intro _ ?_ inside
  rcases head with ⟨content, span?, diagnostics, label?⟩
  cases content <;> trivial

theorem every_codeToken (code : Text) : (codeToken code).Every (Traced files) :=
  every_of_children rfl .nil

theorem every_markupToken (text : Text) : (markupToken text).Every (Traced files) :=
  every_of_children rfl .nil

end Node

end IR

namespace Lowering

open IR

variable {files : FileSet}

/-! ## Markup -/

theorem markup_traced (text : Text) : Node.AllTraced files (markup text) := by
  unfold markup
  split
  · exact .nil
  · exact .single (Node.every_of_children rfl (.single (Node.every_markupToken text)))

theorem gathers_traced : Gathers (Node.AllTraced files) :=
  ⟨markup_traced, Node.AllTraced.append⟩

theorem expression_traced {span : Span} {code : Text} {explicit : Bool}
    (written : files.Holds span fun content =>
      Syntax.ExpressionWritten content span code explicit) :
    (expression span code).Every (Node.Traced files) := by
  refine .intro _ ⟨code, rfl, ?_⟩ (Node.AllTraced.single (Node.every_codeToken code))
  intro other same
  cases same
  rcases written with ⟨file, registered, stands⟩
  exact ⟨file, registered, explicit, stands⟩

theorem attributePart_traced {part : Syntax.ValuePart} (traced : part.Traced files) :
    (attributePart part).Every (Node.Traced files) := by
  cases part with
  | text span t => exact Node.every_of_children rfl (.single (Node.every_markupToken t))
  | transition span => exact Node.every_of_children rfl (.single (Node.every_markupToken _))
  | code span code explicit => exact expression_traced traced

theorem tag_traced {features : LanguageFeatures} {tag : Syntax.StartTag}
    (traced : ∀ a ∈ tag.attributes, ∀ part ∈ a.value, part.Traced files) :
    Node.AllTraced files (gather (tagPieces features tag)) := by
  apply gathers_traced.tag
  · intro a among span code explicit inside
    exact .single (expression_traced (traced a among _ inside))
  · intro a among opening quote
    apply Node.AllTraced.single
    apply Node.every_of_children rfl
    intro n member
    rcases List.mem_map.mp member with ⟨part, inside, rfl⟩
    exact attributePart_traced (traced a among part inside)

/-! ## Nodes -/

theorem tokens_traced (head : Syntax.DirectiveHead) : Node.AllTraced files (tokens head) := by
  intro n member
  rcases List.mem_map.mp member with ⟨t, -, rfl⟩
  exact Node.every_of_children rfl .nil

theorem directive_traced {span : Span} {head : Syntax.DirectiveHead} {block : List Node}
    (traced : Node.AllTraced files block) :
    (directive span head block).Every (Node.Traced files) :=
  Node.every_of_children rfl ((tokens_traced head).append traced)

theorem importNamespace_traced {seen : List Text} {head : Syntax.DirectiveHead}
    (traced : ∀ token ∈ head.tokens, token.Traced files) :
    Node.AllTraced files (importNamespace seen head).1 := by
  unfold importNamespace
  split
  · exact Node.AllTraced.nil
  · next token rest same =>
    split
    · exact Node.AllTraced.nil
    · refine .single (.intro _ ?_ Node.AllTraced.nil)
      intro span located
      cases located
      exact traced token (by rw [same]; exact List.mem_cons_self)

mutual

/-- What a traced node becomes is traced. -/
theorem node_traced {features : LanguageFeatures} :
    ∀ (seen : List Text) (n : Syntax.Node), n.Every (Syntax.Node.Traced files) →
      Node.AllTraced files (node features seen n).1
  | seen, .text _ text, _ => markup_traced text
  | seen, .transition _, _ => markup_traced "@"
  | seen, .markupComment _ text, _ => markup_traced ("<!--" ++ text ++ "-->")
  | _, .comment .., _ => .nil
  | seen, .expression span code explicit, every => .single (expression_traced every.self)
  | seen, .codeBlock span code _, _ =>
    .single (Node.every_of_children rfl (.single (Node.every_codeToken code)))
  | seen, .directive span head body, every => by
    have block : Node.AllTraced files (nodes features seen body).1 :=
      nodes_traced seen body every.inside
    unfold node
    split
    · exact .single (Node.every_of_children rfl (tokens_traced head))
    split
    · exact importNamespace_traced every.self
    split
    · exact .single (directive_traced block)
    · refine .single (directive_traced (.single (Node.every_of_children rfl (.single ?_))))
      exact Node.every_codeToken head.code
    · exact .single (directive_traced .nil)
  | seen, .element span tag endTag? body, every => by
    have content : Node.AllTraced files (nodes features seen body).1 :=
      nodes_traced seen body every.inside
    refine ((tag_traced every.self).append content).append ?_
    split
    · exact markup_traced _
    · exact .nil
  | seen, .helper .., every => absurd every.self id

theorem nodes_traced {features : LanguageFeatures} :
    ∀ (seen : List Text) (ns : List Syntax.Node), Syntax.Node.AllTraced files ns →
      Node.AllTraced files (nodes features seen ns).1
  | _, [], _ => .nil
  | seen, n :: ns, traced =>
    (node_traced seen n traced.head).append (nodes_traced _ ns traced.tail)

end

/-- The document of traced trees is traced. -/
theorem document_traced {tree : Syntax.Tree} {imports : List Syntax.Tree}
    (traced : Syntax.Node.AllTraced files tree.body)
    (tracedImports : ∀ t ∈ imports, Syntax.Node.AllTraced files t.body) :
    Node.AllTraced files (document tree imports).children := by
  refine Node.AllTraced.append (nodes_traced _ _ ?_) (nodes_traced _ _ traced)
  intro n member
  rcases List.mem_flatMap.mp member with ⟨t, among, here⟩
  exact tracedImports t among n ((List.mem_filter.mp here).1)

end Lowering

end TemplateCompiler
