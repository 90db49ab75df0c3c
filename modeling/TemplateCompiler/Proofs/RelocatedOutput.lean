import TemplateCompiler.Proofs.CodeLayout
import TemplateCompiler.Proofs.RelocatedPasses

/-!
# Output of renumbered documents

A renumbered document is classified as the document is, goes through the same passes, and comes out
with the same text and with its findings renumbered.  Together with what is known about parsing,
binding and lowering this says what a compilation depends on: the contents of the files and which of
them are the same, not their numbers (`Workpiece.Renumbered.finished`).
-/

namespace TemplateCompiler

open IR

/-! ## Classifying -/

namespace Classifier

def Outline.relocate (r : Relocation) (o : Outline) : Outline :=
  { o with
    imports := o.imports.map (Node.relocate r)
    classShape := o.classShape.relocate r
    body := o.body.map (Node.relocate r) }

section Shapes

variable (r : Relocation)

theorem importedName?_relocate (n : Node) :
    Dialect.importedName? (n.relocate r) = Dialect.importedName? n := by
  rcases n with _ | ⟨⟨content, span?, diagnostics, label?⟩, children⟩
  · rfl
  · cases content <;> rfl

theorem isAnyDirective_relocate (n : Node) :
    Dialect.isAnyDirective (n.relocate r) = Dialect.isAnyDirective n := by
  rcases n with _ | ⟨⟨content, span?, diagnostics, label?⟩, children⟩
  · rfl
  · cases content <;> rfl

theorem Outline.initial_relocate (d : Document) :
    Outline.initial (d.relocate r) = (Outline.initial d).relocate r := by
  have test : ∀ n : Node, Outline.isImport (n.relocate r) = Outline.isImport n := by
    intro n
    rw [isImport, isImport, importedName?_relocate]
  rw [initial, initial, Document.children_relocate, List.filter_map, List.filter_map]
  simp only [Function.comp_def, test]
  rfl

theorem Outline.toNode_relocate (o : Outline) : (o.relocate r).toNode = o.toNode.relocate r := by
  simp only [toNode, Node.synthetic, Node.relocate_node, List.map_append, List.map_singleton]
  rfl

theorem withComponentImports_relocate (imports : List Node) :
    Dialect.withComponentImports (imports.map (Node.relocate r)) =
      (Dialect.withComponentImports imports).map (Node.relocate r) := by
  rw [Dialect.withComponentImports, Dialect.withComponentImports, List.filterMap_map,
    List.map_append, List.map_map]
  simp only [Function.comp_def, importedName?_relocate]
  rfl

theorem component_relocate (doc : CodeDocument) (o : Outline) :
    component.shape doc (o.relocate r) = (component.shape doc o).relocate r := by
  rw [component]
  simp only [Outline.relocate, withComponentImports_relocate, List.filter_map, Function.comp_def,
    isAnyDirective_relocate]
  rw [apply_ite (List.map (Node.relocate r))]
  rfl

end Shapes

end Classifier

namespace ProjectEngine

/-- The rule that classifies a document gives a relocated outline the same shape. -/
theorem shape_relocate (r : Relocation) (components : Bool) (doc other : CodeDocument)
    (d : Document) (o : Classifier.Outline) :
    (ruleOf components doc d).shape other (o.relocate r) =
      ((ruleOf components doc d).shape other o).relocate r := by
  unfold ruleOf
  split
  · exact Classifier.component_relocate r other o
  split
  · split <;> rfl
  · rfl

section Passes

variable {number : Nat → Nat} (injective : number.Injective)

/-- What a pass does to a renumbered document, and that it leaves directives their places. -/
structure Moves (number : Nat → Nat) (f : Option Nat → Document → Document) : Prop where
  renumber : ∀ (file : Nat) {d : Document}, d.Placed →
    f (some (number file)) (d.relocate (.renumber number)) =
      (f (some file) d).relocate (.renumber number)
  placed : ∀ (file? : Option Nat) {d : Document}, d.Placed → (f file? d).Placed

include injective

theorem moves_of_directiveChanges {components : Bool} {f : Option Nat → Document → Document}
    (member : f ∈ directiveChanges components) : Moves number f := by
  refine ⟨fun file d placed => ?_, fun file? d placed =>
    Dialect.kept_placed.directiveChanges file? f member d placed⟩
  have shared := mem_directiveChanges member
  simp only [directiveChanges, if_true, List.cons_append, List.nil_append, List.mem_cons,
    List.not_mem_nil, or_false] at shared
  rcases shared with rfl | rfl | rfl | rfl | rfl | rfl | rfl | rfl | rfl | rfl | rfl
  · exact Dialect.applyInherits_relocate _ d
  · exact Dialect.applyMembers_relocate _ _ d
  · exact Dialect.applySections_relocate _ placed
  · exact Dialect.applyImplements_relocate _ d
  · exact Dialect.applyNamespace_relocate _ d
  · exact Dialect.applyPage_renumber injective file placed
  · exact Dialect.applyMembers_relocate _ _ d
  · exact Dialect.applyTypeParameters_relocate _ d
  · exact Dialect.applyLayout_relocate _ d
  · exact Dialect.applyAttributes_relocate _ d
  · exact Dialect.applyModel_renumber d injective

omit injective in
/-- Passes that renumber with the document, one after another. -/
theorem applied_renumber (file : Nat) {fs : List (Option Nat → Document → Document)}
    (moves : ∀ f ∈ fs, Moves number f) {d : Document} (placed : d.Placed) :
    applied fs (some (number file)) (d.relocate (.renumber number)) =
      (applied fs (some file) d).relocate (.renumber number) := by
  induction fs generalizing d with
  | nil => rfl
  | cons f fs ih =>
    have first := moves f List.mem_cons_self
    rw [applied, applied, List.foldl_cons, List.foldl_cons, first.renumber file placed]
    exact ih (fun g member => moves g (List.mem_cons_of_mem f member)) (first.placed _ placed)

theorem optimized_renumber (file? other? : Option Nat) (d : Document) :
    applied optimizations other? (d.relocate (.renumber number)) =
      (applied optimizations file? d).relocate (.renumber number) := by
  simp only [applied, optimizations, List.foldl_cons, List.foldl_nil,
    Document.declareHelpers_relocate, Document.removeDirectives_relocate,
    Document.mergeMarkup_renumber _ injective, Document.dropBody_relocate]

variable {doc doc' : CodeDocument} {source source' : SourceFile}

theorem isPage_renumber (given : doc.source? = some source) (given' : doc'.source? = some source')
    (numbers : source'.id = number source.id) (d : Document) :
    isPage doc' (d.relocate (.renumber number)) = isPage doc d := by
  have test : Dialect.isPageOf (some (number source.id)) ∘ Node.relocate (.renumber number) =
      Dialect.isPageOf (some source.id) :=
    funext fun n => Dialect.isPageOf_renumber injective source.id n
  rw [isPage, isPage, given, given', Document.children_relocate, List.any_map, Option.map_some,
    Option.map_some, numbers]
  congr 1
  funext n
  rw [Function.comp_apply, Node.isDirective_relocate, Node.preorder_relocate, List.any_map, test]

/-- A renumbered document has the same shape. -/
theorem shaped_renumber (components : Bool) (given : doc.source? = some source)
    (given' : doc'.source? = some source') (numbers : source'.id = number source.id)
    (kind : doc'.fileKind = doc.fileKind) (path : doc'.projectPath = doc.projectPath)
    {d : Document} (placed : d.Placed) :
    shaped components doc' (d.relocate (.renumber number)) =
      (shaped components doc d).relocate (.renumber number) := by
  have rule : ruleOf components doc' (d.relocate (.renumber number)) = ruleOf components doc d := by
    rw [ruleOf, ruleOf, kind, isPage_renumber injective given given' numbers]
  have classified :
      (ruleOf components doc' (d.relocate (.renumber number))).classified doc'
          (d.relocate (.renumber number)) =
        ((ruleOf components doc d).classified doc d).relocate (.renumber number) := by
    rw [rule, Classifier.Rule.classified, Classifier.Rule.classified,
      Classifier.Outline.initial_relocate, shape_relocate, shape_congr components kind path d,
      Classifier.Outline.toNode_relocate]
    rfl
  rw [shaped, shaped, given, given', Option.map_some, Option.map_some, classified, numbers,
    applied_renumber source.id (fun f => moves_of_directiveChanges injective)
      (Classifier.classified_placed components doc placed)]
  exact optimized_renumber injective _ _ _

end Passes

end ProjectEngine

/-! ## Writing -/

namespace Code

def Line.relocate (r : Relocation) (l : Line) : Line :=
  { l with pieces := l.pieces.map fun p => { p with span? := p.span?.map r.span } }

variable (r : Relocation)

theorem Line.text_relocate (o : CodeOptions) (l : Line) : (l.relocate r).text o = l.text o := by
  have content : (l.relocate r).content = l.content := by
    rw [Line.content, Line.relocate, List.flatMap_map]
    rfl
  simp only [Line.text, Line.margin, content]
  rfl

/-- The places of pieces are not written. -/
theorem textOf_relocate (o : CodeOptions) (ls : List Line) :
    textOf o (ls.map (Line.relocate r)) = textOf o ls := by
  rw [textOf, List.flatMap_map]
  simp only [Line.text_relocate]
  rfl

namespace Outline

theorem value_relocate (parts : List Node) : value (parts.map (Node.relocate r)) = value parts := by
  have each : ∀ n : Node, valuePart (n.relocate r) = valuePart n := by
    intro n
    have text := Node.text_relocate r n
    rcases n with _ | ⟨⟨content, span?, diagnostics, label?⟩, children⟩
    · rfl
    · rw [valuePart, valuePart, text]
      cases content <;> rfl
  rw [value, value, List.isEmpty_map, List.map_map]
  simp only [Function.comp_def, each]

theorem tokenList_relocate (children : List Node) :
    tokenList (children.map (Node.relocate r)) = tokenList children := by
  have relocated : Node.synthetic .markup (children.map (Node.relocate r)) =
      (Node.synthetic .markup children).relocate r := by
    rw [Node.synthetic, Node.synthetic, Node.relocate_node]
    rfl
  rw [tokenList, tokenList, relocated, Node.tokens_relocate, Node.map_fst_relocateToken]

/-- Lines that came from no place have none to be moved from. -/
theorem map_relocate_plain {α : Type} (items : List α) {level : Nat} {text : α → Text} :
    (items.map fun a => Line.plain level (text a)).map (Line.relocate r) =
      items.map fun a => Line.plain level (text a) := by
  rw [List.map_map]
  rfl

theorem classLine_relocate (level : Nat) (c : ClassShape) :
    classLine level (c.relocate r) = (classLine level c).relocate r := by
  rw [classLine, classLine, apply_ite (Line.relocate r), apply_ite (Line.relocate r)]
  rfl

theorem classHead_relocate (header : DocumentHeader) (o : CodeOptions) (level : Nat)
    (c : ClassShape) :
    classHead header o level (c.relocate r) =
      (classHead header o level c).map (Line.relocate r) := by
  have attributes : (c.attributes.map (Line.plain level)).map (Line.relocate r) =
      c.attributes.map (Line.plain level) := map_relocate_plain r _
  rw [classHead, classHead, List.map_append, List.map_append, List.map_append, attributes,
    List.map_singleton, classLine_relocate, apply_ite (List.map (Line.relocate r)),
    map_relocate_plain]
  rfl

theorem attributePart_relocate (level : Nat) (n : Node) :
    attributePart level (n.relocate r) = (attributePart level n).map (Line.relocate r) := by
  have text := Node.text_relocate r n
  rcases n with _ | ⟨⟨content, span?, diagnostics, label?⟩, children⟩
  · rfl
  · cases content with
    | attributeText opening => exact congrArg (fun t => [Line.plain level (call _ [opening, t])]) text
    | expression => exact congrArg (fun t => [Line.around level _ t (span?.map r.span) _]) text
    | _ => rfl

theorem attributeLines_relocate (level : Nat) (name opening closing : Text) (parts : List Node) :
    attributeLines level name opening closing (parts.map (Node.relocate r)) =
      (attributeLines level name opening closing parts).map (Line.relocate r) := by
  rw [attributeLines, attributeLines, List.flatMap_map]
  simp only [List.map_append, List.map_cons, List.map_flatMap, attributePart_relocate]
  rfl

theorem helperAttribute?_relocate (level : Nat) (n : Node) :
    helperAttribute? level (n.relocate r) = (helperAttribute? level n).map (Line.relocate r) := by
  have text := Node.text_relocate r n
  rcases n with _ | ⟨⟨content, span?, diagnostics, label?⟩, parts⟩
  · rfl
  · have given := value_relocate r parts
    rw [Node.relocate_node] at text ⊢
    cases content with
    | helperProperty | helperDirective | helperParameter =>
      exact congrArg (fun t => some (Line.around level _ t (span?.map r.span) _)) given
    | helperMarkupAttribute name form =>
      exact congrArg (fun t => some (Line.plain level (call _
        (if form == .minimized then [name] else [name, escapeMarkup t])))) text
    | _ => rfl

mutual

/-- An outline without extensions moves with its node. -/
theorem lines_relocate {s : Setting} (plain : s.extensions = []) : ∀ (level : Nat) (n : Node),
    lines s level (n.relocate r) = (lines s level n).map (Line.relocate r)
  | level, .absent => by
    rw [Node.relocate_absent, lines, extended?_eq_none plain]
    rfl
  | level, .node head children => by
    have inside := linesAll_relocate plain (level + 1) children
    have beside := linesAll_relocate plain level children
    have block := blockLines_relocate plain level children
    have attributes := helperLines_relocate plain (level + 1) children
    have tokens := tokenList_relocate r children
    have text := Node.text_relocate r (.node head children)
    rw [Node.relocate_node] at text ⊢
    rw [lines, lines, extended?_eq_none plain, extended?_eq_none plain, text]
    dsimp only
    rcases head with ⟨content, span?, diagnostics, label?⟩
    cases content with
    | classDecl shape =>
      simp only [Head.relocate, Content.relocate, braced, List.map_append, List.map_cons, inside,
        classHead_relocate]
      rfl
    | markupAttribute name opening closing => exact attributeLines_relocate r level _ _ _ _
    | namespaceDecl | methodDecl | sectionDecl =>
      simp only [Head.relocate, Content.relocate, braced, List.map_append, List.map_cons, inside]
      rfl
    | helper name mode helpers =>
      simp only [Head.relocate, Content.relocate, braced, List.map_append, List.map_cons,
        attributes, map_relocate_plain]
      rfl
    | directive name descriptor? =>
      simp only [Head.relocate, Content.relocate, List.map_cons, block, tokens]
      rfl
    | malformedDirective name descriptor? =>
      simp only [Head.relocate, Content.relocate, tokens]
      rfl
    | statement => exact (map_relocate_plain r _).symm
    | usingDecl | typeAlias | field | markup | expression => rfl
    | _ => exact beside

theorem linesAll_relocate {s : Setting} (plain : s.extensions = []) :
    ∀ (level : Nat) (ns : List Node),
      linesAll s level (ns.map (Node.relocate r)) = (linesAll s level ns).map (Line.relocate r)
  | _, [] => rfl
  | level, n :: ns => by
    rw [List.map_cons, linesAll, linesAll, List.map_append, lines_relocate plain level n,
      linesAll_relocate plain level ns]

theorem blockLines_relocate {s : Setting} (plain : s.extensions = []) :
    ∀ (level : Nat) (ns : List Node),
      blockLines s level (ns.map (Node.relocate r)) = (blockLines s level ns).map (Line.relocate r)
  | _, [] => rfl
  | level, n :: ns => by
    rw [List.map_cons, blockLines, blockLines, List.map_append, lines_relocate plain level n,
      blockLines_relocate plain level ns, Node.isToken_relocate,
      apply_ite (List.map (Line.relocate r)), List.map_nil]

theorem helperLines_relocate {s : Setting} (plain : s.extensions = []) :
    ∀ (level : Nat) (ns : List Node),
      helperLines s level (ns.map (Node.relocate r)) =
        (helperLines s level ns).map (Line.relocate r)
  | _, [] => rfl
  | level, .absent :: ns => helperLines_relocate plain level ns
  | level, .node head children :: ns => by
    have body := linesAll_relocate plain level children
    have other := lines_relocate plain level (.node head children)
    have written := helperAttribute?_relocate r level (.node head children)
    rw [Node.relocate_node] at other written
    rw [List.map_cons, Node.relocate_node, helperLines, helperLines, List.map_append,
      helperLines_relocate plain level ns]
    refine congrArg (· ++ _) ?_
    rcases head with ⟨content, span?, diagnostics, label?⟩
    cases content with
    | helperBody =>
      simp only [Head.relocate, Content.relocate, List.map_append, List.map_cons, body]
      rfl
    | helperProperty | helperDirective | helperParameter | helperMarkupAttribute =>
      exact congrArg Option.toList written
    | _ => exact other

end

end Outline

/-- A relocated document is written as the same text, with its findings relocated. -/
theorem Target.write_relocate (o : CodeOptions) (d : Document) :
    ((outline []).write o (d.relocate r)).text = ((outline []).write o d).text
      ∧ ((outline []).write o (d.relocate r)).diagnostics =
        ((outline []).write o d).diagnostics.map r.finding := by
  refine ⟨?_, d.allDiagnostics_relocate r⟩
  have lines : Outline.documentLines ⟨d.header, o, []⟩ (d.relocate r) =
      (Outline.documentLines ⟨d.header, o, []⟩ d).map (Line.relocate r) := by
    rw [Outline.documentLines, Outline.documentLines, Document.children_relocate,
      Outline.linesAll_relocate r rfl, List.map_append, apply_ite (List.map (Line.relocate r))]
    rfl
  exact (congrArg (textOf o) lines).trans (textOf_relocate r o _)

end Code

/-! ## Inputs of a compilation -/

namespace Syntax.Tree

variable (t : Tree) (binder : Binder)

theorem source_bindHelpers : (t.bindHelpers binder).source = t.source := by
  unfold bindHelpers
  split <;> rfl

theorem options_bindHelpers : (t.bindHelpers binder).options = t.options := by
  unfold bindHelpers
  split <;> rfl

end Syntax.Tree

/-- Two files are the same, except that the second one has the new number of the first one. -/
structure SourceFile.Renumbered (number : Nat → Nat) (f g : SourceFile) : Prop where
  id : g.id = number f.id
  content : g.content = f.content

namespace Workpiece

/-- The second of two documents gives an engine the same to work with as the first one: the same
source under the same path, and imports with the same contents.  The files have other numbers, and
the imports may have other paths. -/
structure Renumbered (number : Nat → Nat) (e : Engine) (doc doc' : CodeDocument)
    (source source' : SourceFile) (provided provided' : List SourceFile) : Prop where
  given : doc.source? = some source
  given' : doc'.source? = some source'
  fileKind : doc'.fileKind = doc.fileKind
  helpers : doc'.helpers? = doc.helpers?
  digest : doc'.digest = doc.digest
  parser : parserOptions e doc' = parserOptions e doc
  code : codeOptions e doc' = codeOptions e doc
  path : source'.path = source.path
  relative : source'.relative = source.relative
  source : SourceFile.Renumbered number source source'
  imports : List.Forall₂ (SourceFile.Renumbered number) (provided ++ doc.imports)
    (provided' ++ doc'.imports)

namespace Renumbered

variable {number : Nat → Nat} (injective : number.Injective) {e : Engine}
  {doc doc' : CodeDocument} {source source' : SourceFile} {provided provided' : List SourceFile}
  (same : Renumbered number e doc doc' source source' provided provided')

include same

theorem projectPath : doc'.projectPath = doc.projectPath := by
  rw [CodeDocument.projectPath, CodeDocument.projectPath, same.given, same.given']
  dsimp only
  rw [same.relative, same.path]

theorem preparedTree : Syntax.Tree.Moved (.renumber number)
    (preparedTree source (parserOptions e doc)) (preparedTree source' (parserOptions e doc')) := by
  rw [same.parser]
  exact Syntax.normalized_moved same.source.content same.source.id

theorem importTrees : List.Forall₂ (Syntax.Tree.Moved (.renumber number))
    (importTrees (parserOptions e doc) (provided ++ doc.imports))
    (importTrees (parserOptions e doc') (provided' ++ doc'.imports)) := by
  rw [Workpiece.importTrees, Workpiece.importTrees, List.forall₂_map_left_iff,
    List.forall₂_map_right_iff, same.parser]
  -- The kind of an import is not part of the grammar that its content is read with.
  exact same.imports.imp fun f f' files => Syntax.parse_moved files.content files.id (by rfl)

theorem scopeOf :
    scopeOf e doc' source' provided' = ((scopeOf e doc source provided).1,
      (scopeOf e doc source provided).2.map (Relocation.renumber number).finding) := by
  rw [Workpiece.scopeOf, Workpiece.scopeOf, same.helpers, same.fileKind]
  exact Discovery.discover_moved _ _ same.preparedTree same.importTrees

theorem boundTree : Syntax.Tree.Moved (.renumber number) (boundTree e doc source provided)
    (boundTree e doc' source' provided') := by
  have prepared := same.preparedTree
  rw [Workpiece.boundTree, Workpiece.boundTree, same.scopeOf]
  apply Syntax.Tree.Moved.bindHelpers
  · refine ⟨prepared.body, ?_⟩
    dsimp only
    rw [List.map_append, prepared.diagnostics]
  · exact congrArg ParserOptions.features same.parser

include injective

theorem unclassified : unclassified e doc' source' provided' =
    (unclassified e doc source provided).relocate (.renumber number) := by
  have features : (Workpiece.boundTree e doc' source' provided').options.features =
      (Workpiece.boundTree e doc source provided).options.features := by
    rw [Workpiece.boundTree, Workpiece.boundTree, Syntax.Tree.options_bindHelpers,
      Syntax.Tree.options_bindHelpers]
    exact congrArg ParserOptions.features same.parser
  have path : (Workpiece.boundTree e doc' source' provided').source.path =
      (Workpiece.boundTree e doc source provided).source.path := by
    rw [Workpiece.boundTree, Workpiece.boundTree, Syntax.Tree.source_bindHelpers,
      Syntax.Tree.source_bindHelpers]
    exact same.path
  rw [Workpiece.unclassified, Workpiece.unclassified,
    Lowering.document_moved injective same.boundTree same.importTrees features path, same.digest,
    same.code]
  rfl

/-- Renumbered inputs give the renumbered document. -/
theorem finished (components : Bool) : finished e doc' source' provided' components =
    (finished e doc source provided components).relocate (.renumber number) := by
  rw [Workpiece.finished, Workpiece.finished, same.unclassified injective]
  exact ProjectEngine.shaped_renumber injective components same.given same.given' same.source.id
    same.fileKind same.projectPath (Lowering.document_placed _ _)

end Renumbered

end Workpiece

end TemplateCompiler
