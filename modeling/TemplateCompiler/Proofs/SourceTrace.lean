import TemplateCompiler.Proofs.LosslessParse
import TemplateCompiler.Proofs.PreparedTrees

/-!
# Syntax trees that can be traced to their files

A tree that is faithful to one file is changed before it is lowered: neighbouring texts are joined,
and directive tokens lose the white space around them.  What later stages take from a tree as code
of the template stays what the file says at its span.  That is the property followed here, for
trees of different files at once: a node is *traced* if the file that its span names is in the file
set and holds there what the node says.

Texts and comments are not traced.  Nodes of tag helpers are excluded; a parser makes none.
-/

namespace TemplateCompiler

/-- Behind its leading white space, a text starts with what trimming leaves of it. -/
theorem Text.trimWhile_stands (t : Text) (p : UInt8 → Bool) :
    t.trimWhile p <+: t.drop (t.takeWhile p).length := by
  have behind : t.drop (t.takeWhile p).length = t.dropWhile p := by
    have whole := List.takeWhile_append_dropWhile (p := p) (l := t)
    have cut := congrArg (List.drop (t.takeWhile p).length) whole
    rw [List.drop_left] at cut
    exact cut.symm
  rw [behind, Text.trimWhile, Text.dropEndWhile]
  have ends := List.dropWhile_suffix p (l := (t.dropWhile p).reverse)
  have starts := List.reverse_prefix.mpr ends
  rwa [List.reverse_reverse] at starts

/-- The file of a span is in the set, and its content has a property. -/
def FileSet.Holds (files : FileSet) (span : Span) (P : Text → Prop) : Prop :=
  ∃ file, files.get? span.file = some file ∧ P file.content

namespace Syntax

/-! ## Traced nodes -/

/-- Code in a value stands in its file. -/
def ValuePart.Traced (files : FileSet) : ValuePart → Prop
  | .code span written explicit =>
    files.Holds span fun content => ExpressionWritten content span written explicit
  | _ => True

/-- A token stands in its file. -/
def DirectiveToken.Traced (files : FileSet) (t : DirectiveToken) : Prop :=
  files.Holds t.span fun content => content.slice t.span.start t.span.stop = t.content

namespace Node

/-- The code and the tokens that a node takes from its file stand there. -/
def Traced (files : FileSet) : Node → Prop
  | .element _ tag _ _ => ∀ a ∈ tag.attributes, ∀ part ∈ a.value, part.Traced files
  | .directive _ head _ => ∀ token ∈ head.tokens, token.Traced files
  | .expression span code explicit =>
    files.Holds span fun content => ExpressionWritten content span code explicit
  | .helper .. => False
  | _ => True

/-- All of some nodes are traced, with everything inside them. -/
def AllTraced (files : FileSet) (ns : List Node) : Prop := ∀ n ∈ ns, n.Every (Traced files)

theorem AllTraced.nil (files : FileSet) : AllTraced files [] :=
  fun _ member => absurd member List.not_mem_nil

theorem AllTraced.head {files : FileSet} {n : Node} {ns : List Node}
    (traced : AllTraced files (n :: ns)) : n.Every (Traced files) :=
  traced n List.mem_cons_self

theorem AllTraced.tail {files : FileSet} {n : Node} {ns : List Node}
    (traced : AllTraced files (n :: ns)) : AllTraced files ns :=
  fun m member => traced m (List.mem_cons_of_mem n member)

theorem AllTraced.cons {files : FileSet} {n : Node} {ns : List Node}
    (first : n.Every (Traced files)) (rest : AllTraced files ns) : AllTraced files (n :: ns) := by
  intro m member
  rcases List.mem_cons.mp member with rfl | behind
  · exact first
  · exact rest m behind

end Node

/-! ## Parsing -/

/-- Code in a faithful attribute stands in the attribute's file. -/
theorem Attribute.Faithful.traced {files : FileSet} {source : SourceFile} {file : Nat}
    {a : Attribute} (registered : files.get? file = some source)
    (faithful : a.Faithful file source.content) : ∀ part ∈ a.value, part.Traced files := by
  intro part member
  rcases faithful.tiled with ⟨start, stop, -, tiled⟩
  have located := tiled.file_of_mem (List.mem_map_of_mem member)
  have written := faithful.parts part member
  cases part with
  | text span t => trivial
  | transition span => trivial
  | code span code explicit =>
    change span.file = file at located
    exact ⟨source, by rw [located]; exact registered, written⟩

theorem Node.Faithful.traced {files : FileSet} {source : SourceFile} {file : Nat} {n : Node}
    (registered : files.get? file = some source) (faithful : n.Faithful file source.content) :
    n.Traced files := by
  have located := faithful.located
  have written := faithful.written
  cases n with
  | element span tag endTag? body =>
    intro a member
    exact (written.1 a member).traced registered
  | directive span head body =>
    intro token member
    rcases written.1.tokens token member with ⟨same, text⟩
    exact ⟨source, by rw [same]; exact registered, text.symm⟩
  | expression span code explicit =>
    change span.file = file at located
    exact ⟨source, by rw [located]; exact registered, written⟩
  | helper span head body => exact written
  | text span t => trivial
  | markupComment span t => trivial
  | transition span => trivial
  | codeBlock span code statement => trivial
  | comment span t => trivial

/-- The tree of a file in the set is traced, also where only its leading directives were read. -/
theorem parse_traced {files : FileSet} {source : SourceFile}
    (registered : files.get? source.id = some source) (options : ParserOptions) :
    Node.AllTraced files (parse source options).body := by
  rcases parse_gathered source options with ⟨stop, -, faithful, -⟩
  intro n member
  exact (faithful n member).imp fun m written => written.traced registered

/-! ## Joining texts -/

namespace Node

theorem mergeAll_traced {files : FileSet} {ns : List Node} (traced : AllTraced files ns) :
    AllTraced files (mergeAll ns).1 := by
  apply mergeAll_every (fun _ _ _ _ => trivial) _ traced
  intro n self
  cases n <;> exact self

/-! ## Trimming tokens -/

/-- A token without the white space around it lies inside of the token that it was, and says what its
narrower span covers if the longer one did. -/
structure NarrowedFrom (t u : DirectiveToken) : Prop where
  file : u.span.file = t.span.file
  length : u.span.start + u.content.length = u.span.stop
  inside : u.span.stop ≤ t.span.start + t.content.length
  written : ∀ content : Text, content.slice t.span.start t.span.stop = t.content →
    content.slice u.span.start u.span.stop = u.content

theorem trimToken?_narrowed {t u : DirectiveToken} (trimmed : trimToken? t = some u) :
    NarrowedFrom t u := by
  have front := Text.trimWhile_stands t.content isTokenBlank
  unfold trimToken? at trimmed
  dsimp only at trimmed
  split at trimmed
  · cases trimmed
  · cases trimmed
    refine ⟨rfl, rfl, ?_, ?_⟩
    · have shorter := front.length_le
      have lead := (List.takeWhile_sublist isTokenBlank (l := t.content)).length_le
      rw [List.length_drop] at shorter
      dsimp only
      omega
    · intro content written
      have stands : Text.StandsAt content t.span.start t.content := by
        rw [← written]
        exact List.take_prefix _ _
      have narrowed := (stands.drop (t.content.takeWhile isTokenBlank).length).take_eq_slice
        front.length_le
      exact narrowed.symm.trans (List.prefix_iff_eq_take.mp front).symm

theorem trimToken?_traced {files : FileSet} {t u : DirectiveToken} (traced : t.Traced files)
    (trimmed : trimToken? t = some u) : u.Traced files := by
  rcases traced with ⟨file, registered, written⟩
  have narrowed := trimToken?_narrowed trimmed
  exact ⟨file, narrowed.file.symm ▸ registered, narrowed.written file.content written⟩

theorem trimTokens_traced {files : FileSet} {ts : List DirectiveToken}
    (traced : ∀ t ∈ ts, t.Traced files) : ∀ t ∈ trimTokens ts, t.Traced files := by
  intro u member
  rcases List.mem_map.mp member with ⟨t, original, rfl⟩
  cases trimmed : trimToken? t with
  | none => exact traced t original
  | some v => exact trimToken?_traced (traced t original) trimmed

theorem trimAll_traced {files : FileSet} {ns : List Node} (traced : AllTraced files ns) :
    AllTraced files (trimAll ns).1 := by
  apply trimAll_every _ traced
  intro n self
  cases n with
  | directive => exact trimTokens_traced self
  | _ => exact self

end Node

end Syntax

end TemplateCompiler
