import Mathlib.Data.List.Forall2
import TemplateCompiler.Code.Outline
import TemplateCompiler.Proofs.TagReading

/-!
# Where remembered pieces come to stand

A piece that remembers its place in a template is a *mark* of its line.  Laying lines out records
one mapping for each mark, in order, at the offset where the text of the mark stands.  A line of an
outline has at most one mark, and something always stands behind it: the end of the line.  So the
mappings of an outline do not touch each other.

The second half follows marks back to the nodes that wrote them.
-/

namespace TemplateCompiler

theorem Text.StandsAt.append_left {content a b : Text} {offset : Nat}
    (stands : Text.StandsAt content offset (a ++ b)) : Text.StandsAt content offset a :=
  (List.prefix_append a b).trans stands

theorem Text.StandsAt.append_right {content a b : Text} {offset : Nat}
    (stands : Text.StandsAt content offset (a ++ b)) :
    Text.StandsAt content (offset + a.length) b := by
  have behind := stands.drop a.length
  rwa [List.drop_left] at behind

namespace Code

/-- A mapping records the place of a mark and where its text stands. -/
structure Mapping.Places (text : Text) (m : Mapping) (mark : Span × Text) : Prop where
  source : m.source = mark.1
  length : m.length = mark.2.length
  stands : Text.StandsAt text m.offset mark.2

def Mapping.generated (text : Text) (m : Mapping) : Text :=
  text.slice m.offset (m.offset + m.length)

theorem Mapping.Places.generated {text : Text} {m : Mapping} {mark : Span × Text}
    (places : m.Places text mark) : m.generated text = mark.2 := by
  have whole := places.stands.take_eq_slice (Nat.le_of_eq places.length)
  rw [List.take_of_length_le (Nat.le_of_eq places.length.symm)] at whole
  exact whole.symm

/-- The place that a piece remembers, with its text. -/
def Piece.mark? (p : Piece) : Option (Span × Text) := p.span?.map fun span => (span, p.text)

namespace Line

def marks (l : Line) : List (Span × Text) := l.pieces.filterMap Piece.mark?

/-! ## One line -/

theorem pieceMappings_places {text : Text} {ps : List Piece} :
    ∀ {offset : Nat}, Text.StandsAt text offset (ps.flatMap Piece.text) →
      List.Forall₂ (Mapping.Places text) (pieceMappings offset ps)
        (ps.filterMap Piece.mark?) := by
  induction ps with
  | nil => intro offset _; exact .nil
  | cons p ps ih =>
    intro offset stands
    rw [List.flatMap_cons] at stands
    have rest := ih stands.append_right
    unfold pieceMappings
    cases remembered : p.span? with
    | none =>
      have unmarked : p.mark? = none := by rw [Piece.mark?, remembered]; rfl
      rw [List.filterMap_cons_none unmarked]
      exact rest
    | some span =>
      have marked : p.mark? = some (span, p.text) := by rw [Piece.mark?, remembered]; rfl
      rw [List.filterMap_cons_some marked]
      exact .cons ⟨rfl, rfl, stands.append_left⟩ rest

theorem pieceMappings_range {ps : List Piece} :
    ∀ {offset : Nat}, ∀ m ∈ pieceMappings offset ps,
      offset ≤ m.offset ∧ m.offset + m.length ≤ offset + (ps.flatMap Piece.text).length := by
  induction ps with
  | nil => intro offset m member; cases member
  | cons p ps ih =>
    intro offset m member
    rw [List.flatMap_cons, List.length_append]
    rcases List.mem_append.mp member with here | there
    · rcases Option.map_eq_some_iff.mp (Option.mem_toList.mp here) with ⟨span, -, rfl⟩
      dsimp only
      omega
    · have range := ih m there
      omega

/-- The end of a line is not empty. -/
theorem lineEnd_pos (o : CodeOptions) : 0 < o.lineEnd.text.length := by
  unfold LineEnd.text
  split <;> decide

/-- The pieces of a line stand behind its margin. -/
theorem stands_content {o : CodeOptions} {l : Line} {text : Text} {offset : Nat}
    (stands : Text.StandsAt text offset (l.text o)) :
    Text.StandsAt text (offset + (l.margin o).length) l.content :=
  Text.StandsAt.append_right (Text.StandsAt.append_left stands)

theorem mappings_places {o : CodeOptions} {l : Line} {text : Text} {offset : Nat}
    (stands : Text.StandsAt text offset (l.text o)) :
    List.Forall₂ (Mapping.Places text) (l.mappings o offset) l.marks :=
  pieceMappings_places (stands_content stands)

theorem length_mappings (o : CodeOptions) (offset : Nat) (l : Line) :
    (l.mappings o offset).length = l.marks.length := by
  have behind : (List.replicate offset 0 ++ l.text o).drop offset = l.text o :=
    List.drop_left' List.length_replicate
  have stands : Text.StandsAt (List.replicate offset 0 ++ l.text o) offset (l.text o) :=
    ⟨[], (List.append_nil (l.text o)).trans behind.symm⟩
  exact (mappings_places stands).length_eq

theorem mappings_range {o : CodeOptions} {l : Line} {offset : Nat} {m : Mapping}
    (member : m ∈ l.mappings o offset) :
    offset ≤ m.offset ∧ m.offset + m.length < offset + (l.text o).length := by
  have range := pieceMappings_range m member
  have ended := lineEnd_pos o
  unfold text content
  rw [List.length_append, List.length_append]
  omega

end Line

/-! ## Lines -/

theorem mappingsOf_places {o : CodeOptions} {text : Text} {ls : List Line} :
    ∀ {offset : Nat}, Text.StandsAt text offset (textOf o ls) →
      List.Forall₂ (Mapping.Places text) (mappingsOf o offset ls) (ls.flatMap Line.marks) := by
  induction ls with
  | nil => intro offset _; exact .nil
  | cons l ls ih =>
    intro offset stands
    unfold textOf at stands
    rw [List.flatMap_cons] at stands
    rw [List.flatMap_cons]
    exact List.rel_append (Line.mappings_places stands.append_left) (ih stands.append_right)

theorem mappingsOf_range {o : CodeOptions} {ls : List Line} :
    ∀ {offset : Nat}, ∀ m ∈ mappingsOf o offset ls,
      offset ≤ m.offset ∧ m.offset + m.length < offset + (textOf o ls).length := by
  induction ls with
  | nil => intro offset m member; cases member
  | cons l ls ih =>
    intro offset m member
    unfold textOf
    rw [List.flatMap_cons, List.length_append]
    rcases List.mem_append.mp member with here | there
    · have range := Line.mappings_range here
      omega
    · have range := ih m there
      unfold textOf at range
      omega

/-- Lines with at most one mark each have mappings in increasing order that do not touch. -/
theorem mappingsOf_pairwise {o : CodeOptions} {ls : List Line} :
    ∀ {offset : Nat}, (∀ l ∈ ls, l.marks.length ≤ 1) →
      (mappingsOf o offset ls).Pairwise fun a b => a.offset + a.length < b.offset := by
  induction ls with
  | nil => intro offset _; exact .nil
  | cons l ls ih =>
    intro offset single
    refine List.pairwise_append.mpr ⟨?_, ih fun k member => single k (.tail l member), ?_⟩
    · have few := single l List.mem_cons_self
      rw [← Line.length_mappings o offset l] at few
      match l.mappings o offset, few with
      | [], _ => exact .nil
      | [m], _ => exact List.pairwise_singleton _ m
    · intro a before b behind
      have left := Line.mappings_range before
      have right := mappingsOf_range b behind
      omega

/-! ## Marks of an outline -/

def marksOf (ls : List Line) : List (Span × Text) := ls.flatMap Line.marks

end Code

/-- A node with a place in the template and the text that is written for it. -/
structure Mark where
  node : IR.Node
  span : Span
  text : Text

namespace Mark

/-- The mark of a node, if its place is known. -/
def of (n : IR.Node) (span? : Option Span) (text : Text) : List Mark :=
  (span?.map fun span => ⟨n, span, text⟩).toList

def place (m : Mark) : Span × Text := (m.span, m.text)

@[simp]
theorem map_place_of (n : IR.Node) (span? : Option Span) (text : Text) :
    (of n span? text).map place = (span?.map fun span => (span, text)).toList := by
  cases span? <;> rfl

end Mark

namespace Code.Outline

open IR

/-- The mark of the line of a class: its base type. -/
def classMarks (n : Node) (shape : ClassShape) : List Mark :=
  if shape.baseType.isEmpty then [] else Mark.of n shape.baseTypeSpan? shape.baseType

/-- The mark of an attribute of a tag helper: its value. -/
def helperAttributeMarks (n : Node) : List Mark :=
  match n.content? with
  | some (.helperProperty ..) | some (.helperDirective ..) | some (.helperParameter ..) =>
    Mark.of n n.span? (value n.children)
  | _ => []

def partMarks (n : Node) : List Mark :=
  match n.content? with
  | some .expression => Mark.of n n.span? n.text
  | _ => []

mutual

/-- The marks of the nodes that an outline writes, in order. -/
def marks : Node → List Mark
  | .absent => []
  | .node head children =>
    match head.content with
    | .usingDecl name => Mark.of (.node head children) head.span? ("using " ++ name ++ ";")
    | .expression => Mark.of (.node head children) head.span? (Node.node head children).text
    | .classDecl shape => classMarks (.node head children) shape ++ marksAll children
    | .markupAttribute .. => children.flatMap partMarks
    | .helper .. => helperMarks children
    | .directive .. => blockMarks children
    | .typeAlias .. | .field .. | .markup | .statement | .malformedDirective .. => []
    | _ => marksAll children

def marksAll : List Node → List Mark
  | [] => []
  | n :: ns => marks n ++ marksAll ns

/-- The marks of the children of a directive that are no tokens. -/
def blockMarks : List Node → List Mark
  | [] => []
  | n :: ns => (if n.isToken then [] else marks n) ++ blockMarks ns

def helperMarks : List Node → List Mark
  | [] => []
  | .node head children :: ns =>
    (match head.content with
      | .helperBody => marksAll children
      | .helperProperty .. | .helperDirective .. | .helperParameter ..
      | .helperMarkupAttribute .. => helperAttributeMarks (.node head children)
      | _ => marks (.node head children)) ++ helperMarks ns
  | .absent :: ns => helperMarks ns

end

/-- Lines have at most one mark each, and together the given ones. -/
structure Writes (ls : List Line) (ms : List Mark) : Prop where
  single : ∀ l ∈ ls, l.marks.length ≤ 1
  places : marksOf ls = ms.map Mark.place

theorem Writes.nil : Writes [] [] := ⟨fun _ member => absurd member List.not_mem_nil, rfl⟩

theorem Writes.append {ls ks : List Line} {ms ns : List Mark} (first : Writes ls ms)
    (second : Writes ks ns) : Writes (ls ++ ks) (ms ++ ns) := by
  constructor
  · intro l member
    rcases List.mem_append.mp member with here | there
    · exact first.single l here
    · exact second.single l there
  · rw [List.map_append, ← first.places, ← second.places]
    exact List.flatMap_append

theorem Writes.line {l : Line} {ms : List Mark} (single : l.marks.length ≤ 1)
    (places : l.marks = ms.map Mark.place) : Writes [l] ms := by
  constructor
  · intro k member
    cases List.mem_singleton.mp member
    exact single
  · rw [← places]
    exact List.append_nil l.marks

theorem Writes.plain (level : Nat) (text : Text) : Writes [.plain level text] [] :=
  .line (Nat.zero_le 1) rfl

theorem Writes.around (n : Node) (level : Nat) (before text after : Text) (span? : Option Span) :
    Writes [.around level before text span? after] (Mark.of n span? text) := by
  cases span? with
  | none => exact .line (Nat.zero_le 1) rfl
  | some span => exact .line (Nat.le_refl 1) rfl

theorem Writes.flatMap {α : Type} {xs : List α} {f : α → List Line} {g : α → List Mark}
    (each : ∀ x, Writes (f x) (g x)) : Writes (xs.flatMap f) (xs.flatMap g) := by
  induction xs with
  | nil => exact .nil
  | cons x xs ih =>
    rw [List.flatMap_cons, List.flatMap_cons]
    exact (each x).append ih

theorem Writes.map_plain {α : Type} (xs : List α) (level : Nat) (text : α → Text) :
    Writes (xs.map fun x => .plain level (text x)) [] := by
  induction xs with
  | nil => exact .nil
  | cons x xs ih => exact (Writes.plain level (text x)).append ih

theorem Writes.between {ls : List Line} {ms : List Mark} (writes : Writes ls ms) (level : Nat)
    (before after : Text) : Writes (.plain level before :: ls ++ [.plain level after]) ms := by
  have closed := ((Writes.plain level before).append writes).append (.plain level after)
  rwa [List.nil_append, List.append_nil] at closed

theorem Writes.braced {ls : List Line} {ms : List Mark} (writes : Writes ls ms) (level : Nat) :
    Writes (braced level ls) ms := writes.between level "\x7b" "\x7d"

theorem classLine_writes (n : Node) (level : Nat) (shape : ClassShape) :
    Writes [classLine level shape] (classMarks n shape) := by
  unfold classLine classMarks
  dsimp only
  cases shape.baseType.isEmpty with
  | false => exact .around n _ _ _ _ _
  | true =>
    simp only [Bool.not_true, Bool.false_eq_true, if_false, if_true]
    split
    · exact .plain _ _
    · exact .plain _ _

theorem classHead_writes (n : Node) (header : DocumentHeader) (o : CodeOptions) (level : Nat)
    (shape : ClassShape) : Writes (classHead header o level shape) (classMarks n shape) := by
  have metadata : Writes (if !o.suppressMetadata && !header.kind.isEmpty then
      [.plain level ("[QuillDocument(" ++ header.kind.quoted ++ ", " ++ header.sourcePath.quoted
        ++ ")]")] else []) [] := by
    split
    · exact .plain _ _
    · exact .nil
  have whole := ((metadata.append (.map_plain shape.attributes level id)).append
    (classLine_writes n level shape)).append
    (.map_plain (shape.typeParameters.filter fun p => !p.constraint.isEmpty) (level + 1)
      (·.constraint))
  rw [List.append_nil] at whole
  exact whole

theorem attributePart_writes (level : Nat) (n : Node) :
    Writes (attributePart level n) (partMarks n) := by
  cases n with
  | absent => exact .nil
  | node head children =>
    rcases head with ⟨content, span?, diagnostics, label?⟩
    cases content with
    | attributeText opening => exact .plain _ _
    | expression => exact .around _ _ _ _ _ _
    | _ => exact .nil

theorem helperAttribute_writes {level : Nat} {n : Node} {line : Line}
    (written : helperAttribute? level n = some line) :
    Writes [line] (helperAttributeMarks n) := by
  cases n with
  | absent => cases written
  | node head children =>
    rcases head with ⟨content, span?, diagnostics, label?⟩
    cases content with
    | helperProperty | helperDirective | helperParameter =>
      cases written
      exact .around _ _ _ _ _ _
    | helperMarkupAttribute =>
      cases written
      exact .plain _ _
    | _ => cases written

theorem extended?_eq_none {s : Setting} (plain : s.extensions = []) (level : Nat) (n : Node) :
    s.extended? level n = none := by
  unfold Setting.extended?
  rw [plain]
  rfl

mutual

/-- An outline without extensions writes the marks of its nodes. -/
theorem lines_writes {s : Setting} (plain : s.extensions = []) :
    ∀ (level : Nat) (n : Node), Writes (lines s level n) (marks n)
  | level, .absent => by
    unfold lines
    rw [extended?_eq_none plain]
    exact .nil
  | level, .node head children => by
    have inside := linesAll_writes plain (level + 1) children
    have beside := linesAll_writes plain level children
    have block := blockLines_writes plain level children
    have attributes := helperLines_writes plain (level + 1) children
    unfold lines
    rw [extended?_eq_none plain]
    dsimp only
    rcases head with ⟨content, span?, diagnostics, label?⟩
    cases content with
    | namespaceDecl name isPrimary => exact (Writes.plain _ _).append (inside.braced level)
    | usingDecl name =>
      cases span? with
      | none => exact .line (Nat.zero_le 1) rfl
      | some span => exact .line (Nat.le_refl 1) rfl
    | typeAlias name target => exact .plain _ _
    | classDecl shape => exact (classHead_writes _ _ _ _ _).append (inside.braced level)
    | methodDecl shape => exact (Writes.plain _ _).append (inside.braced level)
    | field modifiers typeName name => exact .plain _ _
    | markup => exact .plain _ _
    | expression => exact .around _ _ _ _ _ _
    | statement => exact .map_plain _ level _
    | markupAttribute name opening closing =>
      exact (Writes.flatMap (attributePart_writes level)).between level _ _
    | sectionDecl name =>
      exact (Writes.plain _ _).append (inside.between level "\x7b" "\x7d);")
    | helper name mode helpers =>
      exact (Writes.plain _ _).append
        (((Writes.map_plain helpers (level + 1) creation).append attributes).braced level)
    | directive name descriptor? => exact (Writes.plain _ _).append block
    | malformedDirective name descriptor? => exact .plain _ _
    | _ => exact beside

theorem linesAll_writes {s : Setting} (plain : s.extensions = []) :
    ∀ (level : Nat) (ns : List Node), Writes (linesAll s level ns) (marksAll ns)
  | _, [] => .nil
  | level, n :: ns => (lines_writes plain level n).append (linesAll_writes plain level ns)

theorem blockLines_writes {s : Setting} (plain : s.extensions = []) :
    ∀ (level : Nat) (ns : List Node), Writes (blockLines s level ns) (blockMarks ns)
  | _, [] => .nil
  | level, n :: ns => by
    have written := lines_writes plain level n
    refine Writes.append ?_ (blockLines_writes plain level ns)
    cases n.isToken with
    | true => exact .nil
    | false => exact written

theorem helperLines_writes {s : Setting} (plain : s.extensions = []) :
    ∀ (level : Nat) (ns : List Node), Writes (helperLines s level ns) (helperMarks ns)
  | _, [] => .nil
  | level, .absent :: ns => helperLines_writes plain level ns
  | level, .node head children :: ns => by
    have body := linesAll_writes plain level children
    have other := lines_writes plain level (.node head children)
    refine Writes.append ?_ (helperLines_writes plain level ns)
    rcases head with ⟨content, span?, diagnostics, label?⟩
    cases content with
    | helperBody => exact body.between level _ _
    | helperProperty | helperDirective | helperParameter | helperMarkupAttribute =>
      exact helperAttribute_writes rfl
    | _ => exact other

end

theorem documentLines_writes {s : Setting} (plain : s.extensions = []) (d : Document) :
    Writes (documentLines s d) (marksAll d.children) := by
  have checksum : Writes (if !s.options.suppressChecksum && !d.header.sourceDigest.isZero then
      [.plain 0 ("// checksum sha256 " ++ d.header.sourceDigest.hex ++ " "
        ++ d.header.sourcePath.quoted)] else []) [] := by
    split
    · exact .plain _ _
    · exact .nil
  exact checksum.append (linesAll_writes plain 0 d.children)

/-! ## Marks come from nodes -/

/-- Where the node of a mark is an import or an expression, the mark has its place and says what is
written for it. -/
def Fits (k : Mark) : Prop :=
  match k.node.content? with
  | some (.usingDecl name) => k.node.span? = some k.span ∧ k.text = "using " ++ name ++ ";"
  | some .expression => k.node.span? = some k.span ∧ k.text = k.node.text
  | _ => True

/-- A mark is one of a node among the given ones. -/
structure Among (ns : List Node) (k : Mark) : Prop where
  member : k.node ∈ ns
  fits : Fits k

theorem Among.mono {ns ms : List Node} {k : Mark} (among : Among ns k)
    (more : ∀ n ∈ ns, n ∈ ms) : Among ms k := ⟨more _ among.member, among.fits⟩

theorem mem_of {n : Node} {span? : Option Span} {text : Text} {k : Mark}
    (member : k ∈ Mark.of n span? text) : ∃ span, span? = some span ∧ k = ⟨n, span, text⟩ := by
  rcases Option.map_eq_some_iff.mp (Option.mem_toList.mp member) with ⟨span, known, rfl⟩
  exact ⟨span, known, rfl⟩

theorem classMarks_among {head : Head} {children : List Node} {shape : ClassShape}
    (isClass : head.content = .classDecl shape) :
    ∀ k ∈ classMarks (.node head children) shape, Among [.node head children] k := by
  intro k member
  unfold classMarks at member
  split at member
  · cases member
  · rcases mem_of member with ⟨span, -, rfl⟩
    refine ⟨List.mem_singleton_self _, ?_⟩
    rcases head with ⟨content, span?, diagnostics, label?⟩
    cases isClass
    trivial

theorem partMarks_among {n : Node} : ∀ k ∈ partMarks n, Among [n] k := by
  intro k member
  unfold partMarks at member
  split at member
  · next isExpression =>
    rcases mem_of member with ⟨span, known, rfl⟩
    refine ⟨List.mem_singleton_self _, ?_⟩
    unfold Fits
    rw [isExpression]
    exact ⟨known, rfl⟩
  · cases member

theorem helperAttributeMarks_among {n : Node} : ∀ k ∈ helperAttributeMarks n, Among [n] k := by
  intro k member
  unfold helperAttributeMarks at member
  split at member
  case h_4 => cases member
  all_goals
    next isAttribute =>
    rcases mem_of member with ⟨span, -, rfl⟩
    refine ⟨List.mem_singleton_self _, ?_⟩
    unfold Fits
    rw [isAttribute]
    trivial

theorem mem_preorderAll {n : Node} {ns : List Node} (member : n ∈ ns) :
    ∀ m ∈ n.preorder, m ∈ Node.preorderAll ns := by
  induction ns with
  | nil => cases member
  | cons k ns ih =>
    intro m inside
    rcases List.mem_cons.mp member with rfl | behind
    · exact List.mem_append_left _ inside
    · exact List.mem_append_right _ (ih behind m inside)

theorem self_mem_preorder (n : Node) : n ∈ n.preorder := by
  cases n with
  | absent => exact List.mem_singleton_self _
  | node head children => exact List.mem_cons_self

mutual

theorem marks_among : ∀ n : Node, ∀ k ∈ marks n, Among n.preorder k
  | .absent, k, member => by cases member
  | .node head children, k, member => by
    have self : ∀ m ∈ [Node.node head children], m ∈ (Node.node head children).preorder := by
      intro m same
      cases List.mem_singleton.mp same
      exact self_mem_preorder _
    have below : ∀ m ∈ Node.preorderAll children, m ∈ (Node.node head children).preorder :=
      fun m inside => List.mem_cons_of_mem _ inside
    have inside := marksAll_among children
    have block := blockMarks_among children
    have attributes := helperMarks_among children
    unfold marks at member
    rcases head with ⟨content, span?, diagnostics, label?⟩
    cases content with
    | usingDecl name =>
      rcases mem_of member with ⟨span, known, rfl⟩
      exact ⟨self_mem_preorder _, known, rfl⟩
    | expression =>
      rcases mem_of member with ⟨span, known, rfl⟩
      exact ⟨self_mem_preorder _, known, rfl⟩
    | classDecl shape =>
      rcases List.mem_append.mp member with here | there
      · exact (classMarks_among rfl k here).mono self
      · exact (inside k there).mono below
    | markupAttribute name opening closing =>
      rcases List.mem_flatMap.mp member with ⟨part, among, here⟩
      refine (partMarks_among k here).mono fun m same => below m ?_
      cases List.mem_singleton.mp same
      exact mem_preorderAll among _ (self_mem_preorder _)
    | helper name mode helpers => exact (attributes k member).mono below
    | directive name descriptor? => exact (block k member).mono below
    | typeAlias | field | markup | statement | malformedDirective => cases member
    | _ => exact (inside k member).mono below

theorem marksAll_among : ∀ ns : List Node, ∀ k ∈ marksAll ns, Among (Node.preorderAll ns) k
  | [], k, member => by cases member
  | n :: ns, k, member => by
    rcases List.mem_append.mp member with here | there
    · exact (marks_among n k here).mono fun _ inside => List.mem_append_left _ inside
    · exact (marksAll_among ns k there).mono fun _ inside => List.mem_append_right _ inside

theorem blockMarks_among : ∀ ns : List Node, ∀ k ∈ blockMarks ns, Among (Node.preorderAll ns) k
  | [], k, member => by cases member
  | n :: ns, k, member => by
    rcases List.mem_append.mp member with here | there
    · split at here
      · cases here
      · exact (marks_among n k here).mono fun _ inside => List.mem_append_left _ inside
    · exact (blockMarks_among ns k there).mono fun _ inside => List.mem_append_right _ inside

theorem helperMarks_among :
    ∀ ns : List Node, ∀ k ∈ helperMarks ns, Among (Node.preorderAll ns) k
  | [], k, member => by cases member
  | .absent :: ns, k, member =>
    (helperMarks_among ns k member).mono fun _ inside => List.mem_append_right _ inside
  | .node head children :: ns, k, member => by
    have body := marksAll_among children
    have other := marks_among (.node head children)
    rcases List.mem_append.mp member with here | there
    · refine Among.mono ?_ fun _ inside => List.mem_append_left _ inside
      rcases head with ⟨content, span?, diagnostics, label?⟩
      cases content with
      | helperBody => exact (body k here).mono fun _ inside => List.mem_cons_of_mem _ inside
      | helperProperty | helperDirective | helperParameter | helperMarkupAttribute =>
        refine (helperAttributeMarks_among k here).mono fun m same => ?_
        cases List.mem_singleton.mp same
        exact self_mem_preorder _
      | _ => exact other k here
    · exact (helperMarks_among ns k there).mono fun _ inside => List.mem_append_right _ inside

end

end Code.Outline

namespace Code.Target

open IR Outline

variable (o : CodeOptions) (d : Document)

/-- The mappings of a written document record the marks of its nodes, in order. -/
theorem write_places :
    List.Forall₂ (fun m k => Mapping.Places ((outline []).write o d).text m k.place)
      ((outline []).write o d).mappings (marksAll d.children) := by
  have written := documentLines_writes (s := ⟨d.header, o, []⟩) rfl d
  have stands := Text.StandsAt.of_drop (textOf o (documentLines ⟨d.header, o, []⟩ d)) 0
  have placed := mappingsOf_places stands
  have marks : (documentLines ⟨d.header, o, []⟩ d).flatMap Line.marks = _ := written.places
  rw [marks] at placed
  exact List.forall₂_map_right_iff.mp placed

theorem write_pairwise :
    ((outline []).write o d).mappings.Pairwise fun a b => a.offset + a.length < b.offset :=
  mappingsOf_pairwise (documentLines_writes (s := ⟨d.header, o, []⟩) rfl d).single

theorem write_inside :
    ∀ m ∈ ((outline []).write o d).mappings,
      m.offset + m.length < ((outline []).write o d).text.length := by
  intro m member
  have range := (mappingsOf_range m member).2
  rwa [Nat.zero_add] at range

end Code.Target

end TemplateCompiler
