import TemplateCompiler.Proofs.CodeLayout

/-!
# Writing an outline command by command

An outline is laid out here in one go, from lines that each know their level.  A writer that is told
what to write command by command keeps a level, and whether it is at the start of a line: there the
next text is indented first.  Blocks are opened and closed by commands of their own, so a node that
opens one more than it closes, or that does not end its line, would spoil all that follows.

None does.  The commands of a node, given at the start of a line, write exactly its lines, and leave
the writer at the start of a line with its level as it was.  So the outlines of two lists of nodes
stand one after another in that of both, and the level is zero at the end of a document.
-/

namespace TemplateCompiler

namespace Code

/-- What has been written so far, and how it goes on. -/
structure Writer where
  text : Text := []
  level : Nat := 0
  /-- Whether nothing stands in the current line, not even its indentation. -/
  atLineStart : Bool := true
  mappings : List Mapping := []

abbrev Command := StateM Writer Unit

namespace Command

def after (c : Command) (w : Writer) : Writer := (c.run w).2

def startLine (o : CodeOptions) : Command :=
  modify fun w =>
    if w.atLineStart then
      { w with text := w.text ++ Line.indentation o w.level, atLineStart := false }
    else w

/-- Write a text.  An empty one starts no line. -/
def write (o : CodeOptions) (t : Text) : Command :=
  if t.isEmpty then pure ()
  else do
    startLine o
    modify fun w => { w with text := w.text ++ t }

/-- Write a text that may have come from a place.  It starts a line even if it is empty. -/
def writeMapped (o : CodeOptions) (t : Text) (span? : Option Span) : Command := do
  startLine o
  modify fun w => { w with
    text := w.text ++ t
    mappings := w.mappings ++ (span?.map fun span => ⟨span, w.text.length, t.length⟩).toList }

def writeLine (o : CodeOptions) (t : Text) : Command := do
  write o t
  modify fun w => { w with text := w.text ++ o.lineEnd.text, atLineStart := true }

def indent : Command := modify fun w => { w with level := w.level + 1 }

/-- Go back to the level before; there is none before zero. -/
def dedent : Command := modify fun w => { w with level := w.level - 1 }

def openBlock (o : CodeOptions) : Command := do
  writeLine o "\x7b"
  indent

def closeBlock (o : CodeOptions) : Command := do
  dedent
  writeLine o "\x7d"

end Command

namespace Outline

open IR Command

/-! ## The commands of a node -/

/-- A call with one argument that may have come from a place. -/
def renderCall (o : CodeOptions) (before text : Text) (span? : Option Span) : Command := do
  write o before
  writeMapped o text span?
  writeLine o ");"

def renderMetadata (header : DocumentHeader) (o : CodeOptions) : Command :=
  if !o.suppressMetadata && !header.kind.isEmpty then
    writeLine o ("[QuillDocument(" ++ header.kind.quoted ++ ", " ++ header.sourcePath.quoted ++ ")]")
  else pure ()

/-- The line of a class with its base type and interfaces. -/
def renderClassLine (o : CodeOptions) (c : ClassShape) : Command :=
  let parameters : Text := if c.typeParameters.isEmpty then []
    else "<" ++ Text.join ", " (c.typeParameters.map (·.name)) ++ ">"
  let head := joinPresent [Text.join " " c.modifiers, "class", c.name] ++ parameters
  let interfaces := Text.join ", " c.interfaces
  if !c.baseType.isEmpty then do
    write o (head ++ " : ")
    writeMapped o c.baseType c.baseTypeSpan?
    write o (Text.when (!c.interfaces.isEmpty) (", " ++ interfaces))
    writeLine o []
  else if !c.interfaces.isEmpty then writeLine o (head ++ " : " ++ interfaces)
  else writeLine o head

/-- The constraint of a type parameter, one level deeper than its class. -/
def renderConstraint (o : CodeOptions) (p : TypeParameter) : Command :=
  if p.constraint.isEmpty then pure ()
  else do
    indent
    writeLine o p.constraint
    dedent

def renderClassHead (header : DocumentHeader) (o : CodeOptions) (c : ClassShape) : Command := do
  renderMetadata header o
  c.attributes.forM (writeLine o)
  renderClassLine o c
  c.typeParameters.forM (renderConstraint o)

def renderStatement (o : CodeOptions) (code : Text) : Command :=
  code.trimBlank.lines.forM fun line => writeLine o line.trimBlank

/-- A part of an attribute; other nodes are left out. -/
def renderPart (o : CodeOptions) (n : Node) : Command :=
  match n with
  | .node { content := .attributeText opening, .. } _ =>
    writeLine o (call "WriteAttributeValue" [opening, n.text])
  | .node { content := .expression, span?, .. } _ =>
    renderCall o "WriteAttributeValue(" n.text span?
  | _ => pure ()

/-- An attribute of a tag helper; nothing for other nodes. -/
def renderHelperAttribute? (o : CodeOptions) (n : Node) : Option Command :=
  match n with
  | .node { content := .helperProperty _ _ helper bound _, span?, .. } parts =>
    some (renderCall o
      ("SetProperty(" ++ helper.displayName.quoted ++ ", " ++ bound.name.quoted ++ ", ")
      (value parts) span?)
  | .node { content := .helperMarkupAttribute name form, .. } _ =>
    some (writeLine o (call "AddHTMLAttribute"
      (if form == .minimized then [name] else [name, escapeMarkup n.text])))
  | .node { content := .helperDirective _ written .., span?, .. } parts =>
    some (renderCall o ("SetDirectiveAttribute(" ++ written.quoted ++ ", ") (value parts) span?)
  | .node { content := .helperParameter _ written .., span?, .. } parts =>
    some (renderCall o ("SetDirectiveAttributeParameter(" ++ written.quoted ++ ", ") (value parts)
      span?)
  | _ => none

mutual

/-- Write a node, without extensions, by commands to a writer that knows where lines start and how
far they are indented. -/
def render (header : DocumentHeader) (o : CodeOptions) : Node → Command
  | .absent => pure ()
  | .node head children =>
    match head.content with
    | .namespaceDecl name _ => do
      writeLine o ("namespace " ++ name)
      openBlock o
      renderAll header o children
      closeBlock o
    | .usingDecl name => do
      writeMapped o ("using " ++ name ++ ";") head.span?
      writeLine o []
    | .typeAlias name target => writeLine o ("using " ++ name ++ " = " ++ target ++ ";")
    | .classDecl shape => do
      renderClassHead header o shape
      openBlock o
      renderAll header o children
      closeBlock o
    | .methodDecl shape => do
      writeLine o (methodLine shape)
      openBlock o
      renderAll header o children
      closeBlock o
    | .field modifiers typeName name =>
      writeLine o (joinPresent [Text.join " " modifiers, typeName, name] ++ ";")
    | .markup => writeLine o (call "WriteLiteral" [(Node.node head children).text])
    | .expression => renderCall o "Write(" (Node.node head children).text head.span?
    | .statement => renderStatement o (Node.node head children).text
    | .markupAttribute name opening closing => do
      writeLine o (call "BeginWriteAttribute" [name, opening, closing])
      children.forM (renderPart o)
      writeLine o "EndWriteAttribute();"
    | .sectionDecl name => do
      writeLine o ("DefineSection(" ++ name.quoted ++ ", () =>")
      openBlock o
      renderAll header o children
      dedent
      writeLine o "\x7d);"
    | .helper name mode helpers => do
      writeLine o ("// <" ++ name ++ "> " ++ mode.name)
      openBlock o
      helpers.forM fun d => writeLine o (creation d)
      renderHelper header o children
      closeBlock o
    | .directive name _ => do
      writeLine o ("// @" ++ name ++ " " ++ tokenList children)
      renderBlock header o children
    | .malformedDirective name _ =>
      writeLine o ("// malformed @" ++ name ++ " " ++ tokenList children)
    | _ => renderAll header o children

def renderAll (header : DocumentHeader) (o : CodeOptions) : List Node → Command
  | [] => pure ()
  | n :: ns => do
    render header o n
    renderAll header o ns

/-- Write the children of a directive that are no tokens. -/
def renderBlock (header : DocumentHeader) (o : CodeOptions) : List Node → Command
  | [] => pure ()
  | n :: ns => do
    (if n.isToken then pure () else render header o n)
    renderBlock header o ns

def renderHelper (header : DocumentHeader) (o : CodeOptions) : List Node → Command
  | [] => pure ()
  | .absent :: ns => renderHelper header o ns
  | .node head children :: ns => do
    (match head.content with
      | .helperBody => do
        writeLine o "BeginTagHelperBody();"
        renderAll header o children
        writeLine o "EndTagHelperBody();"
      | _ => (renderHelperAttribute? o (.node head children)).getD
        (render header o (.node head children)))
    renderHelper header o ns

end

def renderChecksum (header : DocumentHeader) (o : CodeOptions) : Command :=
  if !o.suppressChecksum && !header.sourceDigest.isZero then
    writeLine o ("// checksum sha256 " ++ header.sourceDigest.hex ++ " " ++ header.sourcePath.quoted)
  else pure ()

def renderDocument (o : CodeOptions) (d : Document) : Command := do
  renderChecksum d.header o
  renderAll d.header o d.children

end Outline

/-! ## Lines one after another -/

/-- A mapping of text that stands behind more text: only its offset changes. -/
def Mapping.shift (length : Nat) (m : Mapping) : Mapping := { m with offset := length + m.offset }

theorem textOf_append (o : CodeOptions) (ls ks : List Line) :
    textOf o (ls ++ ks) = textOf o ls ++ textOf o ks :=
  List.flatMap_append

theorem textOf_cons (o : CodeOptions) (l : Line) (ls : List Line) :
    textOf o (l :: ls) = l.text o ++ textOf o ls :=
  List.flatMap_cons

theorem mappingsOf_append (o : CodeOptions) (ls ks : List Line) :
    ∀ offset, mappingsOf o offset (ls ++ ks) =
      mappingsOf o offset ls ++ mappingsOf o (offset + (textOf o ls).length) ks := by
  induction ls with
  | nil => exact fun _ => rfl
  | cons l ls ih =>
    intro offset
    rw [List.cons_append, mappingsOf, mappingsOf, ih, List.append_assoc, textOf_cons,
      List.length_append, Nat.add_assoc]

theorem pieceMappings_shift (length : Nat) (ps : List Piece) :
    ∀ offset, Line.pieceMappings (length + offset) ps =
      (Line.pieceMappings offset ps).map (Mapping.shift length) := by
  induction ps with
  | nil => exact fun _ => rfl
  | cons p ps ih =>
    intro offset
    rw [Line.pieceMappings, Line.pieceMappings, List.map_append, ← ih, Nat.add_assoc]
    cases p.span? <;> rfl

/-- Lines that are written behind more text have the same mappings there. -/
theorem mappingsOf_shift (o : CodeOptions) (length : Nat) (ls : List Line) :
    ∀ offset, mappingsOf o (length + offset) ls =
      (mappingsOf o offset ls).map (Mapping.shift length) := by
  induction ls with
  | nil => exact fun _ => rfl
  | cons l ls ih =>
    intro offset
    rw [mappingsOf, mappingsOf, List.map_append, ← ih, Nat.add_assoc, Line.mappings, Line.mappings,
      Nat.add_assoc, pieceMappings_shift]

/-- Lines end where a line starts. -/
theorem textOf_ends (o : CodeOptions) (ls : List Line) :
    textOf o ls = [] ∨ o.lineEnd.text <:+ textOf o ls := by
  induction ls with
  | nil => exact .inl rfl
  | cons l ls ih =>
    right
    rw [textOf_cons]
    rcases ih with nothing | ends
    · rw [nothing, List.append_nil]
      exact List.suffix_append _ _
    · exact ends.trans (List.suffix_append _ _)

theorem pieceMappings_concat (p : Piece) (ps : List Piece) :
    ∀ offset, Line.pieceMappings offset (ps ++ [p]) = Line.pieceMappings offset ps
      ++ (p.span?.map fun span =>
          ⟨span, offset + (ps.flatMap Piece.text).length, p.text.length⟩).toList := by
  induction ps with
  | nil => exact fun _ => List.append_nil _
  | cons q ps ih =>
    intro offset
    rw [List.cons_append, Line.pieceMappings, Line.pieceMappings, ih, List.append_assoc,
      List.flatMap_cons, List.length_append, Nat.add_assoc]

namespace Command

theorem after_bind (c : Command) (d : Unit → Command) (w : Writer) :
    after (c >>= d) w = after (d ()) (after c w) := rfl

/-! ## Parts of a line -/

section Pieces

variable {o : CodeOptions} {level : Nat}

/-- The writer inside of a line, of which some pieces have been written. -/
def inLine (o : CodeOptions) (level : Nat) (text : Text) (mappings : List Mapping)
    (ps : List Piece) : Writer :=
  let before := text ++ Line.indentation o level
  ⟨before ++ ps.flatMap Piece.text, level, false,
    mappings ++ Line.pieceMappings before.length ps⟩

theorem writeMapped_start (t : Text) (span? : Option Span) (text : Text) (mappings : List Mapping) :
    after (writeMapped o t span?) ⟨text, level, true, mappings⟩ =
      inLine o level text mappings [⟨t, span?⟩] := by
  simp only [inLine, List.flatMap_singleton, Line.pieceMappings, List.append_nil]
  rfl

theorem writeMapped_inLine (t : Text) (span? : Option Span) (text : Text) (mappings : List Mapping)
    (ps : List Piece) :
    after (writeMapped o t span?) (inLine o level text mappings ps) =
      inLine o level text mappings (ps ++ [⟨t, span?⟩]) := by
  simp only [inLine, pieceMappings_concat, List.flatMap_append, List.flatMap_singleton,
    ← List.append_assoc, ← List.length_append]
  rfl

/-- A text that is not empty is written like one that has come from no place. -/
theorem write_eq_writeMapped {t : Text} (nonempty : t ≠ []) (w : Writer) :
    after (write o t) w = after (writeMapped o t none) w := by
  unfold write
  rw [if_neg fun empty => nonempty (List.isEmpty_iff.mp empty)]
  exact congrArg (Writer.mk _ _ _) (List.append_nil _).symm

theorem write_inLine (t text : Text) (mappings : List Mapping) (ps : List Piece) :
    after (write o t) (inLine o level text mappings ps) =
      inLine o level text mappings (ps ++ [⟨t, none⟩]) := by
  by_cases empty : t = []
  · subst empty
    simp only [inLine, pieceMappings_concat, List.flatMap_append, List.flatMap_singleton,
      List.append_nil, Option.map_none, Option.toList_none]
    rfl
  · rw [write_eq_writeMapped empty, writeMapped_inLine]

/-! ## Commands that end a line -/

/-- A command writes pieces behind those in a line, and ends the line. -/
def Ends (o : CodeOptions) (level : Nat) (c : Command) (qs : List Piece) : Prop :=
  ∀ text mappings ps, ps.flatMap Piece.text ≠ [] →
    after c (inLine o level text mappings ps) =
      ⟨text ++ textOf o [⟨level, ps ++ qs⟩], level, true,
        mappings ++ mappingsOf o text.length [⟨level, ps ++ qs⟩]⟩

theorem Ends.newLine : Ends o level (writeLine o []) [] := by
  intro text mappings ps nonempty
  have margin : (⟨level, ps⟩ : Line).margin o = Line.indentation o level :=
    if_neg fun empty => nonempty (List.isEmpty_iff.mp empty)
  rw [List.append_nil, textOf_cons, mappingsOf, mappingsOf, Line.text, Line.mappings, margin,
    List.append_nil, ← List.length_append]
  change Writer.mk (text ++ Line.indentation o level ++ ps.flatMap Piece.text ++ o.lineEnd.text) _ _ _
    = ⟨text ++ (Line.indentation o level ++ ps.flatMap Piece.text ++ o.lineEnd.text ++ []), _, _, _⟩
  rw [List.append_nil, List.append_assoc, List.append_assoc, List.append_assoc]
  rfl

theorem Ends.piece {c : Command} {d : Unit → Command} {p : Piece} {qs : List Piece}
    (adds : ∀ text mappings ps,
      after c (inLine o level text mappings ps) = inLine o level text mappings (ps ++ [p]))
    (ends : Ends o level (d ()) qs) : Ends o level (c >>= d) (p :: qs) := by
  intro text mappings ps nonempty
  rw [after_bind, adds, ends, List.append_assoc]
  · rfl
  · rw [List.flatMap_append]
    exact List.append_ne_nil_of_left_ne_nil nonempty _

theorem Ends.writeMapped {c : Unit → Command} {qs : List Piece} (ends : Ends o level (c ()) qs)
    (t : Text) (span? : Option Span) :
    Ends o level (writeMapped o t span? >>= c) (⟨t, span?⟩ :: qs) :=
  .piece (writeMapped_inLine t span?) ends

theorem Ends.write {c : Unit → Command} {qs : List Piece} (ends : Ends o level (c ()) qs)
    (t : Text) : Ends o level (write o t >>= c) (⟨t, none⟩ :: qs) :=
  .piece (write_inLine t) ends

theorem Ends.writeLine (t : Text) : Ends o level (writeLine o t) [⟨t, none⟩] :=
  Ends.write .newLine t

end Pieces

/-! ## Commands that write whole lines -/

/-- At the start of a line at a level, a command writes some lines, and ends at the start of a line
at another level. -/
def Lays (o : CodeOptions) (level next : Nat) (c : Command) (ls : List Line) : Prop :=
  ∀ text mappings, after c ⟨text, level, true, mappings⟩ =
    ⟨text ++ textOf o ls, next, true, mappings ++ mappingsOf o text.length ls⟩

namespace Lays

variable {o : CodeOptions} {level next last : Nat}

/-- A command that writes nothing. -/
theorem silent {c : Command} (moves : ∀ text mappings,
    after c ⟨text, level, true, mappings⟩ = ⟨text, next, true, mappings⟩) :
    Lays o level next c [] := by
  intro text mappings
  rw [moves, textOf, List.flatMap_nil, mappingsOf, List.append_nil, List.append_nil]

theorem nothing : Lays o level level (pure ()) [] := silent fun _ _ => rfl

theorem indent : Lays o level (level + 1) indent [] := silent fun _ _ => rfl

theorem dedent : Lays o (level + 1) level dedent [] := silent fun _ _ => rfl

theorem bind {c : Command} {d : Unit → Command} {ls ks : List Line} (first : Lays o level next c ls)
    (second : Lays o next last (d ()) ks) : Lays o level last (c >>= d) (ls ++ ks) := by
  intro text mappings
  rw [after_bind, first, second, textOf_append, mappingsOf_append, List.append_assoc,
    List.append_assoc, List.length_append]

theorem forM {α : Type} {f : α → Command} {g : α → List Line} (xs : List α)
    (each : ∀ x, Lays o level level (f x) (g x)) :
    Lays o level level (xs.forM f) (xs.flatMap g) := by
  induction xs with
  | nil => exact nothing
  | cons x xs ih => exact (each x).bind ih

theorem forM_line {α : Type} {f : α → Command} {g : α → Line} (xs : List α)
    (each : ∀ x, Lays o level level (f x) [g x]) : Lays o level level (xs.forM f) (xs.map g) := by
  rw [List.map_eq_flatMap]
  exact forM xs each

/-- A line that starts with a text that may have come from a place. -/
theorem writeMapped {c : Unit → Command} {qs : List Piece} (ends : Ends o level (c ()) qs) {t : Text}
    (nonempty : t ≠ []) (span? : Option Span) :
    Lays o level level (writeMapped o t span? >>= c) [⟨level, ⟨t, span?⟩ :: qs⟩] := by
  intro text mappings
  rw [after_bind, writeMapped_start, ends]
  · rfl
  · rw [List.flatMap_singleton]
    exact nonempty

theorem write {c : Unit → Command} {qs : List Piece} (ends : Ends o level (c ()) qs) {t : Text}
    (nonempty : t ≠ []) : Lays o level level (write o t >>= c) [⟨level, ⟨t, none⟩ :: qs⟩] := by
  intro text mappings
  rw [after_bind, write_eq_writeMapped nonempty, ← after_bind]
  exact writeMapped ends nonempty none text mappings

theorem writeLine (t : Text) : Lays o level level (writeLine o t) [.plain level t] := by
  by_cases empty : t = []
  · subst empty
    intro text mappings
    change Writer.mk (text ++ o.lineEnd.text) level true mappings =
      ⟨text ++ (o.lineEnd.text ++ []), level, true, mappings ++ []⟩
    rw [List.append_nil, List.append_nil]
  · exact write (c := fun _ => Command.writeLine o []) .newLine empty

theorem openBlock : Lays o level (level + 1) (openBlock o) [.plain level "\x7b"] :=
  (writeLine _).bind indent

theorem closeBlock : Lays o (level + 1) level (closeBlock o) [.plain level "\x7d"] :=
  dedent.bind (writeLine _)

theorem braced {c : Command} {ls : List Line} (inside : Lays o (level + 1) (level + 1) c ls) :
    Lays o level level (do Command.openBlock o; c; Command.closeBlock o)
      (Outline.braced level ls) := by
  have block : Lays o level level (do Command.openBlock o; c; Command.closeBlock o)
      ([_] ++ (ls ++ [_])) :=
    openBlock.bind (.bind inside closeBlock)
  exact block

end Lays

end Command

namespace Outline

open IR Command

variable {o : CodeOptions} {level : Nat}

/-! ## Nodes write whole lines -/

theorem renderCall_lays {before : Text} (nonempty : before ≠ []) (text : Text)
    (span? : Option Span) :
    Lays o level level (renderCall o before text span?) [.around level before text span? ");"] :=
  .write (.writeMapped (.writeLine _) text span?) nonempty

theorem renderMetadata_lays (header : DocumentHeader) :
    Lays o level level (renderMetadata header o) (if !o.suppressMetadata && !header.kind.isEmpty then
      [.plain level ("[QuillDocument(" ++ header.kind.quoted ++ ", " ++ header.sourcePath.quoted
        ++ ")]")] else []) := by
  unfold renderMetadata
  split
  · exact .writeLine _
  · exact .nothing

theorem renderClassLine_lays (c : ClassShape) :
    Lays o level level (renderClassLine o c) [classLine level c] := by
  unfold renderClassLine classLine
  dsimp only
  split
  · refine .write (.writeMapped (.write .newLine _) _ _) ?_
    exact List.append_ne_nil_of_right_ne_nil _ (List.cons_ne_nil _ _)
  · split
    · exact .writeLine _
    · exact .writeLine _

theorem renderConstraint_lays (p : TypeParameter) :
    Lays o level level (renderConstraint o p)
      (if p.constraint.isEmpty then [] else [.plain (level + 1) p.constraint]) := by
  unfold renderConstraint
  split
  · exact .nothing
  · exact Lays.indent.bind (.bind (.writeLine _) .dedent)

theorem renderConstraints_lays (ps : List TypeParameter) :
    Lays o level level (ps.forM (renderConstraint o))
      ((ps.filter fun p => !p.constraint.isEmpty).map fun p => .plain (level + 1) p.constraint) := by
  have same : (ps.filter fun p => !p.constraint.isEmpty).map
        (fun p => Line.plain (level + 1) p.constraint) =
      ps.flatMap fun p => if p.constraint.isEmpty then [] else [.plain (level + 1) p.constraint] := by
    induction ps with
    | nil => rfl
    | cons p ps ih =>
      rw [List.flatMap_cons, ← ih, List.filter_cons]
      cases p.constraint.isEmpty <;> rfl
  rw [same]
  exact .forM ps renderConstraint_lays

theorem renderClassHead_lays (header : DocumentHeader) (c : ClassShape) :
    Lays o level level (renderClassHead header o c) (classHead header o level c) := by
  unfold classHead
  rw [List.append_assoc, List.append_assoc]
  exact (renderMetadata_lays header).bind (.bind (.forM_line _ .writeLine)
    (.bind (renderClassLine_lays c) (renderConstraints_lays _)))

theorem renderPart_lays (n : Node) :
    Lays o level level (renderPart o n) (attributePart level n) := by
  cases n with
  | absent => exact .nothing
  | node head children =>
    rcases head with ⟨content, span?, diagnostics, label?⟩
    cases content with
    | attributeText opening => exact .writeLine _
    | expression => exact renderCall_lays (List.cons_ne_nil _ _) _ _
    | _ => exact .nothing

/-- A tag helper's attributes are the same nodes for both, and each of them is one line. -/
theorem renderHelperAttribute?_lays (o : CodeOptions) (level : Nat) (n : Node) :
    (renderHelperAttribute? o n = none ∧ helperAttribute? level n = none)
      ∨ ∃ c line, renderHelperAttribute? o n = some c ∧ helperAttribute? level n = some line
        ∧ Lays o level level c [line] := by
  cases n with
  | absent => exact .inl ⟨rfl, rfl⟩
  | node head children =>
    rcases head with ⟨content, span?, diagnostics, label?⟩
    cases content with
    | helperProperty | helperDirective | helperParameter =>
      exact .inr ⟨_, _, rfl, rfl, renderCall_lays (List.cons_ne_nil _ _) _ _⟩
    | helperMarkupAttribute => exact .inr ⟨_, _, rfl, rfl, .writeLine _⟩
    | _ => exact .inl ⟨rfl, rfl⟩

section Nodes

variable {s : Setting}

mutual

/-- The commands of a node write its lines. -/
theorem render_lays (plain : s.extensions = []) : ∀ (level : Nat) (n : Node),
    Lays s.options level level (render s.header s.options n) (lines s level n)
  | level, .absent => by
    unfold lines
    rw [extended?_eq_none plain]
    exact .nothing
  | level, .node head children => by
    have inside := renderAll_lays plain (level + 1) children
    have beside := renderAll_lays plain level children
    have block := renderBlock_lays plain level children
    have attributes := renderHelper_lays plain (level + 1) children
    have braces := inside.braced
    unfold lines render
    rw [extended?_eq_none plain]
    dsimp only
    rcases head with ⟨content, span?, diagnostics, label?⟩
    cases content with
    | namespaceDecl name isPrimary => exact (Lays.writeLine _).bind braces
    | usingDecl name => exact .writeMapped .newLine (List.cons_ne_nil _ _) _
    | typeAlias name target => exact .writeLine _
    | classDecl shape => exact (renderClassHead_lays _ _).bind braces
    | methodDecl shape => exact (Lays.writeLine _).bind braces
    | field modifiers typeName name => exact .writeLine _
    | markup => exact .writeLine _
    | expression => exact renderCall_lays (List.cons_ne_nil _ _) _ _
    | statement => exact .forM_line _ fun _ => .writeLine _
    | markupAttribute name opening closing =>
      exact (Lays.writeLine _).bind (.bind (.forM _ renderPart_lays) (.writeLine _))
    | sectionDecl name =>
      exact (Lays.writeLine _).bind
        (Lays.openBlock.bind (inside.bind (Lays.dedent.bind (.writeLine _))))
    | helper name mode helpers =>
      dsimp only
      rw [braced, List.cons_append, List.append_assoc (helpers.map _)]
      exact (Lays.writeLine _).bind (Lays.openBlock.bind
        (.bind (.forM_line helpers fun _ => .writeLine _) (attributes.bind .closeBlock)))
    | directive name descriptor? => exact (Lays.writeLine _).bind block
    | malformedDirective name descriptor? => exact .writeLine _
    | _ => exact beside

theorem renderAll_lays (plain : s.extensions = []) : ∀ (level : Nat) (ns : List Node),
    Lays s.options level level (renderAll s.header s.options ns) (linesAll s level ns)
  | _, [] => .nothing
  | level, n :: ns => (render_lays plain level n).bind (renderAll_lays plain level ns)

theorem renderBlock_lays (plain : s.extensions = []) : ∀ (level : Nat) (ns : List Node),
    Lays s.options level level (renderBlock s.header s.options ns) (blockLines s level ns)
  | _, [] => .nothing
  | level, n :: ns => by
    have written := render_lays plain level n
    refine Lays.bind ?_ (renderBlock_lays plain level ns)
    cases n.isToken with
    | true => exact .nothing
    | false => exact written

theorem renderHelper_lays (plain : s.extensions = []) : ∀ (level : Nat) (ns : List Node),
    Lays s.options level level (renderHelper s.header s.options ns) (helperLines s level ns)
  | _, [] => .nothing
  | level, .absent :: ns => renderHelper_lays plain level ns
  | level, .node head children :: ns => by
    have body := renderAll_lays plain level children
    have other := render_lays plain level (.node head children)
    refine Lays.bind ?_ (renderHelper_lays plain level ns)
    have assigned : Lays s.options level level
        ((renderHelperAttribute? s.options (.node head children)).getD
          (render s.header s.options (.node head children)))
        (match helperAttribute? level (.node head children) with
          | some line => [line]
          | none => lines s level (.node head children)) := by
      rcases renderHelperAttribute?_lays s.options level (.node head children) with
        ⟨none, nothing⟩ | ⟨c, line, some, written, lays⟩
      · rw [none, nothing]
        exact other
      · rw [some, written]
        exact lays
    rcases head with ⟨content, span?, diagnostics, label?⟩
    cases content with
    | helperBody => exact (Lays.writeLine _).bind (body.bind (.writeLine _))
    | _ => exact assigned

end

theorem renderDocument_lays (o : CodeOptions) (d : Document) :
    Lays o 0 0 (renderDocument o d) (documentLines ⟨d.header, o, []⟩ d) := by
  have checksum : Lays o 0 0 (renderChecksum d.header o)
      (if !o.suppressChecksum && !d.header.sourceDigest.isZero then
        [.plain 0 ("// checksum sha256 " ++ d.header.sourceDigest.hex ++ " "
          ++ d.header.sourcePath.quoted)] else []) := by
    unfold renderChecksum
    split
    · exact .writeLine _
    · exact .nothing
  exact checksum.bind (renderAll_lays (s := ⟨d.header, o, []⟩) rfl 0 d.children)

end Nodes

theorem linesAll_append (s : Setting) (level : Nat) (xs ys : List Node) :
    linesAll s level (xs ++ ys) = linesAll s level xs ++ linesAll s level ys := by
  induction xs with
  | nil => rfl
  | cons x xs ih => rw [List.cons_append, linesAll, linesAll, ih, List.append_assoc]

/-- Without extensions, the outline of two lists of nodes at a level is that of the first followed by
that of the second, with the mappings of the second behind the text of the first.  A writer at the
start of a line that is told to write nodes at its level writes their outline behind what it has
written, and is again at the start of a line at that level; so it is with each single node.  A new
writer that is told to write a document has written its outline, and is at level zero. -/
theorem outline_append (header : DocumentHeader) (o : CodeOptions) (level : Nat)
    (xs ys : List Node) :
    let s : Setting := ⟨header, o, []⟩
    let text (ns : List Node) := textOf o (linesAll s level ns)
    let mappings (ns : List Node) := mappingsOf o 0 (linesAll s level ns)
    text (xs ++ ys) = text xs ++ text ys
      ∧ mappings (xs ++ ys) = mappings xs ++ (mappings ys).map (Mapping.shift (text xs).length)
      ∧ (∀ ns before earlier, after (renderAll header o ns) ⟨before, level, true, earlier⟩ =
          ⟨before ++ text ns, level, true,
            earlier ++ (mappings ns).map (Mapping.shift before.length)⟩)
      ∧ (∀ n before earlier, after (render header o n) ⟨before, level, true, earlier⟩ =
          ⟨before ++ text [n], level, true,
            earlier ++ (mappings [n]).map (Mapping.shift before.length)⟩)
      ∧ (∀ ns, text ns = [] ∨ o.lineEnd.text <:+ text ns)
      ∧ ∀ d : Document,
          let output := (Target.outline []).write o d
          after (renderDocument o d) {} = ⟨output.text, 0, true, output.mappings⟩ := by
  intro s text mappings
  have moved (ls : List Line) (before : Text) : mappingsOf o before.length ls =
      (mappingsOf o 0 ls).map (Mapping.shift before.length) :=
    mappingsOf_shift o before.length ls 0
  refine ⟨?_, ?_, fun ns before earlier => ?_, fun n before earlier => ?_, ?_, ?_⟩
  · exact (congrArg (textOf o) (linesAll_append s level xs ys)).trans (textOf_append o _ _)
  · change mappingsOf o 0 (linesAll s level (xs ++ ys)) = _
    rw [linesAll_append, mappingsOf_append, Nat.zero_add, moved]
  · rw [← moved]
    exact renderAll_lays (s := s) rfl level ns before earlier
  · rw [← moved]
    have alone : linesAll s level [n] = lines s level n := List.append_nil _
    change _ = Writer.mk (before ++ textOf o (linesAll s level [n])) _ _ _
    rw [alone]
    exact render_lays (s := s) rfl level n before earlier
  · exact fun ns => textOf_ends o _
  · exact fun d => renderDocument_lays o d [] []

end Outline

end Code

end TemplateCompiler
