import TemplateCompiler.Syntax.DirectiveLine

/-!
# Parsing templates

Parsing never fails: whatever is wrong with a template becomes a diagnostic.  The parser is a
machine that takes the content byte by byte.  At a byte where a construct starts it reads the
construct from the text ahead, adds its node and then passes over the bytes that belong to it; any
other byte is literal text.  Open elements and open directive blocks are frames of a stack, the
innermost first, and each gathers the nodes of its body.

Since the machine takes exactly one byte in each step, it is a plain recursion on the content.
-/

namespace TemplateCompiler

namespace Syntax

/-- An open construct with the nodes of its body so far, latest first. -/
inductive Frame where
  | element (tag : StartTag) (body : List Node)
  /-- The block of a directive that starts at an offset.  `brace` is the offset of the block's
  opening brace, `braces` the number of literal braces open in it. -/
  | block (start : Nat) (head : DirectiveHead) (brace braces : Nat) (body : List Node)

/-- The state of the parser between two bytes.  Constructs that take several bytes are read at their
first byte, and the bytes behind it are skipped. -/
structure Machine where
  offset : Nat := 0
  /-- The number of bytes that belong to the last construct and are still to be passed over. -/
  skip : Nat := 0
  previous? : Option UInt8 := none
  /-- The literal bytes since the last node, latest first. -/
  pending : Text := []
  /-- The nodes outside all frames, latest first. -/
  root : List Node := []
  frames : List Frame := []
  /-- The first place of each directive that may occur only once. -/
  seen : List (Text × Span) := []
  /-- The findings, latest first. -/
  found : List Diagnostic := []
  /-- Content was met where only leading directives are read. -/
  stopped : Bool := false

/-- What the machine is told about the file, computed once from the parser's options: the
directives, the latest definition of a keyword first, and the features that the version allows. -/
structure Grammar extends Reading where
  directives : List DirectiveDescriptor
  leadingOnly : Bool

namespace Grammar

/-- The grammar of a file under the parser's options. -/
def ofOptions (file : Nat) (o : ParserOptions) : Grammar :=
  { file, features := o.features, directives := o.directives.reverse
    leadingOnly := o.leadingDirectivesOnly }

/-- The directive at an at sign, with what follows its keyword.  The keyword of namespace imports
followed by a parenthesis is a statement instead. -/
def directive? (g : Grammar) (t : Text) : Option DirectiveDescriptor :=
  let rest := t.drop 1
  let n := Scan.identifier rest
  let keyword := rest.take n
  match g.directives.find? fun d => d.keyword == keyword with
  | none => none
  | some d =>
    let after := (rest.drop n).dropWhile Scan.isSpace
    if keyword == "using" && after.head? == some '('.toUInt8 then none else some d

/-- Whether leading directives may go on with a text: white space, a comment or a directive. -/
def isLeading (g : Grammar) (t : Text) : Bool :=
  match t with
  | [] => true
  | b :: rest =>
    Scan.isSpace b
      || (b == '@'.toUInt8 && (rest.head? == some '*'.toUInt8 || (g.directive? t).isSome))

end Grammar

namespace Machine

/-- Add a node to the innermost open construct, or to the nodes outside of all constructs if none is
open.  Nodes are gathered latest first and reversed when their construct is closed. -/
def emit (m : Machine) (n : Node) : Machine :=
  match m.frames with
  | [] => { m with root := n :: m.root }
  | .element tag body :: rest => { m with frames := .element tag (n :: body) :: rest }
  | .block start head brace braces body :: rest =>
    { m with frames := .block start head brace braces (n :: body) :: rest }

/-- Add the literal text gathered so far as one node.  This is done in front of every construct and
at the end of the file, so that literal text is never longer than it has to be and never empty. -/
def flush (m : Machine) (file : Nat) : Machine :=
  if m.pending.isEmpty then m
  else
    { m with pending := [] }.emit
      (.text ⟨file, m.offset - m.pending.length, m.offset⟩ m.pending.reverse)

def report (m : Machine) (ds : List Diagnostic) : Machine := { m with found := ds.reverse ++ m.found }

/-- The construct at the current byte takes `n` bytes, at least one. -/
def take (m : Machine) (n : Nat) : Machine := { m with skip := n - 1 }

/-- Take the current byte as literal text.  In a block of markup its braces are counted, since only
a brace that no other one has opened closes the block. -/
def literal (m : Machine) (b : UInt8) : Machine :=
  let frames := match m.frames with
    | .block start head brace braces body :: rest =>
      let braces := if b == 0x7B then braces + 1 else if b == 0x7D then braces - 1 else braces
      .block start head brace braces body :: rest
    | frames => frames
  { m with frames, pending := b :: m.pending }

/-- The node of a frame that ends at an offset without its own end.  An element is left without an
end tag, and a directive is told that its block is not closed. -/
def unfinished (g : Grammar) (stop : Nat) : Frame → Node
  | .element tag body => .element (g.span tag.span.start stop) tag none body.reverse
  | .block start head brace _ body =>
    .directive (g.span start stop)
      { head with diagnostics := head.diagnostics ++ [g.unclosedBlock head.keyword brace] }
      body.reverse

/-- Close the innermost open construct without its own end. -/
def abandon (m : Machine) (g : Grammar) (stop : Nat) : Machine :=
  match m.frames with
  | [] => m
  | f :: rest => { m with frames := rest }.emit (unfinished g stop f)

/-- Close the `n` innermost open constructs without their own ends. -/
def abandonMany (m : Machine) (g : Grammar) (stop : Nat) : Nat → Machine
  | 0 => m
  | n + 1 => (m.abandon g stop).abandonMany g stop n

/-! ## Transitions -/

/-- How an unexpected byte after an at sign is called; zero stands for the end of the file. -/
def byteName (b : UInt8) : Text :=
  if b == 0 then "end of file" else if b == 0x0A then "line break"
  else Text.ofChar (Char.ofNat b.toNat)

/-- A construct that ends at a closing delimiter of the text after its at sign.  The machine takes
the rest of the file if it is not closed. -/
def enclosed (m : Machine) (g : Grammar) (t : Text) (closing? : Option Nat)
    (node : Span → Text → Node) (unclosed : Diagnostic) : Machine :=
  match closing? with
  | some k => (m.emit (node (g.span m.offset (m.offset + k + 2)) (t.slice 2 (k + 1)))).take (k + 2)
  | none =>
    ((m.report [unclosed]).emit (node (g.span m.offset (m.offset + t.length)) (t.drop 2))).take
      t.length

/-- The finding that a directive stands inside another construct but belongs to the top level. -/
def misplaced (d : DirectiveDescriptor) (nested : Bool) (keyword : Span) : List Diagnostic :=
  if nested && d.usage.isFileScoped then
    [.error .notTopLevel keyword
      ("the " ++ d.keyword.quoted ++ " directive must appear at the top level of the document")]
  else []

/-- Note the first place of a directive that may occur only once, or report a later one. -/
def noteOccurrence (m : Machine) (d : DirectiveDescriptor) (keyword : Span) : Machine :=
  if d.usage != .fileScopedOnce then m
  else match m.seen.find? fun e => e.1 == d.keyword with
    | some e => m.report [(Diagnostic.error .duplicateDirective keyword
        ("the " ++ d.keyword.quoted ++ " directive may only occur once per document")).withNote
        e.2 "first occurrence"]
    | none => { m with seen := (d.keyword, keyword) :: m.seen }

/-- A directive at the current byte.  A directive without a block is complete at once, whatever was
found about it; one with a block of markup stays open until its closing brace. -/
def directive (m : Machine) (g : Grammar) (t : Text) (d : DirectiveDescriptor) : Machine :=
  let start := m.offset
  let nested := !m.frames.isEmpty
  let keywordEnd := 1 + d.keyword.length
  let keywordSpan := g.span start (start + keywordEnd)
  let m := m.noteOccurrence d keywordSpan
  let ts := g.tokens d d.slots (start + keywordEnd) (t.drop keywordEnd)
  let head : DirectiveHead :=
    { descriptor := d, tokens := ts.tokens
      diagnostics := misplaced d nested keywordSpan ++ ts.diagnostics, nested }
  let bodyStart := keywordEnd + ts.length
  let done (length : Nat) (head : DirectiveHead) : Machine :=
    (m.emit (.directive (g.span start (start + length)) head [])).take length
  if !ts.isComplete then done bodyStart head
  else match g.directiveBody d (start + bodyStart) (t.drop bodyStart) with
    | .done n code found =>
      done (bodyStart + n) { head with code, diagnostics := head.diagnostics ++ found }
    | .opens gap =>
      { m with frames := .block start head (start + bodyStart + gap) 0 [] :: m.frames }.take
        (bodyStart + gap + 1)

/-- A template comment at the current byte, which ends at the first end mark behind it.  Without one
it takes the rest of the file. -/
def comment (m : Machine) (g : Grammar) (t : Text) : Machine :=
  match Text.indexOf? "*@" (t.drop 2) with
  | some k =>
    (m.emit (.comment (g.span m.offset (m.offset + k + 4)) (t.slice 2 (k + 2)))).take (k + 4)
  | none =>
    ((m.report [.error .unterminatedComment (g.span m.offset (m.offset + 2))
      "the comment is missing a closing \"*@\""]).emit
      (.comment (g.span m.offset (m.offset + t.length)) (t.drop 2))).take t.length

/-- A statement at the current byte, with the length of its keyword.  It covers its blocks and
whatever clauses go on with it, and is one piece of code. -/
def statement (m : Machine) (g : Grammar) (t : Text) (n : Nat) : Machine :=
  let keyword := (t.drop 1).take n
  let (k, closed) := Scan.statement keyword (t.drop (1 + n))
  let length := 1 + n + k
  let m := if closed then m else
    m.report [.error .unterminatedBlock (g.span m.offset (m.offset + 1 + n))
      ("the " ++ Text.quoted keyword ++ " block is missing a closing \"\x7d\"")]
  (m.emit (.codeBlock (g.span m.offset (m.offset + length)) (t.slice 1 length) true)).take length

/-- The construct at an at sign, told by the byte behind it: an escaped at sign, a comment, a block
of code, an expression in parentheses, or what a name starts.  A name is that of a directive, of a
statement, or the start of an expression. -/
def transition (m : Machine) (g : Grammar) (t : Text) : Machine :=
  let start := m.offset
  let next := ((t.drop 1).head?).getD 0
  if next == '@'.toUInt8 then (m.emit (.transition (g.span start (start + 2)))).take 2
  else if next == '*'.toUInt8 then m.comment g t
  else if next == 0x7B then
    m.enclosed g t (Scan.closingBrace? (t.drop 1)) (.codeBlock · · false)
      (.error .unterminatedBlock (g.span start (start + 2))
        "the code block is missing a closing \"\x7d\"")
  else if next == '('.toUInt8 then
    m.enclosed g t (Scan.closingParenthesis? (t.drop 1)) (.expression · · true)
      (g.unclosedExpression start)
  else if Scan.isIdentifierStart next then
    match g.directive? t with
    | some d => m.directive g t d
    | none =>
      let n := Scan.identifier (t.drop 1)
      if Scan.isStatementKeyword ((t.drop 1).take n) then m.statement g t n
      else
        let k := Scan.implicit g.features.nullForgiving (t.drop 1)
        (m.emit (.expression (g.span start (start + 1 + k)) (t.slice 1 (1 + k)) false)).take (1 + k)
  else
    ((m.report [.error .unexpectedAfterAt (g.span start (start + 1))
      ("unexpected " ++ (byteName next).quoted ++ " after \"@\"")]).emit
      (.text (g.span start (start + 1)) "@")).take 1

/-! ## Markup -/

/-- A markup comment at the current byte, which ends at the first end mark behind it.  Without one
it takes the rest of the file. -/
def markupComment (m : Machine) (g : Grammar) (t : Text) : Machine :=
  match Text.indexOf? "-->" (t.drop 4) with
  | some k =>
    (m.emit (.markupComment (g.span m.offset (m.offset + k + 7)) (t.slice 4 (k + 4)))).take (k + 7)
  | none =>
    ((m.report [.error .unterminatedComment (g.span m.offset (m.offset + 4))
      "the markup comment is missing a closing \"-->\""]).emit
      (.markupComment (g.span m.offset (m.offset + t.length)) (t.drop 4))).take t.length

/-- The number of frames inside the innermost open element that an end tag closes.  A directive's
block hides what is open around it. -/
def closes? (e : Reading.EndTagReading) : List Frame → Option Nat
  | .element tag _ :: rest =>
    if tag.optOut == e.optOut && tag.name.equalFold e.name then some 0
    else (closes? e rest).map (· + 1)
  | _ => none

/-- An end tag at the current byte.  The elements inside the one it closes end before it; an end
tag that closes nothing is reported and kept as text. -/
def endTag (m : Machine) (g : Grammar) (t : Text) : Machine :=
  let e := Reading.endTag t
  let stop := m.offset + e.length
  match closes? e m.frames with
  | some depth =>
    let m := m.abandonMany g m.offset depth
    match m.frames with
    | .element tag body :: rest =>
      ({ m with frames := rest }.emit (.element (g.span tag.span.start stop) tag
        (some (g.span m.offset stop)) body.reverse)).take e.length
    | _ => m.take e.length
  | none =>
    ((m.report [.error .unmatchedEndTag (g.span m.offset stop)
      ("encountered end tag </" ++ e.name ++ "> with no matching start tag")]).emit
      (.text (g.span m.offset stop) (t.take e.length))).take e.length

/-- A start tag at the current byte.  An element that has content is left open. -/
def startTag (m : Machine) (g : Grammar) (t : Text) : Machine :=
  let s := g.toReading.startTag m.offset t
  let m := m.report s.diagnostics
  if s.isClosed && !s.tag.selfClosing && !s.tag.void then
    { m with frames := .element s.tag [] :: m.frames }.take s.length
  else (m.emit (.element s.tag.span s.tag none [])).take s.length

/-! ## Steps -/

/-- Whether the byte closes the innermost block. -/
def closesBlock (m : Machine) (b : UInt8) : Bool :=
  b == 0x7D && match m.frames with
    | .block _ _ _ 0 _ :: _ => true
    | _ => false

/-- Close the innermost block with the current byte. -/
def closeBlock (m : Machine) (g : Grammar) : Machine :=
  match m.frames with
  | .block start head _ _ body :: rest =>
    ({ m with frames := rest }.emit
      (.directive (g.span start (m.offset + 1)) head body.reverse)).take 1
  | _ => m

/-- Whether an at sign is literal because it stands between letters or digits, as in an address. -/
def isAddress (m : Machine) (rest : Text) : Bool :=
  m.previous?.any Scan.isAlphanumeric && Scan.startsWithByte Scan.isAlphanumeric rest

/-- Look at a byte that does not belong to an earlier construct.  It closes a block, starts code, a
comment or a tag, or is literal; where only leading directives are read, the first content stops the
machine. -/
def look (m : Machine) (g : Grammar) (b : UInt8) (rest : Text) : Machine :=
  let t := b :: rest
  if g.leadingOnly && m.frames.isEmpty && !g.isLeading t then { m with stopped := true }
  else if m.closesBlock b then (m.flush g.file).closeBlock g
  else if b == '@'.toUInt8 && !m.isAddress rest then (m.flush g.file).transition g t
  else if b == '<'.toUInt8 then
    if Text.startsWith t "<!--" then (m.flush g.file).markupComment g t
    else if Reading.startsEndTag t then (m.flush g.file).endTag g t
    else if Reading.startsTag t then (m.flush g.file).startTag g t
    else m.literal b
  else m.literal b

/-- Pass on to the next byte. -/
def advance (m : Machine) (b : UInt8) : Machine :=
  { m with offset := m.offset + 1, previous? := some b }

/-- Take a text byte by byte.  By recursion on the text: bytes of a construct that was read before
are passed over, and any other one is looked at. -/
def run (g : Grammar) : Machine → Text → Machine
  | m, [] => m
  | m, b :: rest =>
    match m.skip with
    | skip + 1 => run g ({ m with skip }.advance b) rest
    | 0 =>
      let m := m.look g b rest
      if m.stopped then m else run g (m.advance b) rest

/-- Close everything at the end of the text: what is still open is reported and ends where the text
does. -/
def finish (m : Machine) (g : Grammar) : Machine :=
  let m := m.flush g.file
  m.abandonMany g m.offset m.frames.length

end Machine

def parse (file : SourceFile) (options : ParserOptions) : Tree :=
  let g := Grammar.ofOptions file.id options
  let m := (Machine.run g {} file.content).finish g
  { source := file, options, body := m.root.reverse, diagnostics := m.found.reverse }

end Syntax

end TemplateCompiler
