import TemplateCompiler.Syntax.Node
import TemplateCompiler.Syntax.Scan

/-!
# Reading tags

A start tag is read from its opening bracket to its closing one, attribute by attribute.  Values
may hold code; a quotation mark inside code does not end a quoted value.  What is read never
depends on what stands before the tag.
-/

namespace TemplateCompiler

namespace Syntax

/-- What reading the constructs of a file depends on: the number of the file, which spans refer to,
and the features of the language. -/
structure Reading where
  file : Nat
  features : LanguageFeatures

namespace Reading

def span (r : Reading) (start stop : Nat) : Span := ⟨r.file, start, stop⟩

/-- The finding that an explicit expression at an offset is not closed. -/
def unclosedExpression (r : Reading) (offset : Nat) : Diagnostic :=
  .error .unterminatedExpression (r.span offset (offset + 2))
    "the explicit expression is missing a closing \")\""

/-! ## Values -/

/-- The parts of a value, literal text that has been gathered first. -/
def gathered (r : Reading) (offset : Nat) (pending : Text) (parts : List ValuePart) :
    List ValuePart :=
  if pending.isEmpty then parts
  else .text (r.span (offset - pending.length) offset) pending.reverse :: parts

/-- Divide a value into literal text and code.  `pending` holds, latest first, the literal bytes
since the last part, and `previous?` the byte before the text.  An at sign between letters or
digits is literal, as in an address. -/
def valueFrom (r : Reading) : Nat → Nat → Option UInt8 → Text → Text →
    List ValuePart × List Diagnostic
  | _, offset, _, pending, [] => (r.gathered offset pending [], [])
  | skip + 1, offset, _, pending, b :: t => r.valueFrom skip (offset + 1) (some b) pending t
  | 0, offset, previous?, pending, b :: t =>
    let literal := r.valueFrom 0 (offset + 1) (some b) (b :: pending) t
    let part (p : ValuePart) (skip : Nat) :=
      let (parts, found) := r.valueFrom skip (offset + 1) (some b) [] t
      (r.gathered offset pending (p :: parts), found)
    match t with
    | [] => literal
    | c :: _ =>
      if b != '@'.toUInt8 || (previous?.any Scan.isAlphanumeric && Scan.isAlphanumeric c) then
        literal
      else if c == '@'.toUInt8 then part (.transition (r.span offset (offset + 2))) 1
      else if c == '('.toUInt8 then
        match Scan.closingParenthesis? t with
        | some k =>
          part (.code (r.span offset (offset + k + 2)) (Text.slice t 1 k) true) (k + 1)
        | none => (literal.1, r.unclosedExpression offset :: literal.2)
      else if Scan.isIdentifierStart c then
        let n := Scan.implicit r.features.nullForgiving t
        part (.code (r.span offset (offset + n + 1)) (t.take n) false) n
      else literal

/-- The parts of a value that starts at an offset, and the findings about it. -/
def value (r : Reading) (offset : Nat) (t : Text) : List ValuePart × List Diagnostic :=
  r.valueFrom 0 offset none [] t

/-- The length of a quoted value up to its closing mark; code is stepped over. -/
def quotedLength (r : Reading) (quote : UInt8) : Nat → Text → Nat
  | _, [] => 0
  | skip + 1, _ :: t => 1 + r.quotedLength quote skip t
  | 0, b :: t =>
    if b == quote then 0
    else if b == '@'.toUInt8 && t.head? == some '('.toUInt8 then
      match Scan.closingParenthesis? t with
      | some k => 1 + r.quotedLength quote (k + 1) t
      | none => 1 + r.quotedLength quote 0 t
    else if b == '@'.toUInt8 && Scan.startsWithByte Scan.isIdentifierStart t then
      1 + r.quotedLength quote (Scan.implicit r.features.nullForgiving t) t
    else 1 + r.quotedLength quote 0 t

/-- Whether a tag ends at a text with a slash and a bracket. -/
def selfCloses (t : Text) : Bool := t.startsWith "/>"

/-- The length of a value without quotation marks. -/
def bareLength : Text → Nat
  | [] => 0
  | b :: t =>
    if Scan.isSpace b || b == '>'.toUInt8 || selfCloses (b :: t) then 0 else 1 + bareLength t

/-! ## Attributes -/

def nameLength : Text → Nat
  | [] => 0
  | b :: t =>
    if Scan.isSpace b || b == '='.toUInt8 || b == '>'.toUInt8 || b == '<'.toUInt8
        || b == '"'.toUInt8 || b == '\''.toUInt8 || selfCloses (b :: t) then 0
    else 1 + nameLength t

/-- An attribute that was read, how many bytes it took, and the findings about it. -/
structure AttributeReading where
  attribute? : Option Attribute
  length : Nat
  diagnostics : List Diagnostic := []

/-- The value of an attribute: its parts, the quotation mark, its length and the findings. -/
def attributeValue (r : Reading) (offset : Nat) (t : Text) :
    List ValuePart × Option UInt8 × Nat × List Diagnostic :=
  match t with
  | quote :: rest =>
    if quote == '"'.toUInt8 || quote == '\''.toUInt8 then
      let n := r.quotedLength quote 0 rest
      let (parts, found) := r.value (offset + 1) (rest.take n)
      (parts, some quote, min (n + 2) t.length, found)
    else
      let n := bareLength t
      let (parts, found) := r.value offset (t.take n)
      (parts, none, n, found)
  | [] => ([], none, 0, [])

/-- Read an attribute.  A stray quotation mark or equals sign is passed over. -/
def attribute' (r : Reading) (offset : Nat) (t : Text) : AttributeReading :=
  let n := nameLength t
  if n == 0 then ⟨none, 1, []⟩
  else
    let name := t.take n
    let nameSpan := r.span offset (offset + n)
    let gap := Scan.blank (t.drop n)
    if (t.drop (n + gap)).head? != some '='.toUInt8 then
      ⟨some ⟨nameSpan, name, [], true, none, nameSpan⟩, n, []⟩
    else
      let start := n + gap + 1
      let valueStart := start + Scan.blank (t.drop start)
      let (parts, quote?, k, found) := r.attributeValue (offset + valueStart) (t.drop valueStart)
      let length := valueStart + k
      ⟨some ⟨r.span offset (offset + length), name, parts, false, quote?, nameSpan⟩, length, found⟩

/-- Read an explicit expression in the place of an attribute, where the language allows it. -/
def attributeCode (r : Reading) (offset : Nat) (t : Text) : AttributeReading :=
  if !r.features.codeInAttributeArea || !t.startsWith "@(" then ⟨none, 0, []⟩
  else match Scan.closingParenthesis? (t.drop 1) with
    | none => ⟨none, 0, [r.unclosedExpression offset]⟩
    | some k =>
      let span := r.span offset (offset + k + 2)
      ⟨some ⟨span, [], [.code span (t.slice 2 (k + 1)) true], false, none, span⟩, k + 2, []⟩

/-- How a start tag ends. -/
inductive TagEnd where
  | closed
  | selfClosed
  | unterminated
  deriving DecidableEq, Repr

/-- The attributes of a start tag: where they end, how, and the findings about them. -/
structure AttributesReading where
  attributes : List Attribute
  length : Nat
  ending : TagEnd
  diagnostics : List Diagnostic

/-- Put an attribute in front of what was read behind it. -/
def AttributesReading.after (rest : AttributesReading) (skipped : Nat) (a : AttributeReading) :
    AttributesReading :=
  { rest with
    attributes := a.attribute?.toList ++ rest.attributes
    length := skipped + a.length + rest.length
    diagnostics := a.diagnostics ++ rest.diagnostics }

/-- Read attributes up to the end of the tag.  Every round passes at least one byte, so the number
of bytes bounds the number of rounds. -/
def attributes (r : Reading) : Nat → Nat → Text → AttributesReading
  | 0, _, _ => ⟨[], 0, .unterminated, []⟩
  | rounds + 1, offset, t =>
    let gap := Scan.blank t
    let offset := offset + gap
    let t := t.drop gap
    match t with
    | [] => ⟨[], gap, .unterminated, []⟩
    | b :: _ =>
      if b == '<'.toUInt8 then ⟨[], gap, .unterminated, []⟩
      else if b == '>'.toUInt8 then ⟨[], gap + 1, .closed, []⟩
      else if selfCloses t then ⟨[], gap + 2, .selfClosed, []⟩
      else
        let code := r.attributeCode offset t
        if code.attribute?.isSome then
          (r.attributes rounds (offset + code.length) (t.drop code.length)).after gap code
        else
          let a := r.attribute' offset t
          (r.attributes rounds (offset + a.length) (t.drop a.length)).after gap
            { a with diagnostics := code.diagnostics ++ a.diagnostics }

/-! ## Tags -/

/-- The names of the elements without content. -/
def voidElements : List String :=
  ["area", "base", "br", "col", "embed", "hr", "img", "input", "keygen", "link", "meta", "param",
    "source", "track", "wbr"]

/-- Whether an element never has content. -/
def isVoid (name : Text) : Bool := voidElements.any fun v => Text.ofString v == name.toLower

/-- Whether a start tag begins at a text. -/
def startsTag (t : Text) : Bool :=
  match t with
  | _ :: c :: rest =>
    Scan.isLetter c || (c == '!'.toUInt8 && Scan.startsWithByte Scan.isLetter rest)
  | _ => false

/-- Whether an end tag begins at a text. -/
def startsEndTag (t : Text) : Bool :=
  match t with
  | _ :: s :: c :: rest =>
    s == '/'.toUInt8
      && (Scan.isLetter c || (c == '!'.toUInt8 && Scan.startsWithByte Scan.isLetter rest))
  | _ => false

/-- A start tag that was read: its length, whether it was closed, and the findings about it. -/
structure StartTagReading where
  tag : StartTag
  length : Nat
  isClosed : Bool
  diagnostics : List Diagnostic

/-- Read a start tag whose opening bracket is at the front, with all its attributes.  A tag that is
not closed is reported, and takes what was read of it. -/
def startTag (r : Reading) (offset : Nat) (t : Text) : StartTagReading :=
  let optOut := (t.drop 1).head? == some '!'.toUInt8
  let nameStart := if optOut then 2 else 1
  let nameEnd := nameStart + Scan.run Scan.isTagNamePart (t.drop nameStart)
  let name := t.slice nameStart nameEnd
  let rest := t.drop nameEnd
  let as := r.attributes (rest.length + 1) (offset + nameEnd) rest
  let length := nameEnd + as.length
  let isClosed := as.ending != .unterminated
  { tag := { span := r.span offset (offset + length), name, optOut, attributes := as.attributes
             selfClosing := as.ending == .selfClosed, void := isVoid name }
    length, isClosed
    diagnostics := as.diagnostics ++ (if isClosed then [] else
      [.error .unterminatedStartTag (r.span offset (offset + nameEnd))
        ("start tag <" ++ name ++ "> is missing a closing \">\"")]) }

/-- An end tag that was read. -/
structure EndTagReading where
  name : Text
  optOut : Bool
  length : Nat

/-- Read an end tag whose opening bracket is at the front.  It takes everything up to the next
closing bracket. -/
def endTag (t : Text) : EndTagReading :=
  let optOut := (t.drop 2).head? == some '!'.toUInt8
  let nameStart := if optOut then 3 else 2
  let nameEnd := nameStart + Scan.run Scan.isTagNamePart (t.drop nameStart)
  let length := match Text.indexOfByte? (t.drop nameEnd) '>'.toUInt8 with
    | some k => nameEnd + k + 1
    | none => t.length
  { name := t.slice nameStart nameEnd, optOut, length }

end Reading

end Syntax

end TemplateCompiler
