import TemplateCompiler.Syntax.Tag

/-!
# Reading directives

After its keyword a directive has the tokens of its grammar, separated by spaces and tabs, and then
the end of the line or a block.  A token that is missing or has the wrong shape makes the directive
malformed; reading goes on behind it.
-/

namespace TemplateCompiler

namespace Syntax

/-! ## Tokens -/

namespace TokenScan

/-- Why there is no token of the expected shape, and up to which offset that is reported. -/
structure Fault where
  code : DiagnosticCode
  stop : Nat

/-- A token of the wrong shape. -/
def invalid (stop : Nat) : Except Fault Nat := .error ⟨.invalidToken, stop⟩

/-- A length that has to be positive. -/
def nonEmpty (n : Nat) : Except Fault Nat := if n == 0 then invalid 0 else .ok n

/-- The length of the names and dots behind a name. -/
def nameTail : Nat → Text → Nat
  | _, [] => 0
  | skip + 1, _ :: t => 1 + nameTail skip t
  | 0, b :: t =>
    if b == '.'.toUInt8 && Scan.startsWithByte Scan.isIdentifierStart t then
      1 + nameTail (Scan.identifier t) t
    else 0

/-- The length of a qualified name: identifiers separated by dots. -/
def qualifiedName (t : Text) : Nat :=
  let n := Scan.identifier t
  if n == 0 then 0 else n + nameTail 0 (t.drop n)

/-- The length of the rest of a type name, with `depth` brackets open; nothing if a bracket is left
open.  White space ends the name only outside brackets. -/
def typeTail : Nat → Text → Option Nat
  | depth, [] => if depth == 0 then some 0 else none
  | depth, b :: t =>
    if b == '\n'.toUInt8 || b == '\r'.toUInt8 then (if depth == 0 then some 0 else none)
    else if b == '<'.toUInt8 || b == '('.toUInt8 || b == '['.toUInt8 then
      (typeTail (depth + 1) t).map (· + 1)
    else if b == '>'.toUInt8 || b == ')'.toUInt8 || b == ']'.toUInt8 then
      match depth with
      | 0 => some 0
      | depth + 1 => (typeTail depth t).map (· + 1)
    else if depth == 0 && (Scan.isHorizontalSpace b || b == ';'.toUInt8 || b == 0x7B
        || b == '"'.toUInt8) then some 0
    else (typeTail depth t).map (· + 1)

/-- The length of a type name; zero if there is none. -/
def typeName (t : Text) : Nat :=
  if Scan.startsWithByte (fun b => Scan.isIdentifierStart b || b == '('.toUInt8) t then
    (typeTail 0 t).getD 0
  else 0

/-- The length of a namespace, or of an alias with the type it stands for. -/
def namespaceName (t : Text) : Nat :=
  let n := qualifiedName t
  if n == 0 then 0
  else
    let j := n + Scan.run Scan.isHorizontalSpace (t.drop n)
    if (t.drop j).head? == some '='.toUInt8 then
      let k := j + 1 + Scan.run Scan.isHorizontalSpace (t.drop (j + 1))
      let m := typeName (t.drop k)
      if m == 0 then n else k + m
    else n

/-- The length of the rest of the line without trailing blanks and semicolons; a block's opening
brace ends it too, where the directive has a block. -/
def lineRest (kind : DirectiveKind) (t : Text) : Nat :=
  let line := t.take (Scan.line t)
  let line := if kind == .singleLine then line else line.takeWhile (· != 0x7B)
  (Text.dropEndWhile line fun b => Scan.isHorizontalSpace b || b == ';'.toUInt8).length

/-- The length of a text, quoted or up to the end of the line. -/
def string (kind : DirectiveKind) (t : Text) : Except Fault Nat :=
  if t.head? == some '"'.toUInt8 then
    let n := Scan.literal t
    if n > Scan.line t || (t.take n).getLast? != some '"'.toUInt8 || n == 1 then
      .error ⟨.unterminatedString, Scan.line t⟩
    else .ok n
  else nonEmpty (lineRest kind t)

/-- The length of a token of a kind at the front of a text. -/
def token (slot : DirectiveTokenKind) (kind : DirectiveKind) (t : Text) : Except Fault Nat :=
  match slot with
  | .type => nonEmpty (typeName t)
  | .namespaceName => nonEmpty (namespaceName t)
  | .member => nonEmpty (Scan.identifier t)
  | .string => string kind t
  | .attributeSection =>
    if t.head? != some '['.toUInt8 then invalid 0
    else match Scan.closingBracket? t with
      | some k => .ok (k + 1)
      | none => invalid (Scan.line t)
  | .boolean =>
    let n := Scan.identifier t
    let word := t.take n
    if word == "true" || word == "false" then .ok n else invalid n
  | .genericConstraint =>
    let n := Scan.identifier t
    if t.take n == "where" then .ok (lineRest kind t) else invalid n
  | _ =>
    if t.head? == some '('.toUInt8 then
      match Scan.closingParenthesis? t with
      | some k => .ok (k + 1)
      | none => invalid (Scan.line t)
    else nonEmpty (qualifiedName t)

/-- What a token of a kind is called. -/
def describe (slot : DirectiveSlot) : Text :=
  let what : Text := match slot.kind with
    | .type => "a type name"
    | .namespaceName => "a namespace"
    | .member => "an identifier"
    | .string => "a string"
    | .attributeSection => "an attribute"
    | .boolean => "true or false"
    | .genericConstraint => "a where clause"
    | _ => "an identifier or expression"
  if slot.name.isEmpty then what else what ++ " (" ++ slot.name ++ ")"

end TokenScan

/-! ## Directives -/

namespace Reading

/-- The tokens of a directive: how many bytes they took, whether reading may go on with the
directive, and the findings about them. -/
structure TokensReading where
  tokens : List DirectiveToken := []
  length : Nat
  isComplete : Bool
  diagnostics : List Diagnostic := []

/-- The finding that a token of a slot was expected. -/
def expectedToken (code : DiagnosticCode) (span : Span) (keyword : Text) (slot : DirectiveSlot) :
    Diagnostic :=
  .error code span
    ("the " ++ keyword.quoted ++ " directive expects " ++ TokenScan.describe slot)

/-- Whether no more tokens can follow. -/
def atTokenEnd (kind : DirectiveKind) (t : Text) : Bool :=
  match t with
  | [] => true
  | b :: _ => b == 0x0A || (kind != .singleLine && b == 0x7B)

/-- Read the tokens of the given slots, one after another.  At the end of the line a slot that may
be left out ends the tokens, and any other one is reported, as is a token of the wrong shape. -/
def tokens (r : Reading) (d : DirectiveDescriptor) : List DirectiveSlot → Nat → Text →
    TokensReading
  | [], _, _ => { length := 0, isComplete := true }
  | slot :: slots, offset, t =>
    let gap := Scan.run Scan.isHorizontalSpace t
    let start := offset + gap
    let t := t.drop gap
    if atTokenEnd d.kind t then
      if slot.optional then { length := gap, isComplete := true }
      else
        { length := gap, isComplete := false
          diagnostics := [expectedToken .missingToken (r.span start start) d.keyword slot] }
    else match TokenScan.token slot.kind d.kind t with
      | .error fault =>
        { length := gap + Scan.line t, isComplete := false
          diagnostics := [expectedToken fault.code
            (r.span start (start + max fault.stop 1)) d.keyword slot] }
      | .ok n =>
        let rest := r.tokens d slots (start + n) (t.drop n)
        { rest with
          tokens := ⟨slot, t.take n, r.span start (start + n)⟩ :: rest.tokens
          length := gap + n + rest.length }

/-- The end of a directive on a line: how many bytes it takes, and the findings about it. -/
def lineEnding (r : Reading) (keyword : Text) (offset : Nat) (t : Text) : Nat × List Diagnostic :=
  let gap := Scan.run Scan.isHorizontalSpace t
  let gap := if (t.drop gap).head? == some ';'.toUInt8 then
      gap + 1 + Scan.run Scan.isHorizontalSpace (t.drop (gap + 1)) else gap
  let rest := t.drop gap
  let trailing := if Scan.startsWithByte (fun b => b != 0x0A && b != 0x0D) rest then Scan.line rest
    else 0
  let stop := gap + trailing
  let found : List Diagnostic := if trailing == 0 then [] else
    [.error .trailingContent (r.span (offset + gap) (offset + stop))
      ("unexpected " ++ (Text.trimBlank (rest.take trailing)).quoted ++ " after the "
        ++ keyword.quoted ++ " directive, expected a line break")]
  (if (t.drop stop).head? == some 0x0A then stop + 1 else stop, found)

/-- What follows the tokens of a directive. -/
inductive DirectiveBody where
  /-- The directive is complete after a number of bytes. -/
  | done (length : Nat) (code : Text) (diagnostics : List Diagnostic)
  /-- A block of markup opens with the brace at an offset of the text. -/
  | opens (brace : Nat)

/-- The finding that a block is not closed. -/
def unclosedBlock (r : Reading) (keyword : Text) (brace : Nat) : Diagnostic :=
  .error .unterminatedBlock (r.span brace (brace + 1))
    ("the " ++ keyword.quoted ++ " block is missing a closing \"\x7d\"")

/-- Read what follows the tokens of a directive, as the shape of its body asks for: the end of the
line, a block of code up to its closing brace, or the brace that opens a block of markup. -/
def directiveBody (r : Reading) (d : DirectiveDescriptor) (offset : Nat) (t : Text) :
    DirectiveBody :=
  if d.kind == .singleLine then
    let (n, found) := r.lineEnding d.keyword offset t
    .done n [] found
  else
    let gap := Scan.blank t
    let rest := t.drop gap
    if rest.head? != some 0x7B then
      .done gap [] [.error .missingBlock (r.span (offset + gap) (offset + gap))
        ("the " ++ d.keyword.quoted ++ " directive expects a block starting with \"\x7b\"")]
    else if d.kind != .codeBlock then .opens gap
    else match Scan.closingBrace? rest with
      | some k => .done (gap + k + 1) (Text.slice rest 1 k) []
      | none => .done t.length (rest.drop 1) [r.unclosedBlock d.keyword (offset + gap)]

end Reading

end Syntax

end TemplateCompiler
