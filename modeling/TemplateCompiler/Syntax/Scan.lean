import TemplateCompiler.Text.Basic

/-!
# Scanning code

Code inside a template is not parsed; only its extent is found.  Each function here looks at a text
that starts at the place in question and says how many bytes the construct takes.  Functions that
have to jump ahead carry the number of bytes still to be skipped, so every one of them is a plain
recursion on the text.
-/

namespace TemplateCompiler

namespace Scan

/-! ## Bytes -/

/-- Whether a byte is an ASCII letter. -/
def isLetter (b : UInt8) : Bool := (0x61 ≤ b && b ≤ 0x7A) || (0x41 ≤ b && b ≤ 0x5A)

/-- Whether a byte is an ASCII digit. -/
def isDigit (b : UInt8) : Bool := 0x30 ≤ b && b ≤ 0x39

/-- Whether a byte is an ASCII letter or digit. -/
def isAlphanumeric (b : UInt8) : Bool := isLetter b || isDigit b

/-- Whether an identifier can start with a byte. -/
def isIdentifierStart (b : UInt8) : Bool := b == '_'.toUInt8 || isLetter b

/-- Whether an identifier can go on with a byte. -/
def isIdentifierPart (b : UInt8) : Bool := isIdentifierStart b || isDigit b

/-- Whether a byte is a space, a tab, a line end or a form feed. -/
def isSpace (b : UInt8) : Bool :=
  b == 0x20 || b == 0x09 || b == 0x0A || b == 0x0D || b == 0x0C

/-- Whether a byte is a space or a tab. -/
def isHorizontalSpace (b : UInt8) : Bool := b == 0x20 || b == 0x09

/-- Whether a byte can be part of a tag name. -/
def isTagNamePart (b : UInt8) : Bool :=
  isAlphanumeric b || b == '-'.toUInt8 || b == ':'.toUInt8 || b == '.'.toUInt8 || b == '_'.toUInt8

/-- Whether the first byte of a text satisfies a test. -/
def startsWithByte (p : UInt8 → Bool) (t : Text) : Bool :=
  match t with
  | [] => false
  | b :: _ => p b

/-- The number of leading bytes that satisfy a test. -/
def run (p : UInt8 → Bool) (t : Text) : Nat := (t.takeWhile p).length

/-- The length of the identifier at the front; zero if there is none. -/
def identifier (t : Text) : Nat :=
  if startsWithByte isIdentifierStart t then run isIdentifierPart t else 0

/-- The length of the line at the front, without its line feed. -/
def line (t : Text) : Nat := run (· != 0x0A) t

/-! ## Literals -/

/-- The length of the rest of a literal, up to and including its closing quote.  A backslash takes
the byte after it along.  A literal in single quotes ends before a line feed; one that is not
closed takes everything. -/
def literalRest (quote : UInt8) : Bool → Text → Nat
  | _, [] => 0
  | true, _ :: t => 1 + literalRest quote false t
  | false, b :: t =>
    if b == '\\'.toUInt8 then 1 + literalRest quote true t
    else if b == quote then 1
    else if b == 0x0A && quote == '\''.toUInt8 then 0
    else 1 + literalRest quote false t

/-- The length of the literal whose opening quote is at the front. -/
def literal (t : Text) : Nat :=
  match t with
  | [] => 0
  | quote :: rest => 1 + literalRest quote false rest

/-- Whether a character literal of one, possibly escaped, byte is at the front.  Apostrophes in
prose are none. -/
def isCharacterLiteral (t : Text) : Bool :=
  match t with
  | _ :: b :: c :: rest =>
    (b != '\\'.toUInt8 && c == '\''.toUInt8)
      || (b == '\\'.toUInt8 && rest.head? == some '\''.toUInt8)
  | _ => false

/-! ## Balanced delimiters -/

/-- The offset of the delimiter that closes the first opening one, if there is one.  Literals and
comments to the end of the line are skipped.  `skip` bytes are passed over first, and `depth`
delimiters are open. -/
def closingFrom (opening closing : UInt8) : Nat → Int → Text → Option Nat
  | _, _, [] => none
  | skip + 1, depth, _ :: t => (closingFrom opening closing skip depth t).map (· + 1)
  | 0, depth, b :: t =>
    if b == '"'.toUInt8 then
      (closingFrom opening closing (literal (b :: t) - 1) depth t).map (· + 1)
    else if b == '\''.toUInt8 && isCharacterLiteral (b :: t) then
      (closingFrom opening closing (literal (b :: t) - 1) depth t).map (· + 1)
    else if b == '/'.toUInt8 && t.head? == some '/'.toUInt8 then
      (closingFrom opening closing (line (b :: t)) depth t).map (· + 1)
    else if b == opening then (closingFrom opening closing 0 (depth + 1) t).map (· + 1)
    else if b == closing then
      if depth == 1 then some 0 else (closingFrom opening closing 0 (depth - 1) t).map (· + 1)
    else (closingFrom opening closing 0 depth t).map (· + 1)

/-- The offset of the delimiter that closes the one at the front. -/
def closing? (opening closing : UInt8) (t : Text) : Option Nat :=
  closingFrom opening closing 0 0 t

/-- The offset of the parenthesis that closes the one at the front. -/
def closingParenthesis? (t : Text) : Option Nat := closing? '('.toUInt8 ')'.toUInt8 t

/-- The offset of the brace that closes the one at the front. -/
def closingBrace? (t : Text) : Option Nat := closing? 0x7B 0x7D t

/-- The offset of the bracket that closes the one at the front. -/
def closingBracket? (t : Text) : Option Nat := closing? '['.toUInt8 ']'.toUInt8 t

/-! ## Implicit expressions -/

/-- The length of the member accesses, calls and indexers at the front, after `skip` bytes.
`forgiving` allows an exclamation mark before a member access. -/
def accesses (forgiving : Bool) : Nat → Text → Nat
  | _, [] => 0
  | skip + 1, _ :: t => 1 + accesses forgiving skip t
  | 0, b :: t =>
    if b == '('.toUInt8 then
      match closingParenthesis? (b :: t) with
      | some k => 1 + accesses forgiving k t
      | none => 0
    else if b == '['.toUInt8 then
      match closingBracket? (b :: t) with
      | some k => 1 + accesses forgiving k t
      | none => 0
    else if b == '.'.toUInt8 && startsWithByte isIdentifierStart t then
      1 + accesses forgiving (identifier t) t
    else if b == '?'.toUInt8 || (b == '!'.toUInt8 && forgiving) then
      match t with
      | c :: rest =>
        if c == '.'.toUInt8 && startsWithByte isIdentifierStart rest then
          1 + accesses forgiving (1 + identifier rest) t
        else 0
      | [] => 0
    else 0

/-- The length of the identifier that an implicit expression starts with; after the word that
waits for a result, the identifier behind it belongs to the expression. -/
def implicitStart (t : Text) : Nat :=
  let n := identifier t
  if t.take n == "await" then
    match t.drop n with
    | b :: rest =>
      if b == 0x20 && startsWithByte isIdentifierStart rest then n + 1 + identifier rest else n
    | [] => n
  else n

/-- The length of the implicit expression at the front: an identifier with member accesses, calls
and indexers. -/
def implicit (forgiving : Bool) (t : Text) : Nat :=
  let n := implicitStart t
  n + accesses forgiving 0 (t.drop n)

/-! ## Statements -/

def isStatementKeyword (word : Text) : Bool :=
  let keywords : List String :=
    ["if", "for", "foreach", "while", "switch", "lock", "using", "do", "try"]
  keywords.any fun k => Text.ofString k == word

/-- The keywords with which a statement can go on after a block. -/
def continuations (keyword : Text) : List Text :=
  if keyword == "if" then ["else"]
  else if keyword == "try" then ["catch", "finally"]
  else if keyword == "do" then ["while"]
  else []

/-- The offset of the first byte that is no white space. -/
def blank (t : Text) : Nat := run isSpace t

/-- The length of a condition in parentheses, with the white space before it; zero if there is
none, nothing if it is not closed. -/
def condition? (t : Text) : Option Nat :=
  let j := blank t
  let rest := t.drop j
  if rest.head? == some '('.toUInt8 then (closingParenthesis? rest).map fun k => j + k + 1
  else some 0

/-- What a block with its condition comes to. -/
inductive Block where
  /-- A condition or a block is not closed. -/
  | unclosed
  /-- There is no block. -/
  | missing
  | closed (length : Nat)
  deriving DecidableEq, Repr

/-- The condition and the block at the front. -/
def block (t : Text) : Block :=
  match condition? t with
  | none => .unclosed
  | some k =>
    let j := k + blank (t.drop k)
    let rest := t.drop j
    if rest.head? != some 0x7B then .missing
    else match closingBrace? rest with
      | none => .unclosed
      | some e => .closed (j + e + 1)

/-- The length of the condition that ends a loop tested behind its block, after its keyword; zero
if there is no condition, nothing if it is not closed. -/
def trailingCondition? (t : Text) : Option Nat :=
  let j := blank t
  let rest := t.drop j
  if rest.head? != some '('.toUInt8 then some 0
  else (closingParenthesis? rest).map fun k =>
    let n := j + k + 1
    if (t.drop n).head? == some ';'.toUInt8 then n + 1 else n

/-- The length of a statement after its keyword, with everything that continues it, and whether all
of its blocks are closed.  Every round passes at least one block, so the number of bytes bounds the
number of rounds. -/
def statementFrom (keyword : Text) : Nat → Text → Nat × Bool
  | 0, _ => (0, true)
  | rounds + 1, t =>
    match block t with
    | .unclosed => (t.length, false)
    | .missing => (line t, false)
    | .closed n =>
      let rest := t.drop n
      let j := blank rest
      let word := (rest.drop j).take (identifier (rest.drop j))
      let after := n + j + word.length
      if !(continuations keyword).contains word then (n, true)
      else if keyword == "do" then
        match trailingCondition? (t.drop after) with
        | none => (t.length, false)
        | some 0 => (n, true)
        | some k => (after + k, true)
      else
        let next := t.drop after
        let gap := blank next
        let more :=
          if word == "else" && (next.drop gap).take (identifier (next.drop gap)) == "if" then gap + 2
          else 0
        let (k, closed) := statementFrom keyword rounds (t.drop (after + more))
        (after + more + k, closed)

/-- The length of a statement after its keyword, and whether all of its blocks are closed. -/
def statement (keyword : Text) (t : Text) : Nat × Bool := statementFrom keyword (t.length + 1) t

end Scan

end TemplateCompiler
