import TemplateCompiler.Syntax.Node

/-!
# Normal forms of syntax trees

Two changes that keep the text and the spans of a tree in step.  Merging joins neighbouring texts
whose spans touch, in every body.  Trimming takes the white space off both ends of directive tokens
and narrows their spans to match.  Each says how much it changed.
-/

namespace TemplateCompiler

namespace Syntax

namespace Node

/-! ## Merging -/

/-- Put a node in front of others.  Two texts whose spans touch become one; the second component
counts the nodes that disappear. -/
def join (n : Node) (ns : List Node) : List Node × Nat :=
  match n, ns with
  | text s t, text s' t' :: rest =>
    if s.stop == s'.start && s.file == s'.file then (text (s.cover s') (t ++ t') :: rest, 1)
    else (n :: ns, 0)
  | _, _ => (n :: ns, 0)

mutual

/-- Merge texts in the bodies of a node, with the number of nodes that disappear. -/
def merge : Node → Node × Nat
  | element s tag endTag? body =>
    let (body, removed) := mergeAll body
    (element s tag endTag? body, removed)
  | directive s head body =>
    let (body, removed) := mergeAll body
    (directive s head body, removed)
  | helper s head body =>
    let (body, removed) := mergeAll body
    (helper s head body, removed)
  | n => (n, 0)

def mergeAll : List Node → List Node × Nat
  | [] => ([], 0)
  | n :: ns =>
    let (n, inside) := merge n
    let (ns, after) := mergeAll ns
    let (ns, here) := join n ns
    (ns, inside + after + here)

end

/-! ## Trimming -/

/-- Whether a byte is taken off the ends of tokens. -/
def isTokenBlank (b : UInt8) : Bool := b == 0x20 || b == 0x09 || b == 0x0D || b == 0x0A

/-- A token without white space around it; nothing if it has none. -/
def trimToken? (t : DirectiveToken) : Option DirectiveToken :=
  let lead := (t.content.takeWhile isTokenBlank).length
  let content := Text.trimWhile t.content isTokenBlank
  if content.length == t.content.length then none
  else
    let start := t.span.start + lead
    some { t with content, span := { t.span with start, stop := start + content.length } }

/-- Tokens without white space around them. -/
def trimTokens (ts : List DirectiveToken) : List DirectiveToken :=
  ts.map fun t => (trimToken? t).getD t

/-- The number of tokens with white space around them. -/
def countTrimmed (ts : List DirectiveToken) : Nat := ts.countP fun t => (trimToken? t).isSome

mutual

/-- Trim the directive tokens of a node, with the number of tokens that change. -/
def trim : Node → Node × Nat
  | element s tag endTag? body =>
    let (body, trimmed) := trimAll body
    (element s tag endTag? body, trimmed)
  | directive s head body =>
    let (body, trimmed) := trimAll body
    (directive s { head with tokens := trimTokens head.tokens } body,
      trimmed + countTrimmed head.tokens)
  | helper s head body =>
    let (body, trimmed) := trimAll body
    (helper s head body, trimmed)
  | n => (n, 0)

def trimAll : List Node → List Node × Nat
  | [] => ([], 0)
  | n :: ns =>
    let (n, here) := trim n
    let (ns, after) := trimAll ns
    (n :: ns, here + after)

end

end Node

namespace Tree

/-- Join neighbouring texts whose spans touch, with the number of nodes that disappear. -/
def mergeText (t : Tree) : Tree × Nat :=
  let (body, removed) := Node.mergeAll t.body
  ({ t with body }, removed)

/-- Take the white space off both ends of directive tokens, with the number of tokens that
change. -/
def trimTokens (t : Tree) : Tree × Nat :=
  let (body, trimmed) := Node.trimAll t.body
  ({ t with body }, trimmed)

end Tree

end Syntax

end TemplateCompiler
