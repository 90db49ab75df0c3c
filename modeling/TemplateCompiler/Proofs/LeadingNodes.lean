import TemplateCompiler.Proofs.DirectiveEnds
import TemplateCompiler.Proofs.OpenBlocks

/-!
# What a parser of leading directives reads

A parser that reads only leading directives looks at the text ahead to see whether it may go on, and
then at the byte behind to see whether an at sign is one of an address.  The two tests disagree where
the at sign of a directive stands between letters or digits: the first lets the parser go on, and the
second takes the at sign as text.  This can happen only right behind a directive whose block is
missing, because all other directives and comments end with a byte that is no letter or digit, or
before one that is no at sign.

Apart from this, everything that the parser reads outside of blocks is a directive, a comment or
white space.
-/

namespace TemplateCompiler

namespace Syntax

namespace Node

/-- Whether a node can stand among leading directives: a directive, a comment or white space. -/
def isLeading : Node → Bool
  | .directive .. | .comment .. => true
  | .text _ t => t.all Scan.isSpace
  | _ => false

/-- Whether a node is a directive whose block is missing. -/
def lacksBlock : Node → Bool
  | .directive _ head [] => head.diagnostics.any fun d => d.code == .missingBlock
  | _ => false

theorem isDirective_of_lacksBlock {n : Node} (lacks : n.lacksBlock = true) :
    n.isDirective = true := by
  cases n with
  | directive => rfl
  | _ => cases lacks

end Node

namespace Grammar

/-- Whether the at sign of a directive stands at an offset where it could be one of an address. -/
def clashesAt (g : Grammar) (content : Text) (offset : Nat) : Bool :=
  content.addressAt offset && (g.directive? (content.drop offset)).isSome

variable {g : Grammar}

theorem reads_self (leading : g.leadingOnly = true) : g.reads true = g := by
  rw [reads, ← leading]

theorem isLeading_cons {b : UInt8} {rest : Text} :
    g.isLeading (b :: rest) = true ↔ Scan.isSpace b = true
      ∨ b = '@'.toUInt8 ∧ (rest.head? = some '*'.toUInt8
        ∨ (g.directive? (b :: rest)).isSome = true) := by
  simp only [isLeading, Bool.or_eq_true, Bool.and_eq_true, beq_iff_eq]

end Grammar

/-! ## Outside of blocks -/

/-- A node that can stand among leading directives, and that no address follows unless it is a
directive without its block. -/
structure Node.Leads (content : Text) (n : Node) : Prop where
  leading : n.isLeading = true
  apart : content.addressAt n.span.stop = true → n.lacksBlock = true

/-- A node that no directive follows that could be read as an address. -/
def Node.Clear (g : Grammar) (content : Text) (n : Node) : Prop :=
  n.isDirective = true → g.clashesAt content n.span.stop = false

theorem Node.clear_of_apart {g : Grammar} {content : Text} {n : Node}
    (apart : content.addressAt n.span.stop = false) : n.Clear g content := by
  intro _
  rw [Grammar.clashesAt, apart, Bool.false_and]

namespace Machine

variable {g : Grammar} {content : Text} {m : Machine}

/-- The machine between two bytes, before any clash.  What it has gathered is leading content, and
the byte before the current one is that of the file, which decides whether an at sign belongs to an
address. -/
structure Leads (g : Grammar) (content : Text) (m : Machine) : Prop where
  led : Led m
  first : m.offset = 0 → m.previous? = none
  previous : ∀ k, m.offset = k + 1 → m.previous? = content[k]?
  blank : m.frames = [] → m.pending.all Scan.isSpace = true
  root : ∀ n ∈ m.root, n.Leads content
  /-- A clash can only be with what comes next. -/
  passed : ∀ n ∈ m.root, n.Clear g content ∨ m.frames = [] ∧ n.span.stop = m.offset + m.skip

/-- An address at the current byte. -/
theorem Leads.isAddress_iff (leads : Leads g content m) {rest : Text}
    (ahead : content.drop m.offset = '@'.toUInt8 :: rest) :
    m.isAddress rest = true ↔ content.addressAt m.offset = true := by
  have bytes (k : Nat) : content[m.offset + k]? = ('@'.toUInt8 :: rest)[k]? := by
    rw [← ahead, List.getElem?_drop]
  have next : rest[0]?.any Scan.isAlphanumeric = Scan.startsWithByte Scan.isAlphanumeric rest := by
    cases rest <;> rfl
  unfold isAddress
  cases place : m.offset with
  | zero =>
    rw [leads.first place]
    exact Iff.rfl
  | succ k =>
    have here := bytes 0
    have behind := bytes 1
    rw [place] at here behind
    rw [Text.addressAt_succ, leads.previous k place, Bool.and_eq_true, ← next]
    change _ ↔ _ ∧ content[k + 1]? = _ ∧ content[k + 1 + 1]?.any _ = true
    rw [show content[k + 1]? = some '@'.toUInt8 from here, behind]
    simp

/-- The machine is inside of a frame, or it has added one node outside of all frames that reaches to
the end of what it took. -/
def Adds (content : Text) (root : List Node) (m : Machine) : Prop :=
  Inner root m
    ∨ ∃ n : Node, m.root = n :: root ∧ m.frames = [] ∧ m.pending = [] ∧ n.Leads content
      ∧ n.span.stop = m.offset + 1 + m.skip

theorem adds_emit_take (outside : m.frames = []) (clear : m.pending = []) {n : Node} {length : Nat}
    (leads : n.Leads content) (reaches : n.span.stop = m.offset + 1 + (length - 1)) :
    Adds content m.root ((m.emit n).take length) := by
  have same : m.emit n = { m with root := n :: m.root } := by
    unfold emit
    rw [outside]
  rw [same]
  exact Or.inr ⟨n, rfl, outside, clear, leads, reaches⟩

theorem comment_adds (outside : m.frames = []) (clear : m.pending = []) {t : Text}
    (ahead : content.drop m.offset = t) (nonempty : t ≠ []) :
    Adds content m.root (m.comment g t) := by
  have positive := List.length_pos_iff.mpr nonempty
  unfold comment
  split
  · next k found =>
    refine adds_emit_take outside clear ⟨rfl, ?_⟩ (by change m.offset + k + 4 = _; omega)
    intro address
    change content.addressAt (m.offset + (k + 3 + 1)) = true at address
    rw [Text.addressAt_drop ahead] at address
    have sign := Text.getElem?_of_indexOf? found 1 (by decide)
    rw [List.getElem?_drop] at sign
    have last := (Text.addressAt_succ.mp address).1
    rw [show k + 3 = 2 + (k + 1) by omega, sign] at last
    cases last
  · refine adds_emit_take (m := m.report _) outside clear ⟨rfl, ?_⟩
      (by change m.offset + t.length = m.offset + 1 + _; omega)
    intro address
    have reaches := Reading.length_of_drop ahead nonempty
    change content.addressAt (m.offset + t.length) = true at address
    rw [Text.addressAt_length content (by omega)] at address
    cases address

/-- A directive may be followed by an address only if its block is missing. -/
theorem leads_directive {t : Text} {start length : Nat} {head : DirectiveHead}
    (ahead : content.drop start = t)
    (apart : t[length]?.any Scan.isAlphanumeric = true → t[length + 1]? = some '@'.toUInt8 →
      (head.diagnostics.any fun d => d.code == .missingBlock) = true) :
    (Node.directive (g.span start (start + (length + 1))) head []).Leads content := by
  refine ⟨rfl, ?_⟩
  intro address
  change content.addressAt (start + (length + 1)) = true at address
  rw [Text.addressAt_drop ahead] at address
  rcases Text.addressAt_succ.mp address with ⟨last, sign, -⟩
  exact apart last sign

theorem directive_adds (outside : m.frames = []) (clear : m.pending = []) {t : Text}
    (ahead : content.drop m.offset = t) (d : DirectiveDescriptor) :
    Adds content m.root (m.directive g t d) := by
  have noted := noteOccurrence_keeps m d (g.span m.offset (m.offset + (1 + d.keyword.length)))
  have unread := g.head?_drop_tokens d d.slots (m.offset + (1 + d.keyword.length))
    (t.drop (1 + d.keyword.length))
  unfold directive
  dsimp only
  generalize m.noteOccurrence d (g.span m.offset (m.offset + (1 + d.keyword.length))) = m'
    at noted ⊢
  generalize g.tokens d d.slots (m.offset + (1 + d.keyword.length)) (t.drop (1 + d.keyword.length)) =
    read at unread ⊢
  rcases noted with ⟨root, frames, pending, place⟩
  have outside' := frames.trans outside
  have clear' := pending.trans clear
  rw [← root]
  split
  · next incomplete =>
    have incomplete : read.isComplete = false := by simpa using incomplete
    refine adds_emit_take outside' clear' ?_ (by change m.offset + _ = _; omega)
    rw [show 1 + d.keyword.length + read.length = d.keyword.length + read.length + 1 by omega]
    apply leads_directive ahead
    intro _ sign
    exfalso
    apply unread incomplete
    rw [List.drop_drop, List.head?_drop, ← sign]
    congr 1
    omega
  split
  · next n code found done =>
    refine adds_emit_take outside' clear' ?_ (by change m.offset + _ = _; omega)
    rw [show 1 + d.keyword.length + read.length + n = d.keyword.length + read.length + n + 1 by omega]
    apply leads_directive ahead
    intro last sign
    have body (k : Nat) : (t.drop (1 + d.keyword.length + read.length))[k]? =
        t[d.keyword.length + read.length + k + 1]? := by
      rw [List.getElem?_drop]
      congr 1
      omega
    rw [← body] at sign
    rcases Reading.directiveBody_apart done sign with ⟨k, b, rfl, byte, other⟩ | missing
    · rw [body, Nat.add_assoc (d.keyword.length + read.length)] at byte
      rw [byte] at last
      exact absurd last (Bool.eq_false_iff.mp other)
    · change ((_ ++ _ : List Diagnostic).any _) = true
      rw [List.any_append, missing, Bool.or_true]
  · exact Or.inl ⟨rfl, List.cons_ne_nil _ _⟩

/-- Behind the at sign of a directive stands an identifier. -/
theorem startsWithByte_of_directive? (named : ∀ d ∈ g.directives, d.keyword ≠ []) {b : UInt8}
    {rest : Text} {d : DirectiveDescriptor} (known : g.directive? (b :: rest) = some d) :
    Scan.startsWithByte Scan.isIdentifierStart rest = true := by
  unfold Grammar.directive? at known
  dsimp only at known
  split at known
  · cases known
  · next other found =>
    have same := List.find?_some found
    rw [beq_iff_eq] at same
    have nonempty := named other (List.mem_of_find?_eq_some found)
    apply Decidable.byContradiction
    intro none
    apply nonempty
    rw [same, List.drop_one, List.tail_cons, Scan.identifier, if_neg none, List.take_zero]

/-- What stands at an at sign with which leading directives may go on is a comment or a directive. -/
theorem transition_of_isLeading (named : ∀ d ∈ g.directives, d.keyword ≠ []) (m : Machine)
    {rest : Text} (leading : g.isLeading ('@'.toUInt8 :: rest) = true) :
    m.transition g ('@'.toUInt8 :: rest) = m.comment g ('@'.toUInt8 :: rest)
      ∨ ∃ d, g.directive? ('@'.toUInt8 :: rest) = some d
        ∧ m.transition g ('@'.toUInt8 :: rest) = m.directive g ('@'.toUInt8 :: rest) d := by
  rcases Grammar.isLeading_cons.mp leading with blank | ⟨-, star | isDirective⟩
  · cases blank
  · cases rest with
    | nil => cases star
    | cons b rest =>
      cases star
      exact Or.inl rfl
  · rcases Option.isSome_iff_exists.mp isDirective with ⟨d, known⟩
    refine Or.inr ⟨d, known, ?_⟩
    have starts := startsWithByte_of_directive? named known
    cases rest with
    | nil => cases starts
    | cons b rest =>
      have isStart : Scan.isIdentifierStart b = true := starts
      have other (c : UInt8) (none : Scan.isIdentifierStart c = false) : ¬ (b == c) = true := by
        intro same
        rw [← eq_of_beq same, isStart] at none
        cases none
      have next : ((('@'.toUInt8 :: b :: rest).drop 1).head?).getD 0 = b := rfl
      unfold transition
      dsimp only
      rw [next, if_neg (other '@'.toUInt8 rfl), if_neg (other '*'.toUInt8 rfl),
        if_neg (other 0x7B rfl), if_neg (other '('.toUInt8 rfl), if_pos isStart, known]

/-- The last of the bytes gathered is the one before the offset. -/
theorem getElem?_of_pending {offset : Nat} {b : UInt8} {pending : Text}
    (waiting : Reading.Pending content offset (b :: pending)) :
    ∃ k, offset = k + 1 ∧ content[k]? = some b := by
  rcases waiting with ⟨inside, same⟩
  rw [List.length_cons] at inside
  refine ⟨offset - 1, by omega, ?_⟩
  have last : (b :: pending).reverse[pending.length]? = some b := by simp
  rw [same, Text.slice, List.length_cons, List.getElem?_take_of_lt (by omega),
    List.getElem?_drop] at last
  rw [← last]
  congr 1
  omega

/-- White space is not part of an address. -/
theorem Leads.clear_of_address (leads : Leads g content m)
    (waiting : Reading.Pending content m.offset m.pending) (outside : m.frames = [])
    (address : content.addressAt m.offset = true) : m.pending = [] := by
  cases some : m.pending with
  | nil => rfl
  | cons b rest =>
    have blank := leads.blank outside
    rw [some] at waiting blank
    rcases getElem?_of_pending waiting with ⟨k, place, byte⟩
    rw [place] at address
    have last := (Text.addressAt_succ.mp address).1
    rw [byte] at last
    have space : Scan.isSpace b = true := (List.all_eq_true.mp blank) b List.mem_cons_self
    exact absurd last (Bool.eq_false_iff.mp (Scan.isAlphanumeric_of_isSpace space))

/-- What is there outside of all frames when the next construct is read. -/
theorem Leads.flush (leads : Leads g content m)
    (waiting : Reading.Pending content m.offset m.pending) (idle : m.skip = 0)
    (outside : m.frames = []) (free : g.clashesAt content m.offset = false) :
    (m.flush g.file).frames = []
      ∧ ∀ n ∈ (m.flush g.file).root, n.Leads content ∧ n.Clear g content := by
  have old : ∀ n ∈ m.root, n.Leads content ∧ n.Clear g content := by
    intro n member
    refine ⟨leads.root n member, ?_⟩
    rcases leads.passed n member with clear | ⟨-, reaches⟩
    · exact clear
    · intro _
      rw [reaches, idle]
      exact free
  unfold Machine.flush
  split
  · exact ⟨outside, old⟩
  · next some =>
    unfold emit
    rw [outside]
    refine ⟨rfl, ?_⟩
    intro n member
    rcases List.mem_cons.mp member with rfl | before
    · refine ⟨⟨?_, ?_⟩, nofun⟩
      · exact List.all_reverse.trans (leads.blank outside)
      · intro address
        rw [leads.clear_of_address waiting outside address] at some
        exact absurd rfl some
    · exact old n before

/-! ## Steps and runs -/

theorem closeBlock_adds {b : UInt8} (closes : m.closesBlock b = true) (clear : m.pending = [])
    (byte : content[m.offset]? = some b) : Adds content m.root (m.closeBlock g) := by
  unfold closesBlock at closes
  rw [Bool.and_eq_true, beq_iff_eq] at closes
  rcases closes with ⟨rfl, isBlock⟩
  split at isBlock
  · next start head brace body rest top =>
    unfold closeBlock
    rw [top]
    dsimp only
    by_cases alone : rest = []
    · refine adds_emit_take (m := { m with frames := rest }) alone clear ⟨rfl, ?_⟩ rfl
      intro address
      have last := (Text.addressAt_succ.mp address).1
      rw [byte] at last
      cases last
    · have inner : Inner m.root { m with frames := rest } := ⟨rfl, alone⟩
      exact Or.inl ((inner.emit _).take 1)
  · cases isBlock

/-- What was added goes on to lead. -/
theorem Leads.adds {next : Machine} {root : List Node} (adds : Adds content root next)
    (led : Led next) {b : UInt8} (byte : content[next.offset]? = some b)
    (old : ∀ n ∈ root, n.Leads content ∧ n.Clear g content) :
    Leads g content (next.advance b) := by
  have previous : ∀ k, next.offset + 1 = k + 1 → some b = content[k]? := by
    intro k place
    rw [← Nat.succ.inj place]
    exact byte.symm
  rcases adds with ⟨rfl, inside⟩ | ⟨n, same, outside, clear, leads, reaches⟩
  · exact ⟨led.of_eq rfl rfl, nofun, previous, fun outside => absurd outside inside,
      fun n member => (old n member).1, fun n member => Or.inl (old n member).2⟩
  · refine ⟨led.of_eq rfl rfl, nofun, previous, fun _ => ?_, ?_, ?_⟩
    · change next.pending.all _ = true
      rw [clear]
      rfl
    · intro k member
      rcases List.mem_cons.mp (same ▸ member : k ∈ n :: root) with rfl | before
      · exact leads
      · exact (old k before).1
    · intro k member
      rcases List.mem_cons.mp (same ▸ member : k ∈ n :: root) with rfl | before
      · exact Or.inr ⟨outside, reaches⟩
      · exact Or.inl (old k before).2

/-- Outside of all frames a parser of leading directives goes on with white space, or with what
stands at an at sign that is no clash. -/
theorem look_outside (leading : g.leadingOnly = true) (leads : Leads g content m)
    (outside : m.frames = []) {b : UInt8} {rest : Text} (ahead : content.drop m.offset = b :: rest)
    (free : g.clashesAt content m.offset = false)
    (going : (m.look g b rest).stopped = false) :
    Scan.isSpace b = true ∧ m.look g b rest = m.literal b
      ∨ b = '@'.toUInt8 ∧ g.isLeading (b :: rest) = true
        ∧ m.look g b rest = (m.flush g.file).transition g (b :: rest) := by
  have goes : g.isLeading (b :: rest) = true := by
    apply Decidable.byContradiction
    intro ends
    have stops : m.look g b rest = { m with stopped := true } := by
      unfold look
      exact if_pos (by rw [leading, outside, Bool.eq_false_iff.mpr ends]; rfl)
    rw [stops] at going
    cases going
  have going' : ¬ (g.leadingOnly && m.frames.isEmpty && !g.isLeading (b :: rest)) = true := by
    rw [goes]
    simp
  have unclosed : ¬ m.closesBlock b = true := by
    unfold closesBlock
    rw [outside]
    simp
  unfold look
  dsimp only
  rw [if_neg going', if_neg unclosed]
  rcases Grammar.isLeading_cons.mp goes with blank | ⟨rfl, starts⟩
  · left
    simp only [Scan.isSpace, Bool.or_eq_true, beq_iff_eq] at blank
    rcases blank with (((rfl | rfl) | rfl) | rfl) | rfl <;> exact ⟨rfl, rfl⟩
  · right
    have unaddressed : m.isAddress rest = false := by
      apply Bool.eq_false_iff.mpr
      intro address
      have here := (leads.isAddress_iff ahead).mp address
      have directive : (g.directive? ('@'.toUInt8 :: rest)).isSome = true := by
        rcases starts with star | directive
        · have behind := (Bool.and_eq_true_iff.mp address).2
          cases rest with
          | nil => cases star
          | cons c rest =>
            cases star
            cases behind
        · exact directive
      rw [Grammar.clashesAt, here, ahead, directive] at free
      cases free
    refine ⟨rfl, goes, if_pos ?_⟩
    rw [unaddressed]
    rfl

/-- A step of a parser of leading directives that meets no clash. -/
theorem look_leads (leading : g.leadingOnly = true) (named : ∀ d ∈ g.directives, d.keyword ≠ [])
    (leads : Leads g content m) (sound : Sound g content m) (idle : m.skip = 0) {b : UInt8}
    {rest : Text} (ahead : content.drop m.offset = b :: rest)
    (free : m.frames = [] → g.clashesAt content m.offset = false)
    (going : (m.look g b rest).stopped = false) :
    Leads g content ((m.look g b rest).advance b) := by
  have permitted : Permitted .inside g m (b :: rest) := by
    have inside := permitted_inside g m (b :: rest)
    rwa [Grammar.reads_self leading] at inside
  have moves := look_moves permitted
  have led : Led (m.look g b rest) := moves.keep Led.move leads.led
  have byte : content[m.offset]? = some b := by
    have front := congrArg List.head? ahead
    rwa [List.head?_drop] at front
  have byte' : content[(m.look g b rest).offset]? = some b := by rw [moves.offset]; exact byte
  have ready := sound.flush idle
  by_cases outside : m.frames = []
  · rcases leads.flush sound.waiting idle outside (free outside) with ⟨flushed, old⟩
    rcases look_outside leading leads outside ahead (free outside) going with
      ⟨blank, literal⟩ | ⟨rfl, goes, transition⟩
    · rw [literal]
      have same : m.literal b = { m with pending := b :: m.pending } := by
        unfold Machine.literal
        rw [outside]
      rw [same]
      refine ⟨leads.led.of_eq rfl rfl, nofun, ?_, fun _ => ?_, leads.root, ?_⟩
      · intro k place
        rw [← Nat.succ.inj place]
        exact byte.symm
      · change (Scan.isSpace b && m.pending.all Scan.isSpace) = true
        rw [blank, leads.blank outside]
        rfl
      · intro n member
        rcases leads.passed n member with clear | ⟨-, reaches⟩
        · exact Or.inl clear
        · left
          intro _
          rw [reaches, idle]
          exact free outside
    · have adds : Adds content (m.flush g.file).root (m.look g '@'.toUInt8 rest) := by
        rw [transition]
        rcases transition_of_isLeading named (m.flush g.file) goes with comment | ⟨d, -, directive⟩
        · rw [comment]
          exact comment_adds flushed ready.clear (by rw [ready.place]; exact ahead)
            (List.cons_ne_nil _ _)
        · rw [directive]
          exact directive_adds flushed ready.clear (by rw [ready.place]; exact ahead) d
      exact Leads.adds adds led byte' old
  · have old : ∀ n ∈ m.root, n.Leads content ∧ n.Clear g content := by
      intro n member
      refine ⟨leads.root n member, ?_⟩
      rcases leads.passed n member with clear | ⟨none, -⟩
      · exact clear
      · exact absurd none outside
    refine Leads.adds (?_ : Adds content m.root _) led byte' old
    by_cases closes : m.closesBlock b = true
    · have flushed : (m.flush g.file).root = m.root := (Inner.flush ⟨rfl, outside⟩ g.file).same
      have looks : m.look g b rest = (m.flush g.file).closeBlock g := by
        unfold look
        dsimp only
        rw [if_neg (by simp [outside]), if_pos closes]
      rw [looks, ← flushed]
      apply closeBlock_adds (b := b) _ ready.clear (by rw [ready.place]; exact byte)
      rw [closesBlock_flush]
      exact closes
    · exact Or.inl (look_inner leads.led outside (Bool.eq_false_iff.mpr closes))

/-- The machine after a clash: the at sign stands behind a directive whose block is missing. -/
structure Clashed (g : Grammar) (content : Text) (m : Machine) : Prop where
  outside : m.frames = []
  pending : m.pending = ['@'.toUInt8]
  leading : ∀ n ∈ m.root, n.isLeading = true
  last : ∃ n rest, m.root = n :: rest ∧ n.lacksBlock = true ∧ m.offset = n.span.stop + 1
    ∧ g.clashesAt content n.span.stop = true

/-- The last node outside of all frames ends where the machine stands. -/
theorem Leads.last_of_address (leads : Leads g content m) (sound : Sound g content m)
    (idle : m.skip = 0) (outside : m.frames = [])
    (address : content.addressAt m.offset = true) :
    ∃ n rest, m.root = n :: rest ∧ n.span.stop = m.offset ∧ n.lacksBlock = true := by
  have stacked := sound.stacked
  rw [outside, idle, leads.clear_of_address sound.waiting outside address] at stacked
  have tiled := stacked.2
  cases same : m.root with
  | nil =>
    rw [same] at tiled
    have start : 0 = m.offset := tiled
    rw [← start] at address
    cases address
  | cons n rest =>
    rw [same, List.reverse_cons, List.map_append] at tiled
    have stops : n.span.stop = m.offset := Span.Tiles.stop_of_last tiled
    refine ⟨n, rest, rfl, stops, ?_⟩
    apply (leads.root n (same ▸ List.mem_cons_self)).apart
    rw [stops]
    exact address

theorem run_idle (idle : m.skip = 0) (b : UInt8) (rest : Text) :
    run g m (b :: rest) = if (m.look g b rest).stopped then m.look g b rest
      else run g ((m.look g b rest).advance b) rest := by
  rw [run, idle]

/-- Outside of all frames the parser stops at a content. -/
theorem run_ending (leading : g.leadingOnly = true) (idle : m.skip = 0) (outside : m.frames = [])
    {b : UInt8} {rest : Text} (ends : g.isLeading (b :: rest) = false) :
    run g m (b :: rest) = { m with stopped := true } := by
  have stops : m.look g b rest = { m with stopped := true } := by
    unfold look
    exact if_pos (by rw [leading, outside, ends]; rfl)
  rw [run_idle idle, stops, if_pos rfl]

/-- At a clash the at sign becomes text, and the parser stops before the keyword. -/
theorem run_clash (leading : g.leadingOnly = true) (leads : Leads g content m)
    (sound : Sound g content m) (idle : m.skip = 0) (outside : m.frames = []) {t : Text}
    (ahead : content.drop m.offset = t) (clash : g.clashesAt content m.offset = true) :
    Clashed g content (run g m t) := by
  have clashes := clash
  rw [Grammar.clashesAt, Bool.and_eq_true] at clashes
  rcases clashes with ⟨address, directive⟩
  have clear := leads.clear_of_address sound.waiting outside address
  rcases Text.drop_of_addressAt address with ⟨c, rest, starts, alphanumeric⟩
  rw [starts] at ahead
  subst ahead
  have isAddress := (leads.isAddress_iff starts).mpr address
  rw [starts] at directive
  have goes : g.isLeading ('@'.toUInt8 :: c :: rest) = true :=
    Grammar.isLeading_cons.mpr (Or.inr ⟨rfl, Or.inr directive⟩)
  have looks : m.look g '@'.toUInt8 (c :: rest) = { m with pending := ['@'.toUInt8] } := by
    unfold look closesBlock
    dsimp only
    rw [if_neg (by simp [goes]), if_neg (by simp [outside]), if_neg (by simp [isAddress]),
      if_neg (by decide), literal, outside, clear]
  have ends : g.isLeading (c :: rest) = false := by
    apply Bool.eq_false_iff.mpr
    intro goesOn
    rcases Grammar.isLeading_cons.mp goesOn with blank | ⟨rfl, -⟩
    · rw [Scan.isAlphanumeric_of_isSpace blank] at alphanumeric
      cases alphanumeric
    · cases alphanumeric
  have stops : run g m ('@'.toUInt8 :: c :: rest) =
      { m with pending := ['@'.toUInt8], offset := m.offset + 1, previous? := some '@'.toUInt8
               stopped := true } := by
    rw [run_idle idle, looks, if_neg (Bool.eq_false_iff.mp sound.running)]
    exact run_ending (m := advance { m with pending := _ } _) leading idle outside ends
  rw [stops]
  rcases leads.last_of_address sound idle outside address with ⟨n, before, same, stop, lacks⟩
  refine ⟨outside, rfl, fun n member => (leads.root n member).leading, n, before, same, lacks, ?_, ?_⟩
  · rw [stop]
  · rw [stop]
    exact clash

theorem Leads.pass (leads : Leads g content m) (clear : m.pending = []) {skip : Nat}
    (passed : m.skip = skip + 1) {b : UInt8} (byte : content[m.offset]? = some b) :
    Leads g content ({ m with skip }.advance b) := by
  refine ⟨leads.led.of_eq rfl rfl, nofun, ?_, fun _ => ?_, leads.root, ?_⟩
  · intro k place
    rw [← Nat.succ.inj place]
    exact byte.symm
  · change m.pending.all _ = true
    rw [clear]
    rfl
  · intro n member
    rcases leads.passed n member with clear | ⟨outside, reaches⟩
    · exact Or.inl clear
    · refine Or.inr ⟨outside, reaches.trans ?_⟩
      change m.offset + m.skip = m.offset + 1 + skip
      omega

/-- A run of a parser of leading directives ends with a clash, or all that it has read leads. -/
theorem run_leads (leading : g.leadingOnly = true) (named : ∀ d ∈ g.directives, d.keyword ≠ [])
    (t : Text) :
    ∀ m : Machine, Leads g content m → Sound g content m → content.drop m.offset = t →
      m.skip ≤ t.length →
      Leads g content (run g m t) ∧ (run g m t).skip = 0
          ∧ g.clashesAt content (run g m t).offset = false
        ∨ Clashed g content (run g m t) := by
  induction t with
  | nil =>
    intro m leads _ ahead passing
    refine Or.inl ⟨leads, Nat.le_zero.mp passing, ?_⟩
    have ended : content.addressAt m.offset = false :=
      Text.addressAt_length content (List.drop_eq_nil_iff.mp ahead)
    change g.clashesAt content m.offset = false
    rw [Grammar.clashesAt, ended, Bool.false_and]
  | cons b rest ih =>
    intro m leads sound ahead passing
    have byte : content[m.offset]? = some b := by
      have front := congrArg List.head? ahead
      rwa [List.head?_drop] at front
    have behind : content.drop (m.offset + 1) = rest := by
      rw [← List.drop_drop, ahead, List.drop_one, List.tail_cons]
    cases passed : m.skip with
    | succ skip =>
      rcases sound.pass passed b with ⟨clear, soundNext⟩
      rw [run, passed]
      rw [List.length_cons] at passing
      exact ih _ (leads.pass clear passed byte) soundNext behind (by change skip ≤ _; omega)
    | zero =>
      by_cases clash : m.frames = [] ∧ g.clashesAt content m.offset = true
      · exact Or.inr (run_clash leading leads sound passed clash.1 ahead clash.2)
      have free : m.frames = [] → g.clashesAt content m.offset = false :=
        fun outside => Bool.eq_false_iff.mpr fun clashes => clash ⟨outside, clashes⟩
      rw [run_idle passed]
      rcases look_sound sound passed ahead with ⟨-, outside, stops⟩ | ⟨soundNext, place, room⟩
      · rw [stops, if_pos rfl]
        refine Or.inl ⟨?_, passed, free outside⟩
        exact ⟨leads.led.of_eq rfl rfl, leads.first, leads.previous, leads.blank, leads.root,
          leads.passed⟩
      · have running : (m.look g b rest).stopped = false := soundNext.running
        rw [running, if_neg Bool.false_ne_true]
        rw [List.length_cons] at room
        apply ih _ (look_leads leading named leads sound passed ahead free running) soundNext
        · change content.drop ((m.look g b rest).offset + 1) = rest
          rw [place]
          exact behind
        · change (m.look g b rest).skip ≤ _
          omega

/-! ## The end of the file -/

/-- What the end of the file closes outside of all frames are directives that reach to it. -/
theorem abandonMany_root {P : Node → Prop} (stop : Nat)
    (reaches : ∀ start head body, P (.directive (g.span start stop) head body)) (n : Nat) :
    ∀ {m : Machine}, m.frames.length = n → Led m → (∀ k ∈ m.root, P k) →
      ∀ k ∈ (m.abandonMany g stop n).root, P k := by
  induction n with
  | zero =>
    intro m _ _ holds
    exact holds
  | succ n ih =>
    intro m many led holds
    have ledRest : Led (m.abandon g stop) :=
      (Moves.abandon (p := .inside) .refl stop).keep Led.move led
    cases top : m.frames with
    | nil =>
      rw [top] at many
      cases many
    | cons f rest =>
      have abandoned : m.abandon g stop = { m with frames := rest }.emit (unfinished g stop f) := by
        unfold Machine.abandon
        rw [top]
      rw [top, List.length_cons] at many
      rw [Machine.abandonMany]
      rw [abandoned] at ledRest ⊢
      refine ih ((length_frames_emit _ _).trans (Nat.succ.inj many)) ledRest ?_
      by_cases alone : rest = []
      · subst alone
        cases f with
        | element tag body => exact absurd (by rw [top]; rfl) (led.frames tag body)
        | block start head brace braces body =>
          exact List.forall_mem_cons.mpr ⟨reaches _ _ _, holds⟩
      · have inner : Inner m.root { m with frames := rest } := ⟨rfl, alone⟩
        rw [(inner.emit _).same]
        exact holds

theorem Leads.finish (leads : Leads g content m) (finished : Finished g content m)
    (idle : m.skip = 0) (free : g.clashesAt content m.offset = false) :
    ∀ n ∈ (m.finish g).root, n.Leads content ∧ n.Clear g content := by
  unfold Machine.finish
  dsimp only
  by_cases outside : m.frames = []
  · rcases leads.flush finished.waiting idle outside free with ⟨flushed, old⟩
    rw [flushed]
    exact old
  · have ended : m.offset = content.length := by
      rcases finished.reached with reached | ⟨-, none⟩
      · exact reached
      · exact absurd none outside
    have ledFlushed : Led (m.flush g.file) := (flush_moves .inside m g.file).keep Led.move leads.led
    apply abandonMany_root (P := fun n => n.Leads content ∧ n.Clear g content) _ _ _ rfl ledFlushed
    · rw [(Inner.flush ⟨rfl, outside⟩ g.file).same]
      intro n member
      refine ⟨leads.root n member, ?_⟩
      rcases leads.passed n member with clear | ⟨none, -⟩
      · exact clear
      · exact absurd none outside
    · intro start head body
      have reached : (m.flush g.file).offset = content.length :=
        (flush_moves {} m g.file).offset.trans ended
      have apart : content.addressAt (m.flush g.file).offset = false :=
        Text.addressAt_length content (Nat.le_of_eq reached.symm)
      refine ⟨⟨rfl, fun address => ?_⟩, Node.clear_of_apart apart⟩
      rw [show (Node.directive (g.span start (m.flush g.file).offset) head body).span.stop =
        (m.flush g.file).offset from rfl, apart] at address
      cases address

theorem Clashed.finish (clashed : Clashed g content m) :
    (m.finish g).root = .text (g.span (m.offset - 1) m.offset) "@" :: m.root := by
  have flushed : m.flush g.file = { m with
      pending := [], root := .text (g.span (m.offset - 1) m.offset) "@" :: m.root } := by
    unfold flush emit
    rw [clashed.pending, clashed.outside]
    rfl
  unfold Machine.finish
  dsimp only
  rw [flushed, clashed.outside]
  rfl

end Machine

/-! ## Trees -/

/-- What a parser of leading directives reads outside of blocks are directives, comments and white
space, unless the at sign of a directive stands right behind a directive with a letter or a digit on
either side.  Then that at sign is read as text and is the last node, and the directive before it
lacks its block. -/
theorem parse_leading_nodes (file : SourceFile) (options : ParserOptions)
    (named : ∀ d ∈ options.directives, d.keyword ≠ []) :
    let g := Grammar.ofOptions file.id options
    let body := (parse file { options with leadingDirectivesOnly := true }).body
    ((∀ n ∈ body, n.isLeading = true)
        ↔ ∀ n ∈ body, n.isDirective = true → g.clashesAt file.content n.span.stop = false)
      ∧ ∀ n ∈ body, n.isLeading = false → ∃ before last,
          body = before ++ [last, n] ∧ n = .text (g.span last.span.stop (last.span.stop + 1)) "@"
          ∧ (∀ k ∈ before ++ [last], k.isLeading = true) ∧ last.lacksBlock = true
          ∧ g.clashesAt file.content last.span.stop = true := by
  intro g body
  let h := g.reads true
  have named' : ∀ d ∈ h.directives, d.keyword ≠ [] :=
    fun d member => named d (List.mem_reverse.mp member)
  have sound := Machine.sound_start h file.content
  have finished := Machine.run_finished file.content {} sound rfl (Nat.zero_le _) (Nat.zero_le _)
  have start : Machine.Leads h file.content {} := by
    refine ⟨?_, fun _ => rfl, nofun, fun _ => rfl, nofun, nofun⟩
    exact ⟨fun n member => absurd member List.not_mem_nil, fun _ _ none => by cases none⟩
  have read : body = ((Machine.run h {} file.content).finish h).root.reverse := rfl
  rcases Machine.run_leads (g := h) rfl named' file.content {} start sound rfl (Nat.zero_le _) with
    ⟨leads, idle, free⟩ | clashed
  · have all : ∀ n ∈ body, n.Leads file.content ∧ n.Clear h file.content := by
      rw [read]
      intro n member
      exact leads.finish finished idle free n (List.mem_reverse.mp member)
    refine ⟨⟨fun _ n member => (all n member).2, fun _ n member => (all n member).1.leading⟩, ?_⟩
    intro n member other
    rw [(all n member).1.leading] at other
    cases other
  · rcases clashed.last with ⟨last, rest, same, lacks, place, clash⟩
    have parts : body = rest.reverse
        ++ [last, .text (g.span last.span.stop (last.span.stop + 1)) "@"] := by
      rw [read, clashed.finish, same, place, List.reverse_cons, List.reverse_cons]
      simp only [List.append_assoc, List.cons_append, List.nil_append, Nat.add_sub_cancel]
      rfl
    have before : ∀ k ∈ rest.reverse ++ [last], k.isLeading = true := by
      intro k member
      apply clashed.leading
      rw [same, ← List.mem_reverse, List.reverse_cons]
      exact member
    have isLast : ∀ n ∈ body, n.isLeading = false →
        n = .text (g.span last.span.stop (last.span.stop + 1)) "@" := by
      intro n member other
      rw [parts, List.append_cons] at member
      rcases List.mem_append.mp member with leading | only
      · rw [before n leading] at other
        cases other
      · exact List.mem_singleton.mp only
    refine ⟨⟨fun leading => ?_, fun clear => ?_⟩, ?_⟩
    · have text := leading (.text (g.span last.span.stop (last.span.stop + 1)) "@")
        (by rw [parts]; simp)
      cases text
    · have none := clear last (by rw [parts]; simp) (Node.isDirective_of_lacksBlock lacks)
      exact absurd clash (Bool.eq_false_iff.mp none)
    · intro n member other
      cases isLast n member other
      exact ⟨rest.reverse, last, parts, rfl, before, lacks, clash⟩

/-- A section that lacks its block and ends with a letter hides the directive right behind it.  With a
space between the two, the second one is read. -/
theorem parse_leading_nodes_behind_letter :
    let options : ParserOptions := { directives := [.sectionBlock, .page] }
    let body (content : Text) := (parse (.ofContent 0 "page.quill" content .none)
      { options with leadingDirectivesOnly := true }).body
    (∀ d ∈ options.directives, d.keyword ≠ [])
      ∧ (¬ ∀ n ∈ body "@section A@page", n.isLeading = true)
      ∧ ∀ n ∈ body "@section A @page", n.isLeading = true := by
  intro options body
  have named : ∀ d ∈ options.directives, d.keyword ≠ [] := by decide
  have told (content : Text) :=
    (parse_leading_nodes (.ofContent 0 "page.quill" content .none) options named).1
  refine ⟨named, fun leading => ?_, (told _).mpr (by decide +kernel)⟩
  exact absurd ((told _).mp leading) (by decide +kernel)

end Syntax

end TemplateCompiler
