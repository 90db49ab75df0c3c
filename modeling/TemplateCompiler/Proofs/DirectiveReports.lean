import TemplateCompiler.Proofs.Faithful

/-!
# What the parser says about directives

Some findings of the parser belong to the file, the others to one directive.  The latter are
errors of a few kinds: a directive stands at a wrong place, lacks a token or has one of the wrong
shape, goes on behind its end, or has no block or no end of it.  So a directive with a finding is
malformed.  Directives are made from definitions that are registered.

The invariant holds of every node that the machine has gathered, on its stack or outside.
-/

namespace TemplateCompiler

/-- The kinds of findings about one directive, which belong to its node and not to the tree. -/
def DiagnosticCode.ofDirective : List DiagnosticCode :=
  [missingToken, trailingContent, unterminatedBlock, missingBlock, notTopLevel, invalidToken,
    unterminatedString]

/-- A finding is an error about one directive. -/
structure Diagnostic.AboutDirective (x : Diagnostic) : Prop where
  error : x.isError = true
  code : x.code ∈ DiagnosticCode.ofDirective

theorem Diagnostic.aboutDirective_error {code : DiagnosticCode}
    (known : code ∈ DiagnosticCode.ofDirective) (span : Span) (message : Text) :
    (Diagnostic.error code span message).AboutDirective := ⟨rfl, known⟩

namespace Syntax

/-- A directive is made from a registered definition and has findings about itself only. -/
structure DirectiveHead.Reported (directives : List DirectiveDescriptor) (head : DirectiveHead) :
    Prop where
  registered : head.descriptor ∈ directives
  findings : ∀ x ∈ head.diagnostics, x.AboutDirective

/-- A directive that is not malformed has no findings. -/
theorem DirectiveHead.Reported.diagnostics_eq_nil {directives : List DirectiveDescriptor}
    {head : DirectiveHead} (reported : head.Reported directives)
    (wellFormed : head.isMalformed = false) : head.diagnostics = [] := by
  cases found : head.diagnostics with
  | nil => rfl
  | cons x rest =>
    have first := reported.findings x (found ▸ List.mem_cons_self)
    have none := List.any_eq_false.mp wellFormed x (found ▸ List.mem_cons_self)
    exact absurd first.error none

namespace Node

/-- What a node that is a directive satisfies: its findings are errors about it, and it is one of
the directives that the parser was given. -/
def Reported (directives : List DirectiveDescriptor) : Node → Prop
  | .directive _ head _ => head.Reported directives
  | _ => True

/-- All of some nodes satisfy it, with everything inside them. -/
def AllReported (directives : List DirectiveDescriptor) (ns : List Node) : Prop :=
  ∀ n ∈ ns, n.Every (Reported directives)

variable {directives : List DirectiveDescriptor}

theorem AllReported.nil : AllReported directives [] :=
  fun _ member => absurd member List.not_mem_nil

theorem AllReported.head {n : Node} {ns : List Node} (reported : AllReported directives (n :: ns)) :
    n.Every (Reported directives) := reported n List.mem_cons_self

theorem AllReported.tail {n : Node} {ns : List Node} (reported : AllReported directives (n :: ns)) :
    AllReported directives ns := fun m member => reported m (List.mem_cons_of_mem n member)

theorem AllReported.cons {n : Node} {ns : List Node} (first : n.Every (Reported directives))
    (rest : AllReported directives ns) : AllReported directives (n :: ns) := by
  intro m member
  rcases List.mem_cons.mp member with rfl | behind
  · exact first
  · exact rest m behind

theorem AllReported.reverse {ns : List Node} (reported : AllReported directives ns) :
    AllReported directives ns.reverse :=
  fun n member => reported n (List.mem_reverse.mp member)

end Node

/-! ## Reading directives -/

theorem TokenScan.code_of_token {slot : DirectiveTokenKind} {kind : DirectiveKind} {t : Text}
    {fault : TokenScan.Fault} (refused : TokenScan.token slot kind t = .error fault) :
    fault.code = .invalidToken ∨ fault.code = .unterminatedString := by
  have invalid : ∀ n, TokenScan.invalid n = .error fault → fault.code = .invalidToken := by
    intro n same
    cases same
    rfl
  have nonEmpty : ∀ n, TokenScan.nonEmpty n = .error fault → fault.code = .invalidToken := by
    intro n same
    unfold TokenScan.nonEmpty at same
    split at same
    · exact invalid 0 same
    · cases same
  have string : TokenScan.string kind t = .error fault →
      fault.code = .invalidToken ∨ fault.code = .unterminatedString := by
    intro same
    unfold TokenScan.string at same
    split at same
    · dsimp only at same
      split at same
      · cases same
        exact .inr rfl
      · cases same
    · exact .inl (nonEmpty _ same)
  unfold TokenScan.token at refused
  split at refused
  · exact .inl (nonEmpty _ refused)
  · exact .inl (nonEmpty _ refused)
  · exact .inl (nonEmpty _ refused)
  · exact string refused
  · split at refused
    · exact .inl (invalid _ refused)
    · split at refused
      · cases refused
      · exact .inl (invalid _ refused)
  · dsimp only at refused
    split at refused
    · cases refused
    · exact .inl (invalid _ refused)
  · dsimp only at refused
    split at refused
    · cases refused
    · exact .inl (invalid _ refused)
  · split at refused
    · split at refused
      · cases refused
      · exact .inl (invalid _ refused)
    · exact .inl (nonEmpty _ refused)

namespace Reading

theorem tokens_reported (r : Reading) (d : DirectiveDescriptor) {slots : List DirectiveSlot} :
    ∀ {offset : Nat} {t : Text},
      ∀ x ∈ (r.tokens d slots offset t).diagnostics, x.AboutDirective := by
  induction slots with
  | nil =>
    intro offset t x member
    cases member
  | cons slot slots ih =>
    intro offset t x member
    unfold tokens at member
    dsimp only at member
    split at member
    · split at member
      · cases member
      · cases List.mem_singleton.mp member
        exact Diagnostic.aboutDirective_error (by decide) _ _
    · split at member
      · next fault refused =>
        cases List.mem_singleton.mp member
        refine Diagnostic.aboutDirective_error ?_ _ _
        rcases TokenScan.code_of_token refused with code | code
        · rw [code]
          decide
        · rw [code]
          decide
      · exact ih x member

theorem lineEnding_reported (r : Reading) (keyword : Text) (offset : Nat) (t : Text) :
    ∀ x ∈ (r.lineEnding keyword offset t).2, x.AboutDirective := by
  have single : ∀ (condition : Bool) (d : Diagnostic), d.AboutDirective →
      ∀ x ∈ (if condition then [] else [d]), x.AboutDirective := by
    intro condition d about x member
    cases condition
    · cases List.mem_singleton.mp member
      exact about
    · cases member
  exact single _ _ (Diagnostic.aboutDirective_error (by decide) _ _)

theorem directiveBody_reported {r : Reading} {d : DirectiveDescriptor} {offset n : Nat}
    {t code : Text} {found : List Diagnostic}
    (done : r.directiveBody d offset t = .done n code found) :
    ∀ x ∈ found, x.AboutDirective := by
  intro x member
  unfold directiveBody at done
  split at done
  · dsimp only at done
    cases done
    exact lineEnding_reported r d.keyword offset t x member
  · dsimp only at done
    split at done
    · cases done
      cases List.mem_singleton.mp member
      exact Diagnostic.aboutDirective_error (by decide) _ _
    split at done
    · cases done
    split at done
    · cases done
      cases member
    · cases done
      cases List.mem_singleton.mp member
      exact Diagnostic.aboutDirective_error (by decide) _ _

end Reading

/-! ## The machine -/

/-- The nodes in a frame, and the directive it belongs to. -/
def Frame.Reported (directives : List DirectiveDescriptor) : Frame → Prop
  | .element _ body => Node.AllReported directives body
  | .block _ head _ _ body => head.Reported directives ∧ Node.AllReported directives body

namespace Machine

/-- All nodes that the machine has gathered are as they have to be, those of open constructs
included. -/
structure Reported (directives : List DirectiveDescriptor) (m : Machine) : Prop where
  root : Node.AllReported directives m.root
  frames : ∀ f ∈ m.frames, f.Reported directives

variable {directives : List DirectiveDescriptor} {m : Machine} {g : Grammar}

theorem Reported.of_frames {f : Frame} {rest : List Frame} (reported : m.Reported directives)
    (same : m.frames = f :: rest) :
    f.Reported directives ∧ Reported directives { m with frames := rest } := by
  have all := reported.frames
  rw [same] at all
  exact ⟨all f List.mem_cons_self, reported.root, fun k member => all k (.tail f member)⟩

theorem Reported.push {f : Frame} {rest : List Frame}
    (reported : Reported directives { m with frames := rest }) (frame : f.Reported directives) :
    Reported directives { m with frames := f :: rest } := by
  refine ⟨reported.root, ?_⟩
  intro k member
  rcases List.mem_cons.mp member with rfl | behind
  · exact frame
  · exact reported.frames k behind

theorem Reported.emit {n : Node} (reported : m.Reported directives)
    (every : n.Every (Node.Reported directives)) : (m.emit n).Reported directives := by
  unfold Machine.emit
  split
  · exact ⟨.cons every reported.root, reported.frames⟩
  · next tag body rest same =>
    rcases reported.of_frames same with ⟨gathered, others⟩
    exact others.push (.cons every gathered)
  · next start head brace braces body rest same =>
    rcases reported.of_frames same with ⟨⟨directive, gathered⟩, others⟩
    exact others.push ⟨directive, .cons every gathered⟩

/-- A node that is no directive and has no body. -/
theorem Reported.emit_leaf {n : Node} (reported : m.Reported directives)
    (self : n.Reported directives) (leaf : n.body = []) : (m.emit n).Reported directives :=
  reported.emit (Node.every_leaf self leaf)

theorem Reported.take (reported : m.Reported directives) (n : Nat) :
    (m.take n).Reported directives := ⟨reported.root, reported.frames⟩

theorem Reported.report (reported : m.Reported directives) (found : List Diagnostic) :
    (m.report found).Reported directives := ⟨reported.root, reported.frames⟩

theorem Reported.flush (reported : m.Reported directives) (file : Nat) :
    (m.flush file).Reported directives := by
  unfold Machine.flush
  split
  · exact reported
  · refine Reported.emit_leaf ?_ trivial rfl
    exact ⟨reported.root, reported.frames⟩

theorem Reported.literal (reported : m.Reported directives) (b : UInt8) :
    (m.literal b).Reported directives := by
  unfold Machine.literal
  cases same : m.frames with
  | nil => exact ⟨reported.root, fun f member => absurd member List.not_mem_nil⟩
  | cons f rest =>
    rcases reported.of_frames same with ⟨frame, others⟩
    cases f with
    | element tag body => exact ⟨reported.root, (others.push frame).frames⟩
    | block start head brace braces body =>
      refine ⟨reported.root, fun f member => ?_⟩
      rcases List.mem_cons.mp member with rfl | behind
      · exact frame
      · exact others.frames f behind

theorem unfinished_reported {f : Frame} (frame : f.Reported directives) (stop : Nat) :
    (unfinished g stop f).Every (Node.Reported directives) := by
  cases f with
  | element tag body => exact .intro _ trivial frame.reverse
  | block start head brace braces body =>
    refine .intro _ ⟨frame.1.registered, ?_⟩ frame.2.reverse
    intro x member
    rcases List.mem_append.mp member with before | last
    · exact frame.1.findings x before
    · cases List.mem_singleton.mp last
      exact Diagnostic.aboutDirective_error (by decide) _ _

theorem Reported.abandon (reported : m.Reported directives) (stop : Nat) :
    (m.abandon g stop).Reported directives := by
  unfold Machine.abandon
  split
  · exact reported
  · next f rest same =>
    rcases reported.of_frames same with ⟨frame, others⟩
    exact others.emit (unfinished_reported frame stop)

theorem Reported.abandonMany (stop n : Nat) :
    ∀ {m : Machine}, m.Reported directives → (m.abandonMany g stop n).Reported directives := by
  induction n with
  | zero =>
    intro m reported
    exact reported
  | succ n ih =>
    intro m reported
    exact ih (reported.abandon stop)

theorem Reported.enclosed (reported : m.Reported directives) {t : Text} {closing? : Option Nat}
    {node : Span → Text → Node} {unclosed : Diagnostic}
    (self : ∀ span text, (node span text).Reported directives)
    (leaf : ∀ span text, (node span text).body = []) :
    (m.enclosed g t closing? node unclosed).Reported directives := by
  unfold Machine.enclosed
  split
  · exact (reported.emit_leaf (self _ _) (leaf _ _)).take _
  · exact ((reported.report _).emit_leaf (self _ _) (leaf _ _)).take _

theorem Reported.comment (reported : m.Reported directives) (t : Text) :
    (m.comment g t).Reported directives := by
  unfold Machine.comment
  split
  · refine Reported.take ?_ _
    exact reported.emit_leaf trivial rfl
  · refine Reported.take ?_ _
    exact (reported.report _).emit_leaf trivial rfl

theorem Reported.markupComment (reported : m.Reported directives) (t : Text) :
    (m.markupComment g t).Reported directives := by
  unfold Machine.markupComment
  split
  · refine Reported.take ?_ _
    exact reported.emit_leaf trivial rfl
  · refine Reported.take ?_ _
    exact (reported.report _).emit_leaf trivial rfl

theorem Reported.statement (reported : m.Reported directives) (t : Text) (n : Nat) :
    (m.statement g t n).Reported directives := by
  unfold Machine.statement
  dsimp only
  rcases Scan.statement ((t.drop 1).take n) (t.drop (1 + n)) with ⟨k, closed⟩
  refine Reported.take (Reported.emit_leaf ?_ ?_ ?_) _
  · cases closed with
    | true => exact reported
    | false => exact reported.report _
  · trivial
  · rfl

theorem Reported.noteOccurrence (reported : m.Reported directives) (d : DirectiveDescriptor)
    (keyword : Span) : (m.noteOccurrence d keyword).Reported directives := by
  unfold Machine.noteOccurrence
  split
  · exact reported
  · split
    · exact reported.report _
    · exact ⟨reported.root, reported.frames⟩

theorem misplaced_reported (d : DirectiveDescriptor) (nested : Bool) (keyword : Span) :
    ∀ x ∈ misplaced d nested keyword, x.AboutDirective := by
  intro x member
  unfold misplaced at member
  split at member
  · cases List.mem_singleton.mp member
    exact Diagnostic.aboutDirective_error (by decide) _ _
  · cases member

theorem Reported.directive (reported : m.Reported directives) (t : Text)
    {d : DirectiveDescriptor} (registered : d ∈ directives) :
    (m.directive g t d).Reported directives := by
  have noted := reported.noteOccurrence d (g.span m.offset (m.offset + (1 + d.keyword.length)))
  have before : ∀ x ∈ misplaced d (!m.frames.isEmpty)
      (g.span m.offset (m.offset + (1 + d.keyword.length)))
        ++ (g.tokens d d.slots (m.offset + (1 + d.keyword.length))
          (t.drop (1 + d.keyword.length))).diagnostics, x.AboutDirective := by
    intro x member
    rcases List.mem_append.mp member with first | second
    · exact misplaced_reported _ _ _ x first
    · exact Reading.tokens_reported _ _ x second
  unfold Machine.directive
  dsimp only
  split
  · refine Reported.take ?_ _
    exact noted.emit (.intro _ ⟨registered, before⟩ Node.AllReported.nil)
  · split
    · next n code found done =>
      refine Reported.take (Reported.emit noted ?_) _
      refine .intro _ ⟨registered, ?_⟩ Node.AllReported.nil
      intro x member
      rcases List.mem_append.mp member with first | second
      · exact before x first
      · exact Reading.directiveBody_reported done x second
    · refine Reported.take ?_ _
      refine Reported.push ⟨noted.root, noted.frames⟩ ?_
      exact ⟨⟨registered, before⟩, Node.AllReported.nil⟩

theorem registered_of_directive? {t : Text} {d : DirectiveDescriptor}
    (found : g.directive? t = some d) : d ∈ g.directives := by
  unfold Grammar.directive? at found
  dsimp only at found
  split at found
  · cases found
  · next e known =>
    split at found
    · cases found
    · cases found
      exact List.mem_of_find?_eq_some known

theorem Reported.transition (reported : m.Reported g.directives) (t : Text) :
    (m.transition g t).Reported g.directives := by
  unfold Machine.transition
  dsimp only
  split
  · refine Reported.take ?_ _
    exact reported.emit_leaf trivial rfl
  split
  · exact reported.comment t
  split
  · exact reported.enclosed (fun _ _ => trivial) fun _ _ => rfl
  split
  · exact reported.enclosed (fun _ _ => trivial) fun _ _ => rfl
  split
  · split
    · next d found => exact reported.directive t (registered_of_directive? found)
    · split
      · exact reported.statement t _
      · refine Reported.take ?_ _
        exact reported.emit_leaf trivial rfl
  · refine Reported.take ?_ _
    exact (reported.report _).emit_leaf trivial rfl

theorem Reported.endTag (reported : m.Reported directives) (t : Text) :
    (m.endTag g t).Reported directives := by
  unfold Machine.endTag
  dsimp only
  split
  · next depth _ =>
    have closed := reported.abandonMany (g := g) m.offset depth
    split
    · next tag body rest same =>
      rcases closed.of_frames same with ⟨gathered, others⟩
      refine Reported.take (others.emit ?_) _
      exact .intro _ trivial gathered.reverse
    · exact closed.take _
  · refine Reported.take ?_ _
    exact (reported.report _).emit_leaf trivial rfl

theorem Reported.startTag (reported : m.Reported directives) (t : Text) :
    (m.startTag g t).Reported directives := by
  unfold Machine.startTag
  dsimp only
  split
  · refine Reported.take (Reported.push (reported.report _) ?_) _
    exact Node.AllReported.nil
  · refine Reported.take ?_ _
    exact (reported.report _).emit_leaf trivial rfl

theorem Reported.closeBlock (reported : m.Reported directives) :
    (m.closeBlock g).Reported directives := by
  unfold Machine.closeBlock
  split
  · next start head brace braces body rest same =>
    rcases reported.of_frames same with ⟨frame, others⟩
    refine Reported.take (others.emit ?_) _
    exact .intro _ frame.1 frame.2.reverse
  · exact reported

/-- What one look at a byte keeps. -/
theorem Reported.look (reported : m.Reported g.directives) (b : UInt8) (rest : Text) :
    (m.look g b rest).Reported g.directives := by
  have flushed := reported.flush g.file
  unfold Machine.look
  dsimp only
  split
  · exact ⟨reported.root, reported.frames⟩
  split
  · exact flushed.closeBlock
  split
  · exact flushed.transition _
  split
  · split
    · exact flushed.markupComment _
    split
    · exact flushed.endTag _
    split
    · exact flushed.startTag _
    · exact reported.literal b
  · exact reported.literal b

theorem Reported.run (t : Text) :
    ∀ {m : Machine}, m.Reported g.directives → (Machine.run g m t).Reported g.directives := by
  induction t with
  | nil =>
    intro m reported
    exact reported
  | cons b rest ih =>
    intro m reported
    unfold Machine.run
    split
    · exact ih ⟨reported.root, reported.frames⟩
    · have looked := reported.look b rest
      dsimp only
      split
      · exact looked
      · exact ih ⟨looked.root, looked.frames⟩

theorem Reported.finish (reported : m.Reported directives) :
    (m.finish g).Reported directives :=
  Reported.abandonMany _ _ (reported.flush g.file)

end Machine

/-- Every directive of a parsed tree is made from one of the parser's definitions, and has findings
about itself only. -/
theorem parse_reported (source : SourceFile) (options : ParserOptions) :
    Node.AllReported options.directives (parse source options).body := by
  have start : Machine.Reported (Grammar.ofOptions source.id options).directives {} :=
    ⟨Node.AllReported.nil, fun f member => absurd member List.not_mem_nil⟩
  have finished := (Machine.Reported.run source.content start).finish
    (g := Grammar.ofOptions source.id options)
  intro n member
  refine (finished.root.reverse n member).imp ?_
  intro k reported
  cases k with
  | directive span head body =>
    exact ⟨List.mem_reverse.mp reported.registered, reported.findings⟩
  | _ => trivial

mutual

theorem Node.directives_reported {registered : List DirectiveDescriptor} :
    ∀ {n : Node}, n.Every (Node.Reported registered) →
      ∀ head ∈ n.directives, head.Reported registered
  | .directive span head body, every, other, member => by
    rcases List.mem_cons.mp member with rfl | below
    · exact every.self
    · exact Node.directivesAll_reported every.inside other below
  | .element .., every, other, member => Node.directivesAll_reported every.inside other member
  | .helper .., every, other, member => Node.directivesAll_reported every.inside other member
  | .text .., _, _, member => absurd member List.not_mem_nil
  | .transition _, _, _, member => absurd member List.not_mem_nil
  | .markupComment .., _, _, member => absurd member List.not_mem_nil
  | .comment .., _, _, member => absurd member List.not_mem_nil
  | .expression .., _, _, member => absurd member List.not_mem_nil
  | .codeBlock .., _, _, member => absurd member List.not_mem_nil

theorem Node.directivesAll_reported {registered : List DirectiveDescriptor} :
    ∀ {ns : List Node}, Node.AllReported registered ns →
      ∀ head ∈ Node.directivesAll ns, head.Reported registered
  | [], _, _, member => absurd member List.not_mem_nil
  | _ :: _, reported, head, member => by
    rcases List.mem_append.mp member with here | there
    · exact Node.directives_reported reported.head head here
    · exact Node.directivesAll_reported reported.tail head there

end

/-- What was found about the directives of a tree. -/
theorem findings_about {registered : List DirectiveDescriptor} {tree : Tree}
    (reported : Node.AllReported registered tree.body) {x : Diagnostic}
    (member : x ∈ tree.directives.flatMap DirectiveHead.diagnostics) : x.AboutDirective := by
  rcases List.mem_flatMap.mp member with ⟨head, among, here⟩
  exact (Node.directivesAll_reported reported head among).findings x here

end Syntax

end TemplateCompiler
