import TemplateCompiler.Proofs.ParserMoves

/-!
# Leading directives

A parser that reads only leading directives stops at the first byte outside all frames that is
neither white space nor the start of a comment or a directive.  Up to there it takes the steps of a
parser that reads everything, so the two are compared by a simulation: either both runs are the
same, or the first one stops in a state that the second one passes through.

From that state on the second parser only adds to what it has.  In the state itself no frame is
open, and no element was ever met outside a directive's block, because an angle bracket outside all
frames stops the first parser.
-/

namespace TemplateCompiler

namespace Syntax

namespace Node

def isDirective : Node → Bool
  | .directive .. => true
  | _ => false

mutual

/-- The directives of a tree that are not inside the block of another one. -/
def outerDirectives : Node → List Node
  | n@(.directive ..) => [n]
  | .element _ _ _ body | .helper _ _ body => outerDirectivesAll body
  | _ => []

/-- The directives of a list of trees that are not inside the block of another one. -/
def outerDirectivesAll : List Node → List Node
  | [] => []
  | n :: ns => outerDirectives n ++ outerDirectivesAll ns

end

/-- Where there are no elements, the directives outside of blocks are those of the list itself. -/
theorem outerDirectivesAll_eq_filter {ns : List Node}
    (flat : ∀ n ∈ ns, n.isPlain = true ∨ n.isDirective = true) :
    outerDirectivesAll ns = ns.filter isDirective := by
  induction ns with
  | nil => rfl
  | cons n ns ih =>
    rw [outerDirectivesAll, ih fun k member => flat k (List.mem_cons_of_mem n member)]
    have self := flat n List.mem_cons_self
    cases n with
    | element | helper => simp [isPlain, isDirective] at self
    | directive => simp [outerDirectives, List.filter_cons, isDirective]
    | text | markupComment | transition | expression | codeBlock | comment =>
      simp [outerDirectives, isDirective]

end Node

def Grammar.reads (g : Grammar) (leading : Bool) : Grammar := { g with leadingOnly := leading }

/-- Start tags stand inside of frames only, as they do where reading stops at the first content
outside of directives. -/
def Permits.inside : Permits where
  tag outside _ := outside = false

namespace Machine

variable {p : Permits} {g : Grammar} {m next : Machine}

/-! ## Two parsers in step -/

theorem abandonMany_reads (g : Grammar) (leading : Bool) (stop n : Nat) :
    ∀ m : Machine, m.abandonMany (g.reads leading) stop n = m.abandonMany g stop n := by
  induction n with
  | zero =>
    intro m
    rfl
  | succ n ih =>
    intro m
    exact ih (m.abandon g stop)

theorem endTag_reads (m : Machine) (g : Grammar) (leading : Bool) (t : Text) :
    m.endTag (g.reads leading) t = m.endTag g t := by
  unfold endTag
  simp only [abandonMany_reads]
  rfl

theorem finish_reads (m : Machine) (g : Grammar) (leading : Bool) :
    m.finish (g.reads leading) = m.finish g := abandonMany_reads g leading _ _ _

/-- Where the first parser does not stop, both look at a byte alike. -/
theorem look_reads {b : UInt8} {rest : Text}
    (going : endsLeading (g.reads true) m (b :: rest) = false) :
    m.look (g.reads true) b rest = m.look (g.reads false) b rest := by
  have stops : ¬ ((g.reads true).leadingOnly && m.frames.isEmpty
      && !(g.reads true).isLeading (b :: rest)) = true := Bool.eq_false_iff.mp going
  have never : ¬ ((g.reads false).leadingOnly && m.frames.isEmpty
      && !(g.reads false).isLeading (b :: rest)) = true := by
    change ¬ (false && _ && _) = true
    simp
  unfold look
  dsimp only
  rw [if_neg stops, if_neg never, endTag_reads, endTag_reads]
  rfl

/-- Either the runs are the same, or the first parser stops in a state of the second one. -/
theorem run_reads (g : Grammar) (content t : Text) :
    ∀ m : Machine, content.drop m.offset = t →
      run (g.reads true) m t = run (g.reads false) m t
        ∨ ∃ reached : Machine, run (g.reads true) m t = { reached with stopped := true }
          ∧ run (g.reads false) m t = run (g.reads false) reached (content.drop reached.offset)
          ∧ reached.frames = []
          ∧ g.isLeading (content.drop reached.offset) = false := by
  induction t with
  | nil =>
    intro m _
    exact Or.inl rfl
  | cons b rest ih =>
    intro m ahead
    have behind : content.drop (m.offset + 1) = rest := by
      rw [← List.drop_drop, ahead, List.drop_one, List.tail_cons]
    cases passing : m.skip with
    | succ skip =>
      have both (leading : Bool) : run (g.reads leading) m (b :: rest)
          = run (g.reads leading) ({ m with skip }.advance b) rest := by
        rw [run, passing]
      rw [both, both]
      exact ih _ behind
    | zero =>
      by_cases ends : endsLeading (g.reads true) m (b :: rest) = true
      · have outside : m.frames = [] ∧ g.isLeading (b :: rest) = false := by
          unfold endsLeading at ends
          simp only [Bool.and_eq_true, Bool.not_eq_true', List.isEmpty_iff] at ends
          exact ⟨ends.1.2, ends.2⟩
        refine Or.inr ⟨m, ?_, by rw [ahead], outside.1, by rw [ahead]; exact outside.2⟩
        have stops : m.look (g.reads true) b rest = { m with stopped := true } := by
          unfold look
          exact if_pos ends
        unfold run
        split
        · next skip passed => exact absurd (passing.symm.trans passed) (Nat.succ_ne_zero skip).symm
        · dsimp only
          rw [stops, if_pos rfl]
      · have alike := look_reads (Bool.eq_false_iff.mpr ends)
        have place := (look_moves (permitted_any (g.reads false) m (b :: rest))).offset
        rw [run, run, passing]
        dsimp only
        rw [alike]
        split
        · exact Or.inl rfl
        · apply ih
          change content.drop ((m.look (g.reads false) b rest).offset + 1) = rest
          rw [place]
          exact behind

/-! ## Later moves only add -/

/-- A machine has what another one has, and maybe more. -/
structure Extends (m next : Machine) : Prop where
  root : m.root <:+ next.root
  found : m.found <:+ next.found

theorem Extends.refl (m : Machine) : Extends m m := ⟨List.suffix_rfl, List.suffix_rfl⟩

theorem Extends.of_eq (root : next.root = m.root) (found : next.found = m.found) :
    Extends m next := by
  constructor
  · simp [root]
  · simp [found]

theorem Extends.trans {last : Machine} (first : Extends m next) (second : Extends next last) :
    Extends m last :=
  ⟨first.root.trans second.root, first.found.trans second.found⟩

theorem extends_emit (m : Machine) (n : Node) : Extends m (m.emit n) := by
  unfold emit
  split
  · exact ⟨List.suffix_cons n m.root, List.suffix_rfl⟩
  · exact .of_eq rfl rfl
  · exact .of_eq rfl rfl

theorem Move.extends (move : Move p m next) : Extends m next := by
  cases move with
  | pass _ root _ found => exact .of_eq root found
  | brace _ root found => exact .of_eq root found
  | report found => exact ⟨List.suffix_rfl, List.suffix_append _ _⟩
  | openElement | openBlock => exact .of_eq rfl rfl
  | plain | element | directive => exact extends_emit m _
  | closeElement | closeBlock =>
    apply Extends.trans _ (extends_emit _ _)
    exact .of_eq rfl rfl

/-- What a machine has by the end of a run extends what it had at some point of it. -/
theorem extends_finish_run (g : Grammar) (content : Text) (m : Machine) :
    Extends m ((run g m (content.drop m.offset)).finish g) := by
  have ran : Extends m (run g m (content.drop m.offset)) := by
    apply Moves.keep_run content (p := {}) (P := Extends m)
    · intro next last holds root _ found
      exact holds.trans (.of_eq root found)
    · intro next last holds move
      exact holds.trans move.extends
    · intro next b rest _ _
      exact permitted_any g next (b :: rest)
    · exact .refl m
    · rfl
  exact (finish_moves {} _ g).keep (fun holds move => holds.trans move.extends) ran

/-! ## Elements are inside of blocks -/

/-- The outermost frame is the block of a directive, and there is no element outside all frames. -/
structure Led (m : Machine) : Prop where
  root : ∀ n ∈ m.root, n.isPlain = true ∨ n.isDirective = true
  frames : ∀ tag body, m.frames.getLast? ≠ some (.element tag body)

theorem Led.of_eq (led : Led m) (root : next.root = m.root) (frames : next.frames = m.frames) :
    Led next := by
  constructor
  · rw [root]
    exact led.root
  · rw [frames]
    exact led.frames

theorem Led.emit {n : Node} (led : Led m)
    (flat : m.frames = [] → n.isPlain = true ∨ n.isDirective = true) : Led (m.emit n) := by
  rcases led with ⟨root, frames⟩
  unfold Machine.emit
  split
  · next none =>
    refine ⟨?_, frames⟩
    intro k member
    rcases List.mem_cons.mp member with rfl | old
    · exact flat none
    · exact root k old
  · next tag body rest top =>
    refine ⟨root, ?_⟩
    intro other nodes
    cases rest with
    | nil => exact absurd (by rw [top]; rfl) (frames tag body)
    | cons f rest =>
      rw [top] at frames
      exact frames other nodes
  · next start head brace braces body rest top =>
    refine ⟨root, ?_⟩
    intro other nodes
    cases rest with
    | nil => simp
    | cons f rest =>
      rw [top] at frames
      exact frames other nodes

/-- The frames inside the outermost one do not matter. -/
theorem Led.push {f : Frame} (led : Led m) (inside : m.frames ≠ []) :
    Led { m with frames := f :: m.frames } := by
  refine ⟨led.root, ?_⟩
  intro tag body
  rw [List.getLast?_cons_of_ne_nil inside]
  exact led.frames tag body

theorem Led.pop {f : Frame} {rest : List Frame} (led : Led m) (top : m.frames = f :: rest) :
    Led { m with frames := rest } := by
  refine ⟨led.root, ?_⟩
  intro tag body last
  cases rest with
  | nil => cases last
  | cons k rest =>
    apply led.frames tag body
    rw [top]
    exact last

theorem Led.move (led : Led m) (move : Move .inside m next) : Led next := by
  cases move with
  | pass _ root frames => exact led.of_eq root frames
  | @brace _ start _ _ braces _ body rest _ root _ before after =>
    constructor
    · rw [root]
      exact led.root
    · rw [after]
      intro tag nodes last
      cases rest with
      | nil => cases last
      | cons f rest =>
        apply led.frames tag nodes
        rw [before]
        exact last
  | report => exact ⟨led.root, led.frames⟩
  | plain plain => exact led.emit fun _ => Or.inl plain
  | element inside =>
    apply led.emit
    intro none
    rw [none] at inside
    cases inside
  | directive => exact led.emit fun _ => Or.inr rfl
  | openElement inside =>
    apply led.push
    intro none
    rw [none] at inside
    cases inside
  | openBlock =>
    by_cases none : m.frames = []
    · refine ⟨led.root, ?_⟩
      intro tag body
      simp [none]
    · exact led.push none
  | closeElement span endTag? top =>
    apply (led.pop top).emit
    intro none
    have alone : m.frames = [.element _ _] := top.trans (congrArg _ none)
    exact absurd (by rw [alone]; rfl) (led.frames _ _)
  | closeBlock span found top => exact (led.pop top).emit fun _ => Or.inr rfl

/-- An angle bracket outside all frames stops a parser of leading directives. -/
theorem permitted_inside (g : Grammar) (m : Machine) (t : Text) :
    Permitted .inside (g.reads true) m t := by
  constructor
  · intro going angle _
    change m.frames.isEmpty = false
    apply Bool.eq_false_iff.mpr
    intro outside
    cases t with
    | nil => cases angle
    | cons b rest =>
      cases angle
      have content : (g.reads true).isLeading ('<'.toUInt8 :: rest) = false := rfl
      unfold endsLeading at going
      rw [content, outside] at going
      cases going
  · intro d _
    trivial

theorem led_finish_run (g : Grammar) (content : Text) :
    Led ((run (g.reads true) {} content).finish (g.reads true)) := by
  have start : Led {} :=
    ⟨fun n member => absurd member List.not_mem_nil, fun _ _ none => by cases none⟩
  have ran : Led (run (g.reads true) {} content) := by
    apply Moves.keep_run content (p := .inside) (P := Led)
    · intro m next led root frames _
      exact led.of_eq root frames
    · intro m next led move
      exact led.move move
    · intro m b rest _ _
      exact permitted_inside g m (b :: rest)
    · exact start
    · rfl
  exact (finish_moves .inside _ _).keep Led.move ran

/-- Outside all frames only a text can be left to add at the end. -/
theorem finish_of_outside (outside : m.frames = []) :
    (m.finish g).found = m.found
      ∧ (m.finish g).root.filter Node.isDirective = m.root.filter Node.isDirective := by
  have closed : (m.flush g.file).frames = [] := by
    have same := length_frames_flush m g.file
    rw [outside] at same
    exact List.length_eq_zero_iff.mp same
  unfold finish
  dsimp only
  rw [closed]
  change (m.flush g.file).found = m.found ∧ (m.flush g.file).root.filter _ = m.root.filter _
  unfold flush
  split
  · exact ⟨rfl, rfl⟩
  · unfold emit
    rw [outside]
    exact ⟨rfl, rfl⟩

/-- Either both parsers end with the same, or the first one has the first part of what the second
one has, and stands before a content. -/
theorem finish_run_reads (g : Grammar) (content : Text) :
    (run (g.reads true) {} content).finish g = (run (g.reads false) {} content).finish g
      ∨ ((run (g.reads true) {} content).finish g).root.filter Node.isDirective
          <:+ ((run (g.reads false) {} content).finish g).root.filter Node.isDirective
        ∧ ((run (g.reads true) {} content).finish g).found
          <:+ ((run (g.reads false) {} content).finish g).found
        ∧ g.isLeading (content.drop (run (g.reads true) {} content).offset) = false := by
  rcases run_reads g content content {} rfl with same | ⟨reached, stops, goesOn, outside, ahead⟩
  · exact Or.inl (congrArg (finish · g) same)
  · have more := extends_finish_run (g.reads false) content reached
    rw [finish_reads] at more
    have stopped : ({ reached with stopped := true } : Machine).frames = [] := outside
    rcases finish_of_outside (g := g) stopped with ⟨found, root⟩
    rw [stops, goesOn, found, root]
    exact Or.inr ⟨more.root.filter _, more.found, ahead⟩

end Machine

/-! ## Two trees of a file -/

/-- The directives outside of everything that the parser of leading directives finds, with all that
is in them, and its other findings are the first ones of the parser that reads everything.  It
leaves out nothing before the first content: unless the two trees are the same, its tree ends at a
text with which leading directives cannot go on. -/
theorem parse_leading (file : SourceFile) (options : ParserOptions) :
    let leading := parse file { options with leadingDirectivesOnly := true }
    let full := parse file { options with leadingDirectivesOnly := false }
    leading.body.filter Node.isDirective <+: full.body.filter Node.isDirective
      ∧ Node.outerDirectivesAll leading.body = leading.body.filter Node.isDirective
      ∧ leading.diagnostics <+: full.diagnostics
      ∧ (leading.body = full.body ∧ leading.diagnostics = full.diagnostics
        ∨ ∃ stop, Span.Tiles file.id 0 (leading.body.map Node.span) stop
          ∧ (Grammar.ofOptions file.id options).isLeading (file.content.drop stop) = false) := by
  intro leading full
  let g := Grammar.ofOptions file.id options
  have flat : Node.outerDirectivesAll leading.body = leading.body.filter Node.isDirective := by
    apply Node.outerDirectivesAll_eq_filter
    intro n member
    exact (Machine.led_finish_run g file.content).root n (List.mem_reverse.mp member)
  have body (reads : Bool) : (parse file { options with leadingDirectivesOnly := reads }).body
      = ((Machine.run (g.reads reads) {} file.content).finish g).root.reverse := by
    rw [← Machine.finish_reads _ g reads]
    rfl
  have findings (reads : Bool) :
      (parse file { options with leadingDirectivesOnly := reads }).diagnostics
        = ((Machine.run (g.reads reads) {} file.content).finish g).found.reverse := by
    rw [← Machine.finish_reads _ g reads]
    rfl
  have tiled : Span.Tiles file.id 0 (leading.body.map Node.span)
      (Machine.run (g.reads true) {} file.content).offset :=
    (Machine.run_finished file.content {} (Machine.sound_start (g.reads true) file.content) rfl
      (Nat.zero_le _) (Nat.zero_le _)).gathered.2
  rcases Machine.finish_run_reads g file.content with same | ⟨directives, found, content⟩
  · have bodies : leading.body = full.body := by rw [body, body, same]
    have found : leading.diagnostics = full.diagnostics := by rw [findings, findings, same]
    refine ⟨?_, flat, ?_, Or.inl ⟨bodies, found⟩⟩
    · simp [bodies]
    · simp [found]
  · refine ⟨?_, flat, ?_, Or.inr ⟨_, tiled, content⟩⟩
    · rw [body, body, List.filter_reverse, List.filter_reverse]
      exact List.reverse_prefix.mpr directives
    · rw [findings, findings]
      exact List.reverse_prefix.mpr found

end Syntax

end TemplateCompiler
