import TemplateCompiler.Proofs.LeadingDirectives

/-!
# Parsing inside of blocks

While a directive's block is open, nothing that the parser reads is added outside of it: nodes go to
the innermost frame, and an end tag closes elements only.  It takes the brace that closes the
outermost block, or the end of the file, to add a node outside of all frames.
-/

namespace TemplateCompiler

namespace Syntax

namespace Machine

/-- The machine is inside of a frame and has the given nodes outside of all frames. -/
structure Inner (root : List Node) (m : Machine) : Prop where
  same : m.root = root
  inside : m.frames ≠ []

variable {g : Grammar} {content : Text} {m : Machine} {root : List Node}

theorem Inner.emit (inner : Inner root m) (n : Node) : Inner root (m.emit n) := by
  rcases inner with ⟨same, inside⟩
  unfold Machine.emit
  split
  · next none => exact absurd none inside
  · exact ⟨same, List.cons_ne_nil _ _⟩
  · exact ⟨same, List.cons_ne_nil _ _⟩

theorem Inner.report (inner : Inner root m) (found : List Diagnostic) :
    Inner root (m.report found) := ⟨inner.same, inner.inside⟩

theorem Inner.take (inner : Inner root m) (n : Nat) : Inner root (m.take n) :=
  ⟨inner.same, inner.inside⟩

theorem Inner.push (inner : Inner root m) (f : Frame) :
    Inner root { m with frames := f :: m.frames } := ⟨inner.same, List.cons_ne_nil _ _⟩

theorem Inner.flush (inner : Inner root m) (file : Nat) : Inner root (m.flush file) := by
  unfold Machine.flush
  split
  · exact inner
  · exact Inner.emit (m := { m with pending := [] }) ⟨inner.same, inner.inside⟩ _

theorem Inner.literal (inner : Inner root m) (b : UInt8) : Inner root (m.literal b) := by
  unfold Machine.literal
  dsimp only
  split
  · exact ⟨inner.same, List.cons_ne_nil _ _⟩
  · exact ⟨inner.same, inner.inside⟩

theorem Inner.enclosed (inner : Inner root m) (t : Text) (closing? : Option Nat)
    (node : Span → Text → Node) (unclosed : Diagnostic) :
    Inner root (m.enclosed g t closing? node unclosed) := by
  unfold Machine.enclosed
  split
  · exact (inner.emit _).take _
  · exact ((inner.report _).emit _).take _

theorem Inner.comment (inner : Inner root m) (t : Text) : Inner root (m.comment g t) := by
  unfold Machine.comment
  split
  · exact (inner.emit _).take _
  · exact ((inner.report _).emit _).take _

theorem Inner.markupComment (inner : Inner root m) (t : Text) :
    Inner root (m.markupComment g t) := by
  unfold Machine.markupComment
  split
  · exact (inner.emit _).take _
  · exact ((inner.report _).emit _).take _

theorem Inner.statement (inner : Inner root m) (t : Text) (n : Nat) :
    Inner root (m.statement g t n) := by
  unfold Machine.statement
  dsimp only
  split
  · exact (inner.emit _).take _
  · exact ((inner.report _).emit _).take _

theorem Inner.noteOccurrence (inner : Inner root m) (d : DirectiveDescriptor) (keyword : Span) :
    Inner root (m.noteOccurrence d keyword) := by
  unfold Machine.noteOccurrence
  split
  · exact inner
  split
  · exact inner.report _
  · exact ⟨inner.same, inner.inside⟩

theorem Inner.directive (inner : Inner root m) (t : Text) (d : DirectiveDescriptor) :
    Inner root (m.directive g t d) := by
  have noted := inner.noteOccurrence d (g.span m.offset (m.offset + (1 + d.keyword.length)))
  unfold Machine.directive
  dsimp only
  split
  · exact (noted.emit _).take _
  split
  · exact (noted.emit _).take _
  · exact (noted.push _).take _

theorem Inner.transition (inner : Inner root m) (t : Text) : Inner root (m.transition g t) := by
  unfold Machine.transition
  dsimp only
  split
  · exact (inner.emit _).take _
  split
  · exact inner.comment t
  split
  · exact inner.enclosed t _ _ _
  split
  · exact inner.enclosed t _ _ _
  split
  · split
    · next d _ => exact inner.directive t d
    split
    · exact inner.statement t _
    · exact (inner.emit _).take _
  · exact ((inner.report _).emit _).take _

theorem Inner.startTag (inner : Inner root m) (t : Text) : Inner root (m.startTag g t) := by
  unfold Machine.startTag
  dsimp only
  split
  · exact ((inner.report _).push _).take _
  · exact ((inner.report _).emit _).take _

/-- An element is never the outermost frame, so a frame is left when it is closed. -/
theorem Inner.closeElement (inner : Inner root m) (led : Led m) {tag : StartTag} {body : List Node}
    {rest : List Frame} (top : m.frames = .element tag body :: rest) (n : Node) :
    Inner root ({ m with frames := rest }.emit n) := by
  apply Inner.emit
  refine ⟨inner.same, ?_⟩
  intro alone
  apply led.frames tag body
  rw [top, show rest = [] from alone]
  rfl

theorem Inner.abandonMany (e : Reading.EndTagReading) (stop : Nat) :
    ∀ (depth : Nat) {m : Machine}, closes? e m.frames = some depth → Led m → Inner root m →
      Led (m.abandonMany g stop depth) ∧ Inner root (m.abandonMany g stop depth) := by
  intro depth
  induction depth with
  | zero =>
    intro m _ led inner
    exact ⟨led, inner⟩
  | succ depth ih =>
    intro m closing led inner
    rcases element_of_closes?_succ closing with ⟨tag, body, rest, top, below⟩
    have abandoned : m.abandon g stop =
        { m with frames := rest }.emit (unfinished g stop (.element tag body)) := by
      unfold Machine.abandon
      rw [top]
    have closed := inner.closeElement led top (unfinished g stop (.element tag body))
    have ledRest : Led (m.abandon g stop) :=
      (Moves.abandon (p := .inside) .refl stop).keep Led.move led
    rw [abandoned] at ledRest
    rw [Machine.abandonMany, abandoned]
    exact ih ((closes?_emit e _).trans below) ledRest closed

theorem Inner.endTag (inner : Inner root m) (led : Led m) (t : Text) :
    Inner root (m.endTag g t) := by
  unfold Machine.endTag
  dsimp only
  split
  · next depth closing =>
    rcases Inner.abandonMany _ m.offset depth closing led inner (g := g) with ⟨ledTop, innerTop⟩
    split
    · next tag body rest top => exact (innerTop.closeElement ledTop top _).take _
    · exact innerTop.take _
  · exact ((inner.report _).emit _).take _

/-- Inside of frames, only a brace that closes a block can add a node outside of them. -/
theorem look_inner (led : Led m) (inside : m.frames ≠ []) {b : UInt8} {rest : Text}
    (going : m.closesBlock b = false) : Inner m.root (m.look g b rest) := by
  have self : Inner m.root m := ⟨rfl, inside⟩
  have flushed := self.flush g.file
  have ledFlushed : Led (m.flush g.file) := (flush_moves .inside m g.file).keep Led.move led
  have framed : m.frames.isEmpty = false := by simpa [List.isEmpty_iff] using inside
  unfold look
  dsimp only
  split
  · next stops =>
    rw [framed] at stops
    simp at stops
  split
  · next closes =>
    rw [going] at closes
    cases closes
  split
  · exact flushed.transition _
  split
  · split
    · exact flushed.markupComment _
    split
    · exact flushed.endTag ledFlushed _
    split
    · exact flushed.startTag _
    · exact self.literal b
  · exact self.literal b

end Machine

end Syntax

end TemplateCompiler
