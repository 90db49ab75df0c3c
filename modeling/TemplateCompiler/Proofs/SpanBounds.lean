import TemplateCompiler.Proofs.ParserMoves
import TemplateCompiler.Proofs.SourceTrace

/-!
# Spans lie inside their files

Every span that a syntax tree mentions is ordered, names a file of the set and ends inside its
content: the spans of nodes, of attributes, of the parts of their values and of directive tokens.
The spans of nodes and of values are bounded by the tilings that they belong to, from the outside
in.  Attributes and tokens do not tile anything, so their readers are followed instead.

Three changes come between parsing and lowering.  Joined texts cover both spans, trimmed tokens
have narrower ones, and bound elements take over the spans that were there.  A token is as long as
its span; that is why taking bytes off both ends of it leaves an ordered span.
-/

namespace TemplateCompiler

/-! ## Spans -/

/-- A span of a file whose content has a size. -/
structure Span.Fits (file size : Nat) (s : Span) : Prop where
  located : s.file = file
  ordered : s.start ≤ s.stop
  inside : s.stop ≤ size

/-- Every part of a tiling lies before its end. -/
theorem Span.Tiles.fits {file : Nat} {spans : List Span} {s : Span} :
    ∀ {start stop : Nat}, Tiles file start spans stop → s ∈ spans → s.Fits file stop := by
  induction spans with
  | nil =>
    intro start stop _ member
    cases member
  | cons first rest ih =>
    intro start stop tiled member
    rcases tiled with ⟨located, -, nonempty, tail⟩
    rcases List.mem_cons.mp member with rfl | behind
    · exact ⟨located, Nat.le_of_lt nonempty, tail.le⟩
    · exact ih tail behind

theorem Span.Fits.mono {file size larger : Nat} {s : Span} (fits : s.Fits file size)
    (bound : size ≤ larger) : s.Fits file larger :=
  ⟨fits.located, fits.ordered, Nat.le_trans fits.inside bound⟩

/-- A span is ordered, and the file that it names is in the set and does not end before it. -/
def FileSet.Encloses (files : FileSet) (s : Span) : Prop :=
  files.Holds s fun content => s.start ≤ s.stop ∧ s.stop ≤ content.length

namespace FileSet

variable {files : FileSet}

theorem Encloses.of_fits {source : SourceFile} {s : Span}
    (registered : files.get? source.id = some source)
    (fits : s.Fits source.id source.content.length) : files.Encloses s := by
  refine ⟨source, ?_, fits.ordered, fits.inside⟩
  rw [fits.located]
  exact registered

theorem Encloses.cover {s t : Span} (first : files.Encloses s) (second : files.Encloses t) :
    files.Encloses (s.cover t) := by
  unfold Span.cover
  split
  · next same =>
    rcases first with ⟨file, registered, ordered, inside⟩
    rcases second with ⟨other, registered', ordered', inside'⟩
    rw [← eq_of_beq same, registered] at registered'
    cases registered'
    refine ⟨file, registered, ?_, ?_⟩
    · change min s.start t.start ≤ max s.stop t.stop
      omega
    · change max s.stop t.stop ≤ _
      omega
  · exact first

theorem Encloses.narrow {s t : Span} (encloses : files.Encloses s) (same : t.file = s.file)
    (ordered : t.start ≤ t.stop) (inside : t.stop ≤ s.stop) : files.Encloses t := by
  rcases encloses with ⟨file, registered, -, bound⟩
  refine ⟨file, ?_, ordered, Nat.le_trans inside bound⟩
  rw [same]
  exact registered

end FileSet

namespace Syntax

/-! ## Readers -/

/-- A token of a file whose content has a size, as long as its span. -/
structure DirectiveToken.Fits (file size : Nat) (t : DirectiveToken) : Prop where
  span : t.span.Fits file size
  length : t.span.start + t.content.length = t.span.stop

namespace Reading

variable (r : Reading)

theorem attribute'_span {offset : Nat} {t : Text} {a : Attribute}
    (read : (r.attribute' offset t).attribute? = some a) :
    a.span = r.span offset (offset + (r.attribute' offset t).length) := by
  unfold attribute' at read ⊢
  dsimp only at read ⊢
  split at read
  · cases read
  split at read
  · next named minimized =>
    rw [if_neg named, if_pos minimized]
    cases read
    rfl
  · next named valued =>
    rw [if_neg named, if_neg valued]
    cases read
    rfl

theorem attributeCode_span {offset : Nat} {t : Text} {a : Attribute}
    (read : (r.attributeCode offset t).attribute? = some a) :
    a.span = r.span offset (offset + (r.attributeCode offset t).length) := by
  unfold attributeCode at read ⊢
  split at read
  · cases read
  · next allowed =>
    rw [if_neg allowed]
    split at read
    · cases read
    · cases read
      rfl

/-- What an attribute takes of a text lies inside the content. -/
theorem AttributeReading.Sound.fits {content t : Text} {offset : Nat} {read : AttributeReading}
    (sound : read.Sound r content t) (ahead : content.drop offset = t) (nonempty : t ≠ []) :
    (r.span offset (offset + read.length)).Fits r.file content.length := by
  have whole := length_of_drop ahead nonempty
  have bound := sound.1
  refine ⟨rfl, ?_, ?_⟩
  · exact Nat.le_add_right _ _
  · change offset + read.length ≤ _
    omega

theorem attributes_fit (content : Text) (rounds : Nat) :
    ∀ (offset : Nat) (t : Text), content.drop offset = t →
      ∀ a ∈ (r.attributes rounds offset t).attributes, a.span.Fits r.file content.length := by
  refine r.attributes_forall ?_ ?_ rounds
  · intro offset t ahead nonempty a read
    rw [r.attributeCode_span read]
    exact (r.attributeCode_sound ahead).fits r ahead nonempty
  · intro offset t ahead nonempty a read
    rw [r.attribute'_span read]
    exact (r.attribute'_sound ahead nonempty).fits r ahead nonempty

theorem startTag_fit {content t : Text} {offset : Nat} (ahead : content.drop offset = t) :
    ∀ a ∈ (r.startTag offset t).tag.attributes, a.span.Fits r.file content.length := by
  apply r.attributes_fit content
  exact List.drop_drop.symm.trans (congrArg _ ahead)

theorem tokens_fit (d : DirectiveDescriptor) (content : Text) (slots : List DirectiveSlot) :
    ∀ {offset : Nat} {t : Text}, content.drop offset = t →
      ∀ token ∈ (r.tokens d slots offset t).tokens, token.Fits r.file content.length := by
  induction slots with
  | nil =>
    intro offset t _ token member
    cases member
  | cons slot slots ih =>
    intro offset t ahead
    unfold tokens
    dsimp only
    generalize Scan.run Scan.isHorizontalSpace t = gap
    have aheadGap : content.drop (offset + gap) = t.drop gap := by
      rw [← ahead, List.drop_drop]
    split
    · split <;> simp
    · next more =>
      have nonempty : t.drop gap ≠ [] := by
        intro none
        rw [none] at more
        exact more rfl
      split
      · simp
      · next n read =>
        have whole := length_of_drop aheadGap nonempty
        have bound := TokenScan.token_le_length read
        intro token member
        rcases List.mem_cons.mp member with rfl | behind
        · refine ⟨⟨rfl, Nat.le_add_right _ _, ?_⟩, ?_⟩
          · change offset + gap + n ≤ _
            omega
          · change offset + gap + ((t.drop gap).take n).length = offset + gap + n
            rw [List.length_take, Nat.min_eq_left bound]
        · apply ih _ token behind
          rw [← aheadGap, List.drop_drop]

end Reading

/-! ## Trees -/

namespace Attribute

/-- The parts of a value lie inside the file that their attribute does. -/
theorem Faithful.parts_fit {file : Nat} {content : Text} {a : Attribute}
    (faithful : a.Faithful file content) (fits : a.span.Fits file content.length) :
    ∀ part ∈ a.value, part.span.Fits file content.length := by
  intro part member
  rcases faithful.tiled with ⟨start, stop, placed, tiled⟩
  apply (tiled.fits (List.mem_map_of_mem member)).mono
  have bound := fits.inside
  cases placed with
  | absent | code | bare => exact bound
  | quoted _ _ _ _ _ ends => omega
  | unclosed => exact Nat.le_refl _

end Attribute

namespace Node

/-- A property holds of both if it holds of each. -/
theorem Every.and {P Q : Node → Prop} {n : Node} (first : n.Every P) (second : n.Every Q) :
    n.Every fun k => P k ∧ Q k := by
  induction first with
  | intro n self _ ih =>
    apply Every.intro n ⟨self, second.self⟩
    intro child member
    exact ih child member (second.inside child member)

/-- The nodes in the body of a faithful node lie inside of it. -/
theorem Faithful.body_fits {file : Nat} {content : Text} {n : Node}
    (faithful : n.Faithful file content) (fits : n.span.Fits file content.length) :
    ∀ child ∈ n.body, child.span.Fits file content.length := by
  have written := faithful.written
  have bound := fits.inside
  intro child member
  cases n with
  | element span tag endTag? body =>
    have among := List.mem_map_of_mem (f := Node.span) member
    have tiled := written.2.1.2
    cases endTag? with
    | none => exact (tiled.fits among).mono bound
    | some endTag =>
      rcases tiled with ⟨-, nonempty, ends, tiled⟩
      apply (tiled.fits among).mono
      change span.stop ≤ _ at bound
      omega
  | directive span head body =>
    have among := List.mem_map_of_mem (f := Node.span) member
    rcases written with ⟨-, block⟩
    split at block
    · rw [show body = [] from block] at among
      cases among
    · cases block with
      | closed _ _ ends tiled =>
        apply (tiled.fits among).mono
        change span.stop ≤ _ at bound
        omega
      | unclosed _ _ tiled => exact tiled.fits among
  | helper => exact absurd written id
  | text | markupComment | transition | expression | codeBlock | comment => cases member

theorem Faithful.every_fits {file : Nat} {content : Text} {n : Node}
    (every : n.Every (Faithful file content)) (fits : n.span.Fits file content.length) :
    n.Every fun k => k.span.Fits file content.length := by
  induction every with
  | intro n self _ ih =>
    apply Every.intro n fits
    intro child member
    exact ih child member (self.body_fits fits child member)

end Node

/-- The attributes and the tokens of a file whose content has a size. -/
def Permits.fitting (file size : Nat) : Permits where
  tag _ tag := ∀ a ∈ tag.attributes, a.span.Fits file size
  directive g offset t d := ∀ token ∈ (readTokens g offset t d).tokens, token.Fits file size

theorem Permits.Reads.tokens_fit {file size : Nat} {span : Span} {head : DirectiveHead}
    (reads : (fitting file size).Reads span head) : ∀ t ∈ head.tokens, t.Fits file size := by
  rcases reads with ⟨g, offset, t, d, fit, read⟩
  rw [read.tokens]
  exact fit

theorem parse_fitting (file : SourceFile) (options : ParserOptions) :
    ∀ n ∈ (parse file options).body,
      n.Every (Node.Obeys (.fitting file.id file.content.length)) := by
  apply parse_obeys file options
  intro m b rest ahead
  constructor
  · intro _ _ _
    exact Reading.startTag_fit _ ahead
  · intro d _
    apply Reading.tokens_fit
    rw [← ahead, List.drop_drop]

theorem parse_spans_fit (file : SourceFile) (options : ParserOptions) :
    ∀ n ∈ (parse file options).body, n.span.Fits file.id file.content.length := by
  let g := Grammar.ofOptions file.id options
  have finished := Machine.run_finished file.content {} (Machine.sound_start g file.content) rfl
    (Nat.zero_le _) (Nat.zero_le _)
  have reached := Machine.run_offset_le g file.content {}
  intro n member
  apply (finished.gathered.2.fits (List.mem_map_of_mem member)).mono
  simpa using reached

/-! ## Trees of several files -/

section Enclosed

variable {files : FileSet}

def AttributeEnclosed (files : FileSet) (span : Span) (value : List ValuePart) : Prop :=
  files.Encloses span ∧ ∀ part ∈ value, files.Encloses part.span

def DirectiveToken.Enclosed (files : FileSet) (t : DirectiveToken) : Prop :=
  files.Encloses t.span ∧ t.span.start + t.content.length = t.span.stop

namespace Node

def PartsEnclosed (files : FileSet) : Node → Prop
  | .element _ tag _ _ => ∀ a ∈ tag.attributes, AttributeEnclosed files a.span a.value
  | .directive _ head _ => ∀ t ∈ head.tokens, t.Enclosed files
  | .helper _ head _ => ∀ a ∈ head.attributes, AttributeEnclosed files a.span a.value
  | _ => True

/-- All spans that a node mentions lie inside their files. -/
structure Enclosed (files : FileSet) (n : Node) : Prop where
  span : files.Encloses n.span
  parts : n.PartsEnclosed files

/-- All of some nodes are enclosed, with everything inside them. -/
def AllEnclosed (files : FileSet) (ns : List Node) : Prop := ∀ n ∈ ns, n.Every (Enclosed files)

end Node

/-- The tree of a file in the set mentions no span outside of the file. -/
theorem parse_enclosed {source : SourceFile} (registered : files.get? source.id = some source)
    (options : ParserOptions) : Node.AllEnclosed files (parse source options).body := by
  rcases parse_gathered source options with ⟨_, -, faithful, -⟩
  intro n member
  have fits := Node.Faithful.every_fits (faithful n member)
    (parse_spans_fit source options n member)
  have parts := (faithful n member).and (parse_fitting source options n member)
  refine (fits.and parts).imp ?_
  rintro k ⟨span, written, obeys⟩
  refine ⟨.of_fits registered span, ?_⟩
  cases k with
  | element _ tag _ _ =>
    rcases obeys with ⟨_, attributes⟩
    intro a among
    have values := (written.written.1 a among).parts_fit (attributes a among)
    constructor
    · exact .of_fits registered (attributes a among)
    · intro part inside
      exact .of_fits registered (values part inside)
  | directive _ head _ =>
    intro t among
    have fits := obeys.tokens_fit t among
    exact ⟨.of_fits registered fits.span, fits.length⟩
  | helper => exact absurd written.written id
  | text | markupComment | transition | expression | codeBlock | comment => trivial

/-! ## Changes before lowering -/

namespace Node

theorem mergeAll_enclosed {ns : List Node} (enclosed : AllEnclosed files ns) :
    AllEnclosed files (mergeAll ns).1 := by
  apply mergeAll_every _ _ enclosed
  · intro s s' t t' first second _ _
    exact ⟨first.span.cover second.span, trivial⟩
  · intro n self
    cases n <;> exact ⟨self.span, self.parts⟩

theorem trimTokens_enclosed {ts : List DirectiveToken} (enclosed : ∀ t ∈ ts, t.Enclosed files) :
    ∀ t ∈ trimTokens ts, t.Enclosed files := by
  intro u member
  rcases List.mem_map.mp member with ⟨t, among, rfl⟩
  rcases enclosed t among with ⟨encloses, length⟩
  cases trimmed : trimToken? t with
  | none => exact ⟨encloses, length⟩
  | some u =>
    have narrowed := trimToken?_narrowed trimmed
    have ordered : u.span.start ≤ u.span.stop := narrowed.length ▸ Nat.le_add_right _ _
    exact ⟨encloses.narrow narrowed.file ordered (length ▸ narrowed.inside), narrowed.length⟩

theorem trimAll_enclosed {ns : List Node} (enclosed : AllEnclosed files ns) :
    AllEnclosed files (trimAll ns).1 := by
  apply trimAll_every _ enclosed
  intro n self
  cases n with
  | directive => exact ⟨self.span, trimTokens_enclosed self.parts⟩
  | _ => exact ⟨self.span, self.parts⟩

end Node

namespace HelperRules

theorem bindAttributes_enclosed (r : HelperRules) (tag : StartTag) (binding : ElementBinding)
    {attributes : List Attribute}
    (enclosed : ∀ a ∈ attributes, AttributeEnclosed files a.span a.value) :
    ∀ a ∈ (r.bindAttributes tag binding attributes).1, AttributeEnclosed files a.span a.value := by
  induction attributes with
  | nil =>
    intro a member
    cases member
  | cons a rest ih =>
    rcases List.forall_mem_cons.mp enclosed with ⟨first, others⟩
    unfold bindAttributes
    dsimp only
    split
    · exact ih others
    · exact List.forall_mem_cons.mpr ⟨first, ih others⟩

theorem bindNode_encloses (r : HelperRules) (scope : Scope) {n : Node} (self : n.Enclosed files) :
    (r.bindNode scope n).1.Enclosed files := by
  cases n with
  | element span tag endTag? body =>
    unfold bindNode
    dsimp only
    split
    · exact ⟨self.span, self.parts⟩
    · exact ⟨self.span, r.bindAttributes_enclosed tag _ self.parts⟩
  | directive => exact ⟨self.span, self.parts⟩
  | _ => exact self

theorem bindNodes_enclosed (r : HelperRules) (scope : Scope) {ns : List Node}
    (enclosed : Node.AllEnclosed files ns) : Node.AllEnclosed files (r.bindNodes scope ns).1 :=
  r.bindNodes_every (fun _ _ => r.bindNode_encloses _) scope enclosed

end HelperRules

end Enclosed

end Syntax

end TemplateCompiler
