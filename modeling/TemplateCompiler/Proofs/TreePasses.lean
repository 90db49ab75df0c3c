import Mathlib.Data.List.DropRight
import TemplateCompiler.Proofs.MergedLowering
import TemplateCompiler.Proofs.SpanBounds

/-!
# Passes over syntax trees

Merging neighbouring texts and trimming directive tokens replace nodes and tokens by others with new
spans.  A tree is *aligned* if its texts and tokens say what their spans cover and the spans of each
body follow one another without a gap.  The tree of a parsed file is aligned, and both passes keep
it so.

That neighbours touch is what makes a merged tree have no two texts side by side, so that merging it
again finds nothing to do; trimmed tokens have no white space left at their ends.  The counts that
the passes return are compared with the sizes of the trees and with the tokens before and after.
-/

namespace TemplateCompiler

/-! ## Trimmed texts -/

namespace Text

variable (t : Text) (p : UInt8 → Bool)

theorem trimWhile_prefix : t.trimWhile p <+: t.dropWhile p :=
  List.rdropWhile_prefix p (t.dropWhile p)

theorem of_head?_trimWhile {b : UInt8} (first : (t.trimWhile p).head? = some b) : p b = false := by
  rcases t.trimWhile_prefix p with ⟨rest, whole⟩
  have behind := List.head?_dropWhile_not p t
  rw [← whole, List.head?_append, first] at behind
  simpa using behind

theorem of_getLast?_trimWhile {b : UInt8} (last : (t.trimWhile p).getLast? = some b) :
    p b = false := by
  have nonempty : t.trimWhile p ≠ [] := by
    intro none
    rw [none] at last
    cases last
  rw [List.getLast?_eq_some_getLast nonempty] at last
  cases last
  exact Bool.eq_false_iff.mpr (List.rdropWhile_last_not p (t.dropWhile p) nonempty)

theorem trimWhile_trimWhile : (t.trimWhile p).trimWhile p = t.trimWhile p := by
  have front : (t.trimWhile p).dropWhile p = t.trimWhile p := by
    cases trimmed : t.trimWhile p with
    | nil => rfl
    | cons b rest =>
      have clean := t.of_head?_trimWhile p (congrArg List.head? trimmed)
      exact List.dropWhile_cons_of_neg (by simp [clean])
  change ((t.trimWhile p).dropWhile p).rdropWhile p = _
  rw [front]
  exact List.rdropWhile_idempotent p (t.dropWhile p)

/-- Trimming that takes nothing off leaves the text alone. -/
theorem length_trimWhile_eq_iff :
    (t.trimWhile p).length = t.length ↔ t.trimWhile p = t := by
  constructor
  · intro same
    have part := (t.trimWhile_prefix p).length_le
    have whole := List.dropWhile_suffix p (l := t)
    have all := whole.eq_of_length_le (same ▸ part)
    exact ((all ▸ t.trimWhile_prefix p).eq_of_length same)
  · exact congrArg List.length

end Text

/-- Spans that touch are covered by the span from the start of one to the end of the other. -/
theorem Span.cover_of_touching {s t : Span} (located : s.file = t.file)
    (touching : s.stop = t.start) (first : s.start ≤ s.stop) (second : t.start ≤ t.stop) :
    s.cover t = ⟨s.file, s.start, t.stop⟩ := by
  unfold Span.cover
  rw [if_pos (beq_iff_eq.mpr located), Nat.min_eq_left (by omega), Nat.max_eq_right (by omega)]

namespace Syntax

open Node

/-! ## Tokens -/

/-- What a token says is what its span covers, and the span lies in the content. -/
structure DirectiveToken.InStep (file : Nat) (content : Text) (t : DirectiveToken) : Prop where
  fits : t.Fits file content.length
  written : t.content = content.slice t.span.start t.span.stop

namespace Node

variable {file : Nat} {content : Text}

/-- A token without the white space around it, whether there is some or not. -/
def trimmedToken (t : DirectiveToken) : DirectiveToken := (trimToken? t).getD t

theorem content_trimmedToken (t : DirectiveToken) :
    (trimmedToken t).content = t.content.trimWhile isTokenBlank := by
  unfold trimmedToken trimToken?
  dsimp only
  split
  · next same =>
    exact ((Text.length_trimWhile_eq_iff _ _).mp (eq_of_beq same)).symm
  · rfl

theorem isSome_trimToken? (t : DirectiveToken) :
    (trimToken? t).isSome = (t.content != (trimmedToken t).content) := by
  rw [content_trimmedToken]
  unfold trimToken?
  dsimp only
  split
  · next same => simp [(Text.length_trimWhile_eq_iff _ _).mp (eq_of_beq same)]
  · next shorter =>
    have differs : t.content ≠ t.content.trimWhile isTokenBlank := by
      intro same
      rw [← same] at shorter
      exact shorter (beq_self_eq_true _)
    simpa using differs

theorem trimmedToken_inStep {t : DirectiveToken} (inStep : t.InStep file content) :
    (trimmedToken t).InStep file content := by
  unfold trimmedToken
  cases trimmed : trimToken? t with
  | none => exact inStep
  | some u =>
    rcases inStep with ⟨⟨⟨located, -, inside⟩, length⟩, written⟩
    have narrowed := trimToken?_narrowed trimmed
    have ordered : u.span.start ≤ u.span.stop := narrowed.length ▸ Nat.le_add_right _ _
    have within := Nat.le_trans (length ▸ narrowed.inside) inside
    exact ⟨⟨⟨narrowed.file.trans located, ordered, within⟩, narrowed.length⟩,
      (narrowed.written content written.symm).symm⟩

/-! ## Aligned nodes -/

/-- The texts and the tokens of a node say what their spans cover; its children are not looked at. -/
def InStep (file : Nat) (content : Text) : Node → Prop
  | text span t => span.Fits file content.length ∧ t = content.slice span.start span.stop
  | element _ tag _ _ => ∀ a ∈ tag.attributes, ∀ part ∈ a.value, part.Faithful content
  | directive _ head _ => ∀ t ∈ head.tokens, t.InStep file content
  | helper _ head _ => ∀ a ∈ head.attributes, ∀ part ∈ a.value, part.Faithful content
  | _ => True

/-- The spans of nodes follow one another without a gap. -/
def Consecutive (file : Nat) (ns : List Node) : Prop :=
  ∃ start stop, Span.Tiles file start (ns.map span) stop

structure Aligned (file : Nat) (content : Text) (n : Node) : Prop where
  inStep : n.InStep file content
  consecutive : Consecutive file n.body

structure AllAligned (file : Nat) (content : Text) (ns : List Node) : Prop where
  consecutive : Consecutive file ns
  every : ∀ n ∈ ns, n.Every (Aligned file content)

theorem Consecutive.nil (file : Nat) : Consecutive file [] := ⟨0, 0, rfl⟩

theorem Consecutive.tail {n : Node} {ns : List Node} (consecutive : Consecutive file (n :: ns)) :
    Consecutive file ns := by
  rcases consecutive with ⟨start, stop, tiled⟩
  exact ⟨_, _, tiled.2.2.2⟩

theorem Faithful.consecutive {n : Node} (faithful : n.Faithful file content) :
    Consecutive file n.body := by
  have written := faithful.written
  cases n with
  | element span tag endTag? body =>
    have tiled := written.2.1.2
    cases endTag? with
    | none => exact ⟨_, _, tiled⟩
    | some endTag => exact ⟨_, _, tiled.2.2.2⟩
  | directive span head body =>
    have block := written.2
    split at block
    · rw [show body = [] from block]
      exact .nil file
    · cases block with
      | closed _ _ _ tiled => exact ⟨_, _, tiled⟩
      | unclosed _ _ tiled => exact ⟨_, _, tiled⟩
  | helper => exact absurd written id
  | text | markupComment | transition | expression | codeBlock | comment => exact .nil file

end Node

theorem parse_aligned (file : SourceFile) (options : ParserOptions) :
    AllAligned file.id file.content (parse file options).body := by
  rcases parse_gathered file options with ⟨stop, tiled, faithful, -⟩
  refine ⟨⟨0, stop, tiled⟩, ?_⟩
  intro n member
  have fits := Faithful.every_fits (faithful n member) (parse_spans_fit file options n member)
  have parts := (faithful n member).and (parse_fitting file options n member)
  refine (fits.and parts).imp ?_
  rintro k ⟨span, written, obeys⟩
  refine ⟨?_, written.consecutive⟩
  cases k with
  | text => exact ⟨span, written.written⟩
  | element =>
    intro a among
    exact (written.written.1 a among).parts
  | directive _ head _ =>
    intro t among
    exact ⟨obeys.tokens_fit t among, (written.written.1.tokens t among).2⟩
  | helper => exact absurd written.written id
  | markupComment | transition | expression | codeBlock | comment => trivial

/-! ## Merging -/

namespace Node

variable {file : Nat} {content : Text}

@[simp]
theorem span_merge (n : Node) : (merge n).1.span = n.span := by cases n <;> rfl

/-- Joined nodes take the room of both. -/
theorem join_tiles {n : Node} {ns : List Node} {start stop : Nat}
    (tiled : Span.Tiles file start ((n :: ns).map span) stop) :
    Span.Tiles file start ((join n ns).1.map span) stop := by
  unfold join
  split
  · next s t s' t' rest =>
    split
    · rcases tiled with ⟨located, starts, nonempty, located', touching, nonempty', behind⟩
      change s.file = file at located
      change s'.file = file at located'
      change s'.start = s.stop at touching
      have joined := Span.cover_of_touching (located.trans located'.symm) touching.symm
        (Nat.le_of_lt nonempty) (Nat.le_of_lt nonempty')
      change Span.Tiles file start (s.cover s' :: rest.map span) stop
      rw [joined]
      refine ⟨located, starts, ?_, behind⟩
      change s.start < s'.stop
      change s.start < s.stop at nonempty
      change s'.start < s'.stop at nonempty'
      omega
    · exact tiled
  · exact tiled

theorem mergeAll_tiles {ns : List Node} {stop : Nat} :
    ∀ {start : Nat}, Span.Tiles file start (ns.map span) stop →
      Span.Tiles file start ((mergeAll ns).1.map span) stop := by
  induction ns with
  | nil => exact id
  | cons n ns ih =>
    rintro start ⟨located, starts, nonempty, behind⟩
    apply join_tiles
    rw [List.map_cons, span_merge]
    exact ⟨located, starts, nonempty, ih behind⟩

/-- Before they are joined, merged nodes take the room of those they came from. -/
theorem Consecutive.merged {n : Node} {ns : List Node} (consecutive : Consecutive file (n :: ns)) :
    Consecutive file ((merge n).1 :: (Node.mergeAll ns).1) := by
  rcases consecutive with ⟨start, stop, located, starts, nonempty, behind⟩
  refine ⟨start, stop, ?_⟩
  rw [List.map_cons, span_merge]
  exact ⟨located, starts, nonempty, mergeAll_tiles behind⟩

theorem Consecutive.mergeAll {ns : List Node} (consecutive : Consecutive file ns) :
    Consecutive file (mergeAll ns).1 := by
  rcases consecutive with ⟨start, stop, tiled⟩
  exact ⟨start, stop, mergeAll_tiles tiled⟩

/-- Texts that touch say together what both spans cover. -/
theorem joinsTexts_aligned : JoinsTexts (Aligned file content) := by
  intro s s' t t' first second touching located
  rcases first.inStep with ⟨fits, written⟩
  rcases second.inStep with ⟨fits', written'⟩
  refine ⟨?_, .nil file⟩
  have joined := Span.cover_of_touching located touching fits.ordered fits'.ordered
  have ordered : s.start ≤ s'.stop := by
    have := fits.ordered
    have := fits'.ordered
    omega
  change (s.cover s').Fits file content.length ∧ t ++ t' = _
  rw [joined, written, written', touching]
  refine ⟨⟨fits.located, ordered, fits'.inside⟩, ?_⟩
  exact Text.slice_append_slice content (touching ▸ fits.ordered) fits'.ordered

theorem mergeAll_aligned {ns : List Node} (every : ∀ n ∈ ns, n.Every (Aligned file content)) :
    ∀ n ∈ (mergeAll ns).1, n.Every (Aligned file content) := by
  apply mergeAll_every joinsTexts_aligned _ every
  intro n self
  cases n with
  | element | directive | helper => exact ⟨self.inStep, self.consecutive.mergeAll⟩
  | _ => exact self

theorem AllAligned.mergeAll {ns : List Node} (aligned : AllAligned file content ns) :
    AllAligned file content (mergeAll ns).1 :=
  ⟨aligned.consecutive.mergeAll, mergeAll_aligned aligned.every⟩

/-! ## Trimming -/

@[simp]
theorem span_trim (n : Node) : (trim n).1.span = n.span := by cases n <;> rfl

theorem map_span_trimAll (ns : List Node) : (trimAll ns).1.map span = ns.map span := by
  rw [trimAll_eq_map, List.map_map]
  exact List.map_congr_left fun n _ => span_trim n

theorem Consecutive.trimAll {ns : List Node} (consecutive : Consecutive file ns) :
    Consecutive file (trimAll ns).1 := by
  rcases consecutive with ⟨start, stop, tiled⟩
  refine ⟨start, stop, ?_⟩
  rw [map_span_trimAll]
  exact tiled

theorem trimTokens_inStep {ts : List DirectiveToken} (inStep : ∀ t ∈ ts, t.InStep file content) :
    ∀ t ∈ trimTokens ts, t.InStep file content := by
  intro u member
  rcases List.mem_map.mp member with ⟨t, among, rfl⟩
  exact trimmedToken_inStep (inStep t among)

theorem trimAll_aligned {ns : List Node} (every : ∀ n ∈ ns, n.Every (Aligned file content)) :
    ∀ n ∈ (trimAll ns).1, n.Every (Aligned file content) := by
  apply trimAll_every _ every
  intro n self
  cases n with
  | element | helper => exact ⟨self.inStep, self.consecutive.trimAll⟩
  | directive => exact ⟨trimTokens_inStep self.inStep, self.consecutive.trimAll⟩
  | _ => exact self

theorem AllAligned.trimAll {ns : List Node} (aligned : AllAligned file content ns) :
    AllAligned file content (trimAll ns).1 :=
  ⟨aligned.consecutive.trimAll, trimAll_aligned aligned.every⟩

/-! ## Neighbouring texts -/

/-- No two neighbours are both text. -/
def Apart (ns : List Node) : Prop := ns.IsChain fun n m => (n.isText && m.isText) = false

/-- In no body are two neighbours both text. -/
structure AllApart (ns : List Node) : Prop where
  apart : Apart ns
  every : ∀ n ∈ ns, n.Every fun k => Apart k.body

/-- Neighbours without a gap are joined if both are text. -/
theorem join_apart {n : Node} {ns : List Node} (consecutive : Consecutive file (n :: ns))
    (apart : Apart ns) : Apart (join n ns).1 := by
  cases ns with
  | nil =>
    cases first : n.isText with
    | false =>
      rw [join_of_first first]
      exact .singleton n
    | true =>
      cases n with
      | text => exact .singleton _
      | _ => cases first
  | cons m ns =>
    cases first : n.isText with
    | false =>
      rw [join_of_first first]
      exact .cons_cons (by simp [first]) apart
    | true =>
      cases second : m.isText with
      | false =>
        rw [join_of_second n second]
        exact .cons_cons (by simp [second]) apart
      | true =>
        rcases consecutive with ⟨start, stop, tiled⟩
        cases n with
        | text s t =>
          cases m with
          | text s' t' =>
            rcases tiled with ⟨located, -, -, located', touching, -⟩
            change s.file = file at located
            change s'.file = file at located'
            change s'.start = s.stop at touching
            have joined : (join (text s t) (text s' t' :: ns)).1
                = text (s.cover s') (t ++ t') :: ns := by
              unfold join
              simp [touching, located, located']
            rw [joined]
            cases ns with
            | nil => exact .singleton _
            | cons k ns =>
              cases apart with
              | cons_cons beside behind => exact .cons_cons beside behind
          | _ => cases second
        | _ => cases first

theorem join_forall {P : Node → Prop} (texts : ∀ s t, P (text s t)) {n : Node} {ns : List Node}
    (first : P n) (rest : ∀ m ∈ ns, P m) : ∀ m ∈ (join n ns).1, P m := by
  unfold join
  split
  · split
    · exact List.forall_mem_cons.mpr ⟨texts _ _, (List.forall_mem_cons.mp rest).2⟩
    · exact List.forall_mem_cons.mpr ⟨first, rest⟩
  · exact List.forall_mem_cons.mpr ⟨first, rest⟩

mutual

theorem merge_apart :
    ∀ {n : Node}, n.Every (Aligned file content) → (merge n).1.Every fun k => Apart k.body
  | .element .., every => .intro _ (mergeAll_apart every.self.consecutive every.inside).apart
    (mergeAll_apart every.self.consecutive every.inside).every
  | .directive .., every => .intro _ (mergeAll_apart every.self.consecutive every.inside).apart
    (mergeAll_apart every.self.consecutive every.inside).every
  | .helper .., every => .intro _ (mergeAll_apart every.self.consecutive every.inside).apart
    (mergeAll_apart every.self.consecutive every.inside).every
  | .text .., _ => .intro _ .nil nofun
  | .transition _, _ => .intro _ .nil nofun
  | .markupComment .., _ => .intro _ .nil nofun
  | .comment .., _ => .intro _ .nil nofun
  | .expression .., _ => .intro _ .nil nofun
  | .codeBlock .., _ => .intro _ .nil nofun

theorem mergeAll_apart : ∀ {ns : List Node}, Consecutive file ns →
    (∀ n ∈ ns, n.Every (Aligned file content)) → AllApart (mergeAll ns).1
  | [], _, _ => ⟨.nil, nofun⟩
  | n :: ns, consecutive, every => by
    rcases List.forall_mem_cons.mp every with ⟨first, rest⟩
    have behind := mergeAll_apart consecutive.tail rest
    refine ⟨join_apart consecutive.merged behind.apart, ?_⟩
    exact join_forall (fun _ _ => .intro _ .nil nofun) (merge_apart first) behind.every

end

theorem join_eq_self {n : Node} {ns : List Node} (apart : Apart (n :: ns)) :
    join n ns = (n :: ns, 0) := by
  unfold join
  split
  · next s t s' t' rest =>
    cases apart with
    | cons_cons beside _ => cases beside
  · rfl

mutual

theorem merge_eq_self : ∀ {n : Node}, (n.Every fun k => Apart k.body) → merge n = (n, 0)
  | .element _ _ _ body, every => by
    have inside : mergeAll body = (body, 0) := mergeAll_eq_self every.self every.inside
    rw [merge, inside]
  | .directive _ _ body, every => by
    have inside : mergeAll body = (body, 0) := mergeAll_eq_self every.self every.inside
    rw [merge, inside]
  | .helper _ _ body, every => by
    have inside : mergeAll body = (body, 0) := mergeAll_eq_self every.self every.inside
    rw [merge, inside]
  | .text .., _ => rfl
  | .transition _, _ => rfl
  | .markupComment .., _ => rfl
  | .comment .., _ => rfl
  | .expression .., _ => rfl
  | .codeBlock .., _ => rfl

theorem mergeAll_eq_self : ∀ {ns : List Node}, Apart ns →
    (∀ n ∈ ns, n.Every fun k => Apart k.body) → mergeAll ns = (ns, 0)
  | [], _, _ => rfl
  | n :: ns, apart, every => by
    rcases List.forall_mem_cons.mp every with ⟨first, rest⟩
    have one := merge_eq_self first
    have behind : mergeAll ns = (ns, 0) := mergeAll_eq_self apart.tail rest
    have here := join_eq_self apart
    simp only [mergeAll, one, behind, here]

end

theorem mergeAll_mergeAll {ns : List Node} (aligned : AllAligned file content ns) :
    mergeAll (mergeAll ns).1 = ((mergeAll ns).1, 0) := by
  have merged := mergeAll_apart aligned.consecutive aligned.every
  exact mergeAll_eq_self merged.apart merged.every

/-! ## Sizes -/

theorem sizeAll_join (n : Node) (ns : List Node) :
    sizeAll (join n ns).1 + (join n ns).2 = n.size + sizeAll ns := by
  unfold join
  split
  · split
    · next s t s' t' others _ =>
      change 1 + sizeAll others + 1 = 1 + (1 + sizeAll others)
      omega
    · rfl
  · rfl

mutual

theorem size_merge : ∀ n : Node, (merge n).1.size + (merge n).2 = n.size
  | .element _ _ _ body => (Nat.add_assoc ..).trans (congrArg (_ + ·) (sizeAll_mergeAll body))
  | .directive _ _ body => (Nat.add_assoc ..).trans (congrArg (_ + ·) (sizeAll_mergeAll body))
  | .helper _ _ body => (Nat.add_assoc ..).trans (congrArg (_ + ·) (sizeAll_mergeAll body))
  | .text .. => rfl
  | .transition _ => rfl
  | .markupComment .. => rfl
  | .comment .. => rfl
  | .expression .. => rfl
  | .codeBlock .. => rfl

/-- What merging counts are the nodes that disappear. -/
theorem sizeAll_mergeAll : ∀ ns : List Node,
    sizeAll (mergeAll ns).1 + (mergeAll ns).2 = sizeAll ns
  | [] => rfl
  | n :: ns => by
    have first := size_merge n
    have rest := sizeAll_mergeAll ns
    have joined := sizeAll_join (merge n).1 (mergeAll ns).1
    simp only [mergeAll, sizeAll]
    omega

end

mutual

theorem size_trim : ∀ n : Node, (trim n).1.size = n.size
  | .element _ _ _ body => congrArg (_ + ·) (sizeAll_trimAll body)
  | .directive _ _ body => congrArg (_ + ·) (sizeAll_trimAll body)
  | .helper _ _ body => congrArg (_ + ·) (sizeAll_trimAll body)
  | .text .. => rfl
  | .transition _ => rfl
  | .markupComment .. => rfl
  | .comment .. => rfl
  | .expression .. => rfl
  | .codeBlock .. => rfl

theorem sizeAll_trimAll : ∀ ns : List Node, sizeAll (trimAll ns).1 = sizeAll ns
  | [] => rfl
  | n :: ns => by simp only [trimAll, sizeAll, size_trim n, sizeAll_trimAll ns]

end

/-! ## Tokens of trees -/

/-- The directive tokens of nodes in the order of the text. -/
def tokensAll (ns : List Node) : List DirectiveToken :=
  (directivesAll ns).flatMap DirectiveHead.tokens

theorem trimTokens_eq_map (ts : List DirectiveToken) : trimTokens ts = ts.map trimmedToken := rfl

theorem countTrimmed_append (ts us : List DirectiveToken) :
    countTrimmed (ts ++ us) = countTrimmed ts + countTrimmed us := List.countP_append

mutual

theorem directives_trim : ∀ n : Node, (trim n).1.directives
      = n.directives.map fun head => { head with tokens := trimTokens head.tokens }
  | .element _ _ _ body => directivesAll_trimAll body
  | .directive _ _ body => congrArg (_ :: ·) (directivesAll_trimAll body)
  | .helper _ _ body => directivesAll_trimAll body
  | .text .. => rfl
  | .transition _ => rfl
  | .markupComment .. => rfl
  | .comment .. => rfl
  | .expression .. => rfl
  | .codeBlock .. => rfl

theorem directivesAll_trimAll : ∀ ns : List Node, directivesAll (trimAll ns).1
      = (directivesAll ns).map fun head => { head with tokens := trimTokens head.tokens }
  | [] => rfl
  | n :: ns => by
    simp only [trimAll, directivesAll, List.map_append, directives_trim n, directivesAll_trimAll ns]

end

theorem tokensAll_trimAll (ns : List Node) :
    tokensAll (trimAll ns).1 = (tokensAll ns).map trimmedToken := by
  unfold tokensAll
  rw [directivesAll_trimAll, List.flatMap_map, List.map_flatMap]
  rfl

mutual

theorem count_trim : ∀ n : Node,
    (trim n).2 = countTrimmed (n.directives.flatMap DirectiveHead.tokens)
  | .element _ _ _ body => count_trimAll body
  | .directive _ head body => by
    have inside := count_trimAll body
    rw [directives, List.flatMap_cons, countTrimmed_append]
    simp only [trim, inside, tokensAll]
    omega
  | .helper _ _ body => count_trimAll body
  | .text .. => rfl
  | .transition _ => rfl
  | .markupComment .. => rfl
  | .comment .. => rfl
  | .expression .. => rfl
  | .codeBlock .. => rfl

theorem count_trimAll : ∀ ns : List Node, (trimAll ns).2 = countTrimmed (tokensAll ns)
  | [] => rfl
  | n :: ns => by
    have first := count_trim n
    have rest := count_trimAll ns
    rw [tokensAll, directivesAll, List.flatMap_append, countTrimmed_append]
    simp only [trimAll, first, rest, tokensAll]

end

/-- What trimming counts are the tokens whose content changes. -/
theorem countTrimmed_eq (ts : List DirectiveToken) : countTrimmed ts
    = (ts.zip (ts.map trimmedToken)).countP fun (t, u) => t.content != u.content := by
  have pairs : ts.zip (ts.map trimmedToken) = ts.map fun t => (t, trimmedToken t) := by
    rw [List.zip_map_right, List.zip_eq_zipWith, List.zipWith_self, List.map_map]
    rfl
  rw [pairs, List.countP_map]
  exact List.countP_congr fun t _ => by simp [isSome_trimToken?]

theorem trimmedToken_trimmedToken (t : DirectiveToken) :
    trimToken? (trimmedToken t) = none := by
  apply Option.isNone_iff_eq_none.mp
  have same : (trimmedToken (trimmedToken t)).content = (trimmedToken t).content := by
    rw [content_trimmedToken, content_trimmedToken, Text.trimWhile_trimWhile]
  rw [← Option.not_isSome, isSome_trimToken?, same]
  simp

theorem trimTokens_trimTokens (ts : List DirectiveToken) :
    trimTokens (trimTokens ts) = trimTokens ts ∧ countTrimmed (trimTokens ts) = 0 := by
  constructor
  · rw [trimTokens_eq_map, trimTokens_eq_map, List.map_map]
    apply List.map_congr_left
    intro t _
    change (trimToken? (trimmedToken t)).getD (trimmedToken t) = _
    rw [trimmedToken_trimmedToken]
    rfl
  · unfold countTrimmed
    rw [trimTokens_eq_map, List.countP_map, List.countP_eq_zero]
    intro t _
    simp [trimmedToken_trimmedToken]

mutual

theorem trim_trim : ∀ n : Node, trim (trim n).1 = ((trim n).1, 0)
  | .element _ _ _ body => by simp only [trim, trimAll_trimAll body]
  | .directive _ head body => by
    simp only [trim, trimAll_trimAll body, trimTokens_trimTokens head.tokens]
  | .helper _ _ body => by simp only [trim, trimAll_trimAll body]
  | .text .. => rfl
  | .transition _ => rfl
  | .markupComment .. => rfl
  | .comment .. => rfl
  | .expression .. => rfl
  | .codeBlock .. => rfl

theorem trimAll_trimAll : ∀ ns : List Node, trimAll (trimAll ns).1 = ((trimAll ns).1, 0)
  | [] => rfl
  | n :: ns => by simp only [trimAll, trim_trim n, trimAll_trimAll ns]

end

/-- No token has a blank left at either end. -/
theorem not_blank_trimmedToken {t : DirectiveToken} {b : UInt8}
    (outer : (trimmedToken t).content.head? = some b ∨ (trimmedToken t).content.getLast? = some b) :
    b ∉ ([0x20, 0x09, 0x0D, 0x0A] : List UInt8) := by
  rw [content_trimmedToken] at outer
  have other : isTokenBlank b = false :=
    outer.elim (Text.of_head?_trimWhile _ _) (Text.of_getLast?_trimWhile _ _)
  simpa [isTokenBlank, and_assoc] using other

end Node

/-! ## Sequences of passes -/

/-- A change that keeps the text and the spans of a tree in step. -/
inductive TreePass where
  | mergeText
  | trimTokens

/-- The changed tree with the number of changes, for each of the passes on syntax trees. -/
def TreePass.apply : TreePass → Tree → Tree × Nat
  | mergeText, t => t.mergeText
  | trimTokens, t => t.trimTokens

namespace Tree

variable {file : Nat} {content : Text} {t : Tree}

def after (t : Tree) (passes : List TreePass) : Tree :=
  passes.foldl (fun t pass => (pass.apply t).1) t

/-- The tokens of all directives in the order of the text. -/
def tokens (t : Tree) : List DirectiveToken := tokensAll t.body

theorem apply_aligned (aligned : AllAligned file content t.body) (pass : TreePass) :
    AllAligned file content (pass.apply t).1.body := by
  cases pass with
  | mergeText => exact aligned.mergeAll
  | trimTokens => exact aligned.trimAll

theorem after_aligned (passes : List TreePass) :
    ∀ {t : Tree}, AllAligned file content t.body → AllAligned file content (t.after passes).body := by
  induction passes with
  | nil => exact id
  | cons pass passes ih => exact fun aligned => ih (apply_aligned aligned pass)

theorem mergeText_mergeText (aligned : AllAligned file content t.body) :
    t.mergeText.1.mergeText = (t.mergeText.1, 0) := by
  unfold mergeText
  rw [mergeAll_mergeAll aligned]

theorem trimTokens_trimTokens (t : Tree) : t.trimTokens.1.trimTokens = (t.trimTokens.1, 0) := by
  unfold trimTokens
  rw [trimAll_trimAll]

theorem size_mergeText (t : Tree) : t.mergeText.1.size + t.mergeText.2 = t.size := by
  have fewer := sizeAll_mergeAll t.body
  simp only [size, mergeText]
  omega

theorem tokens_trimTokens (t : Tree) : t.trimTokens.1.tokens = t.tokens.map trimmedToken :=
  tokensAll_trimAll t.body

/-- The two passes make the same tree and the same numbers of changes in either order. -/
theorem trimTokens_mergeText (t : Tree) :
    t.mergeText.1.trimTokens = (t.trimTokens.1.mergeText.1, t.trimTokens.2) := by
  have same := mergeAll_trimAll t.body
  have many : (trimAll (mergeAll t.body).1).2 = (trimAll t.body).2 := by
    rw [count_trimAll, count_trimAll, tokensAll, directivesAll_mergeAll, tokensAll]
  simp only [mergeText, trimTokens, same, many]

theorem removed_trimTokens (t : Tree) : t.trimTokens.1.mergeText.2 = t.mergeText.2 := by
  have before := sizeAll_mergeAll t.body
  have after := sizeAll_mergeAll (trimAll t.body).1
  rw [mergeAll_trimAll, sizeAll_trimAll, sizeAll_trimAll] at after
  change (mergeAll (trimAll t.body).1).2 = (mergeAll t.body).2
  omega

end Tree

/-- After any sequence of passes over a parsed file, texts and tokens say what their spans cover.
Merging that tree leaves no texts side by side and counts the nodes that disappear; trimming it
leaves no blank at the ends of tokens and counts the tokens whose content changes.  Doing one of
the two again changes nothing, and they can be done in either order. -/
theorem passes_keep_step (file : SourceFile) (options : ParserOptions) (passes : List TreePass) :
    let tree := (parse file options).after passes
    let merged := tree.mergeText
    let trimmed := tree.trimTokens
    (∀ n ∈ tree.body, n.Every (Node.InStep file.id file.content))
      ∧ (AllApart merged.1.body ∧ merged.1.size + merged.2 = tree.size)
      ∧ (trimmed.1.tokens.length = tree.tokens.length
        ∧ trimmed.2 = (tree.tokens.zip trimmed.1.tokens).countP (fun (t, u) => t.content != u.content)
        ∧ ∀ t ∈ trimmed.1.tokens, ∀ b, t.content.head? = some b ∨ t.content.getLast? = some b →
          b ∉ ([0x20, 0x09, 0x0D, 0x0A] : List UInt8))
      ∧ (merged.1.mergeText = (merged.1, 0) ∧ trimmed.1.trimTokens = (trimmed.1, 0))
      ∧ merged.1.trimTokens = (trimmed.1.mergeText.1, trimmed.2)
      ∧ trimmed.1.mergeText.2 = merged.2 := by
  intro tree merged trimmed
  have aligned : AllAligned file.id file.content tree.body :=
    Tree.after_aligned passes (parse_aligned file options)
  refine ⟨?inStep, ⟨mergeAll_apart aligned.consecutive aligned.every, Tree.size_mergeText tree⟩,
    ?trimming, ⟨Tree.mergeText_mergeText aligned, Tree.trimTokens_trimTokens tree⟩,
    Tree.trimTokens_mergeText tree, Tree.removed_trimTokens tree⟩
  case inStep => exact fun n member => (aligned.every n member).imp fun _ k => k.inStep
  case trimming =>
    have tokens : trimmed.1.tokens = tree.tokens.map trimmedToken := Tree.tokens_trimTokens tree
    rw [tokens]
    refine ⟨List.length_map trimmedToken, ?_, ?_⟩
    · exact (count_trimAll tree.body).trans (countTrimmed_eq tree.tokens)
    · intro u member b
      rcases List.mem_map.mp member with ⟨t, -, rfl⟩
      exact not_blank_trimmedToken

end Syntax

end TemplateCompiler
