import TemplateCompiler.Proofs.DirectiveEnds
import TemplateCompiler.Proofs.FileScopedDirectives
import TemplateCompiler.Proofs.SpanBounds

/-!
# Directives match their descriptors

What a directive without findings is known to be, so that what reads its tokens has not to look
whether they are there.  Its tokens are those of the first slots of its descriptor, with all that are
required among them; they lead from the keyword to the end of the tokens with only spaces and tabs
before each.  Behind them a directive on a line leaves nothing on it but spaces, tabs and a
semicolon, and any other directive has a block that ends where the directive does.

Each reader of tokens takes at least one byte, which makes tokens nonempty.  The rest is an induction
on the slots and a case for each thing that becomes of a directive once its tokens were read.
-/

namespace TemplateCompiler

namespace Text

theorem dropEndWhile_ne_nil {t : Text} {p : UInt8 → Bool} {b : UInt8} (member : b ∈ t)
    (kept : p b = false) : t.dropEndWhile p ≠ [] := by
  intro none
  have dropped : t.reverse.dropWhile p = [] := List.reverse_eq_nil_iff.mp none
  have all : t.reverse.all p = true := by
    rw [← List.takeWhile_append_dropWhile (p := p) (l := t.reverse), dropped, List.append_nil]
    exact List.all_takeWhile
  rw [List.all_eq_true.mp all b (List.mem_reverse.mpr member)] at kept
  cases kept

theorem slice_drop (t : Text) (offset start stop : Nat) :
    Text.slice (t.drop offset) start stop = t.slice (offset + start) (offset + stop) := by
  rw [slice, slice, List.drop_drop, Nat.add_sub_add_left]

theorem slice_append_drop (t : Text) {start stop : Nat} (ordered : start ≤ stop) :
    t.slice start stop ++ t.drop stop = t.drop start := by
  have rest : t.drop stop = (t.drop start).drop (stop - start) := by
    rw [List.drop_drop, Nat.add_sub_cancel' ordered]
  rw [slice, rest, List.take_append_drop]

end Text

namespace Syntax

/-! ## Tokens take something -/

namespace TokenScan

theorem nonEmpty_pos {n m : Nat} (read : nonEmpty n = .ok m) : 0 < m := by
  unfold nonEmpty at read
  split at read
  · cases read
  · next positive =>
    cases read
    exact Nat.pos_of_ne_zero fun zero => positive (beq_iff_eq.mpr zero)

/-- A word at the front of a text starts with its first byte. -/
theorem head?_of_take {t word : Text} {b : UInt8} {n : Nat} (same : t.take n = b :: word) :
    0 < n ∧ t.head? = some b := by
  cases n with
  | zero => cases same
  | succ n =>
    cases t with
    | nil => cases same
    | cons c t =>
      cases same
      exact ⟨Nat.succ_pos n, rfl⟩

theorem string_pos {kind : DirectiveKind} {t : Text} {n : Nat} (read : string kind t = .ok n) :
    0 < n := by
  unfold string at read
  split at read
  · next quoted =>
    dsimp only at read
    split at read
    · cases read
    · cases read
      cases t with
      | nil => cases quoted
      | cons b t =>
        rw [Scan.literal]
        omega
  · exact nonEmpty_pos read

/-- The rest of a line is not empty if a letter stands at its front. -/
theorem lineRest_pos {kind : DirectiveKind} {t : Text} {b : UInt8} (first : t.head? = some b)
    (letter : Scan.isLetter b = true) : 0 < lineRest kind t := by
  cases t with
  | nil => cases first
  | cons c t =>
    cases first
    have feed : b ≠ 0x0A := by
      rintro rfl
      cases letter
    have brace : b ≠ 0x7B := by
      rintro rfl
      cases letter
    have kept : (Scan.isHorizontalSpace b || b == ';'.toUInt8) = false := by
      apply Bool.eq_false_iff.mpr
      intro dropped
      simp only [Scan.isHorizontalSpace, Bool.or_eq_true, beq_iff_eq] at dropped
      rcases dropped with (rfl | rfl) | rfl <;> cases letter
    have onLine : b ∈ (b :: t).take (Scan.line (b :: t)) := by
      simp [Scan.line, Scan.take_run, feed]
    have before : b ∈ ((b :: t).take (Scan.line (b :: t))).takeWhile (· != 0x7B) := by
      simp [Scan.line, Scan.take_run, feed, brace]
    unfold lineRest
    dsimp only
    apply List.length_pos_iff.mpr
    split
    · exact Text.dropEndWhile_ne_nil onLine kept
    · exact Text.dropEndWhile_ne_nil before kept

theorem token_pos {slot : DirectiveTokenKind} {kind : DirectiveKind} {t : Text} {n : Nat}
    (read : token slot kind t = .ok n) : 0 < n := by
  unfold token at read
  split at read
  · exact nonEmpty_pos read
  · exact nonEmpty_pos read
  · exact nonEmpty_pos read
  · exact string_pos read
  · split at read
    · cases read
    · split at read
      · cases read
        exact Nat.succ_pos _
      · cases read
  · dsimp only at read
    split at read
    · next word =>
      cases read
      rw [Bool.or_eq_true] at word
      rcases word with yes | no
      · exact (head?_of_take (eq_of_beq yes)).1
      · exact (head?_of_take (eq_of_beq no)).1
    · cases read
  · dsimp only at read
    split at read
    · next word =>
      cases read
      exact lineRest_pos (head?_of_take (eq_of_beq word)).2 rfl
    · cases read
  · split at read
    · split at read
      · cases read
        exact Nat.succ_pos _
      · cases read
    · exact nonEmpty_pos read

end TokenScan

/-! ## Paths of tokens -/

/-- Tokens that lead from one offset to another: each says what its span covers, is not empty, and
has only spaces and tabs before it. -/
inductive TokenPath (content : Text) : Nat → List DirectiveToken → Nat → Prop
  | nil {offset : Nat} : TokenPath content offset [] offset
  | cons {offset stop : Nat} {t : DirectiveToken} {ts : List DirectiveToken}
      (ordered : offset ≤ t.span.start)
      (spaced : (content.slice offset t.span.start).all Scan.isHorizontalSpace = true)
      (nonempty : t.content ≠ []) (length : t.span.stop = t.span.start + t.content.length)
      (written : t.content = content.slice t.span.start t.span.stop)
      (behind : TokenPath content t.span.stop ts stop) : TokenPath content offset (t :: ts) stop

theorem TokenPath.stop_eq {content : Text} {offset stop : Nat} {ts : List DirectiveToken}
    (path : TokenPath content offset ts stop) :
    (ts.getLast?.map fun t => t.span.stop).getD offset = stop := by
  induction path with
  | nil => rfl
  | @cons offset stop t ts _ _ _ _ _ _ ih =>
    rw [← ih, List.getLast?_cons]
    cases ts.getLast? <;> rfl

namespace Reading

/-- The tokens that were read are those of the first slots, with all that are required among them,
and only spaces and tabs were passed behind the last one. -/
structure TokensReading.Matched (content : Text) (slots : List DirectiveSlot) (offset : Nat)
    (read : TokensReading) : Prop where
  inOrder : read.tokens.map DirectiveToken.slot <+: slots
  required : (slots.takeWhile fun slot => !slot.optional).length ≤ read.tokens.length
  path : ∃ stop, TokenPath content offset read.tokens stop ∧ stop ≤ offset + read.length
    ∧ (content.slice stop (offset + read.length)).all Scan.isHorizontalSpace = true

namespace TokensReading

variable {content t : Text} {offset gap : Nat} {slot : DirectiveSlot} {slots : List DirectiveSlot}

/-- No token was read, and the slots begin with an optional one. -/
theorem Matched.stopped (optional : slot.optional = true)
    (spaced : (content.slice offset (offset + gap)).all Scan.isHorizontalSpace = true) :
    Matched content (slot :: slots) offset { length := gap, isComplete := true } := by
  refine ⟨List.nil_prefix, ?_, offset, .nil, Nat.le_add_right _ _, spaced⟩
  rw [List.takeWhile_cons_of_neg (by simp [optional])]
  exact Nat.le_refl _

/-- A token stands in front of those of the other slots. -/
theorem Matched.cons {r : Reading} {n : Nat} {behind : TokensReading}
    (ahead : content.drop (offset + gap) = t)
    (spaced : (content.slice offset (offset + gap)).all Scan.isHorizontalSpace = true)
    (positive : 0 < n) (inside : n ≤ t.length)
    (rest : Matched content slots (offset + gap + n) behind) :
    Matched content (slot :: slots) offset
      { behind with
        tokens := ⟨slot, t.take n, r.span (offset + gap) (offset + gap + n)⟩ :: behind.tokens
        length := gap + n + behind.length } := by
  rcases rest with ⟨prefixed, required, stop, path, before, spacedBehind⟩
  have taken : (t.take n).length = n := by
    rw [List.length_take]
    exact Nat.min_eq_left inside
  have total : offset + (gap + n + behind.length) = offset + gap + n + behind.length := by omega
  refine ⟨(List.prefix_cons_inj slot).mpr prefixed, ?_, stop, ?_, total ▸ before,
    total ▸ spacedBehind⟩
  · rw [List.length_cons, List.takeWhile_cons]
    split
    · exact Nat.succ_le_succ required
    · exact Nat.zero_le _
  · refine .cons (Nat.le_add_right _ _) spaced (List.length_pos_iff.mp ?_) ?_ ?_ path
    · rw [taken]
      exact positive
    · exact congrArg (offset + gap + ·) taken.symm
    · rw [← ahead]
      exact Text.take_drop_eq_slice content (offset + gap) n

end TokensReading

theorem tokens_matched (r : Reading) (d : DirectiveDescriptor) (content : Text)
    (slots : List DirectiveSlot) :
    ∀ {offset : Nat} {t : Text}, content.drop offset = t →
      (r.tokens d slots offset t).isComplete = true →
        (r.tokens d slots offset t).Matched content slots offset := by
  induction slots with
  | nil =>
    intro offset t _ _
    refine ⟨List.nil_prefix, Nat.le_refl _, offset, .nil, Nat.le_add_right _ _, ?_⟩
    change (content.slice offset (offset + 0)).all _ = true
    simp [Text.slice]
  | cons slot slots ih =>
    intro offset t ahead
    have spaced : (content.slice offset (offset + Scan.run Scan.isHorizontalSpace t)).all
        Scan.isHorizontalSpace = true := by
      rw [← Text.take_drop_eq_slice, ahead]
      exact Scan.all_take_run _ t
    unfold tokens
    dsimp only
    split
    · split
      · next optional => exact fun _ => .stopped optional spaced
      · intro incomplete
        cases incomplete
    split
    · intro incomplete
      cases incomplete
    · next n read =>
      intro complete
      have aheadGap : content.drop (offset + Scan.run Scan.isHorizontalSpace t) =
          t.drop (Scan.run Scan.isHorizontalSpace t) := by
        rw [← ahead, List.drop_drop]
      refine .cons aheadGap spaced (TokenScan.token_pos read) (TokenScan.token_le_length read)
        (ih ?_ complete)
      rw [← aheadGap, List.drop_drop]

end Reading

/-! ## What follows the tokens -/

/-- Before its line break, a carriage return or its end, a text has only spaces, tabs and at most
one semicolon. -/
def EndsLine (t : Text) : Prop :=
  ∃ before mark after rest : Text, t = before ++ mark ++ after ++ rest
    ∧ before.all Scan.isHorizontalSpace = true ∧ (mark = [] ∨ mark = ";")
    ∧ after.all Scan.isHorizontalSpace = true ∧ ∀ b, rest.head? = some b → b = 0x0A ∨ b = 0x0D

theorem EndsLine.append {t gap : Text} (spaced : gap.all Scan.isHorizontalSpace = true)
    (ends : EndsLine t) : EndsLine (gap ++ t) := by
  rcases ends with ⟨before, mark, after, rest, rfl, blank, single, behind, ended⟩
  refine ⟨gap ++ before, mark, after, rest, ?_, ?_, single, behind, ended⟩
  · simp only [List.append_assoc]
  · rw [List.all_append, spaced, blank]
    rfl

namespace Reading

/-- Without a finding about the end of a directive's line, the line ends there: what is left behind
the spaces and the semicolon is reported otherwise. -/
theorem endsLine_of_lineEnding {r : Reading} {keyword : Text} {offset : Nat} {t : Text}
    (clean : (r.lineEnding keyword offset t).2 = []) : EndsLine t := by
  have first := Scan.all_take_run Scan.isHorizontalSpace t
  have front := (List.take_append_drop (Scan.run Scan.isHorizontalSpace t) t).symm
  unfold lineEnding at clean
  dsimp only at clean
  generalize Scan.run Scan.isHorizontalSpace t = gap at first front clean
  have ended : ∀ {rest : Text} {found : Diagnostic},
      (if (if Scan.startsWithByte (fun b => b != 0x0A && b != 0x0D) rest then Scan.line rest
        else 0) == 0 then [] else [found]) = [] → ∀ b, rest.head? = some b → b = 0x0A ∨ b = 0x0D := by
    intro rest found none b next
    cases rest with
    | nil => cases next
    | cons c rest =>
      cases next
      apply Decidable.byContradiction
      intro other
      rw [not_or] at other
      have more : Scan.startsWithByte (fun b => b != 0x0A && b != 0x0D) (b :: rest) = true := by
        simpa [Scan.startsWithByte] using other
      have positive : (Scan.line (b :: rest) == 0) = false := by
        rw [Scan.line, Scan.run, List.takeWhile_cons_of_pos (by simpa using other.1)]
        rfl
      rw [if_pos more, positive] at none
      cases none
  split at clean
  · next mark =>
    have second := Scan.all_take_run Scan.isHorizontalSpace (t.drop (gap + 1))
    generalize Scan.run Scan.isHorizontalSpace (t.drop (gap + 1)) = behind at second clean
    have marked : t.drop gap = ";" ++ t.drop (gap + 1) := by
      rcases List.head?_eq_some_iff.mp (beq_iff_eq.mp mark) with ⟨rest, same⟩
      rw [← List.drop_drop, same]
      rfl
    have halves : (t.drop (gap + 1)).take behind ++ t.drop (gap + 1 + behind)
        = t.drop (gap + 1) := by
      rw [← List.drop_drop (i := behind) (j := gap + 1), List.take_append_drop]
    refine ⟨t.take gap, ";", (t.drop (gap + 1)).take behind, t.drop (gap + 1 + behind), ?_, first,
      .inr rfl, second, ended clean⟩
    rw [List.append_assoc, List.append_assoc, halves, ← marked]
    exact front
  · refine ⟨t.take gap, [], [], t.drop gap, ?_, first, .inl rfl, rfl, ended clean⟩
    simp

/-- What follows the tokens of a directive, if there is nothing to find fault with. -/
inductive CleanBody (d : DirectiveDescriptor) (t : Text) : Nat → Text → Prop
  | line {n : Nat} {code : Text} (kind : d.kind = .singleLine) (ends : EndsLine t) :
      CleanBody d t n code
  | code {k : Nat} (kind : d.kind = .codeBlock) (opens : t[Scan.blank t]? = some 0x7B)
      (closes : t[Scan.blank t + k]? = some 0x7D) (apart : 0 < k) :
      CleanBody d t (Scan.blank t + k + 1) (t.slice (Scan.blank t + 1) (Scan.blank t + k))

theorem cleanBody_of_done {r : Reading} {d : DirectiveDescriptor} {offset n : Nat} {t code : Text}
    (done : r.directiveBody d offset t = .done n code []) : CleanBody d t n code := by
  unfold directiveBody at done
  split at done
  · next line =>
    injection done with _ _ clean
    exact .line (eq_of_beq line) (endsLine_of_lineEnding clean)
  · dsimp only at done
    split at done
    · cases done
    next present =>
    have opens : t[Scan.blank t]? = some 0x7B := by
      rw [bne_iff_ne, List.head?_drop] at present
      exact Decidable.not_not.mp present
    split at done
    · cases done
    next coded =>
    have kind : d.kind = .codeBlock := by
      rw [bne_iff_ne] at coded
      exact Decidable.not_not.mp coded
    split at done
    · next k closed =>
      have closes := Scan.getElem?_of_closingFrom closed
      rw [List.getElem?_drop] at closes
      have apart : 0 < k := by
        apply Nat.pos_of_ne_zero
        rintro rfl
        rw [Nat.add_zero, opens] at closes
        cases closes
      cases done
      rw [Text.slice_drop]
      exact .code kind opens closes apart
    · cases done

end Reading

/-! ## Directives without findings -/

namespace DirectiveHead

/-- The tokens of a directive that starts at an offset are those of the first slots of its
descriptor, with all that are required among them, and lead from its keyword to their end. -/
structure TokensMatch (content : Text) (start : Nat) (head : DirectiveHead) : Prop where
  required : head.descriptor.requiredSlots ≤ head.tokens.length
  count : head.tokens.length ≤ head.descriptor.slots.length
  slot : ∀ (i : Nat) (t : DirectiveToken), head.tokens[i]? = some t →
    head.descriptor.slots[i]? = some t.slot
  path : TokenPath content (start + 1 + head.keyword.length) head.tokens (head.tokensStop start)

/-- The block of a directive opens with the first byte behind the tokens that is no white space, and
its end is that of the directive.  Code is what is between the braces. -/
structure HasBlock (content : Text) (span : Span) (head : DirectiveHead) : Prop where
  opens : content[head.bodyStart content span.start]? = some 0x7B
  closes : content[span.stop - 1]? = some 0x7D
  ordered : head.bodyStart content span.start < span.stop - 1
  code : head.descriptor.kind = .codeBlock →
    head.code = content.slice (head.bodyStart content span.start + 1) (span.stop - 1)

/-- A directive is what its descriptor says: its tokens fill the slots in order and stand behind the
keyword, and a line end or a block follows them as the shape of its body asks for. -/
structure Matches (content : Text) (span : Span) (head : DirectiveHead) : Prop where
  tokens : head.TokensMatch content span.start
  inside : head.tokensStop span.start ≤ span.stop
  line : head.descriptor.kind = .singleLine → EndsLine (content.drop (head.tokensStop span.start))
  block : head.descriptor.kind ≠ .singleLine → head.HasBlock content span

end DirectiveHead

section Reads

variable {g : Grammar} {offset : Nat} {t content : Text} {d : DirectiveDescriptor} {span : Span}
  {head : DirectiveHead}

theorem readTokens_ahead (ahead : content.drop offset = t) (d : DirectiveDescriptor) :
    content.drop (offset + (1 + d.keyword.length)) = t.drop (1 + d.keyword.length) := by
  rw [← ahead, List.drop_drop]

theorem readTokens_sound (ahead : content.drop offset = t) (d : DirectiveDescriptor) :
    (readTokens g offset t d).Sound g.toReading content (offset + (1 + d.keyword.length))
      (t.drop (1 + d.keyword.length)) :=
  g.toReading.tokens_sound d content d.slots _ _ (readTokens_ahead ahead d)

/-- Tokens that were all read are those of a directive, with spaces and tabs behind them. -/
theorem tokensMatch_of_complete (ahead : content.drop offset = t)
    (complete : (readTokens g offset t d).isComplete = true) (descriptor : head.descriptor = d)
    (tokens : head.tokens = (readTokens g offset t d).tokens) :
    head.TokensMatch content offset ∧ head.tokensStop offset ≤ offset + readLength g offset t d
      ∧ (content.slice (head.tokensStop offset) (offset + readLength g offset t d)).all
        Scan.isHorizontalSpace = true := by
  subst descriptor
  have matched := g.toReading.tokens_matched head.descriptor content _
    (readTokens_ahead ahead head.descriptor) complete
  change (readTokens g offset t head.descriptor).Matched _ _ _ at matched
  rcases matched with ⟨inOrder, required, stop, path, before, behind⟩
  rw [← tokens] at inOrder required path
  rw [← Nat.add_assoc] at path
  have place : offset + (1 + head.descriptor.keyword.length)
      + (readTokens g offset t head.descriptor).length
        = offset + readLength g offset t head.descriptor := Nat.add_assoc ..
  rw [place] at before behind
  have last : head.tokensStop offset = stop := path.stop_eq
  rw [last]
  refine ⟨⟨required, ?_, ?_, last.symm ▸ path⟩, before, behind⟩
  · have shorter := inOrder.length_le
    rwa [List.length_map] at shorter
  · intro i t here
    have slot : (head.tokens.map DirectiveToken.slot)[i]? = some t.slot := by
      rw [List.getElem?_map, here]
      rfl
    rcases inOrder with ⟨others, same⟩
    rw [← same, List.getElem?_append_left (List.getElem?_eq_some_iff.mp slot).1]
    exact slot

/-- The place of the first byte behind the tokens that is no white space. -/
theorem bodyStart_of_complete (ahead : content.drop offset = t)
    (complete : (readTokens g offset t d).isComplete = true) (descriptor : head.descriptor = d)
    (tokens : head.tokens = (readTokens g offset t d).tokens) :
    head.bodyStart content offset = offset + readLength g offset t d
      + Scan.blank (t.drop (readLength g offset t d)) := by
  have sound := readTokens_sound (g := g) ahead d
  rw [← readTokens_ahead ahead d] at sound
  have place := Machine.DirectiveHead.bodyStart_of_tokens descriptor tokens sound complete
  rw [place, ← ahead, List.drop_drop, Nat.add_assoc offset]
  rfl

/-- A directive without findings was read to its end. -/
theorem isComplete_of_clean (ahead : content.drop offset = t) {found : List Diagnostic}
    (clean : found ++ (readTokens g offset t d).diagnostics = []) :
    (readTokens g offset t d).isComplete = true := by
  cases complete : (readTokens g offset t d).isComplete with
  | true => rfl
  | false =>
    have reported := (readTokens_sound ahead d).incomplete complete
    rw [(List.append_eq_nil_iff.mp clean).2] at reported
    cases reported

/-- A block that opens and closes at two bytes. -/
theorem hasBlock_of_bytes {brace closing : Nat}
    (start : head.bodyStart content span.start = brace) (opens : content[brace]? = some 0x7B)
    (closes : content[closing]? = some 0x7D) (ends : span.stop = closing + 1)
    (ordered : brace < closing)
    (code : head.descriptor.kind = .codeBlock → head.code = content.slice (brace + 1) closing) :
    head.HasBlock content span := by
  have last : span.stop - 1 = closing := by rw [ends, Nat.add_sub_cancel]
  subst start last
  exact ⟨opens, closes, ordered, code⟩

/-- A block of markup is closed unless that is reported. -/
theorem hasBlock_of_written {file : Nat} {body : List Node}
    (written : (Node.directive span head body).Written file content)
    (clean : head.diagnostics = []) (markup : head.takesMarkup = true)
    (opens : content[head.bodyStart content span.start]? = some 0x7B) :
    head.HasBlock content span := by
  have read : head.tokensRead = true := by
    rw [DirectiveHead.tokensRead, clean]
    rfl
  have block := written.2
  rw [DirectiveHead.openingBrace?_of_brace markup read opens] at block
  cases block with
  | closed _ closes ends tiled =>
    refine hasBlock_of_bytes rfl opens closes ends (Nat.lt_of_succ_le tiled.le) ?_
    intro kind
    rw [DirectiveHead.takesMarkup, kind, Bool.and_comm] at markup
    cases markup
  | unclosed reported =>
    rw [DirectiveHead.isUnclosed, clean] at reported
    cases reported

theorem drop_readLength (ahead : content.drop offset = t) (d : DirectiveDescriptor) :
    content.drop (offset + readLength g offset t d) = t.drop (readLength g offset t d) := by
  rw [← ahead, List.drop_drop]

section Complete

variable (ahead : content.drop span.start = t)
  (complete : (readTokens g span.start t d).isComplete = true)
  (descriptor : head.descriptor = d) (tokens : head.tokens = (readTokens g span.start t d).tokens)

include ahead complete descriptor tokens

theorem matches_of_block (kind : d.kind ≠ .singleLine) (block : head.HasBlock content span) :
    head.Matches content span := by
  rcases tokensMatch_of_complete ahead complete descriptor tokens with ⟨matched, inside, -⟩
  have start := bodyStart_of_complete ahead complete descriptor tokens
  have ordered := block.ordered
  refine ⟨matched, by omega, fun line => ?_, fun _ => block⟩
  rw [descriptor] at line
  exact absurd line kind

theorem matches_of_clean {n : Nat} {code : Text}
    (body : Reading.CleanBody d (t.drop (readLength g span.start t d)) n code)
    (stops : span.stop = span.start + (readLength g span.start t d + n))
    (coded : head.code = code) : head.Matches content span := by
  have behind := drop_readLength (g := g) ahead d
  cases body with
  | line kind ends =>
    rcases tokensMatch_of_complete ahead complete descriptor tokens with ⟨matched, inside, spaced⟩
    refine ⟨matched, by omega, fun _ => ?_, fun other => ?_⟩
    · rw [← Text.slice_append_drop content inside, behind]
      exact ends.append spaced
    · rw [descriptor] at other
      exact absurd kind other
  | @code k kind opens closes apart =>
    apply matches_of_block ahead complete descriptor tokens (by rw [kind]; nofun)
    have start := bodyStart_of_complete ahead complete descriptor tokens
    rw [← behind, List.getElem?_drop] at opens closes
    rw [← behind] at start stops coded
    refine hasBlock_of_bytes start opens closes (by omega) (by omega) fun _ => ?_
    rw [coded, Text.slice_drop, ← Nat.add_assoc (span.start + _)]

theorem matches_of_markup {file gap : Nat} {body : List Node}
    (opens : readBody g span.start t d = .opens gap)
    (written : (Node.directive span head body).Written file content)
    (clean : head.diagnostics = []) : head.Matches content span := by
  have sound := g.toReading.directiveBody_sound d (span.start + readLength g span.start t d)
    (t.drop (readLength g span.start t d))
  change (readBody g span.start t d).Sound _ _ at sound
  rw [opens] at sound
  rcases sound with ⟨rfl, brace, notLine, notCode⟩
  apply matches_of_block ahead complete descriptor tokens notLine
  have start := bodyStart_of_complete ahead complete descriptor tokens
  apply hasBlock_of_written written clean
  · rw [DirectiveHead.takesMarkup, descriptor, bne_iff_ne.mpr notLine, bne_iff_ne.mpr notCode]
    rfl
  · rw [start, ← drop_readLength ahead d, ← List.getElem?_drop, drop_readLength ahead d]
    exact brace

end Complete

theorem DirectiveRead.matches {file : Nat} {body : List Node}
    (read : DirectiveRead g offset t d span head) (ahead : content.drop offset = t)
    (written : (Node.directive span head body).Written file content)
    (clean : head.diagnostics = []) : head.Matches content span := by
  cases read with
  | stuck nested incomplete =>
    rw [isComplete_of_clean ahead clean] at incomplete
    cases incomplete
  | @done nested n code found complete body =>
    obtain rfl : found = [] := (List.append_eq_nil_iff.mp clean).2
    exact matches_of_clean ahead complete rfl rfl (Reading.cleanBody_of_done body) rfl rfl
  | @block nested gap _ found complete opens starts =>
    subst starts
    exact matches_of_markup ahead complete rfl rfl opens written clean

end Reads

/-! ## Trees -/

/-- Directives are read from the text at their offset. -/
def Permits.ahead (content : Text) : Permits where
  directive _ offset t _ := content.drop offset = t

namespace Node

/-- What a node is expected to be if it is a directive without findings. -/
def IfClean (P : Span → DirectiveHead → Prop) : Node → Prop
  | directive span head _ => head.diagnostics = [] → P span head
  | _ => True

mutual

theorem every_ifClean_of_inner :
    ∀ {n : Node}, n.holdsFileWide = false →
      n.Every (IfClean fun _ head => head.descriptor.usage.isFileScoped = false)
  | .element _ _ _ body, inner => by
    rw [holdsFileWide_element] at inner
    exact .intro _ trivial (allIfClean_of_inner inner)
  | .helper _ _ body, inner => by
    rw [holdsFileWide_helper] at inner
    exact .intro _ trivial (allIfClean_of_inner inner)
  | .directive _ head body, inner => by
    rw [holdsFileWide_directive, Bool.or_eq_false_iff] at inner
    refine .intro _ ?_ (allIfClean_of_inner inner.2)
    intro clean
    have wellFormed : head.isMalformed = false := by
      rw [DirectiveHead.isMalformed, clean]
      rfl
    have outer := inner.1
    rwa [DirectiveHead.isFileWide, wellFormed, Bool.not_false, Bool.and_true] at outer
  | .text .., _ => .intro _ trivial nofun
  | .transition _, _ => .intro _ trivial nofun
  | .markupComment .., _ => .intro _ trivial nofun
  | .comment .., _ => .intro _ trivial nofun
  | .expression .., _ => .intro _ trivial nofun
  | .codeBlock .., _ => .intro _ trivial nofun

theorem allIfClean_of_inner : ∀ {ns : List Node}, ns.any holdsFileWide = false →
    ∀ n ∈ ns, n.Every (IfClean fun _ head => head.descriptor.usage.isFileScoped = false)
  | [], _ => nofun
  | _ :: _, inner => by
    rw [List.any_cons, Bool.or_eq_false_iff] at inner
    exact List.forall_mem_cons.mpr
      ⟨every_ifClean_of_inner inner.1, allIfClean_of_inner inner.2⟩

end

end Node

theorem parse_ahead (file : SourceFile) (options : ParserOptions) :
    ∀ n ∈ (parse file options).body, n.Every (Node.Obeys (.ahead file.content)) := by
  apply parse_obeys file options
  intro m b rest ahead
  exact ⟨fun _ _ _ => trivial, fun _ _ => ahead⟩

/-- A directive without findings matches its descriptor, which is one of those that the parser was
given, wherever in the tree it stands.  Inside of another node it is not one for the whole file. -/
theorem parse_directives_match (file : SourceFile) (options : ParserOptions) :
    (∀ n ∈ (parse file options).body, n.Every (Node.IfClean fun span head =>
      head.descriptor ∈ options.directives ∧ head.Matches file.content span))
    ∧ ∀ n ∈ (parse file options).body, ∀ child ∈ n.body,
        child.Every (Node.IfClean fun _ head => head.descriptor.usage.isFileScoped = false) := by
  constructor
  · rcases parse_gathered file options with ⟨_, -, faithful, -⟩
    intro n member
    have reads := (faithful n member).and (parse_ahead file options n member)
    refine (reads.and (parse_reported file options n member)).imp ?_
    rintro k ⟨⟨written, obeys⟩, reported⟩
    cases k with
    | directive span head body =>
      intro clean
      rcases obeys with ⟨g, offset, t, d, ahead, read⟩
      exact ⟨reported.registered, read.matches ahead written.written clean⟩
    | _ => trivial
  · intro n member
    exact Node.allIfClean_of_inner (parse_fileWideOutside file options n member)

end Syntax

end TemplateCompiler
