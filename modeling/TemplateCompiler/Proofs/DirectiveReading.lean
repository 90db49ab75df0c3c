import TemplateCompiler.Proofs.DirectiveReports
import TemplateCompiler.Proofs.TagReading

/-!
# Directives are read faithfully

The tokens of a directive are slices of the content, and the reader passes over no more bytes than
there are.  When all tokens were read, the reader stands at the last of them or behind blanks that
follow it, so the brace of a block is the first byte behind the tokens that is no white space.
When a token was missing or had the wrong shape, a finding says so.
-/

namespace TemplateCompiler

/-! ## Tokens -/

namespace Scan

/-- Behind some of its leading white space a text has the rest of it. -/
theorem blank_eq_run_add_blank (t : Text) :
    blank t = run isHorizontalSpace t + blank (t.drop (run isHorizontalSpace t)) := by
  induction t with
  | nil => rfl
  | cons b t ih =>
    by_cases horizontal : isHorizontalSpace b = true
    · have space : isSpace b = true := by
        rw [isHorizontalSpace, Bool.or_eq_true] at horizontal
        rw [isSpace]
        rcases horizontal with isBlank | isTab
        · simp only [isBlank, Bool.true_or]
        · simp only [isTab, Bool.true_or, Bool.or_true]
      have first : blank (b :: t) = blank t + 1 := by
        rw [blank, run, List.takeWhile_cons, if_pos space, List.length_cons]
        rfl
      have second : run isHorizontalSpace (b :: t) = run isHorizontalSpace t + 1 := by
        rw [run, List.takeWhile_cons, if_pos horizontal, List.length_cons]
        rfl
      rw [first, second, List.drop_succ_cons, ih]
      omega
    · have none : run isHorizontalSpace (b :: t) = 0 := by
        rw [run, List.takeWhile_cons, if_neg horizontal, List.length_nil]
      rw [none, Nat.zero_add, List.drop_zero]

theorem literalRest_le_length (quote : UInt8) (t : Text) :
    ∀ escaped, literalRest quote escaped t ≤ t.length := by
  induction t with
  | nil =>
    intro escaped
    cases escaped <;> exact Nat.le_refl _
  | cons b t ih =>
    intro escaped
    have plain := ih false
    have behind := ih true
    rw [List.length_cons]
    cases escaped with
    | true =>
      rw [literalRest]
      omega
    | false =>
      rw [literalRest]
      split
      · omega
      split
      · omega
      split <;> omega

theorem literal_le_length (t : Text) : literal t ≤ t.length := by
  cases t with
  | nil => exact Nat.le_refl _
  | cons quote rest =>
    have bound := literalRest_le_length quote rest false
    rw [literal, List.length_cons]
    omega

end Scan

namespace Syntax

namespace TokenScan

theorem nameTail_addsUp : Scan.AddsUp nameTail where
  nil skip := by cases skip <;> rfl
  passed _ _ _ := rfl
  looked b t := by
    rw [nameTail]
    split
    · exact .inr ⟨_, rfl⟩
    · exact .inl rfl

theorem qualifiedName_le_length (t : Text) : qualifiedName t ≤ t.length := by
  have first := Scan.identifier_le_length t
  have rest := nameTail_addsUp.le_length (t.drop (Scan.identifier t)) 0
  rw [List.length_drop] at rest
  rw [qualifiedName]
  split <;> omega

theorem typeTail_le_length (t : Text) :
    ∀ {depth n : Nat}, typeTail depth t = some n → n ≤ t.length := by
  induction t with
  | nil =>
    intro depth n found
    rw [typeTail] at found
    split at found
    · cases found
      exact Nat.le_refl _
    · cases found
  | cons b t ih =>
    have behind : ∀ {depth n : Nat}, (typeTail depth t).map (· + 1) = some n →
        n ≤ (b :: t).length := by
      intro depth n found
      rcases Option.map_eq_some_iff.mp found with ⟨k, foundBehind, rfl⟩
      exact Nat.succ_le_succ (ih foundBehind)
    have here : ∀ {n : Nat}, some 0 = some n → n ≤ (b :: t).length := by
      intro n found
      cases found
      exact Nat.zero_le _
    intro depth n found
    rw [typeTail.eq_def] at found
    dsimp only at found
    split at found
    · split at found
      · exact here found
      · cases found
    split at found
    · exact behind found
    split at found
    · split at found
      · exact here found
      · exact behind found
    split at found
    · exact here found
    · exact behind found

theorem typeName_le_length (t : Text) : typeName t ≤ t.length := by
  rw [typeName]
  split
  · cases found : typeTail 0 t with
    | none => exact Nat.zero_le _
    | some n => exact typeTail_le_length t found
  · exact Nat.zero_le _

theorem namespaceName_le_length (t : Text) : namespaceName t ≤ t.length := by
  have inName := qualifiedName_le_length t
  have inGap := Scan.run_le_length Scan.isHorizontalSpace (t.drop (qualifiedName t))
  rw [List.length_drop] at inGap
  rw [namespaceName]
  dsimp only
  split
  · exact Nat.zero_le _
  generalize qualifiedName t + Scan.run Scan.isHorizontalSpace (t.drop (qualifiedName t)) = j
  split
  · next equals =>
    rw [beq_iff_eq, List.head?_drop] at equals
    have inEquals := (List.getElem?_eq_some_iff.mp equals).1
    have inSecond := Scan.run_le_length Scan.isHorizontalSpace (t.drop (j + 1))
    rw [List.length_drop] at inSecond
    have inType := typeName_le_length
      (t.drop (j + 1 + Scan.run Scan.isHorizontalSpace (t.drop (j + 1))))
    rw [List.length_drop] at inType
    split
    · exact inName
    · omega
  · exact inName

theorem length_dropEndWhile_le (t : Text) (p : UInt8 → Bool) :
    (t.dropEndWhile p).length ≤ t.length := by
  have shorter := (List.dropWhile_sublist p (l := t.reverse)).length_le
  rw [List.length_reverse] at shorter
  rw [Text.dropEndWhile, List.length_reverse]
  exact shorter

theorem lineRest_le_length (kind : DirectiveKind) (t : Text) : lineRest kind t ≤ t.length := by
  have inLine : (t.take (Scan.line t)).length ≤ t.length := by
    rw [List.length_take]
    exact Nat.min_le_right _ _
  rw [lineRest]
  refine Nat.le_trans (length_dropEndWhile_le _ _) ?_
  split
  · exact inLine
  · exact Nat.le_trans (List.takeWhile_sublist _).length_le inLine

theorem nonEmpty_le {n m : Nat} {t : Text} (bound : n ≤ t.length) (read : nonEmpty n = .ok m) :
    m ≤ t.length := by
  rw [nonEmpty] at read
  split at read
  · cases read
  · cases read
    exact bound

theorem string_le_length {kind : DirectiveKind} {t : Text} {n : Nat}
    (read : string kind t = .ok n) : n ≤ t.length := by
  rw [string] at read
  split at read
  · dsimp only at read
    split at read
    · cases read
    · cases read
      exact Scan.literal_le_length t
  · exact nonEmpty_le (lineRest_le_length kind t) read

/-- A token never takes more bytes than there are. -/
theorem token_le_length {slot : DirectiveTokenKind} {kind : DirectiveKind} {t : Text} {n : Nat}
    (read : token slot kind t = .ok n) : n ≤ t.length := by
  rw [token.eq_def] at read
  split at read
  · exact nonEmpty_le (typeName_le_length t) read
  · exact nonEmpty_le (namespaceName_le_length t) read
  · exact nonEmpty_le (Scan.identifier_le_length t) read
  · exact string_le_length read
  · split at read
    · cases read
    · split at read
      · next closed =>
        cases read
        exact Scan.closing?_lt_length closed
      · cases read
  · dsimp only at read
    split at read
    · cases read
      exact Scan.identifier_le_length t
    · cases read
  · dsimp only at read
    split at read
    · cases read
      exact lineRest_le_length kind t
    · cases read
  · split at read
    · split at read
      · next closed =>
        cases read
        exact Scan.closing?_lt_length closed
      · cases read
    · exact nonEmpty_le (qualifiedName_le_length t) read

/-- A token of the wrong shape is reported as such. -/
theorem reportsToken_of_token {slot : DirectiveTokenKind} {kind : DirectiveKind} {t : Text}
    {fault : Fault} (refused : token slot kind t = .error fault) (d : Diagnostic)
    (same : d.code = fault.code) : reportsToken d = true := by
  rw [reportsToken, same]
  rcases code_of_token refused with shape | shape <;> rw [shape] <;> rfl

end TokenScan

namespace Reading

/-- The tokens are slices of the content and stay inside the text.  Either one of them is reported,
or all were read and only blanks stand between the last one and the place that was reached. -/
structure TokensReading.Sound (r : Reading) (content : Text) (offset : Nat) (t : Text)
    (read : TokensReading) : Prop where
  inside : read.length ≤ t.length
  faithful : ∀ token ∈ read.tokens, token.Faithful r.file content
  complete : read.isComplete = true → read.diagnostics = []
    ∧ offset + read.length + Scan.blank (t.drop read.length) =
      let stop := (read.tokens.getLast?.map fun token => token.span.stop).getD offset
      stop + Scan.blank (content.drop stop)
  incomplete : read.isComplete = false → read.diagnostics.any reportsToken = true

namespace TokensReading

variable {r : Reading} {content t : Text} {offset : Nat}

/-- Nothing but spaces and tabs were read, and that is enough. -/
theorem Sound.stopped (ahead : content.drop offset = t) :
    Sound r content offset t
      { length := Scan.run Scan.isHorizontalSpace t, isComplete := true } := by
  refine ⟨Scan.run_le_length _ t, List.forall_mem_nil _, fun _ => ⟨rfl, ?_⟩, nofun⟩
  change offset + Scan.run Scan.isHorizontalSpace t + _ = offset + Scan.blank (content.drop offset)
  rw [ahead, Scan.blank_eq_run_add_blank t, Nat.add_assoc]

/-- A token was expected, and that is reported. -/
theorem Sound.refused {n : Nat} {d : Diagnostic} (inside : n ≤ t.length)
    (reported : reportsToken d = true) :
    Sound r content offset t { length := n, isComplete := false, diagnostics := [d] } := by
  refine ⟨inside, List.forall_mem_nil _, nofun, fun _ => ?_⟩
  rw [List.any_cons, reported, Bool.true_or]

/-- A token stands in front of the others. -/
theorem Sound.cons {gap n : Nat} {slot : DirectiveSlot} {behind : TokensReading}
    (ahead : content.drop offset = t) (inGap : gap ≤ t.length) (inToken : n ≤ (t.drop gap).length)
    (rest : Sound r content (offset + gap + n) ((t.drop gap).drop n) behind) :
    Sound r content offset t
      { behind with
        tokens := ⟨slot, (t.drop gap).take n, r.span (offset + gap) (offset + gap + n)⟩
          :: behind.tokens
        length := gap + n + behind.length } := by
  have aheadGap : content.drop (offset + gap) = t.drop gap := by
    rw [← ahead, List.drop_drop]
  have inRest := rest.inside
  rw [List.length_drop, List.length_drop] at inRest
  refine ⟨?_, ?_, fun complete => ?_, rest.incomplete⟩
  · rw [List.length_drop] at inToken
    change gap + n + behind.length ≤ _
    omega
  · intro token member
    rcases List.mem_cons.mp member with rfl | behindIt
    · have stands : Text.StandsAt content (offset + gap) (t.drop gap) :=
        aheadGap ▸ Text.StandsAt.of_drop content (offset + gap)
      exact ⟨rfl, stands.take_eq_slice inToken⟩
    · exact rest.faithful token behindIt
  · rcases rest.complete complete with ⟨nothing, reached⟩
    refine ⟨nothing, ?_⟩
    have place : gap + n + behind.length = gap + (n + behind.length) := by omega
    have last : ((⟨slot, (t.drop gap).take n, r.span (offset + gap) (offset + gap + n)⟩ ::
          behind.tokens : List DirectiveToken).getLast?.map fun token => token.span.stop).getD
          offset =
        (behind.tokens.getLast?.map fun token => token.span.stop).getD (offset + gap + n) := by
      rw [List.getLast?_cons]
      cases behind.tokens.getLast? <;> rfl
    dsimp only at reached ⊢
    rw [last, ← reached, place, ← List.drop_drop, ← List.drop_drop]
    omega

end TokensReading

theorem tokens_sound (r : Reading) (d : DirectiveDescriptor) (content : Text)
    (slots : List DirectiveSlot) :
    ∀ (offset : Nat) (t : Text), content.drop offset = t →
      (r.tokens d slots offset t).Sound r content offset t := by
  induction slots with
  | nil =>
    intro offset t ahead
    refine ⟨Nat.zero_le _, List.forall_mem_nil _, fun _ => ⟨rfl, ?_⟩, nofun⟩
    change offset + Scan.blank t = offset + Scan.blank (content.drop offset)
    rw [ahead]
  | cons slot slots ih =>
    intro offset t ahead
    have inGap := Scan.run_le_length Scan.isHorizontalSpace t
    rw [tokens]
    dsimp only
    split
    · split
      · exact .stopped ahead
      · exact .refused inGap rfl
    split
    · next fault refused =>
      have inLine := Scan.line_le_length (t.drop (Scan.run Scan.isHorizontalSpace t))
      rw [List.length_drop] at inLine
      exact .refused (by omega) (TokenScan.reportsToken_of_token refused _ rfl)
    · next n read =>
      refine .cons ahead inGap (TokenScan.token_le_length read) (ih _ _ ?_)
      rw [← ahead, List.drop_drop, List.drop_drop, Nat.add_assoc]

/-! ## Bodies -/

theorem lineEnding_le_length (r : Reading) (keyword : Text) (offset : Nat) (t : Text) :
    (r.lineEnding keyword offset t).1 ≤ t.length := by
  rw [lineEnding]
  dsimp only
  generalize gapEq : (if (t.drop (Scan.run Scan.isHorizontalSpace t)).head? == some ';'.toUInt8 then
    Scan.run Scan.isHorizontalSpace t + 1 + Scan.run Scan.isHorizontalSpace
      (t.drop (Scan.run Scan.isHorizontalSpace t + 1))
    else Scan.run Scan.isHorizontalSpace t) = gap
  have inGap : gap ≤ t.length := by
    have first := Scan.run_le_length Scan.isHorizontalSpace t
    rw [← gapEq]
    split
    · next semicolon =>
      rw [beq_iff_eq, List.head?_drop] at semicolon
      have inSemicolon := (List.getElem?_eq_some_iff.mp semicolon).1
      have second := Scan.run_le_length Scan.isHorizontalSpace
        (t.drop (Scan.run Scan.isHorizontalSpace t + 1))
      rw [List.length_drop] at second
      omega
    · exact first
  have inLine := Scan.line_le_length (t.drop gap)
  rw [List.length_drop] at inLine
  generalize trailingEq :
    (if Scan.startsWithByte (fun b => b != 0x0A && b != 0x0D) (t.drop gap) then
      Scan.line (t.drop gap) else 0) = trailing
  have inTrailing : gap + trailing ≤ t.length := by
    rw [← trailingEq]
    split <;> omega
  split
  · next feed =>
    rw [beq_iff_eq, List.head?_drop] at feed
    exact (List.getElem?_eq_some_iff.mp feed).1
  · exact inTrailing

theorem lineEnding_reports_no_token (r : Reading) (keyword : Text) (offset : Nat) (t : Text) :
    (r.lineEnding keyword offset t).2.any reportsToken = false := by
  have single : ∀ (condition : Bool) (d : Diagnostic), reportsToken d = false →
      (if condition then [] else [d]).any reportsToken = false := by
    intro condition d quiet
    cases condition
    · simpa only [Bool.false_eq_true, if_false, List.any_cons, List.any_nil, Bool.or_false]
        using quiet
    · rfl
  exact single _ _ rfl

/-- What follows the tokens is complete inside its text, and a block of markup is missing only if
no brace stands there; or a block opens at a brace. -/
def DirectiveBody.Sound (d : DirectiveDescriptor) (t : Text) : DirectiveBody → Prop
  | .done n _ found => n ≤ t.length ∧ found.any reportsToken = false
      ∧ (d.kind = .singleLine ∨ d.kind = .codeBlock ∨ t[Scan.blank t]? ≠ some 0x7B)
  | .opens gap => gap = Scan.blank t ∧ t[gap]? = some 0x7B
      ∧ d.kind ≠ .singleLine ∧ d.kind ≠ .codeBlock

theorem directiveBody_sound (r : Reading) (d : DirectiveDescriptor) (offset : Nat) (t : Text) :
    (r.directiveBody d offset t).Sound d t := by
  have inGap := Scan.blank_le_length t
  rw [directiveBody]
  split
  · next isLine =>
    exact ⟨lineEnding_le_length r d.keyword offset t,
      lineEnding_reports_no_token r d.keyword offset t, Or.inl (eq_of_beq isLine)⟩
  · next notLine =>
    have notLine : d.kind ≠ .singleLine := by simpa only [beq_iff_eq] using notLine
    dsimp only
    split
    · next missing =>
      rw [bne_iff_ne, List.head?_drop] at missing
      exact ⟨inGap, rfl, Or.inr (Or.inr missing)⟩
    · next present =>
      have brace : t[Scan.blank t]? = some 0x7B := by
        rw [bne_iff_ne, List.head?_drop] at present
        exact Decidable.not_not.mp present
      split
      · next isMarkup => exact ⟨rfl, brace, notLine, bne_iff_ne.mp isMarkup⟩
      · next notMarkup =>
        have isCode : d.kind = .codeBlock := by
          rw [bne_iff_ne] at notMarkup
          exact Decidable.not_not.mp notMarkup
        split
        · next k closed =>
          have inside := Scan.closing?_lt_length closed
          rw [List.length_drop] at inside
          exact ⟨by omega, rfl, Or.inr (Or.inl isCode)⟩
        · exact ⟨Nat.le_refl _, rfl, Or.inr (Or.inl isCode)⟩

end Reading

end Syntax

end TemplateCompiler
