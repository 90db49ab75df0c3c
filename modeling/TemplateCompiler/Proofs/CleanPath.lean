import Mathlib.Data.List.Nodup
import TemplateCompiler.Project.Layout

/-!
# Cleaned paths

Resolving the components of a path leaves settled ones: names, with parent steps only at the front
of a relative path.  Settled components are resolved to themselves, and a path can be taken apart
again into the components it was put together from.  So a cleaned path stays as it is
(`Path.clean_clean`), and the import documents of different directories have different paths
(`Project.importPaths_nodup`).
-/

namespace TemplateCompiler

namespace Text

theorem splitOnByte_ne_nil (b : UInt8) (t : Text) : splitOnByte b t ≠ [] := by
  cases t with
  | nil => exact List.cons_ne_nil _ _
  | cons c t =>
    rw [splitOnByte]
    split
    · exact List.cons_ne_nil _ _
    · split <;> exact List.cons_ne_nil _ _

theorem splitOnByte_self (b : UInt8) (t : Text) : splitOnByte b (b :: t) = [] :: splitOnByte b t := by
  have ne := splitOnByte_ne_nil b t
  rw [splitOnByte]
  cases parts : splitOnByte b t with
  | nil => exact absurd parts ne
  | cons part parts => simp only [beq_self_eq_true, if_true]

theorem splitOnByte_of_ne {b c : UInt8} (other : c ≠ b) {t part : Text} {parts : List Text}
    (rest : splitOnByte b t = part :: parts) : splitOnByte b (c :: t) = (c :: part) :: parts := by
  rw [splitOnByte, rest]
  simp only [beq_eq_false_iff_ne.mpr other, Bool.false_eq_true, if_false]

theorem not_mem_of_mem_splitOnByte {b : UInt8} {t : Text} :
    ∀ part ∈ splitOnByte b t, b ∉ part := by
  induction t with
  | nil =>
    intro part member
    rw [List.mem_singleton.mp member]
    exact List.not_mem_nil
  | cons c t ih =>
    by_cases same : c = b
    · rw [same, splitOnByte_self]
      exact List.forall_mem_cons.mpr ⟨List.not_mem_nil, ih⟩
    · cases parts : splitOnByte b t with
      | nil => exact absurd parts (splitOnByte_ne_nil b t)
      | cons part parts' =>
        rw [parts] at ih
        rw [splitOnByte_of_ne same parts]
        have both := List.forall_mem_cons.mp ih
        refine List.forall_mem_cons.mpr ⟨?_, both.2⟩
        intro member
        rcases List.mem_cons.mp member with rfl | inside
        · exact same rfl
        · exact both.1 inside

/-- A text without the separator in front of a text that starts a new part. -/
theorem splitOnByte_append {b : UInt8} {part t : Text} (free : b ∉ part) :
    splitOnByte b (part ++ b :: t) = part :: splitOnByte b t := by
  induction part with
  | nil => exact splitOnByte_self b t
  | cons c part ih =>
    have other : c ≠ b := fun same => free (same ▸ List.mem_cons_self)
    exact splitOnByte_of_ne other (ih fun member => free (List.mem_cons_of_mem c member))

theorem splitOnByte_of_not_mem {b : UInt8} {part : Text} (free : b ∉ part) :
    splitOnByte b part = [part] := by
  induction part with
  | nil => rfl
  | cons c part ih =>
    have other : c ≠ b := fun same => free (same ▸ List.mem_cons_self)
    exact splitOnByte_of_ne other (ih fun member => free (List.mem_cons_of_mem c member))

theorem splitOnByte_append_separator (b : UInt8) (t u : Text) :
    splitOnByte b (t ++ b :: u) = splitOnByte b t ++ splitOnByte b u := by
  induction t with
  | nil => exact splitOnByte_self b u
  | cons c t ih =>
    cases parts : splitOnByte b t with
    | nil => exact absurd parts (splitOnByte_ne_nil b t)
    | cons part rest =>
      rw [parts] at ih
      rw [List.cons_append, splitOnByte, splitOnByte, ih, parts]
      dsimp only [List.cons_append]
      split <;> rfl

theorem splitOnByte_join {b : UInt8} {parts : List Text} (some : parts ≠ [])
    (free : ∀ part ∈ parts, b ∉ part) : splitOnByte b (join [b] parts) = parts := by
  induction parts with
  | nil => exact absurd rfl some
  | cons part parts ih =>
    have both := List.forall_mem_cons.mp free
    cases parts with
    | nil => exact splitOnByte_of_not_mem both.1
    | cons next parts =>
      rw [join, List.append_assoc]
      · exact (splitOnByte_append both.1).trans
          (congrArg (part :: ·) (ih (List.cons_ne_nil _ _) both.2))
      · exact List.cons_ne_nil _ _

end Text

namespace Path

/-- A component that names something, and is neither empty nor a step to the same directory or to
the one around it. -/
structure Named (c : Text) : Prop where
  ne_empty : c ≠ []
  ne_current : c ≠ "."
  ne_parent : c ≠ ".."

/-- Components, latest first, in which nothing is left to resolve. -/
def Settled (rooted : Bool) : List Text → Prop
  | [] => True
  | c :: kept =>
    (Named c ∧ Settled rooted kept) ∨ (c = ".." ∧ rooted = false ∧ ∀ k ∈ kept, k = "..")

theorem settled_parents {kept : List Text} (parents : ∀ k ∈ kept, k = "..") :
    Settled false kept := by
  cases kept with
  | nil => trivial
  | cons k kept =>
    have both := List.forall_mem_cons.mp parents
    exact .inr ⟨both.1, rfl, both.2⟩

theorem Settled.tail {rooted : Bool} {c : Text} {kept : List Text}
    (settled : Settled rooted (c :: kept)) : Settled rooted kept := by
  rcases settled with ⟨-, rest⟩ | ⟨-, rfl, parents⟩
  · exact rest
  · exact settled_parents parents

theorem Settled.ne_empty {rooted : Bool} {kept : List Text} (settled : Settled rooted kept) :
    ∀ c ∈ kept, c ≠ [] := by
  induction kept with
  | nil => exact fun c none => absurd none List.not_mem_nil
  | cons k kept ih =>
    refine List.forall_mem_cons.mpr ⟨?_, ih settled.tail⟩
    rcases settled with ⟨named, -⟩ | ⟨rfl, -, -⟩
    · exact named.ne_empty
    · decide

theorem Settled.behind {rooted : Bool} {later kept : List Text}
    (settled : Settled rooted (later ++ kept)) : Settled rooted kept := by
  induction later with
  | nil => exact settled
  | cons c later ih => exact ih settled.tail

/-- Resolving leaves settled components.  Behind a parent step only parent steps are kept, so that
another one goes behind them. -/
theorem settled_resolve {rooted : Bool} {kept : List Text} (settled : Settled rooted kept)
    (cs : List Text) : Settled rooted (resolve rooted kept cs).reverse := by
  fun_induction resolve rooted kept cs with
  | case1 kept => rwa [List.reverse_reverse]
  | case2 kept c rest skipped ih => exact ih settled
  | case3 c rest shown parent rooted ih => exact ih trivial
  | case4 c rest shown parent relative ih =>
    exact ih (.inr ⟨eq_of_beq parent, Bool.eq_false_iff.mpr relative,
      fun k none => absurd none List.not_mem_nil⟩)
  | case5 c rest shown parent k ks again ih =>
    rcases settled with ⟨named, -⟩ | ⟨here, relative, parents⟩
    · exact absurd (eq_of_beq again) named.ne_parent
    · exact ih (.inr ⟨eq_of_beq parent, relative, List.forall_mem_cons.mpr ⟨here, parents⟩⟩)
  | case6 c rest shown parent k ks name ih => exact ih settled.tail
  | case7 kept c rest shown name ih =>
    rw [Bool.or_eq_true, not_or] at shown
    exact ih (.inl ⟨⟨fun empty => shown.1 (List.isEmpty_iff.mpr empty),
      fun current => shown.2 (beq_iff_eq.mpr current), fun parent => name (beq_iff_eq.mpr parent)⟩,
      settled⟩)

theorem resolve_cons_of_settled {rooted : Bool} {c : Text} {kept rest : List Text}
    (settled : Settled rooted (c :: kept)) :
    resolve rooted kept (c :: rest) = resolve rooted (c :: kept) rest := by
  rcases settled with ⟨named, -⟩ | ⟨rfl, rfl, parents⟩
  · have shown : ¬(c.isEmpty || c == ".") = true := by
      rw [Bool.or_eq_true, not_or, beq_iff_eq]
      exact ⟨fun empty => named.ne_empty (List.isEmpty_iff.mp empty), named.ne_current⟩
    have name : ¬(c == "..") = true := fun parent => named.ne_parent (eq_of_beq parent)
    rw [resolve.eq_def]
    dsimp only
    rw [if_neg shown, if_neg name]
  · cases kept with
    | nil => rfl
    | cons k kept =>
      cases (List.forall_mem_cons.mp parents).1
      rfl

/-- Settled components are resolved to themselves. -/
theorem resolve_of_settled {rooted : Bool} {cs kept : List Text}
    (settled : Settled rooted (cs.reverse ++ kept)) :
    resolve rooted kept cs = kept.reverse ++ cs := by
  induction cs generalizing kept with
  | nil => rw [resolve, List.append_nil]
  | cons c cs ih =>
    rw [List.reverse_cons, List.append_assoc, List.singleton_append] at settled
    rw [resolve_cons_of_settled settled.behind, ih settled, List.reverse_cons, List.append_assoc,
      List.singleton_append]

theorem mem_of_mem_resolve {rooted : Bool} {kept cs : List Text} :
    ∀ c ∈ resolve rooted kept cs, c ∈ kept ∨ c ∈ cs := by
  fun_induction resolve rooted kept cs with
  | case1 kept => exact fun c member => .inl (List.mem_reverse.mp member)
  | _ => grind

theorem resolve_append (rooted : Bool) (kept cs ds : List Text) :
    resolve rooted kept (cs ++ ds) = resolve rooted (resolve rooted kept cs).reverse ds := by
  fun_induction resolve rooted kept cs with
  | case1 kept => rw [List.nil_append, List.reverse_reverse]
  | case2 kept c rest skipped ih =>
    rw [List.cons_append, resolve.eq_def]
    dsimp only
    rw [if_pos skipped, ih]
  | case3 c rest shown parent isRooted ih =>
    rw [List.cons_append, resolve, if_neg shown, if_pos parent]
    exact (if_pos isRooted).trans ih
  | case4 c rest shown parent relative ih =>
    rw [List.cons_append, resolve, if_neg shown, if_pos parent]
    exact (if_neg relative).trans ih
  | case5 c rest shown parent k ks again ih =>
    rw [List.cons_append, resolve, if_neg shown, if_pos parent]
    exact (if_pos again).trans ih
  | case6 c rest shown parent k ks name ih =>
    rw [List.cons_append, resolve, if_neg shown, if_pos parent]
    exact (if_neg name).trans ih
  | case7 kept c rest shown name ih =>
    rw [List.cons_append, resolve.eq_def]
    dsimp only
    rw [if_neg shown, if_neg name, ih]

/-! ## Paths put together from settled components -/

def assembled (rooted : Bool) (cs : List Text) : Text :=
  let body := Text.join [separator] cs
  if rooted then separator :: body else if body.isEmpty then "." else body

/-- Components that a cleaned path can have: settled ones without separators. -/
structure Clean (rooted : Bool) (cs : List Text) : Prop where
  settled : Settled rooted cs.reverse
  free : ∀ c ∈ cs, separator ∉ c

theorem Clean.ne_empty {rooted : Bool} {cs : List Text} (clean : Clean rooted cs) :
    ∀ c ∈ cs, c ≠ [] :=
  fun c member => clean.settled.ne_empty c (List.mem_reverse.mpr member)

theorem Clean.take {rooted : Bool} {cs : List Text} (clean : Clean rooted cs) (n : Nat) :
    Clean rooted (cs.take n) where
  settled := by
    have whole := clean.settled
    rw [← List.take_append_drop n cs, List.reverse_append] at whole
    exact whole.behind
  free := fun c member => clean.free c (List.mem_of_mem_take member)

theorem Clean.snoc {rooted : Bool} {cs : List Text} (clean : Clean rooted cs) {c : Text}
    (named : Named c) (free : separator ∉ c) : Clean rooted (cs ++ [c]) where
  settled := by
    rw [List.reverse_append]
    exact .inl ⟨named, clean.settled⟩
  free := List.forall_mem_append.mpr ⟨clean.free, List.forall_mem_singleton.mpr free⟩

/-- The body of a path starts with the first byte of its first component. -/
theorem join_eq_cons (b : UInt8) (c : Text) (cs : List Text) :
    ∃ t, Text.join [separator] ((b :: c) :: cs) = b :: t := by
  cases cs with
  | nil => exact ⟨c, rfl⟩
  | cons next cs => exact ⟨_, rfl⟩

/-- The components of an assembled path: an empty one in front if it is rooted, and a placeholder if
there are none. -/
theorem components_assembled {rooted : Bool} {cs : List Text} (clean : Clean rooted cs) :
    isRooted (assembled rooted cs) = rooted ∧ components (assembled rooted cs) =
      (if rooted then [[]] else []) ++
        (if cs.isEmpty then [if rooted then [] else "."] else cs) := by
  rcases cs with _ | ⟨_ | ⟨b, c⟩, rest⟩
  · cases rooted <;> decide
  · exact absurd rfl (clean.ne_empty [] List.mem_cons_self)
  · have parts := Text.splitOnByte_join (List.cons_ne_nil _ _) clean.free
    obtain ⟨t, body⟩ := join_eq_cons b c rest
    rw [assembled, body]
    rw [body] at parts
    cases rooted with
    | true =>
      refine ⟨rfl, ?_⟩
      exact (Text.splitOnByte_self separator (b :: t)).trans (congrArg ([] :: ·) parts)
    | false =>
      have other : b ≠ separator :=
        fun equal => clean.free (b :: c) List.mem_cons_self (equal ▸ List.mem_cons_self)
      refine ⟨?_, parts⟩
      change (some b == some separator) = false
      rw [beq_eq_false_iff_ne]
      exact fun equal => other (Option.some.inj equal)

/-- The components of a path after cleaning, which leads to the same place without any detour. -/
def cleaned (p : Text) : List Text := resolve (isRooted p) [] (components p)

theorem clean_eq (p : Text) : clean p = assembled (isRooted p) (cleaned p) := rfl

theorem clean_cleaned (p : Text) : Clean (isRooted p) (cleaned p) where
  settled := settled_resolve (show Settled (isRooted p) [] from trivial) (components p)
  free := by
    intro c member
    rcases mem_of_mem_resolve c member with none | written
    · exact absurd none List.not_mem_nil
    · exact Text.not_mem_of_mem_splitOnByte c written

theorem isRooted_assembled {rooted : Bool} {cs : List Text} (clean : Clean rooted cs) :
    isRooted (assembled rooted cs) = rooted := (components_assembled clean).1

theorem cleaned_assembled {rooted : Bool} {cs : List Text} (clean : Clean rooted cs) :
    cleaned (assembled rooted cs) = cs := by
  have settled : resolve rooted [] cs = cs :=
    resolve_of_settled (by rw [List.append_nil]; exact clean.settled)
  rw [cleaned, isRooted_assembled clean, (components_assembled clean).2]
  cases cs with
  | nil => cases rooted <;> decide
  | cons c cs => cases rooted <;> exact settled

theorem clean_assembled {rooted : Bool} {cs : List Text} (clean : Clean rooted cs) :
    Path.clean (assembled rooted cs) = assembled rooted cs := by
  rw [clean_eq, isRooted_assembled clean, cleaned_assembled clean]

/-- Cleaning a cleaned path changes nothing. -/
theorem clean_clean (p : Text) : clean (clean p) = clean p := by
  rw [clean_eq p, clean_assembled (clean_cleaned p)]

/-- The steps of a cleaned path are its components. -/
theorem steps_assembled {rooted : Bool} {cs : List Text} (clean : Clean rooted cs) :
    steps (assembled rooted cs) = cs := by
  have kept : ∀ {ds : List Text}, Settled rooted ds →
      ∀ c ∈ ds, (!c.isEmpty && c != ".") = true := by
    intro ds settled
    induction ds with
    | nil => exact fun c none => absurd none List.not_mem_nil
    | cons d ds ih =>
      refine List.forall_mem_cons.mpr ⟨?_, ih settled.tail⟩
      rcases settled with ⟨named, -⟩ | ⟨rfl, -, -⟩
      · rw [Bool.and_eq_true, Bool.not_eq_true', List.isEmpty_eq_false_iff, bne_iff_ne]
        exact ⟨named.ne_empty, named.ne_current⟩
      · decide
  have all : cs.filter (fun (c : Text) => !c.isEmpty && c != ".") = cs :=
    List.filter_eq_self.mpr fun c member => kept clean.settled c (List.mem_reverse.mpr member)
  rw [steps, (components_assembled clean).2, List.filter_append]
  cases cs with
  | nil => cases rooted <;> decide
  | cons c cs =>
    cases rooted <;> exact all

theorem assembled_ne_nil (rooted : Bool) (cs : List Text) : assembled rooted cs ≠ [] := by
  cases rooted with
  | true => exact List.cons_ne_nil _ _
  | false =>
    rw [assembled]
    split
    · contradiction
    · split
      · exact List.cons_ne_nil _ _
      · next shown => exact fun empty => shown (by rw [empty]; rfl)

/-- What lies below a cleaned path is resolved from its components. -/
theorem clean_below {rooted : Bool} {cs : List Text} (clean : Clean rooted cs) (t : Text) :
    Path.clean (assembled rooted cs ++ separator :: t) =
      assembled rooted (resolve rooted cs.reverse (components t)) := by
  have root : isRooted (assembled rooted cs ++ separator :: t) = rooted := by
    obtain ⟨b, u, written⟩ := List.exists_cons_of_ne_nil (assembled_ne_nil rooted cs)
    have same := isRooted_assembled clean
    rw [written] at same ⊢
    exact same
  have inside : resolve rooted [] (components (assembled rooted cs)) = cs := by
    have same := cleaned_assembled clean
    rwa [cleaned, isRooted_assembled clean] at same
  rw [clean_eq, cleaned, root, components, Text.splitOnByte_append_separator, resolve_append]
  change assembled rooted (resolve rooted (resolve rooted [] (components _)).reverse _) = _
  rw [inside]
  rfl

/-- A file in a directory. -/
theorem join_assembled {rooted : Bool} {cs : List Text} (clean : Clean rooted cs) {c : Text}
    (named : Named c) (free : separator ∉ c) :
    join [assembled rooted cs, c] = assembled rooted (cs ++ [c]) := by
  have whole :
      join [assembled rooted cs, c] = Path.clean (assembled rooted cs ++ separator :: c) := by
    obtain ⟨b, t, written⟩ := List.exists_cons_of_ne_nil (assembled_ne_nil rooted cs)
    obtain ⟨b', t', name⟩ := List.exists_cons_of_ne_nil named.ne_empty
    have kept : [b :: t, b' :: t'].filter (fun (p : Text) => !p.isEmpty) = [b :: t, b' :: t'] := rfl
    have joined : Text.join [separator] [b :: t, b' :: t'] = b :: t ++ separator :: b' :: t' := by
      rw [Text.join, Text.join, List.append_assoc, List.singleton_append]
      exact List.cons_ne_nil _ _
    rw [written, name, join, kept]
    dsimp only
    rw [joined]
  have last : resolve rooted cs.reverse [c] = cs ++ [c] := by
    rw [resolve_of_settled, List.reverse_reverse]
    exact .inl ⟨named, clean.settled⟩
  rw [whole, clean_below clean, components, Text.splitOnByte_of_not_mem free, last]

end Path

/-! ## Import documents -/

namespace Project

theorem named_importFileName (kind : FileKind) : Path.Named kind.importFileName := by
  rw [FileKind.importFileName]
  split <;> exact ⟨by decide, by decide, by decide⟩

theorem separator_not_mem_importFileName (kind : FileKind) :
    Path.separator ∉ kind.importFileName := by
  rw [FileKind.importFileName]
  split <;> decide

/-- The directories around a name are given by the first components of its own directory. -/
theorem enclosingDirectories_of_dir {name : Text} {rooted : Bool} {cs : List Text}
    (clean : Path.Clean rooted cs) (here : Path.dir name = Path.assembled rooted cs) :
    enclosingDirectories name =
      (List.range (cs.length + 1)).map fun n => Path.assembled rooted (cs.take n) := by
  rw [enclosingDirectories, here, Path.steps_assembled clean, Path.isRooted_assembled clean]
  rfl

/-- An import document lies one component below its directory. -/
theorem importPaths_of_dir {name : Text} (kind : FileKind) {rooted : Bool} {cs : List Text}
    (clean : Path.Clean rooted cs) (here : Path.dir name = Path.assembled rooted cs) :
    importPaths name kind =
      ((List.range (cs.length + 1)).map fun n =>
        Path.assembled rooted (cs.take n ++ [kind.importFileName])).filter (· != name) := by
  rw [importPaths, enclosingDirectories_of_dir clean here, List.map_map]
  simp only [Function.comp_def, Path.join_assembled (clean.take _) (named_importFileName kind)
    (separator_not_mem_importFileName kind)]

theorem importPaths_eq (name : Text) (kind : FileKind) :
    ∃ rooted cs, Path.Clean rooted cs ∧ importPaths name kind =
      ((List.range (cs.length + 1)).map fun n =>
        Path.assembled rooted (cs.take n ++ [kind.importFileName])).filter (· != name) := by
  have clean := Path.clean_cleaned (Path.directoryPart name)
  exact ⟨_, _, clean, importPaths_of_dir kind clean (Path.clean_eq _)⟩

/-- No import document is asked for twice.  The components of a directory can be read off the path
of the document in it, and there are as many of them as the directory is deep. -/
theorem importPaths_nodup (name : Text) (kind : FileKind) : (importPaths name kind).Nodup := by
  obtain ⟨rooted, cs, clean, paths⟩ := importPaths_eq name kind
  have below := fun n => (clean.take n).snoc (named_importFileName kind)
    (separator_not_mem_importFileName kind)
  rw [paths]
  refine List.Nodup.filter _ (List.Nodup.map_on ?_ List.nodup_range)
  intro n inside m inside' same
  have parts := congrArg Path.cleaned same
  rw [Path.cleaned_assembled (below n), Path.cleaned_assembled (below m)] at parts
  have lengths := congrArg List.length parts
  simp only [List.length_append, List.length_take] at lengths
  rw [List.mem_range] at inside inside'
  omega

theorem clean_of_mem_importPaths {name : Text} {kind : FileKind} {p : Text}
    (member : p ∈ importPaths name kind) : Path.clean p = p := by
  obtain ⟨rooted, cs, clean, paths⟩ := importPaths_eq name kind
  rw [paths] at member
  obtain ⟨n, -, rfl⟩ := List.mem_map.mp (List.mem_filter.mp member).1
  exact Path.clean_assembled ((clean.take n).snoc (named_importFileName kind)
    (separator_not_mem_importFileName kind))

theorem ne_of_mem_importPaths {name : Text} {kind : FileKind} {p : Text}
    (member : p ∈ importPaths name kind) : p ≠ name :=
  bne_iff_ne.mp (List.mem_filter.mp member).2

end Project

end TemplateCompiler
