import Mathlib.Data.List.Infix
import TemplateCompiler.Proofs.CleanPath

/-!
# The chain of import documents

The directories around a document are found by going up, from the directory of its name to the
directory of that one, until there is none above.  The directory of a cleaned path has all of its
components but the last one.  So going up ends for every name, and what it passes are the
directories whose import documents apply (`Project.ascent_enclosingDirectories`).  For a cleaned
relative name the components of the name tell what they are (`Project.importPaths_enumerated`).
-/

namespace TemplateCompiler

namespace Path

/-! ## The directory of a path -/

theorem findIdx?_reverse_eq_none {c : Text} (free : separator ∉ c) :
    c.reverse.findIdx? (· == separator) = none :=
  List.findIdx?_eq_none_iff.mpr fun _ member =>
    beq_eq_false_iff_ne.mpr fun same => free (same ▸ List.mem_reverse.mp member)

theorem directoryPart_of_not_mem {c : Text} (free : separator ∉ c) : directoryPart c = [] := by
  rw [directoryPart, Text.lastIndexOfByte?, findIdx?_reverse_eq_none free]
  rfl

theorem directoryPart_append {c : Text} (free : separator ∉ c) (t : Text) :
    directoryPart (t ++ separator :: c) = t ++ [separator] := by
  have last : (t ++ separator :: c).lastIndexOfByte? separator = some t.length := by
    rw [Text.lastIndexOfByte?, List.reverse_append, List.reverse_cons, List.append_assoc,
      List.findIdx?_append, findIdx?_reverse_eq_none free, List.singleton_append,
      List.findIdx?_cons, beq_self_eq_true]
    simp only [if_true, Option.map_some, Option.none_or, List.length_reverse, List.length_append,
      List.length_cons]
    congr 1
    omega
  rw [directoryPart, last]
  dsimp only
  rw [List.take_append, List.take_of_length_le (Nat.le_succ _), Nat.add_sub_cancel_left]
  rfl

theorem Clean.front {rooted : Bool} {cs : List Text} {c : Text}
    (clean : Clean rooted (cs ++ [c])) : Clean rooted cs := by
  have taken := clean.take cs.length
  rwa [List.take_left] at taken

theorem assembled_of_ne_nil {cs : List Text} (clean : Clean false cs) (some : cs ≠ []) :
    assembled false cs = Text.join [separator] cs := by
  rcases cs with _ | ⟨_ | ⟨b, c⟩, rest⟩
  · exact absurd rfl some
  · exact absurd rfl (clean.ne_empty [] List.mem_cons_self)
  · obtain ⟨t, body⟩ := join_eq_cons b c rest
    rw [assembled, body]
    rfl

theorem assembled_concat {rooted : Bool} {k c : Text} {ks : List Text}
    (clean : Clean rooted (k :: ks ++ [c])) :
    assembled rooted (k :: ks ++ [c]) = assembled rooted (k :: ks) ++ separator :: c := by
  have body : Text.join [separator] (k :: ks ++ [c]) =
      Text.join [separator] (k :: ks) ++ separator :: c := by
    rw [Text.join_concat, List.length_cons, if_neg (Nat.succ_ne_zero _), List.append_assoc]
    rfl
  cases rooted with
  | true => exact congrArg (separator :: ·) body
  | false =>
    rw [assembled_of_ne_nil clean (List.cons_ne_nil _ _),
      assembled_of_ne_nil clean.front (List.cons_ne_nil _ _), body]

/-- The directory of a cleaned path has all of its components but the last one. -/
theorem dir_assembled {rooted : Bool} {cs : List Text} {c : Text}
    (clean : Clean rooted (cs ++ [c])) :
    dir (assembled rooted (cs ++ [c])) = assembled rooted cs := by
  have free : separator ∉ c := clean.free c (List.mem_append_right _ List.mem_cons_self)
  cases cs with
  | nil =>
    cases rooted with
    | true =>
      have below : assembled true ([] ++ [c]) = [] ++ separator :: c := rfl
      rw [below, dir, directoryPart_append free]
      decide
    | false =>
      have alone : assembled false ([] ++ [c]) = c :=
        assembled_of_ne_nil clean (List.cons_ne_nil _ _)
      rw [alone, dir, directoryPart_of_not_mem free]
      decide
  | cons k ks =>
    rw [assembled_concat clean, dir, directoryPart_append free, clean_below clean.front]
    exact congrArg (assembled rooted) (List.reverse_reverse (k :: ks))

/-! ## Going up -/

/-- Whether no directory lies above: it is the project's root or the root of all. -/
def IsTop (d : Text) : Prop := d = "." ∨ d = [separator]

/-- Going up from a directory, with the directories that are passed, innermost first.  It ends
where no directory lies above. -/
inductive Ascent : Text → List Text → Prop where
  | top {d : Text} (top : IsTop d) : Ascent d [d]
  | up {d : Text} {ds : List Text} (below : ¬IsTop d) (above : Ascent (dir d) ds) :
    Ascent d (d :: ds)

/-- There is only one way up. -/
theorem Ascent.unique {d : Text} {ds es : List Text} (one : Ascent d ds) (other : Ascent d es) :
    ds = es := by
  induction one generalizing es with
  | top top =>
    cases other with
    | top => rfl
    | up below => exact absurd top below
  | up below above ih =>
    cases other with
    | top top => exact absurd top below
    | up _ above' => rw [ih above']

theorem not_isTop_assembled {rooted : Bool} {cs : List Text} (clean : Clean rooted cs)
    (some : cs ≠ []) : ¬IsTop (assembled rooted cs) := by
  have parts := cleaned_assembled clean
  rintro (here | here)
  · rw [here] at parts
    exact some (parts.symm.trans (by decide))
  · rw [here] at parts
    exact some (parts.symm.trans (by decide))

/-- Going up from a cleaned path passes the paths of its first components. -/
theorem ascent_assembled {rooted : Bool} {cs : List Text} (clean : Clean rooted cs) :
    Ascent (assembled rooted cs) ((cs.inits.map (assembled rooted)).reverse) := by
  induction cs using List.reverseRecOn with
  | nil =>
    refine .top ?_
    cases rooted with
    | true => exact .inr rfl
    | false => exact .inl rfl
  | append_singleton cs c ih =>
    have passed : ((cs ++ [c]).inits.map (assembled rooted)).reverse =
        assembled rooted (cs ++ [c]) :: (cs.inits.map (assembled rooted)).reverse := by
      rw [List.inits_append, List.map_append, List.reverse_append]
      rfl
    rw [passed]
    refine .up (not_isTop_assembled clean (List.append_ne_nil_of_right_ne_nil _ nofun)) ?_
    rw [dir_assembled clean]
    exact ih clean.front

/-! ## The components of a relative name -/

/-- The directories that the components of a relative name lead through, outermost first.  The
first one is the project's root, whose name is empty. -/
def ancestors (name : Text) : List Text :=
  (components name).dropLast.inits.map (Text.join [separator])

/-- The directory of a cleaned relative name. -/
theorem dir_of_clean {name : Text} (clean : Path.clean name = name)
    (relative : isRooted name = false) :
    Clean false (components name).dropLast ∧
      dir name = assembled false (components name).dropLast := by
  have whole := clean_cleaned name
  have parts := (components_assembled whole).2
  rw [← clean_eq, clean, relative] at parts
  rw [clean_eq, relative] at clean
  rw [relative] at whole
  generalize cleaned name = cs at whole parts clean
  rw [parts, ← clean]
  cases cs using List.reverseRecOn with
  | nil => exact ⟨⟨trivial, nofun⟩, by decide⟩
  | append_singleton cs c =>
    have some : (cs ++ [c]).isEmpty = false := by
      rw [List.isEmpty_eq_false_iff]
      exact List.append_ne_nil_of_right_ne_nil _ nofun
    rw [some, dir_assembled whole]
    simp only [Bool.false_eq_true, if_false, List.nil_append, List.dropLast_concat]
    exact ⟨whole.front, trivial⟩

/-- A file in a directory whose name is empty for the project's root. -/
theorem join_body {cs : List Text} (clean : Clean false cs) {c : Text} (named : Named c)
    (free : separator ∉ c) : join [Text.join [separator] cs, c] = assembled false (cs ++ [c]) := by
  cases cs with
  | nil =>
    have single := clean.snoc named free
    have alone : assembled false [c] = c := assembled_of_ne_nil single (List.cons_ne_nil _ _)
    have same : Path.clean (assembled false [c]) = assembled false [c] := clean_assembled single
    obtain ⟨b, t, rfl⟩ := List.exists_cons_of_ne_nil named.ne_empty
    rw [alone] at same
    exact same.trans alone.symm
  | cons k ks =>
    rw [← assembled_of_ne_nil clean (List.cons_ne_nil _ _)]
    exact join_assembled clean named free

theorem Settled.named {rooted : Bool} {kept : List Text} (settled : Settled rooted kept) :
    ∀ c ∈ kept, c ≠ ".." → Named c := by
  induction kept with
  | nil => exact fun c none => absurd none List.not_mem_nil
  | cons k kept ih =>
    refine List.forall_mem_cons.mpr ⟨fun name => ?_, ih settled.tail⟩
    rcases settled with ⟨named, -⟩ | ⟨parent, -⟩
    · exact named
    · exact absurd parent name

/-- Without parent steps, each ancestor lies in the one before. -/
theorem isChain_ancestors {name : Text} (clean : Clean false (components name).dropLast)
    (names : (".." : Text) ∉ (components name).dropLast) :
    (ancestors name).IsChain fun d e => ∃ c, Named c ∧ separator ∉ c ∧ e = join [d, c] := by
  rw [ancestors]
  generalize (components name).dropLast = cs at clean names
  rw [List.isChain_iff_getElem]
  intro i inside
  rw [List.length_map, List.length_inits] at inside
  have within : i < cs.length := Nat.lt_of_succ_lt_succ inside
  have member := List.getElem_mem within
  have named : Named cs[i] := clean.settled.named _ (List.mem_reverse.mpr member)
    fun parent => names (parent ▸ member)
  have free := clean.free _ member
  refine ⟨cs[i], named, free, ?_⟩
  rw [List.getElem_map, List.getElem_map, List.getElem_inits, List.getElem_inits,
    List.take_succ_eq_append_getElem within, join_body (clean.take i) named free,
    assembled_of_ne_nil ((clean.take i).snoc named free)
      (List.append_ne_nil_of_right_ne_nil _ nofun)]

theorem inits_eq_map_take (cs : List Text) :
    cs.inits = (List.range (cs.length + 1)).map fun n => cs.take n :=
  List.ext_getElem (by simp) fun n _ _ => by simp [List.getElem_inits]

end Path

namespace Project

/-! ## The import documents of a name -/

/-- Going up from the directory of any name ends, and passes the directories around the name. -/
theorem ascent_enclosingDirectories (name : Text) :
    Path.Ascent (Path.dir name) (enclosingDirectories name).reverse := by
  have clean := Path.clean_cleaned (Path.directoryPart name)
  have up := Path.ascent_assembled clean
  rw [Path.inits_eq_map_take, List.map_map] at up
  rw [enclosingDirectories_of_dir clean (Path.clean_eq _)]
  exact up

/-- The import documents of a cleaned relative name lie in its ancestors. -/
theorem importPaths_of_clean {name : Text} (kind : FileKind) (clean : Path.clean name = name)
    (relative : Path.isRooted name = false) :
    importPaths name kind =
      ((Path.ancestors name).map fun d => Path.join [d, kind.importFileName]).filter
        (· != name) := by
  obtain ⟨directory, here⟩ := Path.dir_of_clean clean relative
  rw [importPaths_of_dir kind directory here, Path.ancestors]
  generalize (Path.components name).dropLast = cs at directory
  have paths (n : Nat) :
      Path.join [Text.join [Path.separator] (cs.take n), kind.importFileName] =
        Path.assembled false (cs.take n ++ [kind.importFileName]) :=
    Path.join_body (directory.take n) (named_importFileName kind)
      (separator_not_mem_importFileName kind)
  rw [Path.inits_eq_map_take, List.map_map, List.map_map]
  simp only [Function.comp_def, paths]

/-- For every name, going up from its directory ends, in one way only, and the import documents lie
in the directories that are passed, outermost first; the name itself is left out.  If the name is
cleaned and relative, these are the directories that its components lead through, from the
project's root on, so that without parent steps each lies in the one before; and no import document
comes twice. -/
theorem importPaths_enumerated (name : Text) (kind : FileKind) :
    (∃ ds, Path.Ascent (Path.dir name) ds ∧ (∀ es, Path.Ascent (Path.dir name) es → es = ds) ∧
        importPaths name kind =
          (ds.reverse.map fun d => Path.join [d, kind.importFileName]).filter (· != name)) ∧
      (Path.clean name = name → Path.isRooted name = false →
        (".." : Text) ∉ Path.components name →
          importPaths name kind =
              ((Path.ancestors name).map fun d => Path.join [d, kind.importFileName]).filter
                (· != name) ∧
            (importPaths name kind).Nodup ∧
            (Path.ancestors name).IsChain fun d e =>
              ∃ c, Path.Named c ∧ Path.separator ∉ c ∧ e = Path.join [d, c]) := by
  constructor
  · have up := ascent_enclosingDirectories name
    refine ⟨_, up, fun es other => other.unique up, ?_⟩
    rw [List.reverse_reverse]
    rfl
  · intro clean relative names
    refine ⟨importPaths_of_clean kind clean relative, importPaths_nodup name kind, ?_⟩
    exact Path.isChain_ancestors (Path.dir_of_clean clean relative).1
      fun member => names (List.mem_of_mem_dropLast member)

/-- An import document does not import itself, only those of the directories above. -/
theorem importPaths_enumerated_import :
    importPaths "Views/Home/_ViewImports.quill" .legacy =
        ["_ViewImports.quill", "Views/_ViewImports.quill"] ∧
      Path.ancestors "Views/Home/_ViewImports.quill" = ["", "Views", "Views/Home"] ∧
      (Path.ancestors "Views/Home/_ViewImports.quill").IsChain fun d e =>
        ∃ c, Path.Named c ∧ Path.separator ∉ c ∧ e = Path.join [d, c] := by
  have applied := (importPaths_enumerated "Views/Home/_ViewImports.quill" .legacy).2 (by decide)
    (by decide) (by decide)
  refine ⟨applied.1.trans ?_, by decide, applied.2.2⟩
  decide

end Project

end TemplateCompiler
