import Mathlib.Data.List.Induction
import TemplateCompiler.Pipeline.Discovery
import TemplateCompiler.Proofs.ManifestHelpers
import TemplateCompiler.Syntax.Parser

/-!
# The last matching lookup decides

Discovery follows directives one after another and changes a selection.  Here the selection is
described without following anything.  Every directive is read as one request, on its own: it adds
or removes what a lookup selects, requires a start of tag names, or is invalid.  A tag helper is in
scope if the last request whose lookup selects it adds it, the required start is that of the last
request for one, and every invalid request is reported once.

Digests are compared where tag helpers are added, so a tag helper can only be told from another one
of the set if their digests differ.  Nothing is assumed about repetitions in the set.
-/

namespace TemplateCompiler

namespace TagHelperSet

/-- A tag helper that no other one has the digest of is kept unless its digest was seen. -/
theorem mem_distinctFrom_iff {h : TagHelper} {items : List TagHelper} {seen : List Digest}
    (identified : ∀ x ∈ items, x.digest = h.digest → x = h) :
    h ∈ distinctFrom seen items ↔ h ∈ items ∧ h.digest ∉ seen := by
  induction items generalizing seen with
  | nil => simp [distinctFrom]
  | cons x items ih =>
    have rest : ∀ y ∈ items, y.digest = h.digest → y = h := fun y member =>
      identified y (List.mem_cons_of_mem x member)
    rw [distinctFrom]
    by_cases known : x.digest ∈ seen
    · rw [if_pos (List.contains_iff_mem.mpr known), ih rest]
      constructor
      · rintro ⟨member, unseen⟩
        exact ⟨List.mem_cons_of_mem x member, unseen⟩
      · rintro ⟨member, unseen⟩
        rcases List.mem_cons.mp member with rfl | behind
        · exact absurd known unseen
        · exact ⟨behind, unseen⟩
    · rw [if_neg (mt List.contains_iff_mem.mp known), List.mem_cons, ih rest]
      by_cases same : x.digest = h.digest
      · cases identified x List.mem_cons_self same
        simp [known]
      · have different : h ≠ x := fun equal => same (congrArg TagHelper.digest equal.symm)
        have unlike : h.digest ≠ x.digest := fun equal => same equal.symm
        simp [different, unlike]

theorem nodup_distinctFrom (items : List TagHelper) (seen : List Digest) :
    ((distinctFrom seen items).map TagHelper.digest).Nodup
      ∧ ∀ h ∈ distinctFrom seen items, h.digest ∉ seen := by
  induction items generalizing seen with
  | nil => simp [distinctFrom]
  | cons x items ih =>
    rw [distinctFrom]
    by_cases known : x.digest ∈ seen
    · rw [if_pos (List.contains_iff_mem.mpr known)]
      exact ih seen
    · rw [if_neg (mt List.contains_iff_mem.mp known)]
      rcases ih (x.digest :: seen) with ⟨distinct, fresh⟩
      constructor
      · rw [List.map_cons, List.nodup_cons]
        refine ⟨?_, distinct⟩
        intro member
        rcases List.mem_map.mp member with ⟨h, among, same⟩
        apply fresh h among
        rw [same]
        exact List.mem_cons_self
      · intro h member
        rcases List.mem_cons.mp member with rfl | behind
        · exact known
        · exact fun old => fresh h behind (List.mem_cons_of_mem _ old)

end TagHelperSet

namespace Discovery

open Syntax

/-! ## Requests -/

/-- What a directive of a document or of an import asks of discovery, after its text was read. -/
inductive Request where
  | nothing
  | add (lookup : Lookup)
  | remove (lookup : Lookup)
  /-- Tag names have to start with a text. -/
  | start (text : Text)
  /-- A text that is no lookup or cannot start tag names, with its place. -/
  | invalid (code : DiagnosticCode) (span : Span)
  deriving DecidableEq

namespace Request

/-- The request of a directive.  Malformed directives and those without tokens ask for nothing. -/
def ofDirective (d : DirectiveHead) : Request :=
  match d.tokens with
  | [] => .nothing
  | token :: _ =>
    let text := token.value.trimBlank
    let lookup (ask : Lookup → Request) : Request :=
      ((Lookup.read? text).map ask).getD (.invalid .lookupMissing token.span)
    if d.isMalformed then .nothing
    else if d.keyword == DirectiveDescriptor.addTagHelper.keyword then lookup .add
    else if d.keyword == DirectiveDescriptor.removeTagHelper.keyword then lookup .remove
    else if d.keyword == DirectiveDescriptor.tagHelperPrefix.keyword then
      if text.chars.any isInvalidInStart then .invalid .helperPrefixInvalid token.span
      else .start text
    else .nothing

/-- Whether a request is about a tag helper, whichever way it decides about it. -/
def concerns (h : TagHelper) : Request → Bool
  | .add l | .remove l => l.selects h
  | _ => false

/-- The text that a request requires tag names to start with. -/
def start? : Request → Option Text
  | .start text => some text
  | _ => none

/-- The kind and the place of the error that a request is. -/
def error? : Request → Option (DiagnosticCode × Span)
  | .invalid code span => some (code, span)
  | _ => none

def adds : Request → Bool
  | .add _ => true
  | _ => false

/-- Whether the last of some requests about a tag helper adds it. -/
def lastAdds (rs : List Request) (h : TagHelper) : Bool :=
  (rs.filter (concerns h)).getLast?.any adds

variable {rs : List Request} {r : Request} {h : TagHelper}

theorem lastAdds_snoc_of_not_concerns (other : r.concerns h = false) :
    lastAdds (rs ++ [r]) h = lastAdds rs h := by
  unfold lastAdds
  rw [List.filter_append, List.filter_cons_of_neg (by simp [other]), List.filter_nil,
    List.append_nil]

theorem lastAdds_snoc_of_concerns (about : r.concerns h = true) :
    lastAdds (rs ++ [r]) h = r.adds := by
  unfold lastAdds
  rw [List.filter_append, List.filter_cons_of_pos about, List.filter_nil, List.getLast?_concat,
    Option.any_some]

end Request

/-! ## Following requests -/

namespace Selection

open Request

/-- A finding is an error of a kind at a place. -/
structure Reports (e : DiagnosticCode × Span) (x : Diagnostic) : Prop where
  error : x.isError = true
  code : x.code = e.1
  place : x.span? = some e.2

/-- What following a directive does, case by case of its request. -/
inductive Follows (available : List TagHelper) (s : Selection) : Request → Selection → Prop
  | nothing : Follows available s .nothing s
  | add (l : Lookup) : Follows available s (.add l) (s.add available l)
  | remove (l : Lookup) : Follows available s (.remove l) (s.remove l)
  | start (text : Text) : Follows available s (.start text) { s with tagStart := text }
  | invalid (code : DiagnosticCode) (span : Span) (message : Text) :
      Follows available s (.invalid code span)
        { s with found := s.found ++ [.error code span message] }

/-- A lookup that can be read is followed, and another text is reported. -/
theorem lookup_follows {available : List TagHelper} {s : Selection} {token : DirectiveToken}
    {ask : Lookup → Request} {obey : Selection → Lookup → Selection}
    (obeyed : ∀ l, Follows available s (ask l) (obey s l)) :
    Follows available s
      (((Lookup.read? token.value.trimBlank).map ask).getD (.invalid .lookupMissing token.span))
      (s.lookup token obey) := by
  unfold lookup
  dsimp only
  cases Lookup.read? token.value.trimBlank with
  | none => exact .invalid _ _ _
  | some l => exact obeyed l

theorem requireStart_follows (available : List TagHelper) (s : Selection) (token : DirectiveToken) :
    Follows available s
      (if token.value.trimBlank.chars.any isInvalidInStart then
          .invalid .helperPrefixInvalid token.span
        else .start token.value.trimBlank)
      (s.requireStart token) := by
  unfold requireStart
  dsimp only
  cases found : token.value.trimBlank.chars.find? isInvalidInStart with
  | none =>
    have valid : ¬ token.value.trimBlank.chars.any isInvalidInStart = true := by
      simpa using found
    rw [if_neg valid]
    exact .start _
  | some c =>
    have bad : token.value.trimBlank.chars.any isInvalidInStart = true :=
      List.any_eq_true.mpr ⟨c, List.mem_of_find?_eq_some found, List.find?_some found⟩
    rw [if_pos bad]
    exact .invalid _ _ _

theorem follow_follows (available : List TagHelper) (s : Selection) (d : DirectiveHead) :
    Follows available s (ofDirective d) (follow available s d) := by
  unfold ofDirective follow
  cases d.tokens with
  | nil => exact .nothing
  | cons token rest =>
    dsimp only
    split
    · exact .nothing
    split
    · apply lookup_follows
      exact .add
    split
    · apply lookup_follows
      exact .remove
    split
    · exact requireStart_follows available s token
    · exact .nothing

/-! ## What the last requests say -/

/-- A selection is what the last requests say: a tag helper is selected exactly if the last request
about it adds it, the latest start of tag names counts, and each text that could not be followed is
reported. -/
structure Tracks (available : List TagHelper) (rs : List Request) (s : Selection) : Prop where
  helpers : ∀ h, h ∈ s.selected ↔ h ∈ available ∧ lastAdds rs h = true
  distinct : (s.selected.map TagHelper.digest).Nodup
  start : s.tagStart = (rs.filterMap start?).getLast?.getD []
  findings : List.Forall₂ Reports (rs.filterMap error?) s.found

section Steps

variable {available : List TagHelper} {rs : List Request} {r : Request} {s next : Selection}

theorem Tracks.initial : Tracks available [] {} where
  helpers := by simp [lastAdds]
  distinct := List.nodup_nil
  start := rfl
  findings := .nil

/-- What a lookup adds is decided by digests, which tell the available tag helpers apart. -/
theorem Tracks.mem_add (tracks : Tracks available rs s)
    (identified : ∀ h ∈ available, ∀ x ∈ available, x.digest = h.digest → x = h)
    (l : Lookup) (h : TagHelper) :
    h ∈ (s.add available l).selected ↔ h ∈ s.selected ∨ h ∈ available ∧ l.selects h = true := by
  have known : ∀ x ∈ s.selected ++ available.filter l.selects, x ∈ available := by
    intro x member
    rcases List.mem_append.mp member with old | new
    · exact ((tracks.helpers x).mp old).1
    · exact (List.mem_filter.mp new).1
  have kept : h ∈ available → (h ∈ (s.add available l).selected
      ↔ h ∈ s.selected ++ available.filter l.selects) := by
    intro listed
    unfold Selection.add
    rw [TagHelperSet.mem_distinctFrom_iff fun x member => identified h listed x (known x member)]
    simp
  rw [← List.mem_filter, ← List.mem_append]
  constructor
  · exact TagHelperSet.mem_of_mem_distinctFrom
  · intro member
    exact (kept (known h member)).mpr member

/-- A request about a tag helper decides alone whether it is selected, and any other one leaves it
as it was. -/
theorem Tracks.helpers_step (tracks : Tracks available rs s)
    (identified : ∀ h ∈ available, ∀ x ∈ available, x.digest = h.digest → x = h)
    (follows : Follows available s r next) (h : TagHelper) :
    h ∈ next.selected ↔ h ∈ available ∧ lastAdds (rs ++ [r]) h = true := by
  have unconcerned (other : r.concerns h = false) :
      h ∈ s.selected ↔ h ∈ available ∧ lastAdds (rs ++ [r]) h = true := by
    rw [tracks.helpers, lastAdds_snoc_of_not_concerns other]
  cases follows with
  | nothing | start | invalid => exact unconcerned rfl
  | add l =>
    rw [tracks.mem_add identified]
    cases about : l.selects h with
    | false => simp [unconcerned about]
    | true =>
      have decides : concerns h (.add l) = true := about
      rw [lastAdds_snoc_of_concerns decides, tracks.helpers]
      simp +contextual [adds]
  | remove l =>
    change h ∈ s.selected.filter _ ↔ _
    rw [List.mem_filter]
    cases about : l.selects h with
    | false => simp [unconcerned about]
    | true =>
      have decides : concerns h (.remove l) = true := about
      rw [lastAdds_snoc_of_concerns decides]
      simp [adds]

theorem Tracks.distinct_step (tracks : Tracks available rs s)
    (follows : Follows available s r next) : (next.selected.map TagHelper.digest).Nodup := by
  cases follows with
  | nothing | start | invalid => exact tracks.distinct
  | add l => exact (TagHelperSet.nodup_distinctFrom _ []).1
  | remove l => exact tracks.distinct.sublist (List.filter_sublist.map _)

theorem Tracks.step (tracks : Tracks available rs s)
    (identified : ∀ h ∈ available, ∀ x ∈ available, x.digest = h.digest → x = h)
    (follows : Follows available s r next) : Tracks available (rs ++ [r]) next := by
  constructor
  · exact tracks.helpers_step identified follows
  · exact tracks.distinct_step follows
  · cases follows with
    | start text => simp [start?]
    | nothing | invalid => simpa [start?] using tracks.start
    | add | remove => simpa [start?, Selection.add, Selection.remove] using tracks.start
  · cases follows with
    | invalid code span message =>
      rw [List.filterMap_append]
      exact List.rel_append tracks.findings (.cons ⟨rfl, rfl, rfl⟩ .nil)
    | nothing | start =>
      simpa [List.filterMap_append, List.filterMap_cons, error?] using tracks.findings
    | add | remove =>
      simpa [List.filterMap_append, List.filterMap_cons, error?, Selection.add, Selection.remove]
        using tracks.findings

/-- By induction on the directives, the last one taken off. -/
theorem Tracks.run
    (identified : ∀ h ∈ available, ∀ x ∈ available, x.digest = h.digest → x = h)
    (ds : List DirectiveHead) :
    Tracks available (ds.map ofDirective) (ds.foldl (follow available) {}) := by
  induction ds using List.reverseRecOn with
  | nil => exact .initial
  | append_singleton ds d ih =>
    rw [List.map_append, List.foldl_append]
    exact ih.step identified (follow_follows available _ d)

end Steps

end Selection

/-! ## The scope of a document -/

open Request Selection

/-- Outside of components a tag helper is in scope if the last directive that selects it adds it.
No digest is in scope twice, the last valid start of tag names is required, and there is one error
for each directive with an invalid text. -/
theorem discover_decided_by_last (all : List TagHelper) (kind : FileKind) (tree : Tree)
    (imports : List Tree) (markup : kind.isComponent = false)
    (identified : ∀ h ∈ all, ∀ x ∈ all, x.digest = h.digest → x = h) :
    let rs := (imports.flatMap Tree.directives ++ tree.directives).map ofDirective
    let decided := discover all kind tree imports
    (∀ h, h ∈ decided.1.helpers
        ↔ (h ∈ all ∧ TagHelper.isComponentKind h.kind = false) ∧ lastAdds rs h = true)
      ∧ (decided.1.helpers.map TagHelper.digest).Nodup
      ∧ decided.1.tagStart = (rs.filterMap start?).getLast?.getD []
      ∧ List.Forall₂ Reports (rs.filterMap error?) decided.2 := by
  have among : ∀ h, h ∈ all.filter (fun h => !TagHelper.isComponentKind h.kind)
      ↔ h ∈ all ∧ TagHelper.isComponentKind h.kind = false := by simp
  have tracks := Tracks.run
    (fun h listed x other => identified h ((among h).mp listed).1 x ((among x).mp other).1)
    (imports.flatMap Tree.directives ++ tree.directives)
  unfold discover
  rw [if_neg (by simp [markup])]
  refine ⟨?_, tracks.distinct, tracks.start, tracks.findings⟩
  intro h
  rw [← among h]
  exact tracks.helpers h

/-- Two tag helpers of one assembly. -/
def siteHelpers : List TagHelper :=
  ["Mail", "Panel"].map fun name =>
    TagHelper.Draft.build { kind := "ITagHelper", name := Text.ofString name, assembly := "Site" }

/-- An import that adds all tag helpers of an assembly. -/
def siteImport : Tree :=
  parse (SourceFile.ofContent 0 "import.quill" "@addTagHelper *, Site\n" .none)
    { directives := [.addTagHelper] }

/-- A template that removes what its import adds, adds some of it again and requires a start. -/
def sitePage : Tree :=
  parse (SourceFile.ofContent 1 "page.quill"
      ("@removeTagHelper *, site\n@addTagHelper Ma*, Site\n"
        ++ "@tagHelperPrefix a:\n@tagHelperPrefix a*\n@addTagHelper Mail\n") .none)
    { directives := [.addTagHelper, .removeTagHelper, .tagHelperPrefix] }

/-- The requests of the two, in order. -/
def siteRequests : List Request :=
  [.add ⟨"*", "Site"⟩, .remove ⟨"*", "site"⟩, .add ⟨"Ma*", "Site"⟩, .start "a:",
    .invalid .helperPrefixInvalid ⟨1, 86, 88⟩, .invalid .lookupMissing ⟨1, 103, 107⟩]

theorem discover_decided_by_last_readded :
    FileKind.legacy.isComponent = false
      ∧ (∀ h ∈ siteHelpers, ∀ x ∈ siteHelpers, x.digest = h.digest → x = h)
      ∧ (∀ h ∈ siteHelpers,
          h ∈ (discover siteHelpers .legacy sitePage [siteImport]).1.helpers ↔ h.name = "Mail")
      ∧ (discover siteHelpers .legacy sitePage [siteImport]).1.tagStart = "a:"
      ∧ (discover siteHelpers .legacy sitePage [siteImport]).2.length = 2 := by
  have identified : ∀ h ∈ siteHelpers, ∀ x ∈ siteHelpers, x.digest = h.digest → x = h := by
    decide +kernel
  have requests : ([siteImport].flatMap Tree.directives ++ sitePage.directives).map ofDirective
      = siteRequests := by
    decide +kernel
  have last : ∀ h ∈ siteHelpers, h.name = "Mail"
      ↔ (h ∈ siteHelpers ∧ TagHelper.isComponentKind h.kind = false)
        ∧ lastAdds siteRequests h = true := by
    decide +kernel
  have start : (siteRequests.filterMap start?).getLast?.getD [] = "a:" := by decide +kernel
  have decided := discover_decided_by_last siteHelpers .legacy sitePage [siteImport] rfl identified
  simp only [requests] at decided
  refine ⟨rfl, identified, ?_, decided.2.2.1.trans start, decided.2.2.2.length_eq.symm⟩
  intro h member
  rw [decided.1 h, last h member]

end Discovery

end TemplateCompiler
