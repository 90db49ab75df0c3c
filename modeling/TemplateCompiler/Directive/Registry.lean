import TemplateCompiler.Directive.Basic

/-!
# The directive registry

The directives known to a compilation, one for each keyword, in the order in which the keywords
were first added.  Adding a keyword again replaces its directive where it stands; removing it
forgets its place.  The place of a directive is found through an index of the keywords, which a
removal brings up to date for all directives behind the one removed.
-/

namespace TemplateCompiler

/-- An ordered collection of directives with different keywords.  A directive takes the place of an
earlier one with its keyword, and one that is removed leaves the order of the others as it was. -/
structure DirectiveRegistry where
  entries : List DirectiveDescriptor := []
  /-- The place of each keyword's directive among the entries. -/
  places : List (Text × Nat) := []

namespace DirectiveRegistry

instance : Inhabited DirectiveRegistry := ⟨{}⟩

def keywords (r : DirectiveRegistry) : List Text := r.entries.map DirectiveDescriptor.keyword

def size (r : DirectiveRegistry) : Nat := r.entries.length

/-! ## The index -/

def forgetPlace (keyword : Text) (places : List (Text × Nat)) : List (Text × Nat) :=
  places.filter fun e => e.1 != keyword

/-- Places with a new one for a keyword. -/
def setPlace (keyword : Text) (i : Nat) (places : List (Text × Nat)) : List (Text × Nat) :=
  (keyword, i) :: forgetPlace keyword places

/-- Places with new ones for directives that stand one behind another, the first of them at `i`. -/
def setPlaces (i : Nat) : List DirectiveDescriptor → List (Text × Nat) → List (Text × Nat)
  | [], places => places
  | d :: rest, places => setPlaces (i + 1) rest (setPlace d.keyword i places)

/-- The place of a keyword; keywords are compared byte by byte. -/
def place? (r : DirectiveRegistry) (keyword : Text) : Option Nat := r.places.lookup keyword

/-! ## Operations -/

def lookup? (r : DirectiveRegistry) (keyword : Text) : Option DirectiveDescriptor :=
  (r.place? keyword).bind fun i => r.entries[i]?

/-- Add a directive: in the place of the one with its keyword, or behind all others. -/
def add (r : DirectiveRegistry) (d : DirectiveDescriptor) : DirectiveRegistry :=
  match r.place? d.keyword with
  | some i => { r with entries := r.entries.set i d }
  | none =>
    { entries := r.entries ++ [d], places := setPlace d.keyword r.entries.length r.places }

def ofList (ds : List DirectiveDescriptor) : DirectiveRegistry := ds.foldl add {}

/-- Remove a keyword, and say whether it was present. -/
def remove (r : DirectiveRegistry) (keyword : Text) : DirectiveRegistry × Bool :=
  match r.place? keyword with
  | none => (r, false)
  | some i =>
    let entries := r.entries.eraseIdx i
    ({ entries, places := setPlaces i (entries.drop i) (forgetPlace keyword r.places) }, true)

/-- The directives of the given kinds; all of them if no kind is given. -/
def filterByKind (r : DirectiveRegistry) (kinds : List DirectiveKind) : List DirectiveDescriptor :=
  if kinds.isEmpty then r.entries else r.entries.filter fun d => kinds.contains d.kind

end DirectiveRegistry

end TemplateCompiler
