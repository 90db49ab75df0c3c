import TemplateCompiler.Digest.Fields

/-!
# Metadata

Pairs of texts that a provider attaches to a descriptor, one for each key, in the order of their
keys.
-/

namespace TemplateCompiler

theorem Metadata.ordered_nil :
    ([] : List (Text × Text)).Pairwise (fun e f => Text.compare e.1 f.1 = .lt) := .nil

/-- Pairs of keys and values, ordered by key. -/
@[ext]
structure Metadata where
  entries : List (Text × Text) := []
  ordered : entries.Pairwise (fun e f => Text.compare e.1 f.1 = .lt) := by
    exact TemplateCompiler.Metadata.ordered_nil
  deriving DecidableEq, Repr

namespace Metadata

instance : Inhabited Metadata := ⟨{}⟩

/-- Put a pair in its place, replacing one with the same key. -/
def insertInto (key value : Text) : List (Text × Text) → List (Text × Text)
  | [] => [(key, value)]
  | (k, v) :: rest =>
    match Text.compare key k with
    | .lt => (key, value) :: (k, v) :: rest
    | .eq => (key, value) :: rest
    | .gt => (k, v) :: insertInto key value rest

theorem mem_insertInto {key value : Text} {entries : List (Text × Text)} {e : Text × Text}
    (member : e ∈ insertInto key value entries) : e = (key, value) ∨ e ∈ entries := by
  induction entries with
  | nil => exact .inl (List.mem_singleton.mp member)
  | cons f entries ih =>
    rw [insertInto] at member
    split at member
    · exact List.mem_cons.mp member
    · exact (List.mem_cons.mp member).imp_right (List.mem_cons_of_mem f)
    · rcases List.mem_cons.mp member with rfl | rest
      · exact .inr List.mem_cons_self
      · exact (ih rest).imp_right (List.mem_cons_of_mem f)

theorem insertInto_ordered {key value : Text} {entries : List (Text × Text)}
    (ordered : entries.Pairwise fun e f => Text.compare e.1 f.1 = .lt) :
    (insertInto key value entries).Pairwise fun e f => Text.compare e.1 f.1 = .lt := by
  induction entries with
  | nil => exact List.pairwise_singleton _ _
  | cons f entries ih =>
    obtain ⟨first, rest⟩ := List.pairwise_cons.mp ordered
    rw [insertInto]
    split
    · next before =>
      refine List.pairwise_cons.mpr ⟨fun e member => ?_, ordered⟩
      rcases List.mem_cons.mp member with rfl | later
      · exact before
      · exact Text.compare_lt_trans before (first e later)
    · next same =>
      obtain rfl := Text.eq_of_compare same
      exact List.pairwise_cons.mpr ⟨first, rest⟩
    · next after =>
      refine List.pairwise_cons.mpr ⟨fun e member => ?_, ih rest⟩
      rcases mem_insertInto member with rfl | old
      · exact Text.compare_gt_iff.mp after
      · exact first e old

def set (m : Metadata) (key value : Text) : Metadata :=
  ⟨insertInto key value m.entries, insertInto_ordered m.ordered⟩

/-- Set the values of some keys one after another. -/
def setAll (m : Metadata) (entries : List (Text × Text)) : Metadata :=
  entries.foldl (fun m e => m.set e.1 e.2) m

/-- The metadata of pairs in any order; of pairs with one key the last counts. -/
def ofEntries (entries : List (Text × Text)) : Metadata := setAll {} entries

def get? (m : Metadata) (key : Text) : Option Text :=
  (m.entries.find? fun e => e.1 == key).map Prod.snd

/-- The value of a key, empty if it has none. -/
def value (m : Metadata) (key : Text) : Text := (m.get? key).getD []

def fields (m : Metadata) : List Digest.Field :=
  .size m.entries.length :: m.entries.flatMap fun e => [.text e.1, .text e.2]

/-- The key of the implementing type. -/
def typeName : Text := "Common.TypeName"

/-- The key of the backing property. -/
def propertyName : Text := "Common.PropertyName"

end Metadata

end TemplateCompiler
