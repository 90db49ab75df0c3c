import Mathlib.Algebra.Group.Nat.Defs
import Mathlib.Data.List.Nodup
import TemplateCompiler.Digest.Fields

/-!
# Streams of fields can be read back

Every field is written with a tag, and what follows the tag says where the field ends.  So a stream
of bytes comes from one sequence of fields only (`Digest.stream_injective`), and a concatenation of
digests from one list of digests.  What was appended to a stream can be told from its bytes, up to
the appends that write the same field (`Digest.written_eq_iff`).

A hash is never injective on all texts.  What digests identify is therefore stated under the
assumption that hashing is injective on the texts that are in fact hashed
(`Digest.Collisionless`).
-/

namespace TemplateCompiler

namespace Digest

theorem ext_bytes {d e : Digest} (same : d.bytes = e.bytes) : d = e := by
  cases d
  cases e
  cases same
  rfl

namespace Field

/-! ## Numbers -/

theorem toNat_toUInt8 {n : Nat} (small : n < 256) : n.toUInt8.toNat = n := by
  rw [UInt8.toNat_ofNat']
  exact Nat.mod_eq_of_lt small

theorem toNat_toUInt64 {n : Nat} (small : n < 2 ^ 64) : n.toUInt64.toNat = n := by
  rw [UInt64.toNat_ofNat']
  exact Nat.mod_eq_of_lt small

/-- The groups of a number end where they say, so the number can be told from what follows.  The
high bit of each byte tells whether another group comes behind it. -/
theorem groups_append_inj {fuel n m : Nat} {s t : Text} (bound : n < 128 ^ fuel)
    (bound' : m < 128 ^ fuel) (same : groups fuel n ++ s = groups fuel m ++ t) :
    n = m ∧ s = t := by
  induction fuel generalizing n m with
  | zero =>
    rw [Nat.pow_zero, Nat.lt_one_iff] at bound bound'
    exact ⟨bound.trans bound'.symm, same⟩
  | succ fuel ih =>
    have rest : n / 128 < 128 ^ fuel := Nat.div_lt_of_lt_mul (by rwa [← Nat.pow_succ'])
    have rest' : m / 128 < 128 ^ fuel := Nat.div_lt_of_lt_mul (by rwa [← Nat.pow_succ'])
    have head : ∀ {a b : Nat}, a < 256 → b < 256 → a.toUInt8 = b.toUInt8 → a = b := by
      intro a b small small' equal
      rw [← toNat_toUInt8 small, ← toNat_toUInt8 small', equal]
    unfold groups at same
    by_cases last : n < 128 <;> by_cases last' : m < 128
    · rw [if_pos last, if_pos last'] at same
      have parts := List.cons.inj same
      exact ⟨head (by omega) (by omega) parts.1, parts.2⟩
    · rw [if_pos last, if_neg last'] at same
      have first := head (by omega) (by omega) (List.cons.inj same).1
      omega
    · rw [if_neg last, if_pos last'] at same
      have first := head (by omega) (by omega) (List.cons.inj same).1
      omega
    · rw [if_neg last, if_neg last'] at same
      have parts := List.cons.inj same
      have first := head (by omega) (by omega) parts.1
      have behind := ih rest rest' parts.2
      exact ⟨by omega, behind.2⟩

theorem unsigned_append_inj {n m : UInt64} {s t : Text}
    (same : unsigned n ++ s = unsigned m ++ t) : n = m ∧ s = t := by
  have bound : ∀ k : UInt64, k.toNat < 128 ^ 10 :=
    fun k => Nat.lt_trans k.toNat_lt (by decide)
  have parts := groups_append_inj (bound n) (bound m) same
  exact ⟨UInt64.toNat_inj.mp parts.1, parts.2⟩

/-- What folding makes of a number: twice itself, or twice its distance below zero less one. -/
theorem toNat_foldSign (n : Int64) :
    (foldSign n).toNat =
      if n.toUInt64.toNat < 2 ^ 63 then 2 * n.toUInt64.toNat
      else 2 * (2 ^ 64 - 1 - n.toUInt64.toNat) + 1 := by
  have bound := n.toUInt64.toNat_lt
  have doubled : (n.toUInt64 <<< 1).toNat = n.toUInt64.toNat * 2 % 2 ^ 64 := by
    rw [UInt64.toNat_shiftLeft, Nat.shiftLeft_eq]
    rfl
  have size : UInt64.size = 2 ^ 64 := rfl
  have negative : n < 0 ↔ ¬n.toUInt64.toNat < 2 ^ 63 := by
    have value := BitVec.toInt_eq_toNat_cond n.toBitVec
    have zero : (0 : Int64).toInt = 0 := rfl
    change n.toInt = if 2 * n.toUInt64.toNat < 2 ^ 64 then _ else (n.toUInt64.toNat : Int) - _
      at value
    rw [Int64.lt_iff_toInt_lt, zero, value]
    split <;> omega
  by_cases small : n.toUInt64.toNat < 2 ^ 63
  · rw [foldSign, if_neg (fun below => negative.mp below small), if_pos small, doubled]
    omega
  · rw [foldSign, if_pos (negative.mpr small), if_neg small, UInt64.toNat_not, doubled, size]
    omega

theorem foldSign_injective {n m : Int64} (same : foldSign n = foldSign m) : n = m := by
  have equal := congrArg UInt64.toNat same
  rw [toNat_foldSign, toNat_foldSign] at equal
  have bound := n.toUInt64.toNat_lt
  have bound' := m.toUInt64.toNat_lt
  have bits : n.toUInt64.toNat = m.toUInt64.toNat := by
    split at equal <;> split at equal <;> omega
  exact Int64.toBitVec_inj.mp (BitVec.eq_of_toNat_eq bits)

/-! ## Fields -/

/-- The length of a text in the field can be written. -/
def Measured : Field → Prop
  | text value => value.length < 2 ^ 64
  | _ => True

/-- A field can be told from what follows it. -/
theorem bytes_append_inj {f g : Field} (measured : f.Measured) (measured' : g.Measured)
    {s t : Text} (same : f.bytes ++ s = g.bytes ++ t) : f = g ∧ s = t := by
  have tag := congrArg List.head? same
  cases f <;> cases g <;> cases tag
  case null => exact ⟨rfl, (List.cons.inj same).2⟩
  case text value other =>
    have behind := (List.cons.inj same).2
    simp only [List.append_eq, List.append_assoc] at behind
    have parts := unsigned_append_inj behind
    have lengths : value.length = other.length := by
      rw [← toNat_toUInt64 measured, ← toNat_toUInt64 measured', parts.1]
    have texts := List.append_inj parts.2 lengths
    exact ⟨congrArg text texts.1, texts.2⟩
  case int value other =>
    have parts := unsigned_append_inj (List.cons.inj same).2
    exact ⟨congrArg int (foldSign_injective parts.1), parts.2⟩
  case nat value other =>
    have parts := unsigned_append_inj (List.cons.inj same).2
    exact ⟨congrArg nat parts.1, parts.2⟩
  case bool value other =>
    have parts := List.cons.inj (List.cons.inj same).2
    have values : value = other := by
      cases value <;> cases other <;> first | rfl | cases parts.1
    exact ⟨congrArg bool values, parts.2⟩
  case digest value other =>
    have parts := List.append_inj (List.cons.inj same).2
      (value.length_bytes.trans other.length_bytes.symm)
    exact ⟨congrArg digest (ext_bytes parts.1), parts.2⟩
  case record kind other =>
    have parts := List.cons.inj (List.cons.inj same).2
    exact ⟨congrArg record parts.1, parts.2⟩

theorem bytes_ne_nil (f : Field) : f.bytes ≠ [] := by
  cases f <;> exact List.cons_ne_nil _ _

theorem optional_injective {s t : Text} (same : optional s = optional t) : s = t := by
  cases s <;> cases t <;> cases same <;> rfl

theorem ordinal_injective {n m : Nat} (small : n < 2 ^ 63) (small' : m < 2 ^ 63)
    (same : ordinal n = ordinal m) : n = m := by
  have values := congrArg Int64.toInt (int.inj same)
  rw [Int64.toInt_ofNat_of_lt small, Int64.toInt_ofNat_of_lt small'] at values
  exact Int.ofNat.inj values

/-- Ordinals that fit into a byte can be told apart. -/
theorem ordinal_byte_injective {n m : Nat} (small : n < 256) (small' : m < 256)
    (same : ordinal n = ordinal m) : n = m :=
  ordinal_injective (Nat.lt_trans small (by decide)) (Nat.lt_trans small' (by decide)) same

section Parts

variable {α : Type} {f : α → Digest} {xs ys : List α}

theorem digests_inj (same : xs.map (fun x => digest (f x)) = ys.map (fun y => digest (f y))) :
    xs.map f = ys.map f := by
  have digests : (xs.map f).map digest = (ys.map f).map digest := by
    rw [List.map_map, List.map_map]
    exact same
  exact List.map_injective_iff.mpr (fun _ _ equal => digest.inj equal) digests

/-- The digests of parts can be told from the size that follows them. -/
theorem digests_append_size_inj {m n : Nat} {fs gs : List Field}
    (same : xs.map (fun x => digest (f x)) ++ size m :: fs =
      ys.map (fun y => digest (f y)) ++ size n :: gs) : xs.map f = ys.map f ∧ fs = gs := by
  induction xs generalizing ys with
  | nil =>
    cases ys with
    | nil => exact ⟨rfl, (List.cons.inj same).2⟩
    | cons y ys => cases (List.cons.inj same).1
  | cons x xs ih =>
    cases ys with
    | nil => cases (List.cons.inj same).1
    | cons y ys =>
      have parts := List.cons.inj same
      have rest := ih parts.2
      exact ⟨congrArg₂ List.cons (digest.inj parts.1) rest.1, rest.2⟩

end Parts

end Field

/-! ## Streams -/

theorem stream_injective {fs gs : List Field} (measured : ∀ f ∈ fs, f.Measured)
    (measured' : ∀ g ∈ gs, g.Measured) (same : stream fs = stream gs) : fs = gs := by
  induction fs generalizing gs with
  | nil =>
    cases gs with
    | nil => rfl
    | cons g gs => exact absurd (List.append_eq_nil_iff.mp same.symm).1 g.bytes_ne_nil
  | cons f fs ih =>
    cases gs with
    | nil => exact absurd (List.append_eq_nil_iff.mp same).1 f.bytes_ne_nil
    | cons g gs =>
      have parts := Field.bytes_append_inj (measured f List.mem_cons_self)
        (measured' g List.mem_cons_self) same
      have rest := ih (fun h member => measured h (List.mem_cons_of_mem f member))
        (fun h member => measured' h (List.mem_cons_of_mem g member)) parts.2
      rw [parts.1, rest]

/-- The texts of a stream are not longer than the stream. -/
theorem measured_of_stream {fs : List Field} (short : (stream fs).length < 2 ^ 64) :
    ∀ f ∈ fs, f.Measured := by
  intro f member
  cases f with
  | text value =>
    have part := List.sublist_flatten_of_mem (List.mem_map_of_mem (f := Field.bytes) member)
    have inside := part.length_le
    rw [← List.flatMap_def] at inside
    have whole : value.length ≤ (Field.text value).bytes.length := by
      rw [Field.bytes, List.length_append]
      exact Nat.le_add_left _ _
    exact Nat.lt_of_le_of_lt (Nat.le_trans whole inside) short
  | _ => trivial

theorem flatMap_bytes_injective {ds es : List Digest}
    (same : ds.flatMap bytes = es.flatMap bytes) : ds = es := by
  induction ds generalizing es with
  | nil =>
    cases es with
    | nil => rfl
    | cons e es =>
      have size := congrArg List.length same
      rw [List.flatMap_cons, List.length_append, e.length_bytes] at size
      simp only [List.flatMap_nil, List.length_nil] at size
      omega
  | cons d ds ih =>
    cases es with
    | nil =>
      have size := congrArg List.length same
      rw [List.flatMap_cons, List.length_append, d.length_bytes] at size
      simp only [List.flatMap_nil, List.length_nil] at size
      omega
    | cons e es =>
      have parts := List.append_inj same (d.length_bytes.trans e.length_bytes.symm)
      rw [ext_bytes parts.1, ih parts.2]

/-! ## Appending to a stream -/

/-- One append to a stream.  Texts and collections have fewer than 2 ^ 63 entries, so that their
lengths can be written. -/
inductive Append where
  | null
  | text (value : Text) (short : value.length < 2 ^ 63)
  /-- A text for which being empty means being absent. -/
  | optionalText (value : Text) (short : value.length < 2 ^ 63)
  | int (value : Int64)
  | nat (value : UInt64)
  /-- The length of a collection. -/
  | size (length : Nat) (short : length < 2 ^ 63)
  | bool (value : Bool)
  | digest (value : Digest)
  | record (kind : UInt8)
  /-- The ordinal of an enumeration. -/
  | ordinal (value : Int64)

namespace Append

/-- What an append counts as: an ordinal as the number that it is, a length as an unsigned number,
and an optional text as null or as a text. -/
def field : Append → Field
  | null => .null
  | text value _ => .text value
  | optionalText value _ => .optional value
  | int value => .int value
  | nat value => .nat value
  | size length _ => .size length
  | bool value => .bool value
  | digest value => .digest value
  | record kind => .record kind
  | ordinal value => .int value

theorem measured_field (a : Append) : a.field.Measured := by
  cases a with
  | text value short => exact Nat.lt_trans short (by decide)
  | optionalText value short =>
    cases value with
    | nil => trivial
    | cons b value => exact Nat.lt_trans short (by decide)
  | _ => trivial

def written (appends : List Append) : Text := stream (appends.map field)

end Append

/-- The bytes that are hashed for a content and what it depends on. -/
def combined (content : Digest) (dependencies : List Digest) : Text :=
  content.bytes ++ dependencies.flatMap bytes

theorem combine_eq (content : Digest) (dependencies : List Digest) :
    combine content dependencies = ofBytes (combined content dependencies) := rfl

/-- The bytes that are hashed determine what was appended, up to what an append counts as; and they
determine the digests that are combined. -/
theorem written_eq_iff :
    (∀ as bs : List Append,
        Append.written as = Append.written bs ↔ as.map Append.field = bs.map Append.field) ∧
      ∀ (d e : Digest) (ds es : List Digest), combined d ds = combined e es ↔ d = e ∧ ds = es := by
  have measured (as : List Append) : ∀ f ∈ as.map Append.field, f.Measured :=
    List.forall_mem_map.mpr fun a _ => a.measured_field
  refine ⟨fun as bs => ⟨fun same => ?_, congrArg stream⟩, fun d e ds es => ⟨fun same => ?_, ?_⟩⟩
  · exact stream_injective (measured as) (measured bs) same
  · have whole : (d :: ds).flatMap bytes = (e :: es).flatMap bytes := same
    exact List.cons.inj (flatMap_bytes_injective whole)
  · rintro ⟨rfl, rfl⟩
    rfl

/-! ## Hashing without collisions -/

/-- Hashing is injective on a collection of texts, each of which is short enough to be hashed:
its length in bits is a number of 64 bits. -/
structure Collisionless (hashed : Text → Prop) : Prop where
  short : ∀ {t}, hashed t → t.length < 2 ^ 61
  injective : ∀ {s t}, hashed s → hashed t → Sha256.hash s = Sha256.hash t → s = t

/-- Texts that all have different hashes do not collide. -/
theorem collisionless_of_nodup {hashed : Text → Prop} (ts : List Text)
    (among : ∀ t, hashed t → t ∈ ts) (short : ∀ t ∈ ts, t.length < 2 ^ 61)
    (different : (ts.map Sha256.hash).Nodup) : Collisionless hashed where
  short := fun known => short _ (among _ known)
  injective := fun known known' same =>
    List.inj_on_of_nodup_map different (among _ known) (among _ known') same

namespace Collisionless

variable {hashed : Text → Prop} (safe : Collisionless hashed)

include safe

theorem ofBytes_inj {s t : Text} (known : hashed s) (known' : hashed t)
    (same : ofBytes s = ofBytes t) : s = t :=
  safe.injective known known' (congrArg bytes same)

theorem ofFields_inj {fs gs : List Field} (known : hashed (stream fs))
    (known' : hashed (stream gs)) (same : ofFields fs = ofFields gs) : fs = gs := by
  have measured : ∀ {fs : List Field}, hashed (stream fs) → ∀ f ∈ fs, f.Measured :=
    fun known => measured_of_stream (Nat.lt_trans (safe.short known) (by decide))
  exact stream_injective (measured known) (measured known') (safe.ofBytes_inj known known' same)

/-- The text that is hashed for digests in order. -/
theorem combine_inj {d e : Digest} {ds es : List Digest}
    (known : hashed ((d :: ds).flatMap bytes)) (known' : hashed ((e :: es).flatMap bytes))
    (same : combine d ds = combine e es) : d = e ∧ ds = es :=
  List.cons.inj (flatMap_bytes_injective (safe.ofBytes_inj known known' same))

end Collisionless

end Digest

end TemplateCompiler
