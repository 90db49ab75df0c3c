import TemplateCompiler.Digest.Basic

/-!
# Stores

A store keeps a value under the digest of what the value was made from.  Each digest has at most one
value.  `getOrAdd` is made of two steps that each see the whole store, a look-up and `addIfAbsent`,
so that callers whose steps interleave agree on the value: the first one stored wins.
-/

namespace TemplateCompiler

/-- Values by digest, each of them stored once.  What is stored under a digest never changes, and
asking for a value that is there never makes another one. -/
structure Store (α : Type) where
  entries : List (Digest × α) := []

namespace Store

variable {α : Type}

instance : Inhabited (Store α) := ⟨{}⟩

/-- The value under a digest. -/
def get? (s : Store α) (key : Digest) : Option α :=
  (s.entries.find? fun e => e.1 == key).map Prod.snd

/-- The store with a value under a digest, whatever stood there before. -/
def put (s : Store α) (key : Digest) (value : α) : Store α :=
  ⟨(key, value) :: s.entries.filter fun e => !(e.1 == key)⟩

/-- The store with a value under a digest that had none, and the value that stands there now. -/
def addIfAbsent (s : Store α) (key : Digest) (value : α) : Store α × α :=
  match s.get? key with
  | some present => (s, present)
  | none => (s.put key value, value)

/-- The value under a digest; one is made and stored if there is none. -/
def getOrAdd (s : Store α) (key : Digest) (create : Unit → α) : Store α × α :=
  match s.get? key with
  | some present => (s, present)
  | none => s.addIfAbsent key (create ())

def size (s : Store α) : Nat := s.entries.length

end Store

end TemplateCompiler
