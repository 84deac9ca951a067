import StoryWorld.Entries
import StoryWorld.Handle

/-! Registries: things of one kind by handle, with an index from names to handles. -/

namespace StoryWorld

/-- Things of kind `k` in order of first registration, and the handle of each name. -/
structure Registry (k : Kind) (α : Type) where
  items : List α := []
  index : Entries String (Handle k) := []
  deriving Repr

namespace Registry

variable {k : Kind} {α : Type}

/-- The number of things registered. -/
def size (r : Registry k α) : Nat := r.items.length

/-- The handle of a name. -/
def handle? (r : Registry k α) (name : String) : Option (Handle k) := r.index.get? name

/-- The thing at a handle. -/
def get? (r : Registry k α) (h : Handle k) : Option α := r.items[h.index]?

/-- The thing registered under a name. -/
def find? (r : Registry k α) (name : String) : Option α := (r.handle? name).bind r.get?

/-- The things with their handles, in order. -/
def entries (r : Registry k α) : List (Handle k × α) :=
  r.items.zipIdx.map fun (a, i) => (⟨i⟩, a)

/-- Registers `a` under a name. A name that has a handle keeps it, and `a` takes the place of what
stood there. The flag says whether the name was new. -/
def insert (r : Registry k α) (name : String) (a : α) : Registry k α × Handle k × Bool :=
  match r.handle? name with
  | some h => ({ r with items := r.items.set h.index a }, h, false)
  | none =>
    let h : Handle k := ⟨r.items.length⟩
    ({ items := r.items ++ [a], index := r.index ++ [(name, h)] }, h, true)

/-- Changes the thing at a handle, if there is one. -/
def modify (r : Registry k α) (h : Handle k) (f : α → α) : Registry k α :=
  { r with items := r.items.modify h.index f }

/-- Changes every thing, given its handle. -/
def mapEntries (r : Registry k α) (f : Handle k → α → α) : Registry k α :=
  { r with items := r.entries.map fun (h, a) => f h a }

end Registry

end StoryWorld
