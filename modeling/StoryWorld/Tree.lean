import StoryWorld.Span

/-! Source trees: named containers of assignments, items and further containers. -/

namespace StoryWorld

/-- A member of a container. The span of an assignment or an item takes in its comma. -/
inductive Member
  | container (name : String) (members : List Member) (span nameSpan : Span)
  | assignment (key value : String) (span : Span)
  | item (text : String) (span : Span)
  deriving Repr

/-- A container, from its name to its closing brace. -/
structure Container where
  name : String
  members : List Member
  span : Span
  nameSpan : Span
  deriving Repr

/-- The containers of a source text. -/
structure SourceTree where
  objects : List Container
  deriving Repr

namespace Member

/-- A container as a member of another. -/
def ofContainer (c : Container) : Member := .container c.name c.members c.span c.nameSpan

/-- Where a member stands. -/
def span : Member → Span
  | container _ _ span _ => span
  | assignment _ _ span => span
  | item _ span => span

/-- What a member is called in messages. -/
def kind : Member → String
  | container .. => "container"
  | assignment .. => "assignment"
  | item .. => "item"

/-! ## Equality up to spans -/

mutual
/-- Whether two members differ at most in their spans. -/
def sameShape : Member → Member → Bool
  | container n ms _ _, container n' ms' _ _ => n == n' && allSameShape ms ms'
  | assignment k v _, assignment k' v' _ => k == k' && v == v'
  | item t _, item t' _ => t == t'
  | _, _ => false

/-- Whether two lists of members differ at most in their spans. -/
def allSameShape : List Member → List Member → Bool
  | [], [] => true
  | m :: ms, m' :: ms' => sameShape m m' && allSameShape ms ms'
  | _, _ => false
end

end Member

/-- Whether two containers differ at most in their spans. -/
def Container.sameShape (c d : Container) : Bool :=
  (Member.ofContainer c).sameShape (.ofContainer d)

/-- Whether two trees differ at most in their spans. -/
def SourceTree.sameShape (t u : SourceTree) : Bool :=
  Member.allSameShape (t.objects.map .ofContainer) (u.objects.map .ofContainer)

end StoryWorld
