import Acquisition.Text.Split

/-!
# Paths

A path is a text whose components are separated by slashes.  Repeated slashes, dots inside the
path and a trailing slash are not seen; a leading dot and double dots are components of their
own.  Paths are compared by their components, while the text is kept as it was given.

## Main definitions

* `Path.components`: the components that a path is compared by.
* `Path.parent?`, `Path.ancestors`, `Path.join`: walking up and down.
* `Path.fileName?`, `Path.fileStem?`, `Path.extension?`: the last component and its parts.
-/

namespace Acquisition

/-- A path as it was written. -/
structure Path where
  text : String
  deriving DecidableEq, Repr, Inhabited

namespace Path

/-! ### Components -/

/-- A component of a path. -/
inductive Component
  /-- The slash that an absolute path starts with. -/
  | root
  /-- The dot that a path may start with. -/
  | current
  /-- The double dot. -/
  | parent
  | name (text : String)
  deriving DecidableEq, Repr, Inhabited

/-- The place of the kind of a component in the order of components. -/
def Component.kindRank : Component → Nat
  | .root => 0
  | .current => 1
  | .parent => 2
  | .name _ => 3

/-- Components are ordered by kind, names by their characters. -/
def Component.cmp : Component → Component → Ordering
  | .name a, .name b => compare a b
  | a, b => compare a.kindRank b.kindRank

/-- A path as what it starts with and the pieces of the rest. -/
structure Layout where
  /-- A root, a leading dot, or nothing. -/
  head : Option Component
  /-- The pieces between slashes behind the head. -/
  pieces : List (List Char)

/-- The layout of a path. -/
def layout (path : Path) : Layout :=
  match path.text.toList with
  | '/' :: rest => ⟨some .root, Text.pieces '/' rest⟩
  | ['.'] => ⟨some .current, [[]]⟩
  | '.' :: '/' :: rest => ⟨some .current, [] :: Text.pieces '/' rest⟩
  | text => ⟨none, Text.pieces '/' text⟩

/-- A piece that is no component: nothing, or a dot. -/
def isIdle (piece : List Char) : Bool :=
  piece.isEmpty || piece == ['.']

/-- The path with the layout. -/
def ofLayout (l : Layout) : Path :=
  let head :=
    match l.head with
    | some .root => ['/']
    | some .current => ['.']
    | _ => []
  ⟨String.ofList (head ++ (l.pieces.intersperse ['/']).flatten)⟩

/-- The component that a piece stands for. -/
def componentOf? (piece : List Char) : Option Component :=
  if isIdle piece then none
  else if piece == ['.', '.'] then some .parent
  else some (.name (String.ofList piece))

/-- The components of a path. -/
def components (path : Path) : List Component :=
  path.layout.head.toList ++ path.layout.pieces.filterMap componentOf?

/-! ### Comparison -/

/-- Lexicographic comparison of component lists. -/
def cmpComponents : List Component → List Component → Ordering
  | [], [] => .eq
  | [], _ :: _ => .lt
  | _ :: _, [] => .gt
  | a :: as, b :: bs => (a.cmp b).then (cmpComponents as bs)

/-- The order of paths. -/
def cmp (a b : Path) : Ordering :=
  cmpComponents a.components b.components

/-- The two texts denote the same path. -/
def same (a b : Path) : Bool :=
  a.components == b.components

/-- `folder` is a folder above `path`, or `path` itself; the empty path is above every path. -/
def isWithin (path folder : Path) : Bool :=
  folder.components.isPrefixOf path.components

/-! ### Walking -/

/-- The path without its last component; a root and the empty path have none to lose. -/
def parent? (path : Path) : Option Path :=
  let l := path.layout
  match l.pieces.reverse.dropWhile isIdle with
  | _ :: above => some (ofLayout ⟨l.head, (above.dropWhile isIdle).reverse⟩)
  | [] =>
    match l.head with
    | some .current => some ⟨""⟩
    | _ => none

/-- The first `fuel` of the paths above `path`, nearest first. -/
def ancestorsUpTo : Nat → Path → List Path
  | 0, _ => []
  | fuel + 1, path =>
    match path.parent? with
    | some parent => parent :: ancestorsUpTo fuel parent
    | none => []

/-- The paths above `path`, nearest first.  Each is shorter than the one before. -/
def ancestors (path : Path) : List Path :=
  ancestorsUpTo (path.text.length + 1) path

/-- The path of `relative` as seen from `base`; an absolute path stays as it is. -/
def join (base : Path) (relative : String) : Path :=
  if relative.toList.head? == some '/' then ⟨relative⟩
  else if base.text.isEmpty || base.text.toList.getLast? == some '/' then
    ⟨base.text ++ relative⟩
  else ⟨base.text ++ "/" ++ relative⟩

/-! ### Names -/

/-- The last component, if it is a name. -/
def fileName? (path : Path) : Option String :=
  match path.components.getLast? with
  | some (.name text) => some text
  | _ => none

/-- A file name cut at its last dot; a dot in front belongs to the name. -/
def splitName (name : String) : String × Option String :=
  match name.toList.reverse.span (· != '.') with
  | (_, []) => (name, none)
  | (_, [_]) => (name, none)
  | (after, _ :: before) =>
    (String.ofList before.reverse, some (String.ofList after.reverse))

/-- The file name without its extension. -/
def fileStem? (path : Path) : Option String :=
  path.fileName?.map fun name => (splitName name).1

/-- The extension of the file name. -/
def extension? (path : Path) : Option String :=
  path.fileName?.bind fun name => (splitName name).2

end Path

end Acquisition
