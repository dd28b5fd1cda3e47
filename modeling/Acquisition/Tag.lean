/-!
# Tags

Media, indexers and delay profiles carry sets of tags, which are small numbers.  A set is a list
in increasing order without repetition.
-/

namespace Acquisition

/-- A set of tags, in increasing order. -/
abbrev Tags := List Nat

namespace Tags

/-- Adds a tag to a set. -/
def insert (tag : Nat) : Tags → Tags
  | [] => [tag]
  | first :: rest =>
    if tag < first then tag :: first :: rest
    else if tag == first then first :: rest
    else first :: insert tag rest

/-- The set of the listed tags. -/
def ofList (tags : List Nat) : Tags :=
  tags.foldl (fun set tag => insert tag set) []

/-- The number of tags that two sets share. -/
def overlap (a b : Tags) : Nat :=
  a.countP (b.contains ·)

/-- The two sets share no tag. -/
def disjoint (a b : Tags) : Bool :=
  !a.any (b.contains ·)

end Tags

end Acquisition
