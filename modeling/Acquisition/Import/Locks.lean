import Acquisition.Path

/-!
# Locked paths

A path is locked while a request works on its file, so that no two requests do so at the same
time.  Paths are compared as paths, not by their text.
-/

namespace Acquisition

/-- The paths that are locked. -/
structure PathLocks where
  held : List Path
  deriving Repr, Inhabited

namespace PathLocks

/-- No path is locked. -/
def empty : PathLocks := ⟨[]⟩

/-- The path is locked. -/
def isLocked (locks : PathLocks) (path : Path) : Bool :=
  locks.held.any (·.same path)

/-- Locks a path that is not locked yet. -/
def lock? (locks : PathLocks) (path : Path) : Option PathLocks :=
  if locks.isLocked path then none else some ⟨path :: locks.held⟩

/-- Unlocks a path. -/
def unlock (locks : PathLocks) (path : Path) : PathLocks :=
  ⟨locks.held.filter fun held => !held.same path⟩

end PathLocks

end Acquisition
