/-!
# Notices

Lines of a game's history, for everyone or for some players only.
-/

namespace Tabletop

structure Notice where
  content : String
  isPublic : Bool
  /-- The players who see a notice that is not public. -/
  recipients : List Nat
deriving DecidableEq

namespace Notice

/-- A notice for everyone. -/
def toAll (content : String) : Notice :=
  ⟨content, true, []⟩

/-- A notice for some players. -/
def toSome (content : String) (recipients : List Nat) : Notice :=
  ⟨content, false, recipients⟩

def isVisibleTo (notice : Notice) (player : Nat) : Bool :=
  notice.isPublic || notice.recipients.contains player

end Notice

end Tabletop
