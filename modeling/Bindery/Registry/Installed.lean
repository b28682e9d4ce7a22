import Bindery.Registry.Basic
/-!
The place for a registry that a whole process shares. It is filled once and never emptied.
-/

namespace Bindery

/-- The registry that has been installed, if any. -/
structure Installed where
  content? : Option Registry := none

namespace Installed

/-- Install a registry. It is handed back when one is there already. -/
def install (place : Installed) (r : Registry) : Except Registry Installed :=
  match place.content? with
  | none => .ok ⟨some r⟩
  | some _ => .error r

end Installed

end Bindery
