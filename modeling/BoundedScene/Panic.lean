/-!
Contract: what a panic carries and how it is reported.

Owns: `PanicPayload` and its description.

Does not own: who panics, and who catches it.
-/

namespace BoundedScene

/-- What a panic carries. -/
inductive PanicPayload where
  /-- A text that was fixed beforehand. -/
  | fixed (message : String)
  /-- A text that was composed when the panic arose. -/
  | composed (message : String)
  /-- Something that cannot be read. -/
  | other
deriving DecidableEq, Repr

/-- The readable part of a panic. -/
def PanicPayload.describe : PanicPayload → String
  | .fixed message => message
  | .composed message => message
  | .other => "unknown panic"

end BoundedScene
