/-!
# Shutdown

A request to shut a server down, once made, stands.
-/

set_option autoImplicit false

namespace MediaControl

/-- Whether a server has been asked to shut down. -/
structure Shutdown where
  isRequested : Bool := false
  deriving DecidableEq, Repr, Inhabited

/-- Asks for the shutdown. -/
def Shutdown.request (_ : Shutdown) : Shutdown := { isRequested := true }

end MediaControl
