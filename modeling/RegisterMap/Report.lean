import RegisterMap.Notice
import RegisterMap.Value.Misfit

/-!
Reports: what came of some work on a model, or why a value of the model stood against it, together
with what was noticed up to there.
-/

set_option autoImplicit false

namespace RegisterMap

structure Report (α : Type) where
  notices : List Notice
  result : Except Misfit α

namespace Report

variable {α β : Type}

/-- A result without notices. -/
def ofResult (result : Except Misfit α) : Report α := { notices := [], result := result }

def note (n : Notice) : Report Unit := { notices := [n], result := .ok () }

/-- Goes on from a result; notices of later work follow those of earlier work. -/
def andThen (r : Report α) (next : α → Report β) : Report β :=
  match r.result with
  | .error misfit => { notices := r.notices, result := .error misfit }
  | .ok v => { next v with notices := r.notices ++ (next v).notices }

instance : Monad Report where
  pure v := ofResult (.ok v)
  bind := andThen

end Report

end RegisterMap
