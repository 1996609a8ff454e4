import Rehearsal.Failure
import Rehearsal.Pager

/-! # Showing pages

  A page is shown by handing it to a viewer. A session keeps the list of what it handed over
  and goes on in the same way whether or not the viewer succeeds.
-/

namespace Rehearsal

/-- A page of a score that a viewer is to show. -/
structure PageView where
  path : String
  page : Nat
  deriving DecidableEq, Repr

/-- A viewer that keeps a record of what it was asked to show. -/
structure Viewer where
  /-- What the viewer was asked to show, oldest first. -/
  shown : List PageView
  /-- Whether the viewer fails at every request. -/
  failing : Bool
  deriving DecidableEq, Repr

namespace Viewer

/-- A viewer that was not yet asked for anything. -/
def fresh (failing : Bool) : Viewer := ⟨[], failing⟩

/-- Ask for a page. The request is on record even if it fails. -/
def request (v : Viewer) (view : PageView) : Viewer × Except Failure Unit :=
  ({ v with shown := v.shown ++ [view] },
    if v.failing then .error (.viewer "the viewer is gone") else .ok ())

/-- Ask for the current page of a score, whatever becomes of it. -/
def showPage (v : Viewer) (p : Pager) : Viewer := (v.request ⟨p.path, p.current⟩).1

end Viewer

end Rehearsal
