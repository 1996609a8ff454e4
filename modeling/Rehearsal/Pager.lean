/-! # The page of a score

  A pager knows the current page of a score and, if known, how many pages there are. Pages
  count from one. Every move is a jump that is brought into range, so paging back stops at the
  first page and paging forward at the last.
-/

namespace Rehearsal

/-- The greatest page number. -/
def maxPage : Nat := 4294967295

/-- The current page of a score. -/
structure Pager where
  path : String
  current : Nat
  /-- How many pages there are, if known. -/
  total : Option Nat
  deriving DecidableEq, Repr

namespace Pager

/-- The first page of a score of unknown length. -/
def ofPath (path : String) : Pager := ⟨path, 1, none⟩

/-- The same page of a score whose length is now known, or no longer known; a length of zero
    says nothing. -/
def withTotal (p : Pager) (total : Option Nat) : Pager :=
  { p with total := total.filter fun n => decide (0 < n) }

/-- The last page that can be reached. -/
def last (p : Pager) : Nat := p.total.getD maxPage

/-- A jump to a page, brought between the first and the last. -/
def goto (p : Pager) (page : Nat) : Pager := { p with current := max 1 (min page p.last) }

def next (p : Pager) : Pager := p.goto (p.current + 1)

def prev (p : Pager) : Pager := p.goto (p.current - 1)

end Pager

end Rehearsal
