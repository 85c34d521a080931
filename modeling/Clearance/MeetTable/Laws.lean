/-
# Clearance.MeetTable.Laws -- which semilattice laws a table breaks

A table is a meet-semilattice with bottom when its meet is idempotent,
commutative and associative.  `lawBreaks` tries the laws on the labels of the
domain and lists what fails: idempotence first, then commutativity, then
associativity, each in ascending order of its labels.

Bottom is left out of the idempotence check because it absorbs, and
commutativity is tried on each unordered pair once.
-/
import Clearance.MeetTable.Basic

namespace Clearance

set_option autoImplicit false

/-- A law that fails, with the labels it fails at and what came out. -/
inductive LawBreak where
  | notIdempotent (a result : Label)
  | notCommutative (a b ab ba : Label)
  | notAssociative (a b c left right : Label)
deriving DecidableEq

/-- The unordered pairs of two places of a list, the earlier place first. -/
def orderedPairs {α : Type} : List α → List (α × α)
  | [] => []
  | x :: xs => xs.map (x, ·) ++ orderedPairs xs

/-- All triples over a list, in the order of its places. -/
def orderedTriples {α : Type} (xs : List α) : List (α × α × α) :=
  xs.flatMap fun x => xs.flatMap fun y => xs.map fun z => (x, y, z)

namespace MeetTable

def idempotenceBreak? (t : MeetTable) (a : Label) : Option LawBreak :=
  if a ≠ t.bottom ∧ t.meet a a ≠ a then some (.notIdempotent a (t.meet a a)) else none

def commutativityBreak? (t : MeetTable) : Label × Label → Option LawBreak
  | (a, b) =>
      if t.meet a b ≠ t.meet b a then some (.notCommutative a b (t.meet a b) (t.meet b a))
      else none

def associativityBreak? (t : MeetTable) : Label × Label × Label → Option LawBreak
  | (a, b, c) =>
      let left := t.meet (t.meet a b) c
      let right := t.meet a (t.meet b c)
      if left ≠ right then some (.notAssociative a b c left right) else none

/-- Every law the table breaks, at every place in its domain. -/
def lawBreaks (t : MeetTable) : List LawBreak :=
  t.domain.filterMap t.idempotenceBreak? ++
    (orderedPairs t.domain).filterMap t.commutativityBreak? ++
    (orderedTriples t.domain).filterMap t.associativityBreak?

end MeetTable

end Clearance
