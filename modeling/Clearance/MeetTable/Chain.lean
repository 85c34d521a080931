/-
# Clearance.MeetTable.Chain -- tables of totally ordered levels

A chain lists levels from the highest to the lowest, and two levels meet to the
lower one.  `chainRules` writes its directed rules out; `Builder.defineChain`
defines the same order through symmetric definitions.

The constructions here promise their callers a table.  Where the levels break
the promise, `Rejection` holds the promise with the reason.
-/
import Clearance.MeetTable.Builder

namespace Clearance

set_option autoImplicit false

/-- A construction that was promised to succeed, and why it did not. -/
structure Rejection where
  promise : String
  cause : BuildError
deriving DecidableEq

def Rejection.message (r : Rejection) : String :=
  r.promise ++ ": " ++ r.cause.describe

/-- The directed rules of a chain: for each level, in both directions, its meets
with itself and the levels below it. -/
def chainRules : List Label → List MeetRule
  | [] => []
  | high :: lower =>
      ((high :: lower).flatMap fun low =>
        if high ≠ low then [⟨high, low, low⟩, ⟨low, high, low⟩] else [⟨high, low, low⟩]) ++
      chainRules lower

namespace MeetTable

/-- The table of one chain, defined symmetrically. -/
def ofChain (levels : List Label) : Except Rejection MeetTable :=
  (({} : Builder).defineChain levels).build.mapError
    (Rejection.mk "chain levels must be distinct and non-bottom")

/-- The table of directed rules over the default bottom, in the given order. -/
def ofDirected (rules : List MeetRule) : Except Rejection MeetTable :=
  (rules.foldl (fun b r => b.define r.left r.right r.result) ({} : Builder)).build.mapError
    (Rejection.mk "generated entries are well-formed")

/-- The table of one chain, from its directed rules. -/
def ofChainRules (levels : List Label) : Except Rejection MeetTable :=
  ofDirected (chainRules levels)

end MeetTable

end Clearance
