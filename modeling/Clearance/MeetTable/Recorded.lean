/-
# Clearance.MeetTable.Recorded -- operations on tables that record an event

A fold that decides something, a report of broken laws and a finished table are
worth an event.  Each operation here has the answer of its plain form; a report
without a broken law and a construction that fails record nothing.
-/
import Clearance.Event
import Clearance.MeetTable.Laws

namespace Clearance.MeetTable

set_option autoImplicit false

/-- Whether the labels meet above bottom; the fold is recorded. -/
def permitsLogged (t : MeetTable) (ls : List Label) : Logged Bool := do
  Logged.emit (.labelsFolded t.bottom (t.meetAll ls))
  return t.permits ls

/-- The laws a table breaks; recorded if there are any. -/
def lawBreaksLogged (t : MeetTable) : Logged (List LawBreak) :=
  match t.lawBreaks with
  | [] => return []
  | breaks => do
      Logged.emit (.lawsBroken t.bottom breaks.length)
      return breaks

/-- A table that was built; recorded if there is one. -/
def builtLogged {ε : Type} : Except ε MeetTable → Logged (Except ε MeetTable)
  | .error e => return .error e
  | .ok t => do
      Logged.emit (.tableBuilt t.bottom t.size)
      return .ok t

@[simp] theorem answer_permitsLogged (t : MeetTable) (ls : List Label) :
    (t.permitsLogged ls).answer = t.permits ls :=
  rfl

@[simp] theorem answer_lawBreaksLogged (t : MeetTable) :
    t.lawBreaksLogged.answer = t.lawBreaks := by
  unfold lawBreaksLogged
  split
  · rename_i h; exact h.symm
  · rfl

@[simp] theorem answer_builtLogged {ε : Type} (r : Except ε MeetTable) :
    (builtLogged r).answer = r := by
  cases r <;> rfl

end Clearance.MeetTable
