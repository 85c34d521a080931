/-
# Clearance.Proofs.FinalBottom -- a fold that has reached bottom never leaves it

A fold comes to bottom in one of three ways.  Bottom is its first label, and is met with
all that follow; bottom is a later label, and what was folded so far is met with it; or
two labels meet to bottom that are both something else.  Whichever it was, bottom is now
on the left of every meet to come, and absorbs there.

So a list that is denied stays denied whatever is put behind it, and a list that is
permitted was permitted at each of its prefixes.  No law of the table is asked for.
Prefixes that are empty are left out: nothing at all meets to bottom.
-/
import Clearance.Proofs.FailClosed

namespace Clearance.MeetTable

set_option autoImplicit false

variable (t : MeetTable)

/-- What is put behind a denied list does not change the denial. -/
theorem meetAll_append_of_eq_bottom {xs : List Label} (ne : xs ≠ [])
    (denied : t.meetAll xs = t.bottom) (ys : List Label) :
    t.meetAll (xs ++ ys) = t.bottom := by
  rw [t.meetAll_append_eq_foldl ne, denied, t.foldl_meet_bottom]

/-- A list that has bottom at its end is denied, whether or not something stands before. -/
theorem meetAll_concat_bottom (xs : List Label) : t.meetAll (xs ++ [t.bottom]) = t.bottom := by
  by_cases first : xs = []
  · rw [first, List.nil_append, meetAll_singleton]
  · rw [t.meetAll_concat t.bottom first, meet_bottom_right]

/-- A list that has bottom anywhere is denied: it is so at bottom already. -/
theorem meetAll_eq_bottom_of_mem {xs : List Label} (member : t.bottom ∈ xs) :
    t.meetAll xs = t.bottom := by
  obtain ⟨before, after, rfl⟩ := List.append_of_mem member
  have upToBottom : t.meetAll (before ++ [t.bottom]) = t.bottom := t.meetAll_concat_bottom before
  have ne : before ++ [t.bottom] ≠ [] := by simp
  rw [List.append_cons]
  exact t.meetAll_append_of_eq_bottom ne upToBottom after

/-- A permitted list was permitted at each prefix that is not empty. -/
theorem permits_of_isPrefix {xs zs : List Label} (ne : xs ≠ []) (start : xs <+: zs)
    (permitted : t.permits zs = true) : t.permits xs = true := by
  obtain ⟨ys, rfl⟩ := start
  exact t.permits_of_append ne permitted

/-- **A denial inside a fold is permanent.**  A denied list stays denied whatever is put
behind it; a list with bottom at any place is denied; two labels or more fold to one of
the domain, known or not; and a permitted list has permitted prefixes. -/
theorem denial_is_permanent :
    (∀ xs ys : List Label, xs ≠ [] → t.meetAll xs = t.bottom →
      t.meetAll (xs ++ ys) = t.bottom) ∧
    (∀ xs : List Label, t.bottom ∈ xs → t.meetAll xs = t.bottom) ∧
    (∀ xs : List Label, 2 ≤ xs.length → t.meetAll xs ∈ t.domain) ∧
    ∀ xs zs : List Label, xs ≠ [] → xs <+: zs → t.permits zs = true → t.permits xs = true :=
  ⟨fun _ ys ne denied => t.meetAll_append_of_eq_bottom ne denied ys,
    fun _ member => t.meetAll_eq_bottom_of_mem member,
    fun _ two => t.meetAll_mem_domain_of_two two,
    fun _ _ ne start permitted => t.permits_of_isPrefix ne start permitted⟩

/-- `B` meets `A` to bottom, and `A` cannot mend it; bottom stands between two labels;
labels are folded that nobody knows; and a list is permitted from its first label on. -/
theorem oneSided_denial_is_permanent :
    (oneSided.meetAll [⟨"B"⟩, ⟨"A"⟩] = oneSided.bottom ∧
      oneSided.meetAll [⟨"B"⟩, ⟨"A"⟩, ⟨"A"⟩, ⟨"A"⟩] = oneSided.bottom) ∧
    oneSided.meetAll [⟨"A"⟩, ⟨"BOTTOM"⟩, ⟨"B"⟩] = oneSided.bottom ∧
    oneSided.meetAll [⟨"C"⟩, ⟨"D"⟩] ∈ oneSided.domain ∧
    oneSided.permits [⟨"A"⟩, ⟨"B"⟩, ⟨"A"⟩] = true ∧ oneSided.permits [⟨"A"⟩, ⟨"B"⟩] = true := by
  obtain ⟨behind, anywhere, known, prefixes⟩ := oneSided.denial_is_permanent
  have denied : oneSided.meetAll [⟨"B"⟩, ⟨"A"⟩] = oneSided.bottom := by decide
  have permitted : oneSided.permits [⟨"A"⟩, ⟨"B"⟩, ⟨"A"⟩] = true := by decide
  have start : [(⟨"A"⟩ : Label), ⟨"B"⟩] <+: [⟨"A"⟩, ⟨"B"⟩, ⟨"A"⟩] := ⟨[⟨"A"⟩], rfl⟩
  exact ⟨⟨denied, behind _ [⟨"A"⟩, ⟨"A"⟩] (by simp) denied⟩, anywhere _ (by decide),
    known _ (by decide), permitted, prefixes _ _ (by simp) start permitted⟩

/-- Behind an empty list, which meets to bottom, a label may be permitted. -/
example : oneSided.meetAll [] = oneSided.bottom ∧ oneSided.meetAll [⟨"A"⟩] ≠ oneSided.bottom := by
  decide

end Clearance.MeetTable
