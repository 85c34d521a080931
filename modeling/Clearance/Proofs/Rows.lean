/-
# Clearance.Proofs.Rows -- the rules of a table, row by row

A table can be written out by rows: for each left operand the right operands it has a
rule with, and their results.  A meet is then looked up in two steps, the rules are
counted row by row, and there are none when there is no row.

A table in rows is filled rule by rule and tidied at the end, in two passes: first the
cells go whose result is bottom, then the rows that have no cell left.  Without the
second pass a row could be there with nothing in it, and neither the number of cells nor
the meets would tell.  With it every row has a cell (`Filled`), and then the rows are
determined by their rules (`rows_eq_iff_rules_eq`): a row's cells are told by the rules
of its operand, and a row is there where there are cells.

So the rows that are kept are the rules of the table that is built, in the same order
(`rules_kept`).  Both count the same, are empty together and answer every meet alike
(`size_kept`, `rows_kept_eq_nil_iff`, `meet_kept`), and two builders keep the same rows
where they build the same rules (`rows_kept_eq_iff`).
-/
import Mathlib.Algebra.GroupWithZero.Nat
import Mathlib.Data.List.Induction
import Clearance.Proofs.Meaning

namespace Clearance

set_option autoImplicit false

/-- The value under a key. -/
def valueOf? {β : Type} (key : Label) (pairs : List (Label × β)) : Option β :=
  (pairs.find? fun p => p.1 = key).map Prod.snd

section Pairs

variable {β : Type} {k l : Label} {v : β} {pairs : List (Label × β)}

theorem compareOn_fst_eq_iff {p q : Label × β} : compareOn Prod.fst p q = .eq ↔ p.1 = q.1 :=
  Std.LawfulEqOrd.compare_eq_iff_eq

theorem valueOf?_insert_self :
    valueOf? k (Ordered.insert (compareOn Prod.fst) (k, v) pairs) = some v := by
  rw [valueOf?, Ordered.find?_insert_self (by simp)]
  · rfl
  · intro p named
    exact compareOn_fst_eq_iff.2 (of_decide_eq_true named).symm

theorem valueOf?_insert_of_ne (ne : k ≠ l) :
    valueOf? l (Ordered.insert (compareOn Prod.fst) (k, v) pairs) = valueOf? l pairs := by
  rw [valueOf?, Ordered.find?_insert_of_not (by simpa using ne)]
  · rfl
  · intro p same
    simpa [← compareOn_fst_eq_iff.1 same] using ne

theorem valueOf?_eq_some_iff (sorted : Ordered.Ascending (compareOn Prod.fst) pairs) :
    valueOf? k pairs = some v ↔ (k, v) ∈ pairs := by
  have shared : ∀ p q : Label × β, decide (p.1 = k) = true → decide (q.1 = k) = true →
      compareOn Prod.fst p q = .eq := fun p q hp hq =>
    compareOn_fst_eq_iff.2 ((of_decide_eq_true hp).trans (of_decide_eq_true hq).symm)
  simp only [valueOf?, Option.map_eq_some_iff,
    Ordered.find?_eq_some_iff_of_ascending shared sorted, decide_eq_true_iff]
  constructor
  · rintro ⟨p, ⟨member, rfl⟩, rfl⟩
    exact member
  · intro member
    exact ⟨(k, v), ⟨member, rfl⟩, rfl⟩

end Pairs

/-- Rows by ascending left operands, and in each the results by ascending right
operands. -/
structure Rows where
  rows : List (Label × List (Label × Label))
  ascending : Ordered.Ascending (compareOn Prod.fst) rows
  cells_ascending : ∀ row ∈ rows, Ordered.Ascending (compareOn Prod.fst) row.2

namespace Rows

def empty : Rows :=
  ⟨[], .nil, by simp⟩

/-- The cells of a left operand, none if it has no row. -/
def cells (g : Rows) (a : Label) : List (Label × Label) :=
  (valueOf? a g.rows).getD []

def cell? (g : Rows) (a b : Label) : Option Label :=
  valueOf? b (g.cells a)

/-- The rules of one row. -/
def rulesOf (row : Label × List (Label × Label)) : List MeetRule :=
  row.2.map fun cell => ⟨row.1, cell.1, cell.2⟩

/-- The rules, from the first row to the last. -/
def rules (g : Rows) : List MeetRule :=
  g.rows.flatMap rulesOf

/-- Number of cells. -/
def size (g : Rows) : Nat :=
  (g.rows.map fun row => row.2.length).sum

variable {g h : Rows} {a b m : Label} {r : MeetRule}

theorem cells_eq_of_mem {cs : List (Label × Label)} (member : (a, cs) ∈ g.rows) :
    g.cells a = cs := by
  rw [cells, (valueOf?_eq_some_iff g.ascending).2 member, Option.getD_some]

theorem mem_rows_of_mem_cells {c : Label × Label} (member : c ∈ g.cells a) :
    (a, g.cells a) ∈ g.rows := by
  cases found : valueOf? a g.rows with
  | none => simp [cells, found] at member
  | some cs =>
      have stored := (valueOf?_eq_some_iff g.ascending).1 found
      rwa [cells_eq_of_mem stored]

theorem ascending_cells (g : Rows) (a : Label) :
    Ordered.Ascending (compareOn Prod.fst) (g.cells a) := by
  cases found : valueOf? a g.rows with
  | none => simp [cells, found, Ordered.Ascending]
  | some cs =>
      have stored := (valueOf?_eq_some_iff g.ascending).1 found
      rw [cells_eq_of_mem stored]
      exact g.cells_ascending _ stored

/-- A rule is there when the row of its left operand has its cell. -/
theorem mem_rules_iff_mem_cells : r ∈ g.rules ↔ (r.right, r.result) ∈ g.cells r.left := by
  rw [rules, List.mem_flatMap]
  constructor
  · rintro ⟨⟨a, cs⟩, row, member⟩
    obtain ⟨c, cell, rfl⟩ := List.mem_map.1 member
    rwa [cells_eq_of_mem row]
  · intro member
    exact ⟨_, mem_rows_of_mem_cells member, List.mem_map.2 ⟨_, member, rfl⟩⟩

/-- A rule is there when its cell has its result. -/
theorem mem_rules_iff : r ∈ g.rules ↔ g.cell? r.left r.right = some r.result := by
  rw [mem_rules_iff_mem_cells, cell?, valueOf?_eq_some_iff (g.ascending_cells r.left)]

theorem ascending_rules (g : Rows) : Ordered.Ascending MeetRule.compareOperands g.rules := by
  apply List.pairwise_flatMap.2
  constructor
  · intro row member
    refine List.pairwise_map.2 ((g.cells_ascending row member).imp fun {c d} less => ?_)
    have right : compare c.1 d.1 = .lt := less
    simp [MeetRule.compareOperands, compareLex, compareOn, right]
  · refine g.ascending.imp fun {row later} less r hr s hs => ?_
    have left : compare row.1 later.1 = .lt := less
    obtain ⟨c, -, rfl⟩ := List.mem_map.1 hr
    obtain ⟨d, -, rfl⟩ := List.mem_map.1 hs
    simp [MeetRule.compareOperands, compareLex, compareOn, left]

theorem length_rules (g : Rows) : g.rules.length = g.size := by
  simp [rules, rulesOf, size, List.length_flatMap]

/-! ## Rows that have a cell -/

/-- No row is empty. -/
def Filled (g : Rows) : Prop :=
  ∀ row ∈ g.rows, row.2 ≠ []

/-- The cells of an operand are told by the rules. -/
theorem cells_eq_of_rules_eq (same : g.rules = h.rules) (a : Label) : g.cells a = h.cells a := by
  refine Ordered.eq_of_ascending (g.ascending_cells a) (h.ascending_cells a) fun c => ?_
  have stored : ∀ g : Rows, c ∈ g.cells a ↔ ⟨a, c.1, c.2⟩ ∈ g.rules := fun g =>
    (mem_rules_iff_mem_cells (g := g) (r := ⟨a, c.1, c.2⟩)).symm
  rw [stored, stored, same]

/-- The rows are those of the operands that have cells. -/
theorem mem_rows_iff (filled : g.Filled) {row : Label × List (Label × Label)} :
    row ∈ g.rows ↔ g.cells row.1 = row.2 ∧ row.2 ≠ [] := by
  constructor
  · intro member
    exact ⟨cells_eq_of_mem member, filled row member⟩
  · rintro ⟨same, ne⟩
    obtain ⟨c, member⟩ := List.exists_mem_of_ne_nil _ ne
    have stored := mem_rows_of_mem_cells (same ▸ member)
    rwa [same] at stored

/-- Rows that all have a cell are determined by their rules. -/
theorem rows_eq_iff_rules_eq (hg : g.Filled) (hh : h.Filled) :
    g.rows = h.rows ↔ g.rules = h.rules := by
  constructor
  · intro same
    rw [rules, same, rules]
  · intro same
    refine Ordered.eq_of_ascending g.ascending h.ascending fun row => ?_
    rw [mem_rows_iff hg, mem_rows_iff hh, cells_eq_of_rules_eq same]

theorem filled_empty : empty.Filled := by
  simp [Filled, empty]

/-! ## Filling in rules -/

/-- Write a rule into the row of its left operand, which is there from then on. -/
def put (g : Rows) (r : MeetRule) : Rows where
  rows := Ordered.insert (compareOn Prod.fst)
    (r.left, Ordered.insert (compareOn Prod.fst) (r.right, r.result) (g.cells r.left)) g.rows
  ascending := Ordered.ascending_insert _ g.ascending
  cells_ascending := by
    intro row member
    rcases Ordered.mem_insert member with rfl | old
    · exact Ordered.ascending_insert _ (g.ascending_cells r.left)
    · exact g.cells_ascending row old

def ofRules (rules : List MeetRule) : Rows :=
  rules.foldl put empty

theorem cell?_put_self (g : Rows) (r : MeetRule) :
    (g.put r).cell? r.left r.right = some r.result := by
  rw [cell?, cells, put, valueOf?_insert_self, Option.getD_some, valueOf?_insert_self]

theorem cell?_put_of_not (g : Rows) (other : ¬ r.Concerns a b) :
    (g.put r).cell? a b = g.cell? a b := by
  by_cases left : r.left = a
  · have right : r.right ≠ b := fun right => other ⟨left, right⟩
    subst left
    rw [cell?, cells, put, valueOf?_insert_self, Option.getD_some, valueOf?_insert_of_ne right]
    rfl
  · rw [cell?, cells, put, valueOf?_insert_of_ne left]
    rfl

/-- Rules that agree are all written down, whatever their order. -/
theorem mem_rules_ofRules {rules : List MeetRule} (agree : Builder.Agreeing rules) :
    r ∈ (ofRules rules).rules ↔ r ∈ rules := by
  induction rules using List.reverseRecOn with
  | nil => rfl
  | append_singleton earlier last ih =>
      have before : Builder.Agreeing earlier :=
        Builder.agreeing_of_subset agree fun s member => List.mem_append_left _ member
      have filled : ofRules (earlier ++ [last]) = (ofRules earlier).put last := by
        simp [ofRules]
      rw [filled, mem_rules_iff]
      by_cases same : last.Concerns r.left r.right
      · rw [← same.1, ← same.2, cell?_put_self, Option.some.injEq]
        constructor
        · intro result
          have isLast : last = r := by
            cases last; cases r
            cases same.1; cases same.2; cases result
            rfl
          simp [isLast]
        · intro member
          exact agree last (by simp) r member same
      · have ne : r ≠ last := by
          rintro rfl
          exact same ⟨rfl, rfl⟩
        rw [cell?_put_of_not _ same, ← mem_rules_iff, ih before]
        simp [ne]

/-! ## Tidying up -/

/-- Leave the cells at bottom out, and then the rows without a cell. -/
def tidy (g : Rows) (bottom : Label) : Rows where
  rows := (g.rows.map fun row => (row.1, row.2.filter fun cell => cell.2 ≠ bottom)).filter
    fun row => row.2 ≠ []
  ascending := by
    apply List.Pairwise.filter
    exact List.pairwise_map.2 g.ascending
  cells_ascending := by
    intro row member
    obtain ⟨old, stored, rfl⟩ := List.mem_map.1 (List.mem_filter.1 member).1
    exact (g.cells_ascending old stored).filter _

/-- Rows without a cell have no rules. -/
theorem flatMap_rulesOf_filter (rows : List (Label × List (Label × Label))) :
    (rows.filter fun row => row.2 ≠ []).flatMap rulesOf = rows.flatMap rulesOf := by
  induction rows with
  | nil => rfl
  | cons row rows ih =>
      rw [List.flatMap_cons, ← ih]
      by_cases gone : row.2 = []
      · simp [gone, rulesOf]
      · simp [gone]

/-- Tidying leaves the rules at bottom out, and no other. -/
theorem rules_tidy (g : Rows) (bottom : Label) :
    (g.tidy bottom).rules = g.rules.filter fun r => r.result ≠ bottom := by
  have one : ∀ row : Label × List (Label × Label),
      rulesOf (row.1, row.2.filter fun cell => cell.2 ≠ bottom) =
        (rulesOf row).filter fun r => r.result ≠ bottom := by
    intro row
    rw [rulesOf, rulesOf, List.filter_map]
    rfl
  rw [rules, tidy, flatMap_rulesOf_filter, List.flatMap_map, rules, List.filter_flatMap]
  exact congrArg (g.rows.flatMap ·) (funext one)

/-- After tidying there is no row without a cell. -/
theorem filled_tidy (g : Rows) (bottom : Label) : (g.tidy bottom).Filled := by
  intro row member
  simpa using (List.mem_filter.1 member).2

/-! ## The rows of a table that is built -/

/-- The rows of the rules a builder has, tidied. -/
def kept (b : Builder) : Rows :=
  (ofRules b.rules).tidy b.bottom

theorem filled_kept (b : Builder) : (kept b).Filled :=
  filled_tidy _ _

variable {s t : MeetTable} {builder other : Builder}

/-- The rows a builder keeps are the rules of its table, in the same order. -/
theorem rules_kept (built : builder.build = .ok t) : (kept builder).rules = t.rules := by
  have agree := (Builder.sound_of_build built).2
  refine Ordered.eq_of_ascending (kept builder).ascending_rules t.ascending fun r => ?_
  rw [kept, rules_tidy, List.mem_filter, mem_rules_ofRules agree, decide_eq_true_iff,
    Builder.mem_rules_iff_of_build built]

theorem size_kept (built : builder.build = .ok t) : (kept builder).size = t.size := by
  rw [← length_rules, rules_kept built]
  rfl

theorem rows_kept_eq_nil_iff (built : builder.build = .ok t) :
    (kept builder).rows = [] ↔ t.isEmpty = true := by
  rw [MeetTable.isEmpty, List.isEmpty_iff, ← rules_kept built]
  exact rows_eq_iff_rules_eq (filled_kept builder) filled_empty

/-- Builders keep the same rows where their tables have the same rules. -/
theorem rows_kept_eq_iff (hs : builder.build = .ok s) (ht : other.build = .ok t) :
    (kept builder).rows = (kept other).rows ↔ s.rules = t.rules := by
  rw [← rules_kept hs, ← rules_kept ht]
  exact rows_eq_iff_rules_eq (filled_kept builder) (filled_kept other)

/-- What stands in no cell meets to bottom. -/
theorem meet_kept (built : builder.build = .ok t) (a b : Label) :
    ((kept builder).cell? a b).getD t.bottom = t.meet a b := by
  have stored : ∀ m, (kept builder).cell? a b = some m ↔ ⟨a, b, m⟩ ∈ t.rules := by
    intro m
    rw [← rules_kept built, mem_rules_iff]
  cases found : (kept builder).cell? a b with
  | some m => exact (t.meet_of_mem ((stored m).1 found)).symm
  | none =>
      show t.bottom = t.meet a b
      by_contra above
      have rule := t.rule_of_meet_ne_bottom (Ne.symm above)
      rw [(stored _).2 rule] at found
      cases found

end Rows

end Clearance
