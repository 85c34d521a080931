/-
# Clearance.Ordered -- lists kept strictly ascending under a comparison

Finite sets and maps whose order an observer can see are kept as lists in
strictly ascending order of a key.  A comparison `cmp` reads the key: elements
that compare `.eq` share one, and `insert` replaces the element that has the
key already.  The main facts:

* `ascending_insert`, `ascending_ofList`: insertion keeps the order, so a list
  built by insertion has one element per key;
* `mem_ofList_iff`: where no two elements share a key, building loses nothing and
  adds nothing;
* `ofList_of_ascending`: a list that ascends already is left as it is;
* `ofList_map`: the order is that of the keys, whatever else an element is made of;
* `find?_insert_self`, `find?_insert_of_not`, `find?_eq_some_iff_of_ascending`: what is
  looked up by its key is there once and found, and an insertion changes nothing else;
* `findSome?_eq_some_iff_of_ascending`: a search finds the least element that answers;
* `lookup_eq_some_iff_of_nodup`: where each key stands once, each pair is found;
* `nodup_map_of_ascending`: in ascending order of a key each key stands once;
* `eq_of_ascending`: a list in ascending order is determined by its elements.
-/

namespace Clearance.Ordered

set_option autoImplicit false

variable {α : Type} (cmp : α → α → Ordering)

/-- Each element is below all that follow it. -/
def Ascending (xs : List α) : Prop :=
  xs.Pairwise fun x y => cmp x y = .lt

/-- Put `x` in its place, instead of the element that has its key. -/
def insert (x : α) : List α → List α
  | [] => [x]
  | y :: ys =>
      match cmp x y with
      | .lt => x :: y :: ys
      | .eq => x :: ys
      | .gt => y :: insert x ys

/-- All elements in order; of several with one key, the last. -/
def ofList (xs : List α) : List α :=
  xs.foldl (fun sorted x => insert cmp x sorted) []

variable {cmp}

theorem mem_insert {x y : α} {xs : List α} (h : y ∈ insert cmp x xs) : y = x ∨ y ∈ xs := by
  induction xs with
  | nil => simpa [insert] using h
  | cons z zs ih =>
      simp only [insert] at h
      split at h
      · simpa using h
      · rcases List.mem_cons.1 h with rfl | h
        · exact .inl rfl
        · exact .inr (List.mem_cons_of_mem _ h)
      · rcases List.mem_cons.1 h with rfl | h
        · exact .inr (List.mem_cons_self ..)
        · exact (ih h).imp id (List.mem_cons_of_mem _)

theorem mem_insert_self (x : α) (xs : List α) : x ∈ insert cmp x xs := by
  induction xs with
  | nil => simp [insert]
  | cons y ys ih =>
      simp only [insert]
      split <;> simp [ih]

/-- An element that is there stays, unless another one with its key is put in. -/
theorem mem_insert_of_mem {x y : α} {xs : List α} (alone : cmp x y = .eq → x = y) (h : y ∈ xs) :
    y ∈ insert cmp x xs := by
  induction xs with
  | nil => simp at h
  | cons z zs ih =>
      simp only [insert]
      split
      · exact List.mem_cons_of_mem _ h
      · rename_i same
        rcases List.mem_cons.1 h with rfl | h
        · exact List.mem_cons.2 (.inl (alone same).symm)
        · exact List.mem_cons_of_mem _ h
      · rcases List.mem_cons.1 h with rfl | h
        · exact List.mem_cons_self ..
        · exact List.mem_cons_of_mem _ (ih h)

theorem ascending_insert [Std.TransCmp cmp] (x : α) {xs : List α} (sorted : Ascending cmp xs) :
    Ascending cmp (insert cmp x xs) := by
  induction xs with
  | nil => simp [insert, Ascending]
  | cons y ys ih =>
      obtain ⟨below, rest⟩ := List.pairwise_cons.1 sorted
      simp only [insert]
      split
      · rename_i less
        refine List.pairwise_cons.2 ⟨fun z hz => ?_, sorted⟩
        rcases List.mem_cons.1 hz with rfl | hz
        · exact less
        · exact Std.TransCmp.lt_trans less (below z hz)
      · rename_i same
        exact List.pairwise_cons.2
          ⟨fun z hz => Std.TransCmp.lt_of_eq_of_lt same (below z hz), rest⟩
      · rename_i greater
        refine List.pairwise_cons.2 ⟨fun z hz => ?_, ih rest⟩
        rcases mem_insert hz with rfl | hz
        · exact Std.OrientedCmp.lt_of_gt greater
        · exact below z hz

theorem ascending_foldl_insert [Std.TransCmp cmp] (xs : List α) {sorted : List α}
    (h : Ascending cmp sorted) :
    Ascending cmp (xs.foldl (fun sorted x => insert cmp x sorted) sorted) := by
  induction xs generalizing sorted with
  | nil => exact h
  | cons x xs ih => exact ih (ascending_insert x h)

theorem ascending_ofList [Std.TransCmp cmp] (xs : List α) : Ascending cmp (ofList cmp xs) :=
  ascending_foldl_insert xs List.Pairwise.nil

theorem insert_of_above [Std.OrientedCmp cmp] {x : α} {xs : List α}
    (above : ∀ y ∈ xs, cmp y x = .lt) : insert cmp x xs = xs ++ [x] := by
  induction xs with
  | nil => rfl
  | cons y ys ih =>
      obtain ⟨first, rest⟩ := List.forall_mem_cons.1 above
      rw [insert, Std.OrientedCmp.gt_of_lt first, List.cons_append]
      exact congrArg _ (ih rest)

/-- A list that ascends already is left as it is. -/
theorem ofList_of_ascending [Std.OrientedCmp cmp] {xs : List α} (sorted : Ascending cmp xs) :
    ofList cmp xs = xs := by
  have extend : ∀ below : List α, Ascending cmp (below ++ xs) →
      xs.foldl (fun sorted x => insert cmp x sorted) below = below ++ xs := by
    clear sorted
    induction xs with
    | nil => simp
    | cons x xs ih =>
        intro below all
        have above : ∀ y ∈ below, cmp y x = .lt := fun y member =>
          (List.pairwise_append.1 all).2.2 y member x (List.mem_cons_self ..)
        rw [List.foldl_cons, insert_of_above above, List.append_cons below x xs]
        exact ih (below ++ [x]) (by rwa [← List.append_cons])
  exact extend [] sorted

theorem mem_foldl_insert {xs sorted : List α} {y : α}
    (h : y ∈ xs.foldl (fun sorted x => insert cmp x sorted) sorted) : y ∈ xs ∨ y ∈ sorted := by
  induction xs generalizing sorted with
  | nil => exact .inr h
  | cons x xs ih =>
      rcases ih h with h | h
      · exact .inl (List.mem_cons_of_mem _ h)
      · rcases mem_insert h with rfl | h
        · exact .inl (List.mem_cons_self ..)
        · exact .inr h

theorem mem_of_mem_ofList {xs : List α} {y : α} (h : y ∈ ofList cmp xs) : y ∈ xs :=
  (mem_foldl_insert h).resolve_right (by simp)

theorem mem_foldl_insert_of_mem {xs sorted : List α} {y : α}
    (alone : ∀ x ∈ xs, cmp x y = .eq → x = y) (h : y ∈ xs ∨ y ∈ sorted) :
    y ∈ xs.foldl (fun sorted x => insert cmp x sorted) sorted := by
  induction xs generalizing sorted with
  | nil => exact h.resolve_left (by simp)
  | cons x xs ih =>
      obtain ⟨first, rest⟩ := List.forall_mem_cons.1 alone
      refine ih rest ?_
      rcases h with h | h
      · rcases List.mem_cons.1 h with rfl | h
        · exact .inr (mem_insert_self ..)
        · exact .inl h
      · exact .inr (mem_insert_of_mem first h)

/-- Where no two elements share a key, building loses nothing and adds nothing. -/
theorem mem_ofList_iff {xs : List α} (alone : ∀ x ∈ xs, ∀ y ∈ xs, cmp x y = .eq → x = y) {y : α} :
    y ∈ ofList cmp xs ↔ y ∈ xs :=
  ⟨mem_of_mem_ofList, fun h => mem_foldl_insert_of_mem (fun x hx => alone x hx y h) (.inl h)⟩

/-! ## Elements under other names -/

section

variable {β : Type} {cmp' : β → β → Ordering} {f : α → β}

theorem insert_map (same : ∀ x y, cmp' (f x) (f y) = cmp x y) (x : α) (xs : List α) :
    insert cmp' (f x) (xs.map f) = (insert cmp x xs).map f := by
  induction xs with
  | nil => rfl
  | cons y ys ih =>
      simp only [List.map_cons, insert, same, ih]
      cases cmp x y <;> rfl

/-- What is compared alike is put in the same order. -/
theorem ofList_map (same : ∀ x y, cmp' (f x) (f y) = cmp x y) (xs : List α) :
    ofList cmp' (xs.map f) = (ofList cmp xs).map f := by
  rw [ofList, ofList, List.foldl_map]
  show xs.foldl (fun sorted x => insert cmp' (f x) sorted) (List.map f []) = _
  exact List.foldl_hom (List.map f) fun sorted x => insert_map same x sorted

end

/-! ## Looking up by key -/

/-- What was put in is found by its key. -/
theorem find?_insert_self {p : α → Bool} {x : α} (holds : p x = true)
    (shared : ∀ y, p y = true → cmp x y = .eq) (xs : List α) :
    (insert cmp x xs).find? p = some x := by
  induction xs with
  | nil => simp [insert, holds]
  | cons y ys ih =>
      simp only [insert]
      split
      · simp [holds]
      · simp [holds]
      · rename_i greater
        have fails : ¬ p y = true := fun there => by
          rw [shared y there] at greater
          cases greater
        simp [fails, ih]

/-- What goes by another key is found as before. -/
theorem find?_insert_of_not {p : α → Bool} {x : α} (fails : p x = false)
    (shared : ∀ y, cmp x y = .eq → p y = false) (xs : List α) :
    (insert cmp x xs).find? p = xs.find? p := by
  induction xs with
  | nil => simp [insert, fails]
  | cons y ys ih =>
      simp only [insert]
      split
      · simp [fails]
      · rename_i same
        simp [fails, shared y same]
      · simp [List.find?_cons, ih]

/-- In ascending order, what a key is looked up by finds the only element that has it. -/
theorem find?_eq_some_iff_of_ascending {p : α → Bool}
    (shared : ∀ x y, p x = true → p y = true → cmp x y = .eq) {xs : List α}
    (sorted : Ascending cmp xs) {x : α} : xs.find? p = some x ↔ x ∈ xs ∧ p x = true := by
  constructor
  · intro found
    exact ⟨List.mem_of_find?_eq_some found, List.find?_some found⟩
  · rintro ⟨member, holds⟩
    induction xs with
    | nil => simp at member
    | cons y ys ih =>
        obtain ⟨below, rest⟩ := List.pairwise_cons.1 sorted
        rcases List.mem_cons.1 member with rfl | later
        · simp [holds]
        · have fails : ¬ p y = true := fun there => by
            have less := below x later
            rw [shared y x there holds] at less
            cases less
          simp [fails, ih rest later]

/-- In ascending order, what a search finds is found at the least element that answers. -/
theorem findSome?_eq_some_iff_of_ascending {β : Type} [Std.OrientedCmp cmp] {f : α → Option β}
    {xs : List α} (sorted : Ascending cmp xs) {b : β} :
    xs.findSome? f = some b ↔ ∃ x ∈ xs, f x = some b ∧ ∀ y ∈ xs, cmp y x = .lt → f y = none := by
  rw [List.findSome?_eq_some_iff]
  constructor
  · rintro ⟨before, x, after, rfl, answers, silent⟩
    refine ⟨x, by simp, answers, fun y member less => ?_⟩
    obtain ⟨above, -⟩ := List.pairwise_cons.1 (List.pairwise_append.1 sorted).2.1
    rcases List.mem_append.1 member with earlier | fromHere
    · exact silent y earlier
    · -- from `x` on no element is below it
      exfalso
      rcases List.mem_cons.1 fromHere with rfl | later
      · have same : cmp y y = .eq := Std.ReflCmp.compare_self
        rw [same] at less
        cases less
      · rw [Std.OrientedCmp.gt_of_lt (above y later)] at less
        cases less
  · rintro ⟨x, member, answers, silent⟩
    obtain ⟨before, after, rfl⟩ := List.append_of_mem member
    refine ⟨before, x, after, rfl, answers, fun y earlier => ?_⟩
    have less := (List.pairwise_append.1 sorted).2.2 y earlier x (List.mem_cons_self ..)
    exact silent y (List.mem_append_left _ earlier) less

section

variable {β : Type} [BEq α] [LawfulBEq α] {xs : List (α × β)} {key : α}

theorem lookup_eq_none_iff_not_mem : xs.lookup key = none ↔ key ∉ xs.map Prod.fst := by
  rw [List.lookup_eq_none_iff, List.mem_map]
  constructor
  · rintro others ⟨x, member, rfl⟩
    simpa using others x member
  · intro absent x member
    simpa using fun same => absent ⟨x, member, Eq.symm same⟩

/-- Of pairs with distinct keys each is found under its key. -/
theorem lookup_eq_some_iff_of_nodup (distinct : (xs.map Prod.fst).Nodup) {b : β} :
    xs.lookup key = some b ↔ (key, b) ∈ xs := by
  rw [List.lookup_eq_some_iff]
  constructor
  · rintro ⟨before, after, rfl, -⟩
    simp
  · intro member
    obtain ⟨before, after, rfl⟩ := List.append_of_mem member
    refine ⟨before, after, rfl, fun x earlier => ?_⟩
    rw [List.map_append, List.map_cons] at distinct
    have other : x.1 ≠ key :=
      (List.nodup_append.1 distinct).2.2 x.1 (List.mem_map_of_mem earlier) key
        (List.mem_cons_self ..)
    simpa using other.symm

end

/-! ## One list for one set of elements -/

theorem nodup_of_ascending [Std.OrientedCmp cmp] {xs : List α} (sorted : Ascending cmp xs) :
    xs.Nodup := by
  refine sorted.imp fun {x y} less same => ?_
  have shared : cmp x y = .eq := same ▸ Std.ReflCmp.compare_self
  rw [shared] at less
  cases less

/-- A list that ascends by a key has each key once. -/
theorem nodup_map_of_ascending {β : Type} [Ord β] [Std.OrientedOrd β] {key : α → β} {xs : List α}
    (sorted : Ascending (compareOn key) xs) : (xs.map key).Nodup := by
  refine List.pairwise_map.2 (sorted.imp fun {x y} less same => ?_)
  have shared : compareOn key x y = .eq := by
    rw [compareOn, same]
    exact Std.ReflCmp.compare_self
  rw [shared] at less
  cases less

/-- Ascending lists with the same elements are the same list. -/
theorem eq_of_ascending [Std.OrientedCmp cmp] {xs ys : List α} (hx : Ascending cmp xs)
    (hy : Ascending cmp ys) (same : ∀ z, z ∈ xs ↔ z ∈ ys) : xs = ys := by
  have perm : xs.Perm ys :=
    (List.perm_ext_iff_of_nodup (nodup_of_ascending hx) (nodup_of_ascending hy)).2 same
  refine perm.eq_of_pairwise (fun x y _ _ less greater => ?_) hx hy
  rw [Std.OrientedCmp.gt_of_lt less] at greater
  cases greater

end Clearance.Ordered
