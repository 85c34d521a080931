/-
# Clearance.Proofs.ReadingBack -- compact text is read as what was written

The compact text of a value is the text of its tokens with nothing between.  Reading it
back undoes both steps.  The scan finds the tokens again, because each ends by itself
(`scan_text`), and the outline of the tokens is the outline of the value, whatever tokens
follow (`readValue_tokens`).

Nothing is said of numbers: a number ends where no digit follows, so its text depends on
its neighbour, and no record writes one.

Any text is the value whose outline it has, if that is not nested too deeply
(`Value.parse?_eq_some_iff`), because an outline that has a value is the outline of that
value.
-/
import Clearance.Json.Outline

namespace Clearance.Json

set_option autoImplicit false

/-! ## From text to tokens -/

/-- The token has a text, and it ends by itself. -/
def Token.isDelimited : Token → Bool
  | .number _ | .string none | .invalid => false
  | _ => true

/-- A text that ends by itself is read as its token, whatever follows. -/
theorem readToken_text {t : Token} (delimited : t.isDelimited = true) :
    ∃ c cs, t.text = c :: cs ∧ isBlank c = false ∧
      ∀ rest, readToken c (cs ++ rest) = some (t, rest) := by
  cases t with
  | number _ => cases delimited
  | invalid => cases delimited
  | string s =>
      cases s with
      | none => cases delimited
      | some s =>
          refine ⟨'"', s.toList.flatMap escape ++ ['"'], rfl, rfl, fun rest => ?_⟩
          rw [List.append_assoc]
          exact congrArg (Option.map _) (readLiteral_quote s rest)
  | bool b => cases b <;> exact ⟨_, _, rfl, rfl, fun _ => rfl⟩
  | _ => exact ⟨_, _, rfl, rfl, fun _ => rfl⟩

theorem scanSteps_text {ts : List Token} (delimited : ∀ t ∈ ts, t.isDelimited = true) (n : Nat)
    (bound : (ts.flatMap Token.text).length ≤ n) : scanSteps n (ts.flatMap Token.text) = ts := by
  induction ts generalizing n with
  | nil => cases n <;> rfl
  | cons t ts ih =>
      obtain ⟨first, others⟩ := List.forall_mem_cons.1 delimited
      obtain ⟨c, cs, text, visible, read⟩ := readToken_text first
      rw [List.flatMap_cons, text, List.cons_append] at bound ⊢
      cases n with
      | zero => simp at bound
      | succ n =>
          have rest : (ts.flatMap Token.text).length ≤ n := by
            rw [List.length_cons, List.length_append] at bound
            omega
          simp only [scanSteps, visible, read, ih others n rest, Bool.false_eq_true, if_false]

/-- Tokens that end by themselves are found again in their text. -/
theorem scan_text {ts : List Token} (delimited : ∀ t ∈ ts, t.isDelimited = true) :
    scan (ts.flatMap Token.text) = ts :=
  scanSteps_text delimited _ (Nat.le_refl _)

/-! ## From tokens to outlines -/

namespace Outline

/-- A value starts with some token, and not with the end of an array. -/
theorem exists_tokens_eq_cons (v : Value) :
    ∃ t ts, v.tokens = t :: ts ∧ t ≠ .closeBracket := by
  cases v with
  | array items => cases items <;> exact ⟨_, _, by simp only [Value.tokens]; rfl, by simp⟩
  | object members => cases members <;> exact ⟨_, _, by simp only [Value.tokens]; rfl, by simp⟩
  | _ => exact ⟨_, _, by simp only [Value.tokens]; rfl, by simp⟩

theorem length_tokens_pos (v : Value) : 0 < v.tokens.length := by
  obtain ⟨t, ts, starts, -⟩ := exists_tokens_eq_cons v
  simp [starts]

theorem readValue_openBracket (n : Nat) (v : Value) (rest : List Token) :
    readValue (n + 1) (.openBracket :: (v.tokens ++ rest)) =
      (array (readItems n (v.tokens ++ rest)).1 (readItems n (v.tokens ++ rest)).2.isSome,
        (readItems n (v.tokens ++ rest)).2) := by
  obtain ⟨t, ts, starts, notClosing⟩ := exists_tokens_eq_cons v
  rw [starts]
  cases t <;> first | rfl | exact absurd rfl notClosing

mutual

/-- The outline of a value's tokens is the outline of the value, whatever follows them. -/
theorem readValue_tokens (v : Value) (rest : List Token) (n : Nat)
    (bound : v.tokens.length ≤ n) : readValue n (v.tokens ++ rest) = (ofValue v, some rest) := by
  cases n with
  | zero => exact absurd (length_tokens_pos v) (by omega)
  | succ n =>
      cases v with
      | array items =>
          cases items with
          | nil => rfl
          | cons v vs =>
              simp only [Value.tokens, List.cons_append, List.append_assoc, List.length_cons,
                List.length_append] at bound ⊢
              rw [readValue_openBracket, readItems_tokens v vs rest n (by omega)]
              rfl
      | object members =>
          cases members with
          | nil => rfl
          | cons m ms =>
              obtain ⟨k, v⟩ := m
              simp only [Value.tokens, List.cons_append, List.append_assoc, List.length_cons,
                List.length_append] at bound ⊢
              rw [readValue, readMembers_tokens k v ms rest n (by omega)]
              rfl
      | _ => rfl
termination_by n

theorem readItems_tokens (v : Value) (vs : List Value) (rest : List Token) (n : Nat)
    (bound : v.tokens.length + (Value.itemTokens vs).length ≤ n) :
    readItems n (v.tokens ++ (Value.itemTokens vs ++ rest)) = (ofItems (v :: vs), some rest) := by
  cases n with
  | zero => exact absurd (length_tokens_pos v) (by omega)
  | succ n =>
      cases vs with
      | nil =>
          simp only [Value.itemTokens, List.length_cons, List.length_nil] at bound
          rw [readItems, readValue_tokens v _ n (by omega)]
          rfl
      | cons w ws =>
          have first := length_tokens_pos v
          simp only [Value.itemTokens, List.cons_append, List.append_assoc, List.length_cons,
            List.length_append] at bound ⊢
          rw [readItems, readValue_tokens v _ n (by omega)]
          simp only [readItems_tokens w ws rest n (by omega), ofItems]
termination_by n

theorem readMembers_tokens (k : String) (v : Value) (ms : List (String × Value))
    (rest : List Token) (n : Nat) (bound : v.tokens.length + (Value.memberTokens ms).length ≤ n) :
    readMembers n (some k) (.colon :: (v.tokens ++ (Value.memberTokens ms ++ rest))) =
      (ofMembers ((k, v) :: ms), some rest) := by
  cases n with
  | zero => exact absurd (length_tokens_pos v) (by omega)
  | succ n =>
      cases ms with
      | nil =>
          simp only [Value.memberTokens, List.length_cons, List.length_nil] at bound
          rw [readMembers, readValue_tokens v _ n (by omega)]
          rfl
      | cons m ms =>
          obtain ⟨next, w⟩ := m
          simp only [Value.memberTokens, List.cons_append, List.append_assoc, List.length_cons,
            List.length_append] at bound ⊢
          rw [readMembers, readValue_tokens v _ n (by omega)]
          simp only [readMembers_tokens next w ms rest n (by omega), ofMembers]
termination_by n

end

/-- **Compact text is read as what was written**, and nothing follows it. -/
theorem ofText_render {v : Value} (delimited : ∀ t ∈ v.tokens, t.isDelimited = true) :
    ofText v.render = (ofValue v, false) := by
  have read := readValue_tokens v [] (2 * v.tokens.length) (by omega)
  rw [List.append_nil] at read
  simp only [ofText, Value.render, String.toList_ofList, scan_text delimited, read]

/-! ## Outlines that have a value -/

mutual

theorem value?_ofValue (v : Value) : (ofValue v).value? = some v := by
  cases v with
  | array items => rw [ofValue, value?, values?_ofItems items, Option.map_some]
  | object members => rw [ofValue, value?, members?_ofMembers members, Option.map_some]
  | _ => rfl

theorem values?_ofItems (items : List Value) : values? (ofItems items) = some items := by
  cases items with
  | nil => rfl
  | cons v vs => rw [ofItems, values?, value?_ofValue v, values?_ofItems vs]

theorem members?_ofMembers (members : List (String × Value)) :
    members? (ofMembers members) = some members := by
  cases members with
  | nil => rfl
  | cons m ms =>
      obtain ⟨k, v⟩ := m
      rw [ofMembers, members?, value?_ofValue v, members?_ofMembers ms]

end

mutual

/-- An outline that has a value is the outline of that value. -/
theorem eq_ofValue_of_value? {o : Outline} {v : Value} (valued : o.value? = some v) :
    o = ofValue v := by
  cases o with
  | array items closed =>
      cases closed with
      | false => cases valued
      | true =>
          obtain ⟨vs, read, rfl⟩ := Option.map_eq_some_iff.1 valued
          rw [ofValue, eq_ofItems_of_values? read]
  | object members closed =>
      cases closed with
      | false => cases valued
      | true =>
          obtain ⟨ms, read, rfl⟩ := Option.map_eq_some_iff.1 valued
          rw [ofValue, eq_ofMembers_of_members? read]
  | _ => cases valued <;> rfl

theorem eq_ofItems_of_values? {items : List Outline} {vs : List Value}
    (valued : values? items = some vs) : items = ofItems vs := by
  cases items with
  | nil => cases valued; rfl
  | cons o os =>
      rw [values?] at valued
      split at valued
      · rename_i v vs first rest
        cases valued
        rw [ofItems, eq_ofValue_of_value? first, eq_ofItems_of_values? rest]
      · cases valued

theorem eq_ofMembers_of_members? {members : List (Option String × Outline)}
    {ms : List (String × Value)} (valued : members? members = some ms) :
    members = ofMembers ms := by
  cases members with
  | nil => cases valued; rfl
  | cons m rest =>
      obtain ⟨key, o⟩ := m
      cases key with
      | none => cases valued
      | some key =>
          rw [members?] at valued
          split at valued
          · rename_i v vs first others
            cases valued
            rw [ofMembers, eq_ofValue_of_value? first, eq_ofMembers_of_members? others]
          · cases valued

end

end Outline

/-- A text is a value where it has the outline of that value, within the limit. -/
theorem Value.parse?_eq_some_iff {text : String} {v : Value} :
    parse? text = some v ↔
      Outline.ofText text = (Outline.ofValue v, false) ∧ v.depth < nestingLimit := by
  rw [parse?]
  constructor
  · intro read
    split at read
    · rename_i outline same
      obtain ⟨valued, shallow⟩ := Option.filter_eq_some_iff.1 read
      rw [same, ← Outline.eq_ofValue_of_value? valued]
      exact ⟨rfl, of_decide_eq_true shallow⟩
    · cases read
  · rintro ⟨same, shallow⟩
    rw [same]
    exact Option.filter_eq_some_iff.2 ⟨Outline.value?_ofValue v, decide_eq_true shallow⟩

/-- Compact text is the value it was written from. -/
theorem Value.parse?_render {v : Value} (delimited : ∀ t ∈ v.tokens, t.isDelimited = true)
    (shallow : v.depth < nestingLimit) : parse? v.render = some v :=
  parse?_eq_some_iff.2 ⟨Outline.ofText_render delimited, shallow⟩

end Clearance.Json
