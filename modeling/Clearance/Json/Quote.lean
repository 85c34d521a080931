/-
# Clearance.Json.Quote -- string literals

Written: a quote, a backslash and the characters below U+0020 are escaped, the
latter by a letter where JSON has one and as `\u00xx` otherwise.  Every other
character stands for itself.

Read: all escapes of JSON, in either case of hexadecimal digits.  A `\u` escape
is a UTF-16 unit, and units that are surrogates must pair up: a literal with a
lone one is well formed, but it is no text.  `readLiteral` tells the two apart:
no result for what is not a literal at all, and a literal without text for one
that can only be passed over.

Which characters are escaped, and how, follows the documented behaviour of the library
that writes JSON text, and is assumed of it.

`readLiteral_quote`: what is written is read back, whatever follows.
-/

namespace Clearance.Json

set_option autoImplicit false

/-- The character after the backslash, for characters with a short escape. -/
def shortEscape? : Char → Option Char
  | '"' => some '"'
  | '\\' => some '\\'
  | '\x08' => some 'b'
  | '\t' => some 't'
  | '\n' => some 'n'
  | '\x0c' => some 'f'
  | '\r' => some 'r'
  | _ => none

/-- A character as it stands in a literal. -/
def escape (c : Char) : List Char :=
  match shortEscape? c with
  | some e => ['\\', e]
  | none =>
      if c.toNat < 0x20 then
        ['\\', 'u', '0', '0', Nat.digitChar (c.toNat / 16), Nat.digitChar (c.toNat % 16)]
      else [c]

/-- The literal of a text. -/
def quote (s : String) : List Char :=
  '"' :: s.toList.flatMap escape ++ ['"']

/-- The character a short escape stands for. -/
def unescape? : Char → Option Char
  | '"' => some '"'
  | '\\' => some '\\'
  | '/' => some '/'
  | 'b' => some '\x08'
  | 'f' => some '\x0c'
  | 'n' => some '\n'
  | 'r' => some '\r'
  | 't' => some '\t'
  | _ => none

def hexDigit? (c : Char) : Option Nat :=
  if '0' ≤ c ∧ c ≤ '9' then some (c.toNat - '0'.toNat)
  else if 'a' ≤ c ∧ c ≤ 'f' then some (c.toNat - 'a'.toNat + 10)
  else if 'A' ≤ c ∧ c ≤ 'F' then some (c.toNat - 'A'.toNat + 10)
  else none

/-- A UTF-16 unit in four hexadecimal digits. -/
def hexUnit? (a b c d : Char) : Option Nat := do
  return (((← hexDigit? a) * 16 + (← hexDigit? b)) * 16 + (← hexDigit? c)) * 16 + (← hexDigit? d)

/-- What a literal is made of. -/
inductive Piece where
  | char (c : Char)
  | unit (n : Nat)
deriving DecidableEq

/-- The pieces up to the closing quote, and what follows it. -/
def readPieces : List Char → Option (List Piece × List Char)
  | [] => none
  | '"' :: rest => some ([], rest)
  | '\\' :: 'u' :: a :: b :: c :: d :: rest =>
      match hexUnit? a b c d, readPieces rest with
      | some n, some (ps, rest) => some (.unit n :: ps, rest)
      | _, _ => none
  | '\\' :: e :: rest =>
      match unescape? e, readPieces rest with
      | some c, some (ps, rest) => some (.char c :: ps, rest)
      | _, _ => none
  | c :: rest =>
      if c.toNat < 0x20 then none
      else (readPieces rest).map fun (ps, rest) => (.char c :: ps, rest)

def isHighSurrogate (n : Nat) : Bool :=
  0xD800 ≤ n ∧ n < 0xDC00

def isLowSurrogate (n : Nat) : Bool :=
  0xDC00 ≤ n ∧ n < 0xE000

/-- The text of pieces, if every surrogate is one of a pair. -/
def joinPieces : List Piece → Option (List Char)
  | [] => some []
  | .char c :: ps => (joinPieces ps).map (c :: ·)
  | .unit n :: .unit m :: ps =>
      if isHighSurrogate n then
        if isLowSurrogate m then
          (joinPieces ps).map
            (Char.ofNat (0x10000 + (n - 0xD800) * 0x400 + (m - 0xDC00)) :: ·)
        else none
      else if isLowSurrogate n then none
      else (joinPieces (.unit m :: ps)).map (Char.ofNat n :: ·)
  | .unit n :: ps =>
      if isHighSurrogate n ∨ isLowSurrogate n then none
      else (joinPieces ps).map (Char.ofNat n :: ·)

/-- A literal after its opening quote: its text, if it has one, and what
follows. -/
def readLiteral (cs : List Char) : Option (Option String × List Char) :=
  (readPieces cs).map fun (ps, rest) => ((joinPieces ps).map String.ofList, rest)

/-! ## Reading back -/

/-- The pieces a written character is read as. -/
def writtenPiece (c : Char) : Piece :=
  if (shortEscape? c).isNone ∧ c.toNat < 0x20 then .unit c.toNat else .char c

theorem hexUnit?_digitChar : ∀ n < 0x20,
    hexUnit? '0' '0' (Nat.digitChar (n / 16)) (Nat.digitChar (n % 16)) = some n := by
  decide

theorem unescape?_of_shortEscape? {c e : Char} (h : shortEscape? c = some e) :
    unescape? e = some c ∧ e ≠ 'u' := by
  unfold shortEscape? at h
  split at h <;> first | (cases h; exact ⟨rfl, by decide⟩) | cases h

theorem readPieces_escape (c : Char) (rest : List Char) :
    readPieces (escape c ++ rest) =
      (readPieces rest).map fun (ps, rest) => (writtenPiece c :: ps, rest) := by
  unfold escape writtenPiece
  cases short : shortEscape? c with
  | some e =>
      obtain ⟨back, ne⟩ := unescape?_of_shortEscape? short
      simp only [List.cons_append, List.nil_append, Option.isNone_some, Bool.false_eq_true,
        false_and, if_false]
      rw [readPieces.eq_def]
      split
      · simp_all
      · simp_all
      · simp_all
      · rename_i heq
        cases heq
        simp only [back]
        cases readPieces rest <;> rfl
      · rename_i notEscape heq
        obtain ⟨backslash, tail⟩ := List.cons.inj heq
        exact absurd tail.symm (notEscape _ _ backslash.symm)
  | none =>
      by_cases control : c.toNat < 0x20
      · simp only [control, if_true, List.cons_append, List.nil_append, Option.isNone_none,
          and_self]
        rw [readPieces]
        simp only [hexUnit?_digitChar c.toNat control]
        cases readPieces rest <;> rfl
      · simp only [control, if_false, List.cons_append, List.nil_append, and_false]
        rw [readPieces.eq_def]
        split
        · simp_all
        · rename_i heq; cases heq; simp [shortEscape?] at short
        · rename_i heq; cases heq; simp [shortEscape?] at short
        · rename_i heq; cases heq; simp [shortEscape?] at short
        · rename_i heq; cases heq; simp [control]

theorem joinPieces_written (cs : List Char) : joinPieces (cs.map writtenPiece) = some cs := by
  induction cs with
  | nil => rfl
  | cons c cs ih =>
      simp only [List.map_cons]
      by_cases plain : (shortEscape? c).isNone ∧ c.toNat < 0x20
      · have notHigh : isHighSurrogate c.toNat = false := by
          simp [isHighSurrogate]; omega
        have notLow : isLowSurrogate c.toNat = false := by
          simp [isLowSurrogate]; omega
        have piece : writtenPiece c = .unit c.toNat := by simp [writtenPiece, plain]
        rw [piece, joinPieces.eq_def]
        split
        · simp_all
        · simp_all
        · rename_i heq
          obtain ⟨headEq, tailEq⟩ := List.cons.inj heq
          cases headEq
          simp only [notHigh, notLow, Bool.false_eq_true, if_false]
          rw [← tailEq, ih]
          simp [Char.ofNat_toNat]
        · rename_i heq
          obtain ⟨headEq, tailEq⟩ := List.cons.inj heq
          cases headEq
          simp only [notHigh, notLow, Bool.false_eq_true, or_self, if_false]
          rw [← tailEq, ih]
          simp [Char.ofNat_toNat]
      · have piece : writtenPiece c = .char c := if_neg plain
        rw [piece, joinPieces, ih]
        rfl

theorem readPieces_quoted (cs rest : List Char) :
    readPieces (cs.flatMap escape ++ '"' :: rest) = some (cs.map writtenPiece, rest) := by
  induction cs with
  | nil => simp [readPieces]
  | cons c cs ih =>
      simp only [List.flatMap_cons, List.append_assoc, readPieces_escape, ih, List.map_cons,
        Option.map_some]

/-- What is written is read back, whatever follows. -/
theorem readLiteral_quote (s : String) (rest : List Char) :
    readLiteral (s.toList.flatMap escape ++ '"' :: rest) = some (some s, rest) := by
  simp [readLiteral, readPieces_quoted, joinPieces_written, String.ofList_toList]

end Clearance.Json
