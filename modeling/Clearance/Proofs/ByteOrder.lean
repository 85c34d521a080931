/-
# Clearance.Proofs.ByteOrder -- the order of texts is the order of their bytes

Texts are ordered character by character, by code point.  Stored or sent they are bytes
in UTF-8, and sorted as bytes they come in the same order: a smaller code point has
the smaller bytes, whatever follows (`utf8EncodeChar_append_lt`).

With fewer bytes the first byte decides, because lead bytes grow with the number of
bytes they announce.  With as many bytes, the bytes are the digits of the code point to
base 64, the highest first.
-/
import Mathlib.Order.Defs.LinearOrder
import Mathlib.Data.String.Basic

namespace Clearance.Text

set_option autoImplicit false

/-- The bytes of a text in UTF-8. -/
def bytes (s : String) : List UInt8 :=
  s.toByteArray.data.toList

theorem bytes_eq_flatMap (s : String) : bytes s = s.toList.flatMap String.utf8EncodeChar := by
  rw [bytes, ← String.utf8Encode_toList, List.utf8Encode, List.toList_data_toByteArray]

/-! ## One character -/

theorem ofNat_lt_ofNat_iff {m n : Nat} (hm : m < 256) (hn : n < 256) :
    UInt8.ofNat m < UInt8.ofNat n ↔ m < n := by
  rw [UInt8.lt_iff_toNat_lt, UInt8.toNat_ofNat_of_lt' hm, UInt8.toNat_ofNat_of_lt' hn]

theorem ofNat_eq_ofNat_iff {m n : Nat} (hm : m < 256) (hn : n < 256) :
    UInt8.ofNat m = UInt8.ofNat n ↔ m = n := by
  rw [← UInt8.toNat_inj, UInt8.toNat_ofNat_of_lt' hm, UInt8.toNat_ofNat_of_lt' hn]

/-- Shifts by whole digits to base 64, one digit at a time. -/
theorem div_base_pow (n : Nat) : n / 4096 = n / 64 / 64 ∧ n / 262144 = n / 64 / 64 / 64 := by
  simp only [Nat.div_div_eq_div_mul, and_self]

theorem toNat_lt_of_char (c : Char) : c.val.toNat < 0x110000 := by
  rcases c.valid with low | high
  · omega
  · exact high.2

/-- The bytes of a smaller character come first, whatever follows. -/
theorem utf8EncodeChar_append_lt {c d : Char} (less : c < d) (xs ys : List UInt8) :
    String.utf8EncodeChar c ++ xs < String.utf8EncodeChar d ++ ys := by
  have below : c.val.toNat < d.val.toNat := less
  have bound := toNat_lt_of_char d
  simp only [String.utf8EncodeChar]
  generalize c.val.toNat = v at *
  generalize d.val.toNat = w at *
  simp only [div_base_pow v, div_base_pow w]
  -- one case for each pair of lengths, the longer of which is that of `d`
  split_ifs <;>
    simp (disch := omega) only [List.cons_append, List.nil_append, List.cons_lt_cons_iff,
      ofNat_lt_ofNat_iff, ofNat_eq_ofNat_iff] <;>
    omega

/-! ## Whole texts -/

theorem flatMap_utf8EncodeChar_lt {cs ds : List Char} (less : cs < ds) :
    cs.flatMap String.utf8EncodeChar < ds.flatMap String.utf8EncodeChar := by
  induction cs generalizing ds with
  | nil =>
      cases ds with
      | nil => exact absurd less (List.lt_irrefl _)
      | cons d ds =>
          obtain ⟨b, bs, first⟩ := List.exists_cons_of_ne_nil (String.utf8EncodeChar_ne_nil (c := d))
          rw [List.flatMap_nil, List.flatMap_cons, first]
          exact List.nil_lt_cons _ _
  | cons c cs ih =>
      cases ds with
      | nil => exact absurd less (List.not_lt_nil _)
      | cons d ds =>
          rw [List.flatMap_cons, List.flatMap_cons]
          rcases List.cons_lt_cons_iff.1 less with first | ⟨rfl, rest⟩
          · exact utf8EncodeChar_append_lt first _ _
          · exact List.append_left_lt (ih rest)

theorem bytes_lt_of_lt {s t : String} (less : s < t) : bytes s < bytes t := by
  rw [bytes_eq_flatMap, bytes_eq_flatMap]
  exact flatMap_utf8EncodeChar_lt (String.lt_iff_toList_lt.1 less)

/-- Texts are ordered as their bytes are. -/
theorem bytes_lt_iff {s t : String} : bytes s < bytes t ↔ s < t := by
  refine ⟨fun less => ?_, bytes_lt_of_lt⟩
  rcases lt_trichotomy s t with first | rfl | greater
  · exact first
  · exact absurd less (List.lt_irrefl _)
  · exact absurd (bytes_lt_of_lt greater) (List.lt_asymm less)

theorem bytes_lt_iff_compare {s t : String} : bytes s < bytes t ↔ compare s t = .lt :=
  bytes_lt_iff.trans compareOfLessAndEq_eq_lt.symm

end Clearance.Text
