import Mathlib.Data.String.Basic
import Mathlib.Tactic.SplitIfs

/-!
# The order of bytes

Texts are compared character by character, and their encodings byte by byte. The two orders are the
same: of two characters the lesser one has the lesser encoding, and no encoding of a character is
the front of another.
-/

namespace DocCoverage.Text

/-- The bytes of the encoding of a text. -/
def utf8Bytes (text : String) : List UInt8 := text.toByteArray.data.toList

/-- The bytes of a text are those of its characters. -/
theorem utf8Bytes_eq_flatMap (text : String) :
    utf8Bytes text = text.toList.flatMap String.utf8EncodeChar := by
  rw [utf8Bytes, ← String.utf8Encode_toList, List.utf8Encode, List.data_toByteArray]

/-- The encoding of a lesser character is less, whatever follows. -/
theorem utf8EncodeChar_append_lt {c d : Char} (hlt : c < d) (rest rest' : List UInt8) :
    String.utf8EncodeChar c ++ rest < String.utf8EncodeChar d ++ rest' := by
  have hcodes : c.val.toNat < d.val.toNat := hlt
  have hbound : d.val.toNat < 1114112 := by
    rcases d.valid with h | ⟨-, h⟩
    · exact h.trans (by decide)
    · exact h
  simp only [String.utf8EncodeChar]
  generalize c.val.toNat = v at hcodes ⊢
  generalize d.val.toNat = w at hcodes hbound ⊢
  have hbyte {n : Nat} (hn : n < 256) : (UInt8.ofNat n).toNat = n := UInt8.toNat_ofNat_of_lt' hn
  -- the order of two numbers is the order of their digits to base 64
  have hdigits {m n : Nat} (h : m < n) : m / 64 < n / 64 ∨ m / 64 = n / 64 ∧ m % 64 < n % 64 := by
    omega
  have hlast := hdigits hcodes
  have hthird := @hdigits (v / 64) (w / 64)
  have hsecond := @hdigits (v / 4096) (w / 4096)
  rw [Nat.div_div_eq_div_mul, Nat.div_div_eq_div_mul] at hthird hsecond
  have hfirst : v / 262144 % 8 = v / 262144 ∧ w / 262144 % 8 = w / 262144 := by omega
  -- one case for each pair of lengths; the first bytes that differ are in order
  split_ifs <;>
    simp (disch := omega) only [List.cons_append, List.nil_append, List.cons_lt_cons_iff,
      UInt8.lt_iff_toNat_lt, ← UInt8.toNat_inj, hbyte] <;>
    omega

/-- Characters in a lesser order have bytes in a lesser order. -/
theorem flatMap_utf8EncodeChar_lt {chars others : List Char} (hlt : chars < others) :
    chars.flatMap String.utf8EncodeChar < others.flatMap String.utf8EncodeChar := by
  induction hlt with
  | nil =>
    rename_i c rest
    have hbytes : String.utf8EncodeChar c ++ rest.flatMap String.utf8EncodeChar ≠ [] :=
      fun hnil => String.utf8EncodeChar_ne_nil (List.append_eq_nil_iff.mp hnil).1
    obtain ⟨byte, bytes, heq⟩ := List.exists_cons_of_ne_nil hbytes
    rw [List.flatMap_nil, List.flatMap_cons, heq]
    exact List.nil_lt_cons byte bytes
  | cons hrest ih =>
    rw [List.flatMap_cons, List.flatMap_cons]
    exact List.append_left_lt ih
  | rel hchar => exact utf8EncodeChar_append_lt hchar _ _

/-- A lesser text has lesser bytes. -/
theorem utf8Bytes_lt_of_lt {a b : String} (hlt : a < b) : utf8Bytes a < utf8Bytes b := by
  rw [utf8Bytes_eq_flatMap, utf8Bytes_eq_flatMap]
  exact flatMap_utf8EncodeChar_lt (String.lt_iff.mp hlt)

end DocCoverage.Text
