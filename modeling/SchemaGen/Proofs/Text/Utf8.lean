import Mathlib.Data.List.Lex
import Mathlib.Tactic.SplitIfs

/-!
# The order of encoded text

Texts are compared character by character. Their bytes are in the same order
(`lex_encode`): where two characters differ, so do their encodings before either of
them ends.
-/

namespace SchemaGen.Text

/-- The bytes of a text. -/
def encode (chars : List Char) : List UInt8 :=
  chars.flatMap String.utf8EncodeChar

/-- Bytes in order, given by their numbers: the first decides, or else the others. -/
private theorem lex_step {x y : Nat} {xs ys : List UInt8} (le : x ≤ y) (small : y < 256)
    (next : x = y → List.Lex (· < ·) xs ys) :
    List.Lex (· < ·) (UInt8.ofNat x :: xs) (UInt8.ofNat y :: ys) := by
  rcases Nat.lt_or_eq_of_le le with less | rfl
  · refine .rel (UInt8.lt_iff_toNat_lt.mpr ?_)
    rwa [UInt8.toNat_ofNat_of_lt' (Nat.lt_trans less small), UInt8.toNat_ofNat_of_lt' small]
  · exact .cons (next rfl)

/-- The encodings of two characters differ before either of them ends. -/
theorem lex_encodeChar {c c' : Char} (less : c < c') (rest rest' : List UInt8) :
    List.Lex (· < ·) (String.utf8EncodeChar c ++ rest) (String.utf8EncodeChar c' ++ rest') := by
  have numbers : c.val.toNat < c'.val.toNat := less
  have bound : c'.val.toNat < 0x110000 := by
    rcases c'.valid with low | ⟨_, high⟩ <;> omega
  simp only [String.utf8EncodeChar]
  generalize c.val.toNat = v at numbers
  generalize c'.val.toNat = v' at numbers bound
  -- One case for each pair of lengths; a longer encoding belongs to a larger number.
  split_ifs <;> simp only [List.cons_append, List.nil_append]
  · exact lex_step (by omega) (by omega) (by omega)
  · exact lex_step (by omega) (by omega) (by omega)
  · exact lex_step (by omega) (by omega) (by omega)
  · exact lex_step (by omega) (by omega) (by omega)
  · omega
  · exact lex_step (by omega) (by omega) fun _ => lex_step (by omega) (by omega) (by omega)
  · exact lex_step (by omega) (by omega) (by omega)
  · exact lex_step (by omega) (by omega) (by omega)
  · omega
  · omega
  · exact lex_step (by omega) (by omega) fun _ => lex_step (by omega) (by omega) fun _ =>
      lex_step (by omega) (by omega) (by omega)
  · exact lex_step (by omega) (by omega) (by omega)
  · omega
  · omega
  · omega
  · exact lex_step (by omega) (by omega) fun _ => lex_step (by omega) (by omega) fun _ =>
      lex_step (by omega) (by omega) fun _ => lex_step (by omega) (by omega) (by omega)

/-- **Encoding keeps the order** of texts. -/
theorem lex_encode {chars chars' : List Char} (less : chars < chars') :
    List.Lex (· < ·) (encode chars) (encode chars') := by
  induction less with
  | @nil c rest =>
    obtain ⟨byte, more, split⟩ : ∃ byte more, String.utf8EncodeChar c = byte :: more := by
      simp only [String.utf8EncodeChar]
      split_ifs <;> exact ⟨_, _, rfl⟩
    rw [encode, encode, List.flatMap_nil, List.flatMap_cons, split]
    exact .nil
  | cons _ ih => exact List.Lex.append_left _ ih _
  | rel less => exact lex_encodeChar less _ _

end SchemaGen.Text
