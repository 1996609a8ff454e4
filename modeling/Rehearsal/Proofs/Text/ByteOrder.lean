import Mathlib.Data.List.Basic
import Mathlib.Tactic.SplitIfs

/-! # The order of bytes

  A text is stored as the bytes of its characters in UTF-8. Texts are in the same order as their
  bytes (`bytes_lt_iff`), so names that are sorted by code points are sorted by bytes.

  The reason is that of two characters the greater one has the greater bytes, compared from the
  first one on, and neither is the beginning of the other: a character of more bytes begins with a
  greater byte, and the bytes of characters of one length are digits to the base 64.
-/

namespace Rehearsal.Text

open String (utf8EncodeChar utf8EncodeChar_ne_nil)

def bytes (cs : List Char) : List UInt8 := cs.flatMap utf8EncodeChar

theorem toUTF8_ofList (cs : List Char) : (String.ofList cs).toUTF8 = (bytes cs).toByteArray := rfl

@[simp] theorem bytes_nil : bytes [] = [] := rfl

@[simp] theorem bytes_cons (c : Char) (cs : List Char) :
    bytes (c :: cs) = utf8EncodeChar c ++ bytes cs := List.flatMap_cons

/-! ## Lists of one length -/

/-- Of lists of one length, what follows does not change the order. -/
theorem append_lt_append {α : Type} [LT α] {xs ys : List α} (h : xs < ys)
    (hlength : xs.length = ys.length) (as bs : List α) : xs ++ as < ys ++ bs := by
  induction xs generalizing ys with
  | nil =>
    cases ys with
    | nil => exact absurd h (by simp)
    | cons y ys => simp at hlength
  | cons x xs ih =>
    cases ys with
    | nil => simp at hlength
    | cons y ys =>
      rw [List.cons_append, List.cons_append, List.cons_lt_cons_iff]
      -- decided here, or further on
      rcases List.cons_lt_cons_iff.1 h with hxy | ⟨hxy, h⟩
      · exact .inl hxy
      · exact .inr ⟨hxy, ih h (by simpa using hlength)⟩

/-! ## One character -/

theorem byte_lt_iff {m n : Nat} (hm : m < 256) (hn : n < 256) :
    UInt8.ofNat m < UInt8.ofNat n ↔ m < n := by
  rw [UInt8.lt_iff_toNat_lt, UInt8.toNat_ofNat', UInt8.toNat_ofNat', Nat.mod_eq_of_lt hm,
    Nat.mod_eq_of_lt hn]

theorem byte_inj {m n : Nat} (hm : m < 256) (hn : n < 256) :
    UInt8.ofNat m = UInt8.ofNat n ↔ m = n := by
  rw [← UInt8.toNat_inj, UInt8.toNat_ofNat', UInt8.toNat_ofNat', Nat.mod_eq_of_lt hm,
    Nat.mod_eq_of_lt hn]

theorem toNat_lt_of_char (c : Char) : c.val.toNat < 0x110000 := by
  rcases c.valid with h | h
  · have hlow : c.val.toNat < 0xD800 := h
    omega
  · exact h.2

theorem div_eq_div_div (n : Nat) : n / 4096 = n / 64 / 64 ∧ n / 262144 = n / 64 / 64 / 64 := by
  omega

/-- Characters of the same number of bytes are in the order of their bytes. -/
theorem utf8EncodeChar_lt {c d : Char} (h : c < d)
    (hlength : (utf8EncodeChar c).length = (utf8EncodeChar d).length) :
    utf8EncodeChar c < utf8EncodeChar d := by
  have hlt : c.val.toNat < d.val.toNat := h
  have hd := toNat_lt_of_char d
  unfold utf8EncodeChar at hlength ⊢
  generalize c.val.toNat = m at *
  generalize d.val.toNat = n at *
  simp only at hlength ⊢
  split_ifs at hlength ⊢ <;> simp at hlength
  -- one goal for each of the four lengths is left
  all_goals
    simp (disch := omega) only [List.cons_lt_cons_iff, byte_lt_iff, byte_inj, List.lt_irrefl,
      and_false, or_false, div_eq_div_div]
    omega

/-- Of characters of different numbers of bytes, the greater one begins with the greater byte. -/
theorem utf8EncodeChar_append_lt {c d : Char} (h : c < d)
    (hlength : (utf8EncodeChar c).length ≠ (utf8EncodeChar d).length) (as bs : List UInt8) :
    utf8EncodeChar c ++ as < utf8EncodeChar d ++ bs := by
  have hlt : c.val.toNat < d.val.toNat := h
  unfold utf8EncodeChar at hlength ⊢
  generalize c.val.toNat = m at *
  generalize d.val.toNat = n at *
  simp only at hlength ⊢
  split_ifs at hlength ⊢ <;> simp at hlength
  all_goals
    refine List.cons_lt_cons_iff.2 (.inl ?_)
    simp (disch := omega) only [byte_lt_iff]
    omega

/-! ## Texts -/

/-- A text that comes first has the bytes that come first. -/
theorem bytes_lt {xs ys : List Char} (h : xs < ys) : bytes xs < bytes ys := by
  induction xs generalizing ys with
  | nil =>
    cases ys with
    | nil => exact absurd h (by simp)
    | cons d ys =>
      obtain ⟨b, bs, hd⟩ := List.exists_cons_of_ne_nil (utf8EncodeChar_ne_nil (c := d))
      rw [bytes_nil, bytes_cons, hd]
      exact List.nil_lt_cons b _
  | cons c xs ih =>
    cases ys with
    | nil => exact absurd h (by simp)
    | cons d ys =>
      rw [bytes_cons, bytes_cons]
      rcases List.cons_lt_cons_iff.1 h with hcd | ⟨hcd, h⟩
      -- equally long forms compare byte by byte; of two lengths the shorter has the smaller first
      -- byte
      · by_cases hlength : (utf8EncodeChar c).length = (utf8EncodeChar d).length
        · exact append_lt_append (utf8EncodeChar_lt hcd hlength) hlength _ _
        · exact utf8EncodeChar_append_lt hcd hlength _ _
      · rw [hcd]
        exact List.append_left_lt (ih h)

/-- **Order of bytes**: texts are in the order of their bytes. -/
theorem bytes_lt_iff {xs ys : List Char} : bytes xs < bytes ys ↔ xs < ys := by
  constructor
  · intro h
    by_contra hnot
    rcases List.le_iff_lt_or_eq.1 (List.not_lt.1 hnot) with hlt | rfl
    · exact List.lt_asymm h (bytes_lt hlt)
    · exact List.lt_irrefl _ h
  · exact bytes_lt

end Rehearsal.Text
