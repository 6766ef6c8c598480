import Mathlib
import ModelProbe.Text.Utf8
/-!
# The order of texts and that of their bytes

A character of a greater code point is written with greater bytes: the first byte tells how many
follow, and with equally many the bits are compared from the first to the last. So texts are ordered
like their bytes.

* `utf8Bytes_lt_iff`: the order of bytes is that of characters.
-/

namespace ModelProbe.Text

/-! ## The bytes of a text, character by character -/

theorem toList_loop (bytes : ByteArray) (i : Nat) (read : List UInt8) :
    ByteArray.toList.loop bytes i read = read.reverse ++ bytes.data.toList.drop i := by
  fun_induction ByteArray.toList.loop bytes i read with
  | case1 i read h ih =>
    have hi : i < bytes.data.toList.length := by simpa using h
    rw [ih, List.drop_eq_getElem_cons hi]
    simp [ByteArray.get!, h]
  | case2 i read h =>
    rw [List.drop_eq_nil_of_le (by simpa using Nat.le_of_not_lt h), List.append_nil]

/-- The bytes of a text are those of its characters. -/
theorem utf8Bytes_eq_flatMap (s : List Char) : utf8Bytes s = s.flatMap String.utf8EncodeChar := by
  show ByteArray.toList.loop (String.ofList s).toByteArray 0 [] = _
  rw [toList_loop, String.toByteArray_ofList, List.utf8Encode, List.data_toByteArray]
  rfl

@[simp] theorem utf8Bytes_nil : utf8Bytes [] = [] := utf8Bytes_eq_flatMap []

theorem utf8Bytes_cons (c : Char) (s : List Char) :
    utf8Bytes (c :: s) = String.utf8EncodeChar c ++ utf8Bytes s := by
  rw [utf8Bytes_eq_flatMap, utf8Bytes_eq_flatMap, List.flatMap_cons]

/-! ## One character -/

/-- How many bytes follow the first one of a code point. -/
def moreOf (v : Nat) : Nat :=
  if v ≤ 127 then 0 else if v ≤ 2047 then 1 else if v ≤ 65535 then 2 else 3

/-- The first byte of a code point with so many bytes after it: how many they are, and the bits
before theirs. -/
def firstByte (more v : Nat) : Nat := v / 64 ^ more + [0, 192, 224, 240].getD more 0

/-- The bytes of a code point after the first one, six bits each. -/
def moreBytes : (more : Nat) → (v : Nat) → List UInt8
  | 0, _ => []
  | more + 1, v => UInt8.ofNat (v / 64 ^ more % 64 + 128) :: moreBytes more v

theorem toNat_lt (c : Char) : c.val.toNat < 0x110000 := by
  have hvalid := c.valid
  simp only [UInt32.isValidChar, Nat.isValidChar] at hvalid
  omega

theorem utf8EncodeChar_eq (c : Char) :
    String.utf8EncodeChar c =
      UInt8.ofNat (firstByte (moreOf c.val.toNat) c.val.toNat) ::
        moreBytes (moreOf c.val.toNat) c.val.toNat := by
  have hmax := toNat_lt c
  unfold String.utf8EncodeChar moreOf
  dsimp only
  generalize c.val.toNat = v at hmax ⊢
  split_ifs with h1 h2 h3
  · simp [firstByte, moreBytes]
  · simp [firstByte, moreBytes, Nat.mod_eq_of_lt (show v / 64 < 32 by omega)]
  · simp [firstByte, moreBytes, Nat.mod_eq_of_lt (show v / 4096 < 16 by omega)]
  · simp [firstByte, moreBytes, Nat.mod_eq_of_lt (show v / 262144 < 8 by omega)]

/-- Bytes with a lesser first one come before. -/
theorem ofNat_cons_lt {x y : Nat} (h : x < y) (hy : y < 256) (s t : List UInt8) :
    UInt8.ofNat x :: s < UInt8.ofNat y :: t :=
  List.cons_lt_cons_iff.2 (.inl ((UInt8.ofNat_lt_iff_lt (Nat.lt_trans h hy) hy).2 h))

/-- Bytes after equal ones decide. -/
theorem cons_lt_of_lt (b : UInt8) {s t : List UInt8} (h : s < t) : b :: s < b :: t :=
  List.cons_lt_cons_iff.2 (.inr ⟨rfl, h⟩)

/-- The bytes after the first one are ordered like the bits that they hold. -/
theorem moreBytes_append_lt {more v w : Nat} (h : v % 64 ^ more < w % 64 ^ more)
    (s t : List UInt8) : moreBytes more v ++ s < moreBytes more w ++ t := by
  induction more with
  | zero => simp [Nat.mod_one] at h
  | succ more ih =>
    have hv := Nat.mod_pow_succ (b := 64) (x := v) (k := more)
    have hw := Nat.mod_pow_succ (b := 64) (x := w) (k := more)
    have hlt : v % 64 ^ more < 64 ^ more := Nat.mod_lt _ (Nat.pow_pos (by decide))
    have hsix : w / 64 ^ more % 64 < 64 := Nat.mod_lt _ (by decide)
    rcases Nat.lt_trichotomy (v / 64 ^ more % 64) (w / 64 ^ more % 64) with hq | hq | hq
    · exact ofNat_cons_lt (by omega) (by omega) _ _
    · rw [hv, hw, hq] at h
      show UInt8.ofNat (v / 64 ^ more % 64 + 128) :: (moreBytes more v ++ s) < _
      rw [hq]
      exact cons_lt_of_lt _ (ih (by omega))
    · -- Greater bits in front would make the number greater.
      have hmul : 64 ^ more * (w / 64 ^ more % 64 + 1) ≤ 64 ^ more * (v / 64 ^ more % 64) :=
        Nat.mul_le_mul_left _ hq
      have hlt' : w % 64 ^ more < 64 ^ more := Nat.mod_lt _ (Nat.pow_pos (by decide))
      rw [hv, hw] at h
      rw [Nat.mul_add] at hmul
      omega

/-- The bytes of a lesser character come before those of a greater one, whatever follows. -/
theorem utf8EncodeChar_append_lt {c d : Char} (h : c < d) (s t : List UInt8) :
    String.utf8EncodeChar c ++ s < String.utf8EncodeChar d ++ t := by
  have hlt : c.val.toNat < d.val.toNat := UInt32.lt_iff_toNat_lt.1 h
  have hmax := toNat_lt d
  rw [utf8EncodeChar_eq, utf8EncodeChar_eq, List.cons_append, List.cons_append]
  generalize c.val.toNat = v at hlt
  generalize d.val.toNat = w at hlt hmax
  have hbyte : firstByte (moreOf w) w < 256 := by
    unfold firstByte moreOf
    split_ifs <;> simp <;> omega
  by_cases hmore : moreOf v = moreOf w
  · rw [hmore]
    rcases Nat.lt_or_ge (v / 64 ^ moreOf w) (w / 64 ^ moreOf w) with hq | hq
    · exact ofNat_cons_lt (Nat.add_lt_add_right hq _) hbyte _ _
    · have heq : v / 64 ^ moreOf w = w / 64 ^ moreOf w :=
        Nat.le_antisymm (Nat.div_le_div_right (Nat.le_of_lt hlt)) hq
      have hv := Nat.div_add_mod v (64 ^ moreOf w)
      have hw := Nat.div_add_mod w (64 ^ moreOf w)
      rw [firstByte, firstByte, heq]
      rw [heq] at hv
      exact cons_lt_of_lt _ (moreBytes_append_lt (by omega) s t)
  · refine ofNat_cons_lt ?_ hbyte _ _
    unfold moreOf at hmore
    unfold firstByte moreOf
    split_ifs at hmore ⊢ <;> simp <;> omega

/-! ## Texts -/

/-- The bytes of a lesser text come before those of a greater one. -/
theorem utf8Bytes_lt_of_lt {s t : List Char} (h : s < t) : utf8Bytes s < utf8Bytes t := by
  induction h with
  | nil => simp [utf8Bytes_cons, utf8EncodeChar_eq]
  | rel hcd =>
    rw [utf8Bytes_cons, utf8Bytes_cons]
    exact utf8EncodeChar_append_lt hcd _ _
  | cons _ ih =>
    rw [utf8Bytes_cons, utf8Bytes_cons]
    exact List.append_left_lt ih

/-- **Texts are ordered like their bytes.** -/
theorem utf8Bytes_lt_iff (s t : List Char) : utf8Bytes s < utf8Bytes t ↔ s < t := by
  refine ⟨fun h => ?_, utf8Bytes_lt_of_lt⟩
  rcases Std.lt_trichotomy s t with hlt | rfl | hgt
  · exact hlt
  · exact absurd h (List.lt_irrefl _)
  · exact absurd h (List.lt_asymm (utf8Bytes_lt_of_lt hgt))

end ModelProbe.Text
