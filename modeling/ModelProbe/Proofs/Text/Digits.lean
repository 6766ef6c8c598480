import Mathlib.Data.Nat.Digits.Defs
import ModelProbe.Text.Digits
/-!
# Reading decimal digits

A number is read back from its digits; nothing but digits, perhaps after a plus sign, is read as a
number of 16 bits.

* `digitsValue_toDigits`, `readBelow?_toDigits`, `readInt64?_toDigits`, `readUInt16?_toDigits`: a
  number is read back from its digits.
* `readBelow?_eq_some_iff`, `readUInt16?_eq_some_iff`: which texts are read as a number.
* `isDigit_of_readUInt16?`: which characters are read as a number of 16 bits.
-/

namespace ModelProbe.Text

/-- The digits of a number write it. -/
theorem digitsValue_toDigits (n : Nat) : digitsValue (Nat.toDigits 10 n) = n := by
  have hstep : (fun (n : Nat) (c : Char) => n * 10 + (c.toNat - 48)) =
      fun n c => 10 * n + (c.toNat - '0'.toNat) := by
    funext n c
    rw [Nat.mul_comm]
    rfl
  calc digitsValue (Nat.toDigits 10 n) = Nat.ofDigitChars 10 (Nat.toDigits 10 n) 0 := by
        rw [digitsValue, hstep, Nat.ofDigitChars_eq_foldl]
    _ = n := Nat.ofDigitChars_ten_toDigits

/-- A number is shown by its digits. -/
theorem toList_toString (n : Nat) : (toString n).toList = Nat.toDigits 10 n := String.toList_ofList

theorem isDigit_of_mem_toDigits {n : Nat} : ∀ c ∈ Nat.toDigits 10 n, c.isDigit = true :=
  fun _ hc => Nat.isDigit_of_mem_toDigits (by decide) (by decide) hc

/-- Decimal digits are read when their number is below the limit. -/
theorem readBelow?_digits (limit : Nat) {s : List Char} (hne : s ≠ [])
    (hs : ∀ c ∈ s, c.isDigit = true) :
    readBelow? limit s = if digitsValue s < limit then some (digitsValue s) else none := by
  unfold readBelow?
  split
  · -- A plus sign is no digit.
    next rest => exact absurd (hs '+' (by simp)) (by decide)
  · have hall : s.all Char.isDigit = true := List.all_eq_true.2 hs
    simp [hne, hall]

/-- A number is read back from its digits when it is below the limit. -/
theorem readBelow?_toDigits (limit n : Nat) :
    readBelow? limit (Nat.toDigits 10 n) = if n < limit then some n else none := by
  rw [readBelow?_digits limit Nat.toDigits_ne_nil isDigit_of_mem_toDigits, digitsValue_toDigits]

/-- A number is read back from its digits as a number of 64 bits with a sign, when it is one. -/
theorem readInt64?_toDigits {n : Nat} (h : n < 2 ^ 63) :
    readInt64? (Nat.toDigits 10 n) = some (n : Int) := by
  have hread : readBelow? (Nat.pow 2 63) (Nat.toDigits 10 n) = some n := by
    rw [readBelow?_toDigits]
    exact if_pos h
  unfold readInt64?
  split
  · -- A minus sign is no digit.
    next digits hs =>
      have hminus : '-' ∈ Nat.toDigits 10 n := hs ▸ List.mem_cons_self
      exact absurd (isDigit_of_mem_toDigits _ hminus) (by decide)
  · rw [hread]
    rfl

/-! ## What is read -/

/-- The text writes the number: in decimal digits, perhaps after a plus sign. -/
def Writes (s : List Char) (n : Nat) : Prop :=
  ∃ digits, (s = digits ∨ s = '+' :: digits) ∧ digits ≠ [] ∧ (∀ c ∈ digits, c.isDigit = true) ∧
    digitsValue digits = n

/-- What is read as a number below a limit writes that number. -/
theorem readBelow?_eq_some_iff {limit n : Nat} {s : List Char} :
    readBelow? limit s = some n ↔ Writes s n ∧ n < limit := by
  constructor
  · intro h
    unfold readBelow? at h
    obtain ⟨hread, hvalue⟩ := Option.ite_none_right_eq_some.1 h
    rw [Bool.and_eq_true, Bool.and_eq_true] at hread
    obtain ⟨⟨hne, hall⟩, hlt⟩ := hread
    obtain rfl := Option.some.inj hvalue
    refine ⟨⟨_, ?_, by simpa using hne, List.all_eq_true.1 hall, rfl⟩, of_decide_eq_true hlt⟩
    split
    · exact .inr rfl
    · exact .inl rfl
  · rintro ⟨⟨digits, hs, hne, hall, rfl⟩, hlt⟩
    have hdigits : readBelow? limit digits = some (digitsValue digits) := by
      rw [readBelow?_digits limit hne hall, if_pos hlt]
    rcases hs with rfl | rfl
    · exact hdigits
    · -- A plus sign in front is passed over.
      have hread : (!digits.isEmpty && digits.all Char.isDigit) = true := by
        rw [List.all_eq_true.2 hall]
        simpa using hne
      simp [readBelow?, hread, hlt]

/-- What writes a number has no characters but digits and a plus sign. -/
theorem Writes.not_mem {s : List Char} {n : Nat} (h : Writes s n) {c : Char}
    (hdigit : c.isDigit = false) (hplus : c ≠ '+') : c ∉ s := by
  obtain ⟨digits, hs, -, hall, -⟩ := h
  have hdigits : c ∉ digits := fun hc => by
    rw [hall c hc] at hdigit
    cases hdigit
  rcases hs with rfl | rfl
  · exact hdigits
  · exact List.not_mem_cons_of_ne_of_not_mem hplus hdigits

/-- A number is written by its decimal digits. -/
theorem writes_toDigits (n : Nat) : Writes (Nat.toDigits 10 n) n :=
  ⟨_, .inl rfl, Nat.toDigits_ne_nil, isDigit_of_mem_toDigits, digitsValue_toDigits n⟩

/-! ## Numbers of 16 bits -/

/-- Decimal digits of a number of 16 bits are read. -/
theorem readUInt16?_digits {s : List Char} (hne : s ≠ []) (hs : ∀ c ∈ s, c.isDigit = true)
    {n : UInt16} (hn : digitsValue s = n.toNat) : readUInt16? s = some n := by
  have hlt : digitsValue s < 65536 := hn ▸ n.toNat_lt
  rw [readUInt16?, readBelow?_digits 65536 hne hs, if_pos hlt, Option.map_some, hn]
  simp

/-- A number of 16 bits is read back from its digits. -/
theorem readUInt16?_toDigits (n : UInt16) : readUInt16? (Nat.toDigits 10 n.toNat) = some n :=
  readUInt16?_digits Nat.toDigits_ne_nil isDigit_of_mem_toDigits (digitsValue_toDigits _)

/-- What is read as a number of 16 bits has digits, and perhaps a plus sign. -/
theorem isDigit_of_readUInt16? {s : List Char} {n : UInt16} (h : readUInt16? s = some n) :
    ∀ c ∈ s, c.isDigit = true ∨ c = '+' := by
  obtain ⟨m, hm, -⟩ := Option.map_eq_some_iff.1 h
  unfold readBelow? at hm
  have hread := (Option.ite_none_right_eq_some.1 hm).1
  rw [Bool.and_eq_true, Bool.and_eq_true] at hread
  have hall := List.all_eq_true.1 hread.1.2
  intro c hc
  split at hall
  · next rest =>
    rcases List.mem_cons.1 hc with rfl | hc
    · exact Or.inr rfl
    · exact Or.inl (hall c hc)
  · exact Or.inl (hall c hc)

/-- What is read as a number of 16 bits writes that number. -/
theorem readUInt16?_eq_some_iff {s : List Char} {n : UInt16} :
    readUInt16? s = some n ↔ Writes s n.toNat := by
  rw [readUInt16?, Option.map_eq_some_iff]
  constructor
  · rintro ⟨m, hread, rfl⟩
    obtain ⟨hwrites, hlt⟩ := readBelow?_eq_some_iff.1 hread
    rwa [UInt16.toNat_ofNat_of_lt' hlt]
  · intro h
    exact ⟨n.toNat, readBelow?_eq_some_iff.2 ⟨h, n.toNat_lt⟩, by simp⟩

end ModelProbe.Text
