import ModelProbe.Proofs.Setting.Defaults
import ModelProbe.Proofs.Text.Digits
import ModelProbe.Setting.Convert
import ModelProbe.Setting.Source
/-!
# Variables as settings

The text of a variable is read as a scalar; the digits of a number of 63 bits are read as that
number. The layer of the environment has the variables that are of settings, in their order.

* `isScalar_ofVariable`, `ofVariable_toString`: what the text of a variable is read as.
* `ofEnvironment_append`, `ofEnvironment_cons`: the layer of the environment, piece by piece.
-/

namespace ModelProbe.Setting

/-! ## The text of a variable -/

/-- The text of a variable is a scalar. -/
theorem isScalar_ofVariable (text : String) : (ofVariable text).isScalar = true := by
  unfold ofVariable
  dsimp only
  split
  · rfl
  · rfl
  · split
    · rfl
    · split <;> rfl

/-- A digit has no other letter case. -/
theorem toLower_of_isDigit {c : Char} (h : c.isDigit = true) : c.toLower = c := by
  simp only [Char.isDigit, Bool.and_eq_true, decide_eq_true_eq] at h
  unfold Char.toLower
  rw [dif_neg]
  rintro ⟨hcapital, -⟩
  exact absurd (UInt32.le_trans hcapital h.2) (by decide)

/-- A number in digits is no word. -/
theorem lowerAscii_toString_ne (n : Nat) {word : String} {c : Char} (hmem : c ∈ word.toList)
    (hc : c.isDigit = false) : Protocol.lowerAscii (toString n) ≠ word := by
  have hdigits : ∀ d ∈ (toString n).toList, d.isDigit = true := by
    rw [Text.toList_toString]
    exact Text.isDigit_of_mem_toDigits
  rintro rfl
  rw [Protocol.lowerAscii, String.toList_ofList] at hmem
  obtain ⟨d, hd, rfl⟩ := List.mem_map.1 hmem
  rw [toLower_of_isDigit (hdigits d hd), hdigits d hd] at hc
  exact Bool.noConfusion hc

/-- A number of 63 bits is read from its digits. -/
theorem ofVariable_toString {n : Nat} (h : n < 2 ^ 63) : ofVariable (toString n) = .whole n := by
  have hread : Text.readInt64? (toString n).toList = some (n : Int) := by
    rw [Text.toList_toString]
    exact Text.readInt64?_toDigits h
  have htrue : Protocol.lowerAscii (toString n) ≠ "true" :=
    lowerAscii_toString_ne n (c := 't') (by decide) (by decide)
  have hfalse : Protocol.lowerAscii (toString n) ≠ "false" :=
    lowerAscii_toString_ne n (c := 'f') (by decide) (by decide)
  unfold ofVariable
  dsimp only
  split
  · next hword => exact absurd hword htrue
  · next hword => exact absurd hword hfalse
  · rw [hread]

/-- A number of 63 bits is a natural number of 64 bits. -/
theorem asNatural?_whole {n : Nat} (h : n < 2 ^ 63) : asNatural? (.whole n) = some n := by
  have hlimit : n < naturalLimit := Nat.lt_trans h (by decide : 2 ^ 63 < Nat.pow 2 64)
  show (if (decide (0 ≤ (n : Int)) && decide (n < naturalLimit)) = true then some n
    else none) = some n
  rw [decide_eq_true (Int.natCast_nonneg n), decide_eq_true hlimit]
  rfl

/-! ## The layer of the environment -/

/-- The variables of two environments after one another. -/
theorem ofEnvironment_append (before after : List (String × String)) :
    ofEnvironment (before ++ after) = ofEnvironment before ++ ofEnvironment after :=
  List.filterMap_append

/-- The first variable of an environment, if it is of a setting, and the others. -/
theorem ofEnvironment_cons (name text : String) (rest : List (String × String)) :
    ofEnvironment ((name, text) :: rest) =
      ((keyOfVariable? name).map fun key => (key, ofVariable text)).toList ++
        ofEnvironment rest := by
  have hfirst : ofEnvironment [(name, text)] =
      ((keyOfVariable? name).map fun key => (key, ofVariable text)).toList := by
    show List.filterMap _ [(name, text)] = _
    cases hkey : keyOfVariable? name with
    | none => exact List.filterMap_cons_none (congrArg (Option.map _) hkey)
    | some key => exact List.filterMap_cons_some (congrArg (Option.map _) hkey)
  rw [← hfirst]
  exact ofEnvironment_append [(name, text)] rest

/-- An environment without variables of settings has an empty layer. -/
theorem ofEnvironment_eq_nil {environment : List (String × String)}
    (h : ∀ e ∈ environment, keyOfVariable? e.1 = none) : ofEnvironment environment = [] :=
  List.filterMap_eq_nil_iff.2 fun e he => congrArg (Option.map _) (h e he)

end ModelProbe.Setting
