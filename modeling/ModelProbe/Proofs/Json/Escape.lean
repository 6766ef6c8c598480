import Mathlib.Tactic.SplitIfs
import ModelProbe.Json.Reader
import ModelProbe.Json.Writer
/-!
# Strings that are written and read back

A character is written as itself or as an escape. An escape is a backslash, a character that is no
line feed, and digits; it is read back whatever follows it.

* `escaped_cases`: the two ways in which a character is written.
* `readString?_flatMap_escaped`: a written string is read back.
-/

namespace ModelProbe.Json

/-! ## Characters -/

/-- The digits of a control character are read back. -/
theorem hexUnit?_control : ∀ n < 32,
    hexUnit? '0' '0' (Nat.digitChar (n / 16)) (Nat.digitChar (n % 16)) = some n := by
  decide

/-- The digits of a control character are no quotes and no backslashes. -/
theorem digits_control : ∀ n < 32,
    ['0', '0', Nat.digitChar (n / 16), Nat.digitChar (n % 16)].all
      (fun d => d != '"' && d != '\\') = true := by
  decide

/-- The escape of a control character is read back. -/
theorem readEscape?_control {c : Char} (hc : c.toNat < 32) (s : List Char) :
    readEscape? ('u' :: '0' :: '0' :: Nat.digitChar (c.toNat / 16) ::
      Nat.digitChar (c.toNat % 16) :: s) = some (c, s) := by
  have hlow : ¬ (0xDC00 ≤ c.toNat ∧ c.toNat ≤ 0xDFFF) := by omega
  have hhigh : ¬ (0xD800 ≤ c.toNat ∧ c.toNat ≤ 0xDBFF) := by omega
  rw [readEscape?, hexUnit?_control c.toNat hc]
  dsimp only
  rw [if_neg hlow, if_neg hhigh, Char.ofNat_toNat]

/-- The text is an escape of the character: a backslash, a character that is no line feed, and
digits without quotes, from which the character is read back whatever follows. -/
def Escapes (written : List Char) (c : Char) : Prop :=
  ∃ d digits, written = '\\' :: d :: digits ∧ d ≠ '\n' ∧ (∀ x ∈ digits, x ≠ '"' ∧ x ≠ '\\') ∧
    ∀ s, readEscape? (d :: (digits ++ s)) = some (c, s)

/-- An escape of one letter. -/
theorem escapes_short {c d : Char} (hread : simpleEscape? d = some c) (hline : d ≠ '\n')
    (hu : d ≠ 'u') : Escapes ['\\', d] c := by
  refine ⟨d, [], rfl, hline, by simp, fun s => ?_⟩
  rw [List.nil_append, readEscape?, hread]
  · rfl
  · exact fun _ _ _ _ _ h _ => hu h
  · exact hu

/-- The escape of a control character by its digits. -/
theorem escapes_control {c : Char} (hc : c.toNat < 32) :
    Escapes ['\\', 'u', '0', '0', Nat.digitChar (c.toNat / 16), Nat.digitChar (c.toNat % 16)] c := by
  refine ⟨'u', ['0', '0', Nat.digitChar (c.toNat / 16), Nat.digitChar (c.toNat % 16)], rfl,
    by decide, fun x hx => ?_, readEscape?_control hc⟩
  have hdigit := List.all_eq_true.1 (digits_control c.toNat hc) x hx
  simpa using hdigit

/-- **A character is written in one of two ways**, as itself or as an escape. -/
theorem escaped_cases (c : Char) :
    (escaped c = [c] ∧ c ≠ '"' ∧ c ≠ '\\' ∧ ¬ c.toNat < 32) ∨ Escapes (escaped c) c := by
  unfold escaped
  -- Seven characters have a letter of their own, the other control characters their digits.
  split_ifs with hquote hslash hb hf hn hr ht hcontrol
  · subst hquote
    exact .inr (escapes_short rfl (by decide) (by decide))
  · subst hslash
    exact .inr (escapes_short rfl (by decide) (by decide))
  · subst hb
    exact .inr (escapes_short rfl (by decide) (by decide))
  · subst hf
    exact .inr (escapes_short rfl (by decide) (by decide))
  · subst hn
    exact .inr (escapes_short rfl (by decide) (by decide))
  · subst hr
    exact .inr (escapes_short rfl (by decide) (by decide))
  · subst ht
    exact .inr (escapes_short rfl (by decide) (by decide))
  · exact .inr (escapes_control hcontrol)
  · exact .inl ⟨rfl, hquote, hslash, hcontrol⟩

/-! ## Strings -/

/-- A written character is read back. -/
theorem readString?_escaped_append (c : Char) (s : List Char) :
    readString? (escaped c ++ s) = (readString? s).map fun (t, rest) => (c :: t, rest) := by
  rcases escaped_cases c with ⟨hself, hquote, hslash, hcontrol⟩ | ⟨d, digits, hescape, -, -, hread⟩
  · rw [hself, List.singleton_append, readString?, if_neg hquote, if_neg hslash, if_neg hcontrol]
  · rw [hescape, List.cons_append, List.cons_append, readString?, if_neg (by decide), if_pos rfl]
    split
    · next hnone => rw [hread s] at hnone; cases hnone
    · next e rest hsome =>
      rw [hread s, Option.some.injEq, Prod.mk.injEq] at hsome
      obtain ⟨rfl, rfl⟩ := hsome
      rfl

/-- **A written string is read back**, whatever follows it. -/
theorem readString?_flatMap_escaped (s rest : List Char) :
    readString? (s.flatMap escaped ++ '"' :: rest) = some (s, rest) := by
  induction s with
  | nil => rw [List.flatMap_nil, List.nil_append, readString?, if_pos rfl]
  | cons c s ih =>
    rw [List.flatMap_cons, List.append_assoc, readString?_escaped_append, ih]
    rfl

end ModelProbe.Json
