import Mathlib.Data.List.TakeDrop
import Mathlib.Data.Nat.Digits.Defs
import ModelProbe.Host
import ModelProbe.Proofs.Text.Trimming
/-!
# The texts of hosts

A domain name keeps no character that separates the parts of an address: its labels are checked as
they are read, and what encodes a label that is not ASCII are letters, digits and hyphens. Numeric
addresses are written with digits; only those of 128 bits have colons, and stand in brackets.

* `clean_domainToAscii?`: the ASCII form of a name has no forbidden character.
* `isText_of_ofDomain?`: what the text of a host looks like.
-/

namespace ModelProbe.Host

/-- A text without forbidden characters. -/
def Clean (s : List Char) : Prop := ∀ c ∈ s, isForbidden c = false

instance instDecidableClean (s : List Char) : Decidable (Clean s) :=
  List.decidableBAll (fun c => isForbidden c = false) s

theorem Clean.append {s t : List Char} (hs : Clean s) (ht : Clean t) : Clean (s ++ t) :=
  fun c hc => (List.mem_append.1 hc).elim (hs c) (ht c)

theorem Clean.cons {c : Char} {s : List Char} (hc : isForbidden c = false) (hs : Clean s) :
    Clean (c :: s) :=
  List.forall_mem_cons.2 ⟨hc, hs⟩

theorem clean_nil : Clean [] := fun _ hc => absurd hc List.not_mem_nil

/-! ## Characters and digits -/

theorem lt_toNat_of_not_isForbidden {c : Char} (hc : isForbidden c = false) : 32 < c.toNat := by
  simp only [isForbidden, Bool.or_eq_false_iff, decide_eq_false_iff_not] at hc
  omega

theorem ne_of_not_isForbidden {c d : Char} (hc : isForbidden c = false)
    (hd : isForbidden d = true) : c ≠ d := by
  rintro rfl
  exact absurd hd (by simp [hc])

/-- Forbidden characters are ASCII characters. -/
theorem toNat_lt_of_isForbidden {c : Char} (hc : isForbidden c = true) : c.toNat < 128 := by
  simp only [isForbidden, Bool.or_eq_true, decide_eq_true_eq, beq_iff_eq] at hc
  obtain (hc | hc) | hc := hc
  · omega
  · omega
  · have hall : "#%/:<>?@[\\]^|".toList.all (fun c => c.toNat < 128) = true := by decide
    exact of_decide_eq_true (List.all_eq_true.1 hall c (by simpa using hc))

/-- The digits of base 36, in either letter case, are not forbidden. -/
theorem isForbidden_of_digitValue? {c : Char} (hc : (digitValue? c).isSome = true) :
    isForbidden c = false := by
  have hall : ∀ n < 128, isForbidden (Char.ofNat n) = true → digitValue? (Char.ofNat n) = none := by
    decide +kernel
  -- Every forbidden character is ASCII, and those have been gone through.
  refine Bool.eq_false_iff.2 fun hforbidden => ?_
  have hnone := hall c.toNat (toNat_lt_of_isForbidden hforbidden)
  rw [Char.ofNat_toNat] at hnone
  rw [hnone hforbidden] at hc
  exact absurd hc (by decide)

theorem isForbidden_digitChar {d : Nat} (hd : d < 36) : isForbidden (digitChar d) = false := by
  have hall : ∀ d < 36, isForbidden (digitChar d) = false := by decide +kernel
  exact hall d hd

/-- Digits of a base up to 16 are not forbidden. -/
theorem clean_toDigits {b : Nat} (hb : 1 < b) (hb' : b ≤ 16) (n : Nat) :
    Clean (Nat.toDigits b n) := by
  have hdigit : ∀ d < 16, isForbidden (Nat.digitChar d) = false := by decide +kernel
  induction n using Nat.strong_induction_on with
  | _ n ih =>
    rw [Nat.toDigits_eq_if hb]
    split
    · exact Clean.cons (hdigit n (by omega)) clean_nil
    · have hlow : n % b < b := Nat.mod_lt _ (by omega)
      exact (ih _ (Nat.div_lt_self (by omega) hb)).append
        (Clean.cons (hdigit _ (by omega)) clean_nil)

/-! ## Encoded labels -/

theorem clean_numberDigits (place bias n : Nat) : Clean (numberDigits place bias n) := by
  fun_induction numberDigits place bias n with
  | case1 place n t hn =>
    have ht := (threshold_bounds place bias).2
    exact Clean.cons (isForbidden_digitChar (by omega)) clean_nil
  | case2 place n t hn ih =>
    have ht := (threshold_bounds place bias).2
    have hlow : (n - t) % (36 - t) < 36 - t := Nat.mod_lt _ (by omega)
    exact Clean.cons (isForbidden_digitChar (by omega)) ih

/-- Going through a label adds digits only. -/
theorem clean_encodeCode (code basic : Nat) (label : List Nat) {e : Encoding}
    (he : Clean e.digits) : Clean (encodeCode code basic e label).digits := by
  induction label generalizing e with
  | nil => exact he
  | cons n label ih =>
    rw [encodeCode, List.foldl_cons]
    refine ih ?_
    split
    · exact he
    · split
      · have hnumber := clean_numberDigits 36 e.bias e.skipped
        exact Clean.append (fun c hc => hnumber c (List.mem_reverse.1 hc)) he
      · exact he

theorem clean_encodeFrom (basic : Nat) (label : List Nat) (codes : List Nat) (next : Nat)
    {e : Encoding} (he : Clean e.digits) : Clean (encodeFrom basic label next e codes) := by
  induction codes generalizing next e with
  | nil => exact fun c hc => he c (List.mem_reverse.1 hc)
  | cons code codes ih => exact ih _ (clean_encodeCode _ _ _ he)

/-- The encoded form of a label has its ASCII characters, hyphens and digits. -/
theorem clean_encode {label : List Char} (hl : Clean label) : Clean (encode label) := by
  rw [encode]
  refine Clean.append ?_ (clean_encodeFrom _ _ _ _ clean_nil)
  split
  · exact clean_nil
  · exact Clean.append (fun c hc => hl c (List.mem_filter.1 hc).1)
      (Clean.cons (by decide) clean_nil)

/-! ## Decoded labels -/

/-- The digits of a number that was read are not forbidden, and stand before the rest. -/
theorem readDistance?_clean {bias place weight value n : Nat} {s rest : List Char}
    (h : readDistance? bias place weight value s = some (n, rest)) :
    ∃ number, s = number ++ rest ∧ Clean number := by
  induction s generalizing place weight value with
  | nil => simp [readDistance?] at h
  | cons c s ih =>
    rw [readDistance?] at h
    split at h
    · simp at h
    · next d hd =>
      have hc : isForbidden c = false := isForbidden_of_digitValue? (by rw [hd]; rfl)
      dsimp only at h
      split at h
      · simp at h
      · split at h
        · obtain ⟨-, rfl⟩ := Prod.mk.inj (Option.some.inj h)
          exact ⟨[c], rfl, Clean.cons hc clean_nil⟩
        · obtain ⟨number, rfl, hnumber⟩ := ih h
          exact ⟨c :: number, rfl, Clean.cons hc hnumber⟩

/-- Decoding keeps the characters that are placed already, and reads digits only. -/
theorem decodeFrom?_clean {code place bias : Nat} {label digits out : List Char}
    (h : decodeFrom? code place bias label digits = some out) :
    label ⊆ out ∧ Clean digits := by
  fun_induction decodeFrom? code place bias label digits with
  | case1 code place bias label digits hempty =>
    obtain rfl := Option.some.inj h
    rw [List.isEmpty_iff.1 hempty]
    exact ⟨List.Subset.refl _, clean_nil⟩
  | case2 => simp at h
  | case3 code place bias label digits _ number rest hread places skipped next hvalid placed ih =>
    obtain ⟨hsub, hrest⟩ := ih h
    obtain ⟨used, rfl, hused⟩ := readDistance?_clean hread
    -- What was placed before stands on both sides of the new character.
    refine ⟨fun c hc => hsub ?_, hused.append hrest⟩
    rw [← List.take_append_drop (skipped % places) label] at hc
    simp only [placed, List.mem_append, List.mem_cons] at hc ⊢
    tauto
  | case4 => simp at h

/-- An encoded label has no forbidden character when its decoded form has none. -/
theorem clean_of_decode? {digits label : List Char} (h : decode? digits = some label)
    (hl : Clean label) : Clean digits := by
  have happ := List.takeWhile_append_dropWhile (p := (· != '-')) (l := digits.reverse)
  have hmark := List.head?_dropWhile_not (· != '-') digits.reverse
  rw [decode?, List.span_eq_takeWhile_dropWhile] at h
  generalize digits.reverse.takeWhile (· != '-') = last at h happ
  generalize digits.reverse.dropWhile (· != '-') = first at h happ hmark
  -- The digits stand behind the last hyphen, and the ASCII characters before it.
  have hrev : digits = first.reverse ++ last.reverse := by
    rw [← List.reverse_append, happ, List.reverse_reverse]
  cases first with
  | nil =>
    rw [hrev]
    exact (decodeFrom?_clean h).2
  | cons mark basic =>
    obtain rfl : mark = '-' := by simpa using hmark
    cases basic with
    | nil => simp at h
    | cons c basic =>
      obtain ⟨hbasic, hlast⟩ := decodeFrom?_clean h
      rw [hrev, List.reverse_cons]
      exact (Clean.append (fun d hd => hl d (hbasic hd)) (Clean.cons (by decide) clean_nil)).append
        hlast

/-! ## Names -/

/-- A label is read from a text without forbidden characters when it has none itself. -/
theorem clean_of_readLabel? {label s : List Char} (h : readLabel? label = some s) (hs : Clean s) :
    Clean label := by
  rw [readLabel?] at h
  split at h
  · obtain rfl := Option.some.inj h
    exact hs
  · next digits hdigits =>
    rw [Text.dropPiece?_eq_some_iff.1 hdigits]
    have hmark : Clean encodedMark := by decide
    exact hmark.append (clean_of_decode? (Option.eq_some_of_filter_eq_some h) hs)

theorem clean_of_isLabel {label : List Char} (h : isLabel label = true) : Clean label := by
  rw [isLabel, Bool.and_eq_true, Bool.not_eq_true', List.any_eq_false] at h
  exact fun c hc => Bool.eq_false_iff.2 (h.1 c hc)

/-- A label is sent without forbidden characters when it has none. -/
theorem clean_writeLabel {label : List Char} (hl : Clean label) : Clean (writeLabel label) := by
  rw [writeLabel]
  split
  · exact hl
  · exact Clean.append (by decide) (clean_encode hl)

/-- What is read from each item of a list is among what is read from the list. -/
theorem exists_mem_of_mapM {α β : Type} {read : α → Option β} {xs : List α} {ys : List β}
    (h : xs.mapM read = some ys) : ∀ x ∈ xs, ∃ y ∈ ys, read x = some y := by
  induction xs generalizing ys with
  | nil => exact fun x hx => absurd hx List.not_mem_nil
  | cons x xs ih =>
    rw [List.mapM_cons] at h
    obtain ⟨y, hy, h⟩ := Option.bind_eq_some_iff.1 h
    obtain ⟨ys', hys, h⟩ := Option.bind_eq_some_iff.1 h
    obtain rfl := Option.some.inj h
    refine List.forall_mem_cons.2 ⟨⟨y, List.mem_cons_self, hy⟩, fun x' hx' => ?_⟩
    obtain ⟨y', hy', hread⟩ := ih hys x' hx'
    exact ⟨y', List.mem_cons_of_mem y hy', hread⟩

/-- The ASCII form of a domain name has no forbidden character. -/
theorem clean_domainToAscii? {s domain : List Char} (h : domainToAscii? s = some domain) :
    Clean domain := by
  rw [domainToAscii?] at h
  obtain ⟨mapped, -, h⟩ := Option.bind_eq_some_iff.1 h
  obtain ⟨read, hread, h⟩ := Option.bind_eq_some_iff.1 h
  obtain ⟨hfit, h⟩ := Option.ite_none_right_eq_some.1 h
  obtain rfl := Option.some.inj h
  rw [Bool.and_eq_true] at hfit
  have hpoint : Clean ['.'] := by decide
  refine Text.forall_mem_joinWith hpoint fun piece hpiece => ?_
  obtain ⟨label, hlabel, rfl⟩ := List.mem_map.1 hpiece
  obtain ⟨s, hs, hlabel⟩ := exists_mem_of_mapM hread label hlabel
  have hs : Clean s := clean_of_isLabel (List.all_eq_true.1 hfit.1 s hs)
  exact clean_writeLabel (clean_of_readLabel? hlabel hs)

/-! ## Hosts -/

/-- What the text of a host looks like: it has no forbidden character, or stands in brackets and
has none but colons there. -/
inductive IsText : List Char → Prop
  | bare {s : List Char} (nonempty : s ≠ []) (clean : Clean s) : IsText s
  | bracketed {s : List Char} (clean : ∀ c ∈ s, c = ':' ∨ isForbidden c = false) :
    IsText ('[' :: s ++ [']'])

/-- A character that the text of a host may have: one that is not forbidden, a colon or a
bracket. -/
def IsTextChar (c : Char) : Prop := isForbidden c = false ∨ c = ':' ∨ c = '[' ∨ c = ']'

theorem IsTextChar.lt_toNat {c : Char} (hc : IsTextChar c) : 32 < c.toNat := by
  rcases hc with hc | rfl | rfl | rfl
  · exact lt_toNat_of_not_isForbidden hc
  all_goals decide

theorem IsTextChar.ne {c d : Char} (hc : IsTextChar c) (hd : isForbidden d = true)
    (hcolon : d ≠ ':') (hopen : d ≠ '[') (hclose : d ≠ ']') : c ≠ d := by
  rcases hc with hc | rfl | rfl | rfl
  · exact ne_of_not_isForbidden hc hd
  · exact hcolon.symm
  · exact hopen.symm
  · exact hclose.symm

theorem IsText.isTextChar {s : List Char} (h : IsText s) : ∀ c ∈ s, IsTextChar c := by
  cases h with
  | bare _ clean => exact fun c hc => Or.inl (clean c hc)
  | bracketed clean =>
    intro c hc
    rw [List.mem_append, List.mem_cons, List.mem_singleton] at hc
    obtain (rfl | hc) | rfl := hc
    · exact Or.inr (Or.inr (Or.inl rfl))
    · exact (clean c hc).elim (fun h => Or.inr (Or.inl h)) Or.inl
    · exact Or.inr (Or.inr (Or.inr rfl))

theorem IsText.ne_nil {s : List Char} (h : IsText s) : s ≠ [] := by
  cases h with
  | bare nonempty _ => exact nonempty
  | bracketed _ => simp

theorem clean_address32Text (n : Nat) : Clean (address32Text n) := by
  have hpoint : Clean ['.'] := by decide
  refine Text.forall_mem_joinWith hpoint fun piece hpiece => ?_
  obtain ⟨byte, -, rfl⟩ := List.mem_map.1 hpiece
  exact clean_toDigits (by decide) (by decide) byte

theorem address32Text_ne_nil (n : Nat) : address32Text n ≠ [] := by
  simp [address32Text, Text.joinWith]

/-- Groups have no forbidden character but the colons between them. -/
theorem clean_groupsText (groups : List Nat) :
    ∀ c ∈ groupsText groups, c = ':' ∨ isForbidden c = false := by
  refine Text.forall_mem_joinWith (by simp) fun piece hpiece c hc => Or.inr ?_
  obtain ⟨group, -, rfl⟩ := List.mem_map.1 hpiece
  exact clean_toDigits (by decide) (by decide) group c hc

theorem clean_address128Text (groups : List Nat) :
    ∀ c ∈ address128Text groups, c = ':' ∨ isForbidden c = false := by
  rw [address128Text]
  split
  split
  · exact clean_groupsText groups
  · refine List.forall_mem_append.2 ⟨List.forall_mem_append.2 ⟨clean_groupsText _, ?_⟩,
      clean_groupsText _⟩
    simp

/-- The text of a host of a scheme whose hosts are domain names and addresses. -/
theorem isText_of_ofDomain? {s : List Char} {host : Host} (h : ofDomain? s = some host) :
    IsText host.text := by
  rw [ofDomain?.eq_def] at h
  split at h
  · -- An address in brackets.
    rw [readBracketed?] at h
    split at h
    · obtain ⟨groups, -, rfl⟩ := Option.map_eq_some_iff.1 h
      exact .bracketed (clean_address128Text groups)
    · simp at h
  · obtain ⟨decoded, -, h⟩ := Option.bind_eq_some_iff.1 h
    obtain ⟨domain, hdomain, h⟩ := Option.bind_eq_some_iff.1 h
    obtain ⟨hne, h⟩ := Option.ite_none_left_eq_some.1 h
    split at h
    · obtain ⟨n, -, rfl⟩ := Option.map_eq_some_iff.1 h
      exact .bare (address32Text_ne_nil n) (clean_address32Text n)
    · obtain rfl := Option.some.inj h
      have hdomain_ne : domain ≠ [] := by simpa using hne
      exact .bare hdomain_ne (clean_domainToAscii? hdomain)

end ModelProbe.Host
