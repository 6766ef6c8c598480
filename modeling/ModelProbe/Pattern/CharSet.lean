import ModelProbe.Text.CaseFold
import ModelProbe.Text.CodeRanges
/-!
# Algebra of character sets

Union, complement, intersection and difference of sets given by ranges of code points, and the
closure of a set under change of case.

* `hasCode_intersect`: a code point is in the intersection when it is in both sets.
-/

namespace ModelProbe.Pattern

open Text

namespace CharSet

/-- The greatest code point. -/
def maxCode : Nat := 0x10FFFF

/-- The ranges sorted by their lower ends. -/
def sortRanges (s : CodeRanges) : CodeRanges := s.mergeSort fun a b => a.1 ≤ b.1

/-- The gaps from `start` on that sorted ranges leave. -/
def gapsFrom (start : Nat) : CodeRanges → CodeRanges
  | [] => if start ≤ maxCode then [(start, maxCode)] else []
  | (low, high) :: rest =>
    if start < low then (start, low - 1) :: gapsFrom (max start (high + 1)) rest
    else gapsFrom (max start (high + 1)) rest

/-- The characters outside the set. -/
def complement (s : CodeRanges) : CodeRanges := gapsFrom 0 (sortRanges s)

/-- The characters of both sets. -/
def intersect (a b : CodeRanges) : CodeRanges :=
  a.flatMap fun (low, high) => b.filterMap fun (low', high') =>
    if max low low' ≤ min high high' then some (max low low', min high high') else none

/-- The characters of the first set only. -/
def difference (a b : CodeRanges) : CodeRanges := intersect a (complement b)

/-- The characters of exactly one of the sets. -/
def symmetricDifference (a b : CodeRanges) : CodeRanges := difference a b ++ difference b a

/-- The set with every character that differs from one of it in case only. -/
def foldCase (s : CodeRanges) : CodeRanges :=
  s ++ (caseOrbits.filter fun orbit => orbit.any s.hasCode).flatMap fun orbit =>
    orbit.map fun n => (n, n)

/-- The set with both cases of its ASCII letters. -/
def foldAsciiCase (s : CodeRanges) : CodeRanges :=
  s ++ (intersect s [(65, 90)]).map (fun (low, high) => (low + 32, high + 32)) ++
    (intersect s [(97, 122)]).map fun (low, high) => (low - 32, high - 32)

/-- Whether the set has characters of ASCII only. -/
def isAscii (s : CodeRanges) : Bool := s.all fun (low, high) => high < low || high < 128

/-- The set of one character. -/
def single (c : Char) : CodeRanges := [(c.toNat, c.toNat)]

theorem hasCode_intersect (a b : CodeRanges) (n : Nat) :
    CodeRanges.hasCode (intersect a b) n = (a.hasCode n && b.hasCode n) := by
  rw [Bool.eq_iff_iff]
  simp only [CodeRanges.hasCode, intersect, List.any_eq_true, List.mem_flatMap, List.mem_filterMap,
    Bool.and_eq_true, decide_eq_true_eq, Prod.exists]
  constructor
  · rintro ⟨l, h, ⟨l₁, h₁, ha, l₂, h₂, hb, hs⟩, hn⟩
    split at hs
    · simp only [Option.some.injEq, Prod.mk.injEq] at hs
      exact ⟨⟨l₁, h₁, ha, by omega⟩, ⟨l₂, h₂, hb, by omega⟩⟩
    · simp at hs
  · rintro ⟨⟨l₁, h₁, ha, hn₁⟩, ⟨l₂, h₂, hb, hn₂⟩⟩
    refine ⟨max l₁ l₂, min h₁ h₂, ⟨l₁, h₁, ha, l₂, h₂, hb, ?_⟩, by omega⟩
    rw [if_pos (by omega)]

end CharSet

end ModelProbe.Pattern
