/-!
# Writing any character with letters and digits

A label that is not ASCII is written as its ASCII characters, a hyphen, and digits of base 36.
The digits tell, for the other characters by increasing code point, how far each one is from the
one before: a number counts the places and code points that are skipped. How many digits a number
takes is adapted to the numbers before.
-/

namespace ModelProbe.Host

/-- The digit of base 36 with a value: letters first. -/
def digitChar (d : Nat) : Char :=
  if d < 26 then Char.ofNat (0x61 + d) else Char.ofNat (0x30 + (d - 26))

/-- The value of a digit of base 36. -/
def digitValue? (c : Char) : Option Nat :=
  if c.isLower then some (c.toNat - 0x61)
  else if c.isUpper then some (c.toNat - 0x41)
  else if c.isDigit then some (c.toNat - 0x30 + 26)
  else none

/-- The first code point that is no ASCII character. -/
def firstCode : Nat := 128

/-- The bias before the first number. -/
def firstBias : Nat := 72

/-- The values below which a digit ends its number, by its place. -/
def threshold (place bias : Nat) : Nat :=
  if place ≤ bias then 1 else if bias + 26 ≤ place then 26 else place - bias

theorem threshold_bounds (place bias : Nat) :
    1 ≤ threshold place bias ∧ threshold place bias ≤ 26 := by
  unfold threshold
  split
  · omega
  · split <;> omega

/-- Divides a number by 35 until it is at most 455, and counts 36 for each time. -/
def shrink (n : Nat) : Nat × Nat :=
  if 455 < n then
    let (rest, count) := shrink (n / 35)
    (rest, count + 36)
  else (n, 0)
termination_by n
decreasing_by exact Nat.div_lt_self (by omega) (by omega)

/-- The bias after a number, when so many characters have been placed. -/
def adapt (number placed : Nat) (isFirst : Bool) : Nat :=
  let n := if isFirst then number / 700 else number / 2
  let (rest, count) := shrink (n + n / placed)
  count + 36 * rest / (rest + 38)

/-! ## Encoding -/

/-- The digits of a number. -/
def numberDigits (place bias n : Nat) : List Char :=
  let t := threshold place bias
  if n < t then [digitChar n]
  else digitChar (t + (n - t) % (36 - t)) :: numberDigits (place + 36) bias ((n - t) / (36 - t))
termination_by n
decreasing_by
  have := threshold_bounds place bias
  exact Nat.lt_of_le_of_lt (Nat.div_le_self ..) (by omega)

/-- What an encoder has done. -/
structure Encoding where
  /-- The places and code points skipped since the last character. -/
  skipped : Nat
  bias : Nat
  placed : Nat
  /-- The digits so far, last one first. -/
  digits : List Char

/-- Goes through a label in search of the characters with one code point. -/
def encodeCode (code basic : Nat) (e : Encoding) (label : List Nat) : Encoding :=
  label.foldl (fun e n =>
    if n < code then { e with skipped := e.skipped + 1 }
    else if n = code then
      { skipped := 0
        bias := adapt e.skipped (e.placed + 1) (e.placed == basic)
        placed := e.placed + 1
        digits := (numberDigits 36 e.bias e.skipped).reverse ++ e.digits }
    else e) e

/-- Encodes the characters from a code point on, for each code point that occurs, which are given
by increasing value. -/
def encodeFrom (basic : Nat) (label : List Nat) : (next : Nat) → Encoding → List Nat → List Char
  | _, e, [] => e.digits.reverse
  | next, e, code :: codes =>
    let e := { e with skipped := e.skipped + (code - next) * (e.placed + 1) }
    let e := encodeCode code basic e label
    encodeFrom basic label (code + 1) { e with skipped := e.skipped + 1 } codes

/-- Puts a number into an increasing list, once. -/
def insertOnce (n : Nat) : List Nat → List Nat
  | [] => [n]
  | m :: ms => if n < m then n :: m :: ms else if n = m then m :: ms else m :: insertOnce n ms

/-- The encoded form of a label. -/
def encode (label : List Char) : List Char :=
  let basic := label.filter fun c => c.toNat < firstCode
  let codes := ((label.map Char.toNat).filter (firstCode ≤ ·)).foldr insertOnce []
  let start : Encoding := ⟨0, firstBias, basic.length, []⟩
  (if basic.isEmpty then [] else basic ++ ['-']) ++
    encodeFrom basic.length (label.map Char.toNat) firstCode start codes

/-! ## Decoding -/

/-- The greatest number that a label may write. -/
def maxNumber : Nat := Nat.pow 2 32 - 1

/-- Reads a number: its value and the digits after it. -/
def readDistance? (bias : Nat) : (place weight value : Nat) → List Char → Option (Nat × List Char)
  | _, _, _, [] => none
  | place, weight, value, c :: rest =>
    match digitValue? c with
    | none => none
    | some d =>
      let value := value + d * weight
      let t := threshold place bias
      if maxNumber < value then none
      else if d < t then some (value, rest)
      else readDistance? bias (place + 36) (weight * (36 - t)) value rest

theorem length_readDistance? {bias place weight value n : Nat} {s rest : List Char}
    (h : readDistance? bias place weight value s = some (n, rest)) : rest.length < s.length := by
  induction s generalizing place weight value with
  | nil => simp [readDistance?] at h
  | cons c cs ih =>
    rw [readDistance?] at h
    split at h
    · simp at h
    · dsimp only at h
      split at h
      · simp at h
      · split at h
        · simp only [Option.some.injEq, Prod.mk.injEq] at h
          simp [h.2]
        · have := ih h
          simp; omega

/-- Places the characters that the digits write into a label. -/
def decodeFrom? (code place bias : Nat) (label : List Char) (digits : List Char) :
    Option (List Char) :=
  if digits.isEmpty then some label
  else
    match h : readDistance? bias 36 1 0 digits with
    | none => none
    | some (number, rest) =>
      let places := label.length + 1
      let skipped := place + number
      let code := code + skipped / places
      if code.isValidChar then
        let label := label.take (skipped % places) ++ Char.ofNat code ::
          label.drop (skipped % places)
        decodeFrom? code (skipped % places + 1) (adapt number places (place == 0)) label rest
      else none
termination_by digits.length
decreasing_by exact length_readDistance? h

/-- The label of an encoded form. Its last hyphen, if there is one, follows an ASCII character. -/
def decode? (s : List Char) : Option (List Char) :=
  match s.reverse.span (· != '-') with
  | (_, [_]) => none
  | (digits, _ :: basic) => decodeFrom? firstCode 0 firstBias basic.reverse digits.reverse
  | (digits, []) => decodeFrom? firstCode 0 firstBias [] digits.reverse

end ModelProbe.Host
