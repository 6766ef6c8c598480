/-!
# Text as bytes

A text is written with one to four bytes a character. Bytes that are no such text are read as
replacement characters, one for each longest beginning of a character.
-/

namespace ModelProbe.Text

/-- The bytes of a text. -/
def utf8Bytes (s : List Char) : List UInt8 :=
  (String.ofList s).toUTF8.toList

/-- What the first byte of a character says: how many bytes follow, the bounds of the second byte,
and the bits that it carries. -/
structure LeadByte where
  more : Nat
  low : Nat
  high : Nat
  bits : Nat
  deriving Repr, Inhabited

/-- Reads the first byte of a character of several bytes. Some second bytes are excluded, because
they would write a character with more bytes than needed, a surrogate, or no character. -/
def leadByte? (n : Nat) : Option LeadByte :=
  if 0xC2 ≤ n ∧ n ≤ 0xDF then some ⟨1, 0x80, 0xBF, n - 0xC0⟩
  else if n = 0xE0 then some ⟨2, 0xA0, 0xBF, 0⟩
  else if n = 0xED then some ⟨2, 0x80, 0x9F, 13⟩
  else if 0xE1 ≤ n ∧ n ≤ 0xEF then some ⟨2, 0x80, 0xBF, n - 0xE0⟩
  else if n = 0xF0 then some ⟨3, 0x90, 0xBF, 0⟩
  else if 0xF1 ≤ n ∧ n ≤ 0xF3 then some ⟨3, 0x80, 0xBF, n - 0xF0⟩
  else if n = 0xF4 then some ⟨3, 0x80, 0x8F, 4⟩
  else none

/-- Reads the bytes that follow within a character: its code point, unless a byte is out of its
bounds, and the bytes after what fits. -/
def readMore : (more low high bits : Nat) → List UInt8 → Option Nat × List UInt8
  | 0, _, _, bits, bytes => (some bits, bytes)
  | _ + 1, _, _, _, [] => (none, [])
  | more + 1, low, high, bits, b :: bytes =>
    if low ≤ b.toNat ∧ b.toNat ≤ high then
      readMore more 0x80 0xBF (bits * 64 + (b.toNat - 0x80)) bytes
    else (none, b :: bytes)

theorem length_readMore_le (more low high bits : Nat) (bytes : List UInt8) :
    (readMore more low high bits bytes).2.length ≤ bytes.length := by
  fun_induction readMore more low high bits bytes with
  | case1 | case2 | case4 => exact Nat.le_refl _
  | case3 _ _ _ _ _ _ _ ih => exact Nat.le_succ_of_le ih

/-- Reads the first character of a row of bytes, unless its bytes are wrong. -/
def readUtf8 (b : UInt8) (bytes : List UInt8) : Option Char × List UInt8 :=
  if b.toNat < 0x80 then (some (Char.ofNat b.toNat), bytes)
  else
    match leadByte? b.toNat with
    | none => (none, bytes)
    | some lead =>
      let (code, rest) := readMore lead.more lead.low lead.high lead.bits bytes
      (code.map Char.ofNat, rest)

theorem length_readUtf8_le (b : UInt8) (bytes : List UInt8) :
    (readUtf8 b bytes).2.length ≤ bytes.length := by
  unfold readUtf8
  split
  · simp
  · split
    · simp
    · exact length_readMore_le ..

/-- The characters of a row of bytes; none stands where bytes are wrong. -/
def ofUtf8 : List UInt8 → List (Option Char)
  | [] => []
  | b :: bytes => (readUtf8 b bytes).1 :: ofUtf8 (readUtf8 b bytes).2
termination_by bytes => bytes.length
decreasing_by
  have := length_readUtf8_le b bytes
  simp only [List.length_cons]; omega

/-- The text of a row of bytes, when all of them are right. -/
def utf8? (bytes : List UInt8) : Option (List Char) := (ofUtf8 bytes).mapM id

/-- The text of a row of bytes, with a replacement character wherever bytes are wrong. -/
def utf8Lossy (bytes : List UInt8) : List Char :=
  (ofUtf8 bytes).map fun c => c.getD '\ufffd'

end ModelProbe.Text
