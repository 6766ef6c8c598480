import ModelProbe.Text.BinaryProperty
/-!
# Small letters

A text in small letters. Most capital letters have one small letter wherever they stand; the capital
sigma has two, of which one stands at the ends of words.

* `Text.lower`: the text in small letters.
-/

namespace ModelProbe.Text

/-! ## Single characters -/

/-- Ranges in which every second code point, from the first on, is a capital letter and the next
one its small letter. -/
def alternatingRanges : CodeRanges :=
  CodeRanges.ofText
    ["100-12E 132-136 139-147 14A-176 179-17D 182-184 187 18B 191 198 1A0-1A4 1A7 1AC 1AF",
     "1B3-1B5 1B8 1BC 1C5 1C8 1CB-1DB 1DE-1EE 1F2-1F4 1F8-21E 222-232 23B 241 246-24E 370-372",
     "376 3D8-3EE 3F7 3FA 460-480 48A-4BE 4C1-4CD 4D0-52E 1C89 1E00-1E94 1EA0-1EFE 2183 2C60",
     "2C67-2C6B 2C72 2C75 2C80-2CE2 2CEB-2CED 2CF2 A640-A66C A680-A69A A722-A72E A732-A76E",
     "A779-A77B A77E-A786 A78B A790-A792 A796-A7A8 A7B4-A7C2 A7C7-A7C9 A7CC A7D0 A7D6-A7DA",
     "A7F5"]

/-- Ranges of capital letters, each with the small letter of its first. -/
def shiftedRanges : List ((Nat × Nat) × Nat) :=
  (table.flatMap fun line => splitOn ' ' line.toList).filterMap fun entry =>
    (splitLast? '-' entry).map fun (range, small) => (CodeRanges.readRange range, hexValue small)
where
  /-- The ranges as text: their ends and the small letter, with hyphens between them. -/
  table : List String :=
    ["C0-D6-E0 D8-DE-F8 178-178-FF 181-181-253 186-186-254 189-18A-256 18E-18E-1DD 18F-18F-259",
     "190-190-25B 193-193-260 194-194-263 196-196-269 197-197-268 19C-19C-26F 19D-19D-272",
     "19F-19F-275 1A6-1A6-280 1A9-1A9-283 1AE-1AE-288 1B1-1B2-28A 1B7-1B7-292 1C4-1C4-1C6",
     "1C7-1C7-1C9 1CA-1CA-1CC 1F1-1F1-1F3 1F6-1F6-195 1F7-1F7-1BF 220-220-19E 23A-23A-2C65",
     "23D-23D-19A 23E-23E-2C66 243-243-180 244-244-289 245-245-28C 37F-37F-3F3 386-386-3AC",
     "388-38A-3AD 38C-38C-3CC 38E-38F-3CD 391-3A1-3B1 3A3-3AB-3C3 3CF-3CF-3D7 3F4-3F4-3B8",
     "3F9-3F9-3F2 3FD-3FF-37B 400-40F-450 410-42F-430 4C0-4C0-4CF 531-556-561 10A0-10C5-2D00",
     "10C7-10C7-2D27 10CD-10CD-2D2D 13A0-13EF-AB70 13F0-13F5-13F8 1C90-1CBA-10D0",
     "1CBD-1CBF-10FD 1E9E-1E9E-DF 1F08-1F0F-1F00 1F18-1F1D-1F10 1F28-1F2F-1F20 1F38-1F3F-1F30",
     "1F48-1F4D-1F40 1F59-1F59-1F51 1F5B-1F5B-1F53 1F5D-1F5D-1F55 1F5F-1F5F-1F57",
     "1F68-1F6F-1F60 1F88-1F8F-1F80 1F98-1F9F-1F90 1FA8-1FAF-1FA0 1FB8-1FB9-1FB0",
     "1FBA-1FBB-1F70 1FBC-1FBC-1FB3 1FC8-1FCB-1F72 1FCC-1FCC-1FC3 1FD8-1FD9-1FD0",
     "1FDA-1FDB-1F76 1FE8-1FE9-1FE0 1FEA-1FEB-1F7A 1FEC-1FEC-1FE5 1FF8-1FF9-1F78",
     "1FFA-1FFB-1F7C 1FFC-1FFC-1FF3 2126-2126-3C9 212A-212A-6B 212B-212B-E5 2132-2132-214E",
     "2160-216F-2170 24B6-24CF-24D0 2C00-2C2F-2C30 2C62-2C62-26B 2C63-2C63-1D7D 2C64-2C64-27D",
     "2C6D-2C6D-251 2C6E-2C6E-271 2C6F-2C6F-250 2C70-2C70-252 2C7E-2C7F-23F A77D-A77D-1D79",
     "A78D-A78D-265 A7AA-A7AA-266 A7AB-A7AB-25C A7AC-A7AC-261 A7AD-A7AD-26C A7AE-A7AE-26A",
     "A7B0-A7B0-29E A7B1-A7B1-287 A7B2-A7B2-29D A7B3-A7B3-AB53 A7C4-A7C4-A794 A7C5-A7C5-282",
     "A7C6-A7C6-1D8E A7CB-A7CB-264 A7DC-A7DC-19B FF21-FF3A-FF41 10400-10427-10428",
     "104B0-104D3-104D8 10570-1057A-10597 1057C-1058A-105A3 1058C-10592-105B3",
     "10594-10595-105BB 10C80-10CB2-10CC0 10D50-10D65-10D70 118A0-118BF-118C0",
     "16E40-16E5F-16E60 1E900-1E921-1E922"]

/-- The small letter of a code point beyond the first 128; what is no capital letter stays. -/
def lowerCode (n : Nat) : Nat :=
  match shiftedRanges.find? fun ((low, high), _) => low ≤ n && n ≤ high with
  | some ((low, _), small) => small + (n - low)
  | none =>
    let isCapital := alternatingRanges.any fun (low, high) =>
      low ≤ n && n ≤ high && (n - low) % 2 == 0
    if isCapital then n + 1 else n

/-- The capital letter with a dot that its small letter loses when it is not written on its own. -/
def dottedCapital : Char := '\u0130'

/-- The dot above a letter. -/
def dotAbove : Char := '\u0307'

/-- The small form of a character by itself. -/
def lowerChar (c : Char) : List Char :=
  if c.toNat < 128 then [c.toLower]
  else if c == dottedCapital then ['i', dotAbove]
  else [Char.ofNat (lowerCode c.toNat)]

/-! ## Texts -/

/-- Whether a letter with case comes first, but for characters that are passed over. -/
def startsCased (s : List Char) : Bool :=
  (s.dropWhile caseIgnorableRanges.contains).head?.any casedRanges.contains

/-- The small forms of characters in a row; what stands before them is given from its end on. -/
def lowerAfter (before : List Char) : List Char → List Char
  | [] => []
  | c :: cs =>
    let small :=
      if c == '\u03A3' then
        -- A word ends where the letters before it go on and those after it do not.
        if startsCased before && !startsCased cs then ['\u03C2'] else ['\u03C3']
      else lowerChar c
    small ++ lowerAfter (c :: before) cs

/-- The text in small letters. -/
def lower (s : List Char) : List Char := lowerAfter [] s

end ModelProbe.Text
