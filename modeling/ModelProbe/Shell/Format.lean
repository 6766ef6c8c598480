import ModelProbe.Text.CodeRanges
import ModelProbe.Text.Utf8
/-!
# What `echo` and `printf` write

Both write rows of bytes, since an octal escape may stand for any byte. A backslash that begins no
escape stands for itself. A format is used again as long as arguments are left and it takes some.

* `echoBytes`: what `echo` writes for its arguments.
* `formatBytes`: what `printf` writes for a format and its arguments.
-/

namespace ModelProbe.Shell

/-! ## Escapes -/

/-- Whether the character is an octal digit. -/
def isOctal (c : Char) : Bool := '0' ≤ c && c ≤ '7'

/-- The letters that stand for a byte after a backslash. -/
def escapes : List (Char × UInt8) :=
  [('\\', 92), ('a', 7), ('b', 8), ('f', 12), ('n', 10), ('r', 13), ('t', 9), ('v', 11)]

/-- The byte that up to three octal digits write, and their number. -/
def readOctal (s : List Char) : UInt8 × Nat :=
  let digits := (s.takeWhile isOctal).take 3
  ((Text.valueInBase 8 digits).toUInt8, digits.length)

/-- The byte of an escape by what follows the backslash, and how many characters it takes. -/
def readEscape (s : List Char) : UInt8 × Nat :=
  let (byte, length) := readOctal s
  if 0 < length then (byte, length)
  else
    match s.head?.bind fun c => escapes.lookup c with
    | some byte => (byte, 1)
    | none => (92, 0)

/-! ## Echoes -/

/-- The bytes of a text with escapes, whose octal ones have a zero before their digits, and
whether it goes on: `\c` ends it. -/
def echoText : List Char → List UInt8 × Bool
  | [] => ([], true)
  | '\\' :: 'c' :: _ => ([], false)
  | '\\' :: '0' :: cs =>
    let (byte, length) := readOctal cs
    let (bytes, goesOn) := echoText (cs.drop length)
    (byte :: bytes, goesOn)
  | '\\' :: cs =>
    let (byte, length) := readEscape cs
    let (bytes, goesOn) := echoText (cs.drop length)
    (byte :: bytes, goesOn)
  | c :: cs =>
    let (bytes, goesOn) := echoText cs
    (Text.utf8Bytes [c] ++ bytes, goesOn)
termination_by s => s.length
decreasing_by all_goals simp only [List.length_drop, List.length_cons]; omega

/-- What `echo` writes: its arguments with spaces between them, and a line break unless `-n` is
the first of them. -/
def echoBytes (args : List String) : List UInt8 :=
  let (words, ending) : List String × List UInt8 := match args with
    | "-n" :: words => (words, [])
    | words => (words, [10])
  let (bytes, goesOn) := echoText (String.intercalate " " words).toList
  if goesOn then bytes ++ ending else bytes

/-! ## Formats -/

/-- A part of a format. -/
inductive FormatPiece
  | byte (b : UInt8)
  /-- The next argument, with its escapes replaced where they count. -/
  | argument (hasEscapes : Bool)
  deriving DecidableEq, Repr

/-- Reads a format; none when it has an unknown conversion. -/
def readFormat? : List Char → Option (List FormatPiece)
  | [] => some []
  | '%' :: '%' :: cs => (readFormat? cs).map (FormatPiece.byte 37 :: ·)
  | '%' :: 's' :: cs => (readFormat? cs).map (.argument false :: ·)
  | '%' :: 'b' :: cs => (readFormat? cs).map (.argument true :: ·)
  | '%' :: _ => none
  | '\\' :: cs =>
    let (byte, length) := readEscape cs
    (readFormat? (cs.drop length)).map (.byte byte :: ·)
  | c :: cs => (readFormat? cs).map ((Text.utf8Bytes [c]).map FormatPiece.byte ++ ·)
termination_by s => s.length
decreasing_by all_goals simp only [List.length_drop, List.length_cons]; omega

/-- What a format writes when it is used once. Arguments that are missing are empty. -/
def useFormat : List FormatPiece → List String → List UInt8
  | [], _ => []
  | .byte b :: pieces, args => b :: useFormat pieces args
  | .argument hasEscapes :: pieces, args =>
    let arg := (args.headD "").toList
    (if hasEscapes then (echoText arg).1 else Text.utf8Bytes arg) ++ useFormat pieces args.tail

/-- How many arguments a format takes. -/
def argumentsOf (pieces : List FormatPiece) : Nat :=
  pieces.countP fun
    | .argument _ => true
    | .byte _ => false

/-- How often a format is used for so many arguments. -/
def usesOf (pieces : List FormatPiece) (count : Nat) : Nat :=
  let taken := argumentsOf pieces
  if taken = 0 then 1 else max 1 ((count + taken - 1) / taken)

/-- What `printf` writes; none when the format has an unknown conversion. -/
def formatBytes (format : String) (args : List String) : Option (List UInt8) := do
  let pieces ← readFormat? format.toList
  let uses := List.range (usesOf pieces args.length)
  return uses.flatMap fun i => useFormat pieces (args.drop (i * argumentsOf pieces))

end ModelProbe.Shell
