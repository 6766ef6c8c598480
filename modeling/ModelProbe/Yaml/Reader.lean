import ModelProbe.Text.Blank
import ModelProbe.Text.Search
import ModelProbe.Yaml.Scalar
/-!
# Reading YAML

The block structure of a document: tables whose members stand one below the other, lists whose
items begin with a hyphen, texts of several lines, and values on one line. Anchors, aliases, tags
and more than one document are refused.
-/

namespace ModelProbe.Yaml

/-- A line: the number of spaces it begins with, and the rest without blanks at its end. -/
structure Line where
  indent : Nat
  text : List Char

namespace Line

/-- The line of a text. -/
def ofChars (s : List Char) : Line :=
  let indent := (s.takeWhile (· == ' ')).length
  ⟨indent, Text.trimEnd (s.drop indent)⟩

/-- Whether the line says nothing. -/
def isEmpty (l : Line) : Bool := l.text.isEmpty || l.text.head? = some '#'

/-- Whether the line begins an item of a list. -/
def isItem (l : Line) : Bool :=
  match l.text with
  | '-' :: rest => endsKey false rest
  | _ => false

/-- The name of the member that the line begins, and the text of its value. -/
def key? (l : Line) : Option (String × List Char) := do
  let (key, rest) ← readScalar? false l.text
  match skipGaps rest with
  | ':' :: rest => if endsKey false rest then return (← keyOf? key, skipGaps rest) else none
  | _ => none

end Line

/-- The lines without the empty ones they begin with. -/
def skipEmpty (ls : List Line) : List Line := ls.dropWhile Line.isEmpty

/-- The lines that are indented by more than `indent`, and the rest. -/
def takeDeeper (indent : Nat) (ls : List Line) : List Line × List Line :=
  let deeper := ls.takeWhile fun l => l.isEmpty || indent < l.indent
  (deeper, ls.drop deeper.length)

/-! ## Texts of several lines -/

/-- The lines as one text, each ended by a line break. -/
def literalText (ls : List (List Char)) : List Char := ls.flatMap fun l => l ++ ['\n']

/-- The lines as one text in which a line break between two lines that are not empty is a space. -/
def foldedText : List (List Char) → List Char
  | [] => []
  | [l] => l ++ ['\n']
  | l :: next :: rest =>
    let more := foldedText (next :: rest)
    if l.isEmpty then '\n' :: more
    else if next.isEmpty then l ++ more
    else l ++ ' ' :: more

/-- The text without line breaks at its end. -/
def dropBreaks (s : List Char) : List Char := (s.reverse.dropWhile (· == '\n')).reverse

/-- The value of a text of several lines after its mark, and the rest of the lines. -/
def readBlock? (mark : List Char) (indent : Nat) (ls : List Line) :
    Option (Setting × List Line) := do
  let (folded, chomp) ← match mark with
    | ['|'] => some (false, none)
    | ['|', '-'] => some (false, some true)
    | ['|', '+'] => some (false, some false)
    | ['>'] => some (true, none)
    | ['>', '-'] => some (true, some true)
    | ['>', '+'] => some (true, some false)
    | _ => none
  let block := ls.takeWhile fun l => l.text.isEmpty || indent < l.indent
  let margin := ((block.find? fun l => !l.text.isEmpty).map Line.indent).getD 0
  let texts := block.map fun l =>
    if l.text.isEmpty then [] else List.replicate (l.indent - margin) ' ' ++ l.text
  let body := if folded then foldedText texts else literalText texts
  let kept := dropBreaks body
  let text := match chomp with
    | some true => kept
    | some false => body
    | none => if kept.isEmpty then [] else kept ++ ['\n']
  return (.text (String.ofList text), ls.drop block.length)

/-! ## Blocks -/

/-- The value of a text together with the deeper lines after it. -/
def readInline? (indent : Nat) (text : List Char) (ls : List Line) :
    Option (Setting × List Line) :=
  match text.head? with
  | some '|' => readBlock? text indent ls
  | some '>' => readBlock? text indent ls
  | _ =>
    let (deeper, rest) := takeDeeper indent ls
    let texts := text :: (deeper.filter fun l => !l.isEmpty).map Line.text
    (inlineValue? (Text.joinWith [' '] texts)).map (·, rest)

/-- Whether the text of a value is missing. -/
def isMissing (text : List Char) : Bool := text.isEmpty || text.head? = some '#'

mutual

/-- Reads the value whose lines are indented by at least `least`; without such lines it is
nothing. -/
def readNode? : (fuel : Nat) → (least : Nat) → List Line → Option (Setting × List Line)
  | 0, _, _ => none
  | fuel + 1, least, ls =>
    match skipEmpty ls with
    | [] => some (.nothing, [])
    | l :: rest =>
      if l.indent < least then some (.nothing, l :: rest)
      else if l.isItem then
        (readItems? fuel l.indent (l :: rest)).map fun (vs, rest) => (.list vs, rest)
      else if l.key?.isSome then
        match readMembers? fuel l.indent (l :: rest) with
        | none => none
        | some (ms, rest) => (tableOf? ms).map fun ms => (.table ms, rest)
      else readInline? (least - 1) l.text rest

/-- Reads the items of a list whose hyphens are indented by `indent`. -/
def readItems? : (fuel : Nat) → (indent : Nat) → List Line → Option (List Setting × List Line)
  | 0, _, _ => none
  | fuel + 1, indent, ls =>
    match skipEmpty ls with
    | [] => some ([], [])
    | l :: rest =>
      if l.indent < indent || (l.indent == indent && !l.isItem) then some ([], l :: rest)
      else if indent < l.indent then none
      else
        let text := skipGaps (l.text.drop 1)
        let inner := if isMissing text then rest
          else ⟨indent + (l.text.length - text.length), text⟩ :: rest
        match readNode? fuel (indent + 1) inner with
        | none => none
        | some (v, rest) => (readItems? fuel indent rest).map fun (vs, rest) => (v :: vs, rest)

/-- Reads the members of a table whose keys are indented by `indent`. -/
def readMembers? : (fuel : Nat) → (indent : Nat) → List Line →
    Option (List (String × Setting) × List Line)
  | 0, _, _ => none
  | fuel + 1, indent, ls =>
    match skipEmpty ls with
    | [] => some ([], [])
    | l :: rest =>
      if l.indent < indent then some ([], l :: rest)
      else if indent < l.indent then none
      else
        match l.key? with
        | none => none
        | some (key, text) =>
          let least := match skipEmpty rest with
            | next :: _ => if next.indent = indent && next.isItem then indent else indent + 1
            | [] => indent + 1
          let value := if isMissing text then readNode? fuel least rest
            else readInline? indent text rest
          match value with
          | none => none
          | some (v, rest) =>
            (readMembers? fuel indent rest).map fun (ms, rest) => ((key, v) :: ms, rest)

end

/-- Whether the line separates documents. -/
def Line.isMark (l : Line) : Bool := l.indent == 0 && l.text = "---".toList

/-- The lines of a document, without the mark before it; none when there is a second one. -/
def documentLines? (s : List Char) : Option (List Line) :=
  let ls := skipEmpty ((Text.splitOn '\n' s).map Line.ofChars)
  let ls := match ls with
    | l :: rest => if l.isMark then rest else l :: rest
    | [] => []
  if ls.any Line.isMark then none
  else some (ls.takeWhile fun l => !(l.indent == 0 && l.text = "...".toList))

/-- The members of a root, which must be a table. -/
def rootOf? : Setting → Option (List (String × Setting))
  | .table ms => some ms
  | _ => none

/-- The members of the root of a document; an empty one has none. -/
def ofChars? (s : List Char) : Option (List (String × Setting)) := do
  let ls ← documentLines? s
  if (skipEmpty ls).isEmpty then return []
  let (v, rest) ← readNode? (3 * s.length + 10) 0 ls
  if (skipEmpty rest).isEmpty then rootOf? v else none

end ModelProbe.Yaml
