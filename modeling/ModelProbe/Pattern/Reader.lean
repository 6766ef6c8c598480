import ModelProbe.Pattern.Property
import ModelProbe.Pattern.Size
import ModelProbe.Text.Blank
/-!
# Reading patterns

The written form of patterns: alternatives, repetitions, groups with names and modes, character
classes with set operations, escapes and boundaries. A text that is no pattern is refused.
-/

namespace ModelProbe.Pattern

open Text

/-- The modes that a pattern switches on and off. -/
structure Modes where
  /-- Letter case does not count. -/
  caseless : Bool := false
  /-- The ends of lines are boundaries. -/
  multiLine : Bool := false
  /-- The dot stands for a line feed too. -/
  dotAll : Bool := false
  /-- Repetitions are lazy unless marked. -/
  lazyFirst : Bool := false
  /-- Classes are those of Unicode. -/
  unicode : Bool := true
  /-- A carriage return is part of a line break. -/
  anyLineBreak : Bool := false
  /-- Blanks and comments do not count. -/
  spaced : Bool := false
  deriving DecidableEq, Repr

/-! ## Blanks and numbers -/

/-- The text after the rest of a line. -/
def afterLine (s : List Char) : List Char := (s.dropWhile (· != '\n')).drop 1

theorem length_afterLine_le (s : List Char) : (afterLine s).length ≤ s.length := by
  have := (List.dropWhile_suffix (l := s) (· != '\n')).length_le
  simp only [afterLine, List.length_drop]; omega

/-- The text without the blanks and comments it begins with, in spaced mode. -/
def skipBlanks (spaced : Bool) : List Char → List Char
  | [] => []
  | c :: cs =>
    if !spaced then c :: cs
    else if isBlank c then skipBlanks spaced cs
    else if c = '#' then skipBlanks spaced (afterLine cs)
    else c :: cs
termination_by s => s.length
decreasing_by
  · simp
  · exact Nat.lt_succ_of_le (length_afterLine_le cs)

/-- Reads what stands before a closing brace; blanks and comments do not count in spaced mode.
Inside a `comment` all is passed over up to the end of its line. -/
def readBraced? (spaced comment : Bool) : List Char → Option (List Char × List Char)
  | [] => none
  | c :: cs =>
    if comment then readBraced? spaced (c != '\n') cs
    else if spaced && isBlank c then readBraced? spaced false cs
    else if spaced && c == '#' then readBraced? spaced true cs
    else if c = '}' then some ([], cs)
    else (readBraced? spaced false cs).map fun (inside, rest) => (c :: inside, rest)

/-- Reads as many characters as there are; blanks and comments do not count in spaced mode. -/
def readSome? (spaced : Bool) : (count : Nat) → List Char → Option (List Char × List Char)
  | 0, s => some ([], s)
  | count + 1, s =>
    match skipBlanks spaced s with
    | [] => none
    | c :: cs => (readSome? spaced count cs).map fun (chars, rest) => (c :: chars, rest)

/-- Reads digits; blanks and comments do not count in spaced mode. Inside a `comment` all is passed
over up to the end of its line. -/
def readDigits (spaced comment : Bool) : List Char → List Char × List Char
  | [] => ([], [])
  | c :: cs =>
    if comment then readDigits spaced (c != '\n') cs
    else if spaced && isBlank c then readDigits spaced false cs
    else if spaced && c == '#' then readDigits spaced true cs
    else if c.isDigit then
      let (digits, rest) := readDigits spaced false cs
      (c :: digits, rest)
    else ([], c :: cs)

/-- Reads a decimal number with blanks around it that fits in 32 bits. -/
def readCount? (spaced : Bool) (s : List Char) : Option (Nat × List Char) :=
  let (digits, rest) := readDigits spaced false (s.dropWhile isBlank)
  let n : Nat := digits.foldl (fun n c => n * 10 + (c.toNat - 48)) 0
  if digits.isEmpty || Nat.pow 2 32 ≤ n then none
  else some (n, rest.dropWhile isBlank)

/-! ## Escapes -/

/-- What a backslash and the text after it stand for. -/
inductive Escape
  | literal (c : Char)
  | set (ranges : CodeRanges)
  | boundary (b : Boundary)

/-- Whether a backslash before this ASCII character stands for the character. -/
def isEscapable (c : Char) : Bool :=
  c.toNat < 128 && !c.isAlphanum && c != '<' && c != '>'

/-- The character with this code point. -/
def charOfCode? (n : Nat) : Option Char :=
  if h : n.isValidChar then some (Char.ofNatAux n h) else none

/-- The character of a code point in hexadecimal digits. -/
def charOfDigits? (digits : List Char) : Option Char :=
  let isCode := digits.all fun c => (hexDigit? c).isSome
  if digits.isEmpty || !isCode then none else charOfCode? (hexValue digits)

/-- Reads a code point of `width` hexadecimal digits, or of any number of them in braces. -/
def readCode? (spaced : Bool) (width : Nat) (s : List Char) : Option (Char × List Char) := do
  let (digits, rest) ← match skipBlanks spaced s with
    | '{' :: rest => readBraced? spaced false rest
    | s => readSome? spaced width s
  return (← charOfDigits? digits, rest)

/-- Reads a property's name after `\p`: its code points and the rest. -/
def readProperty? (spaced : Bool) (s : List Char) : Option (CodeRanges × List Char) :=
  match skipBlanks spaced s with
  | '{' :: rest =>
    match readBraced? spaced false rest with
    | none => none
    | some (name, rest) => (named? name).map (·, rest)
  | '\\' :: _ => none
  | c :: rest => (categoryRanges? (plainName [c])).map (·, rest)
  | [] => none
where
  /-- The property of a name, or of a name and a value with a sign between them. -/
  named? (name : List Char) : Option CodeRanges :=
    match cutAt? ['!', '='] name with
    | some (n, v) => (propertyValue? n v).map CharSet.complement
    | none =>
      match splitFirst? ':' name <|> splitFirst? '=' name with
      | some (n, v) => propertyValue? n v
      | none => property? name

/-- The class of a letter such as `d`, or its complement for a capital letter. Without Unicode a
complement would hold parts of characters and is refused. -/
def letterClass? (modes : Modes) (c : Char) : Option CodeRanges :=
  if !modes.unicode then
    match c with
    | 'd' => some [(48, 57)]
    | 's' => some asciiBlank
    | 'w' => some asciiWord
    | _ => none
  else
    match c with
    | 'd' => some digitRanges
    | 's' => some blankRanges
    | 'w' => some wordRanges
    | 'D' => some (CharSet.complement digitRanges)
    | 'S' => some (CharSet.complement blankRanges)
    | 'W' => some (CharSet.complement wordRanges)
    | _ => none

/-- The control character of a letter. -/
def controlChar? : Char → Option Char
  | 'a' => some '\x07'
  | 'f' => some '\x0c'
  | 't' => some '\t'
  | 'n' => some '\n'
  | 'r' => some '\r'
  | 'v' => some '\x0b'
  | _ => none

/-- The set with case resolved. -/
def Modes.fold (modes : Modes) (set : CodeRanges) : CodeRanges :=
  if !modes.caseless then set
  else if modes.unicode then CharSet.foldCase set else CharSet.foldAsciiCase set

/-- Whether a mode allows the set: without Unicode it must not have parts of characters. -/
def Modes.allows (modes : Modes) (set : CodeRanges) : Bool :=
  modes.unicode || CharSet.isAscii set

/-- Reads the two digits of a code point after `\x`. Without Unicode they stand for a byte, which
must be a character. -/
def readByteCode? (modes : Modes) (s : List Char) : Option (Char × List Char) :=
  match readCode? modes.spaced 2 s with
  | some (c, rest) =>
    let isBraced := (skipBlanks modes.spaced s).head? == some '{'
    if modes.unicode || c.toNat < 128 || isBraced then some (c, rest) else none
  | none => none

/-- The word characters of a mode. -/
def Modes.word (modes : Modes) : CodeRanges :=
  if modes.unicode then wordRanges else asciiWord

/-- The kinds of word boundary that are named in braces. -/
def namedBoundary? (word : CodeRanges) : String → Option Boundary
  | "start" => some (.wordStart word)
  | "end" => some (.wordEnd word)
  | "start-half" => some (.wordStartHalf word)
  | "end-half" => some (.wordEndHalf word)
  | _ => none

/-- Reads what follows `\b`. Braces with a letter or hyphen after them name a kind of boundary. -/
def readWordBoundary? (modes : Modes) (s : List Char) : Option (Escape × List Char) :=
  let plain : Option (Escape × List Char) := some (.boundary (.wordEdge modes.word), s)
  match s with
  | '{' :: rest =>
    match skipBlanks modes.spaced rest with
    | [] => none
    | c :: _ =>
      if !(c.isAlpha || c == '-') then plain
      else
        match readBraced? modes.spaced false rest with
        | some (name, after) =>
          (namedBoundary? modes.word (String.ofList name)).map (.boundary ·, after)
        | none => none
  | _ => plain

/-- Reads an escape after its backslash. -/
def readEscape? (modes : Modes) (s : List Char) : Option (Escape × List Char) :=
  match s with
  | [] => none
  | c :: rest =>
    match c with
    | 'x' => (readByteCode? modes rest).map fun (c, rest) => (.literal c, rest)
    | 'u' => (readCode? modes.spaced 4 rest).map fun (c, rest) => (.literal c, rest)
    | 'U' => (readCode? modes.spaced 8 rest).map fun (c, rest) => (.literal c, rest)
    | 'p' =>
      if !modes.unicode then none
      else (readProperty? modes.spaced rest).map fun (set, rest) => (.set (modes.fold set), rest)
    | 'P' =>
      if !modes.unicode then none
      else
        (readProperty? modes.spaced rest).map fun (set, rest) =>
          (.set (CharSet.complement (modes.fold set)), rest)
    | 'A' => some (.boundary .textStart, rest)
    | 'z' => some (.boundary .textEnd, rest)
    | 'b' => readWordBoundary? modes rest
    | 'B' => some (.boundary (.noWordEdge modes.word), rest)
    | '<' => some (.boundary (.wordStart modes.word), rest)
    | '>' => some (.boundary (.wordEnd modes.word), rest)
    | _ =>
      if isEscapable c then some (.literal c, rest)
      else
        match letterClass? modes c, controlChar? c with
        | some set, _ => some (.set set, rest)
        | none, some c => some (.literal c, rest)
        | none, none => none

/-! ## Classes in brackets -/

/-- Reads one end of a range, or a set that stands in a class. Without Unicode a class has ASCII
characters only. -/
def readClassItem? (modes : Modes) (s : List Char) : Option (Escape × List Char) :=
  let item := match s with
    | [] => none
    | '\\' :: rest => readEscape? modes rest
    | c :: rest => some (.literal c, rest)
  match item with
  | some (.literal c, rest) =>
    if modes.unicode || c.toNat < 128 then some (.literal c, rest) else none
  | item => item

/-- Reads an ASCII class `[:name:]` or `[:^name:]` after its opening bracket. -/
def readAsciiClass? (s : List Char) : Option (CodeRanges × List Char) :=
  match s with
  | ':' :: rest =>
    let (negated, rest) := match rest with
      | '^' :: rest => (true, rest)
      | _ => (false, rest)
    match splitFirst? ':' rest with
    | some (name, ']' :: rest) =>
      (asciiClass? (String.ofList name)).map fun set =>
        (if negated then CharSet.complement set else set, rest)
    | _ => none
  | _ => none

/-- The operations between sets in a class. -/
inductive SetOp
  | intersection
  | difference
  | symmetricDifference

/-- The set that an operation makes of two. -/
def SetOp.apply : SetOp → CodeRanges → CodeRanges → CodeRanges
  | intersection, a, b => CharSet.intersect a b
  | difference, a, b => CharSet.difference a b
  | symmetricDifference, a, b => CharSet.symmetricDifference a b

/-- Closes the pending operation of a class with the set read since. -/
def closeOp (modes : Modes) (pending : Option (CodeRanges × SetOp)) (set : CodeRanges) :
    CodeRanges :=
  match pending with
  | none => set
  | some (left, op) => op.apply (modes.fold left) (modes.fold set)

/-- Whether a hyphen at the head of this text, after a character, begins a range. -/
def beginsRange (modes : Modes) (s : List Char) : Bool :=
  match s with
  | '-' :: rest =>
    match skipBlanks modes.spaced rest with
    | ']' :: _ => false
    | '-' :: _ => false
    | _ => true
  | _ => false

/-- Reads the items of a class up to its closing bracket, with `set` read since `pending`. -/
def readClassItems? (modes : Modes) (negated : Bool) :
    (fuel : Nat) → (pending : Option (CodeRanges × SetOp)) → (set : CodeRanges) → List Char →
      Option (CodeRanges × List Char)
  | 0, _, _, _ => none
  | fuel + 1, pending, set, s =>
    match skipBlanks modes.spaced s with
    | [] => none
    | ']' :: rest =>
      let all := modes.fold (closeOp modes pending set)
      let all := if negated then CharSet.complement all else all
      if modes.allows all then some (all, rest) else none
    | '[' :: rest =>
      match readAsciiClass? rest with
      | some (ascii, rest) => readClassItems? modes negated fuel pending (set ++ ascii) rest
      | none =>
        let (innerNegated, start, rest) := openClass modes rest
        match readClassItems? modes innerNegated fuel none start rest with
        | none => none
        | some (inner, rest) => readClassItems? modes negated fuel pending (set ++ inner) rest
    | '&' :: '&' :: rest =>
      readClassItems? modes negated fuel (some (closeOp modes pending set, .intersection)) [] rest
    | '-' :: '-' :: rest =>
      readClassItems? modes negated fuel (some (closeOp modes pending set, .difference)) [] rest
    | '~' :: '~' :: rest =>
      readClassItems? modes negated fuel
        (some (closeOp modes pending set, .symmetricDifference)) [] rest
    | s =>
      match readClassItem? modes s with
      | none => none
      | some (.boundary _, _) => none
      | some (.set ranges, rest) =>
        if beginsRange modes (skipBlanks modes.spaced rest) then none
        else readClassItems? modes negated fuel pending (set ++ ranges) rest
      | some (.literal low, rest) =>
        let rest := skipBlanks modes.spaced rest
        if beginsRange modes rest then
          match readClassItem? modes (skipBlanks modes.spaced (rest.drop 1)) with
          | some (.literal high, rest) =>
            if high < low then none
            else readClassItems? modes negated fuel pending (set ++ [(low.toNat, high.toNat)]) rest
          | _ => none
        else readClassItems? modes negated fuel pending (set ++ CharSet.single low) rest
where
  /-- What stands at the head of a class: a negation, hyphens, and a bracket that is a
  character. -/
  openClass (modes : Modes) (s : List Char) : Bool × CodeRanges × List Char :=
    let s := skipBlanks modes.spaced s
    let (negated, s) := match s with
      | '^' :: rest => (true, skipBlanks modes.spaced rest)
      | _ => (false, s)
    let hyphens := s.takeWhile (· == '-')
    let s := s.dropWhile (· == '-')
    if !hyphens.isEmpty then (negated, CharSet.single '-', s)
    else
      match s with
      | ']' :: rest => (negated, CharSet.single ']', rest)
      | _ => (negated, [], s)

/-- Reads a class after its opening bracket. -/
def readClass? (modes : Modes) (s : List Char) : Option (CodeRanges × List Char) :=
  let (negated, start, rest) := readClassItems?.openClass modes s
  readClassItems? modes negated (s.length + 1) none start rest

/-! ## Groups -/

/-- Reads the letters of a mode change up to a colon or bracket, which is left in the rest. -/
def readModes? (start : Modes) : (seen : List Char) → (off : Bool) → List Char →
    Option (Modes × List Char)
  | _, _, [] => none
  | seen, off, c :: cs =>
    if c = ':' ∨ c = ')' then
      if seen.head? = some '-' then none else some (start, c :: cs)
    else if seen.contains c then none
    else
      let on := !off
      let next : Option Modes := match c with
        | '-' => some start
        | 'i' => some { start with caseless := on }
        | 'm' => some { start with multiLine := on }
        | 's' => some { start with dotAll := on }
        | 'U' => some { start with lazyFirst := on }
        | 'u' => some { start with unicode := on }
        | 'R' => some { start with anyLineBreak := on }
        | 'x' => some { start with spaced := on }
        | _ => none
      match next with
      | none => none
      | some modes => readModes? modes (c :: seen) (off || c == '-') cs

/-- Reads a group's name up to its closing angle bracket. -/
def readGroupName? (s : List Char) : Option (List Char × List Char) :=
  match splitFirst? '>' s with
  | some (c :: name, rest) =>
    let isLetter (c : Char) : Bool := alphabeticRanges.contains c
    let isNumber (c : Char) : Bool :=
      ((categoryRanges? "n").getD []).contains c
    if (c == '_' || isLetter c) &&
        name.all (fun c => c == '_' || c == '.' || c == '[' || c == ']' || isLetter c || isNumber c)
    then some (c :: name, rest) else none
  | _ => none

/-- What stands at the head of a group, after its bracket. -/
inductive GroupHead
  /-- Modes that hold for the rest of the enclosing group. -/
  | modes (m : Modes)
  /-- A group with its modes, and its name. -/
  | group (m : Modes) (name : Option (List Char))

/-- Reads the head of a group. -/
def readGroupHead? (modes : Modes) (s : List Char) : Option (GroupHead × List Char) :=
  match skipBlanks modes.spaced s with
  | '?' :: 'P' :: '<' :: rest =>
    (readGroupName? rest).map fun (name, rest) => (.group modes name, rest)
  | '?' :: '<' :: rest =>
    (readGroupName? rest).map fun (name, rest) => (.group modes name, rest)
  | '?' :: rest =>
    match readModes? modes [] false rest with
    | some (m, ')' :: after) =>
      if rest.head? = some ')' then none else some (.modes m, after)
    | some (m, _ :: after) => some (.group m none, after)
    | _ => none
  | s => some (.group modes none, s)

/-! ## Repetitions -/

/-- Drops the mark that makes a repetition lazy; which span is preferred does not matter here. -/
def dropLazyMark (modes : Modes) (s : List Char) : List Char :=
  match skipBlanks modes.spaced s with
  | '?' :: rest => rest
  | _ => s

/-- Reads a counted repetition after its opening brace. -/
def readTimes? (modes : Modes) (s : List Char) : Option (Nat × Option Nat × List Char) :=
  match readCount? modes.spaced (skipBlanks modes.spaced s) with
  | none => none
  | some (least, rest) =>
    match rest with
    | '}' :: rest => some (least, some least, rest)
    | ',' :: rest =>
      match skipBlanks modes.spaced rest with
      | '}' :: rest => some (least, none, rest)
      | rest =>
        match readCount? modes.spaced rest with
        | some (most, '}' :: rest) => if most < least then none else some (least, some most, rest)
        | _ => none
    | _ => none

/-! ## Sequences and alternatives -/

/-- An item of a sequence. -/
structure Item where
  /-- What the item means; a change of modes means nothing. -/
  tree : Option Tree
  /-- How deep the item is nested. -/
  depth : Nat := 0

/-- Where the reader of a pattern stands in a group. -/
structure State where
  modes : Modes
  /-- The names of groups so far. -/
  names : List (List Char)
  /-- The items of the current sequence, last first. -/
  items : List Item := []
  /-- The alternatives before the current sequence, last first. -/
  branches : List Tree := []
  /-- How deep those alternatives are nested. -/
  branchDepth : Nat := 0

namespace State

/-- The current sequence as a tree. -/
def sequence (st : State) : Tree :=
  (st.items.reverse.filterMap Item.tree).foldr (fun item rest => .seq item rest) .empty

/-- How deep the current sequence is nested: one deeper than its items when it has several. -/
def sequenceDepth (st : State) : Nat :=
  (st.items.foldl (fun depth item => max depth item.depth) 0) +
    if st.items.length < 2 then 0 else 1

/-- How deep the alternatives are nested: one deeper than each when there are several. -/
def depth (st : State) : Nat :=
  if st.branches.isEmpty then st.sequenceDepth else max st.branchDepth st.sequenceDepth + 1

/-- The state at the start of the next alternative. -/
def endBranch (st : State) : State :=
  { st with
    items := [], branches := st.sequence :: st.branches
    branchDepth := max st.branchDepth st.sequenceDepth }

/-- The alternatives as a tree. -/
def tree (st : State) : Tree :=
  st.branches.foldl (fun rest branch => .alt branch rest) st.sequence

/-- The state after another item. -/
def add (st : State) (tree : Tree) (depth : Nat) : State :=
  { st with items := { tree := some tree, depth := depth } :: st.items }

/-- The state after a change of modes. -/
def change (st : State) (modes : Modes) : State :=
  { st with modes := modes, items := { tree := none } :: st.items }

/-- Replaces the last item by a repetition of it. -/
def repeatLast? (st : State) (least : Nat) (most : Option Nat) : Option State :=
  match st.items with
  | ⟨some tree, depth⟩ :: rest =>
    some { st with items := ⟨some (.times tree least most), depth + 1⟩ :: rest }
  | _ => none

end State

/-- The tree of one character. -/
def Modes.literal (modes : Modes) (c : Char) : Tree :=
  .chars (modes.fold (CharSet.single c))

/-- The tree of the dot; without Unicode it would stand for parts of characters. -/
def Modes.dot? (modes : Modes) : Option Tree :=
  if !modes.unicode then none
  else if modes.dotAll then some (.chars [(0, CharSet.maxCode)])
  else if modes.anyLineBreak then some (.chars (CharSet.complement [(10, 10), (13, 13)]))
  else some (.chars (CharSet.complement [(10, 10)]))

/-- The boundary of a circumflex. -/
def Modes.caret (modes : Modes) : Boundary :=
  if !modes.multiLine then .textStart
  else if modes.anyLineBreak then .anyLineStart else .lineStart

/-- The boundary of a dollar sign. -/
def Modes.dollar (modes : Modes) : Boundary :=
  if !modes.multiLine then .textEnd
  else if modes.anyLineBreak then .anyLineEnd else .lineEnd

/-- Reads items up to the end of the text or a closing bracket, which is left in the rest. -/
def readItems? : (fuel : Nat) → State → List Char → Option (State × List Char)
  | 0, _, _ => none
  | fuel + 1, st, s =>
    match skipBlanks st.modes.spaced s with
    | [] => some (st, [])
    | ')' :: rest => some (st, ')' :: rest)
    | '|' :: rest => readItems? fuel st.endBranch rest
    | '(' :: rest =>
      match readGroupHead? st.modes rest with
      | none => none
      | some (.modes m, rest) => readItems? fuel (st.change m) rest
      | some (.group m name, rest) =>
        if name.any st.names.contains then none
        else
          let names := name.toList ++ st.names
          match readItems? fuel { modes := m, names := names } rest with
          | some (inner, ')' :: rest) =>
            readItems? fuel ({ st with names := inner.names }.add inner.tree (inner.depth + 1)) rest
          | _ => none
    | '[' :: rest =>
      match readClass? st.modes rest with
      | none => none
      | some (set, rest) => readItems? fuel (st.add (.chars set) 1) rest
    | '*' :: rest => readTimesThen? fuel st 0 none rest
    | '+' :: rest => readTimesThen? fuel st 1 none rest
    | '?' :: rest => readTimesThen? fuel st 0 (some 1) rest
    | '{' :: rest =>
      match readTimes? st.modes rest with
      | none => none
      | some (least, most, rest) => readTimesThen? fuel st least most rest
    | '.' :: rest =>
      match st.modes.dot? with
      | none => none
      | some dot => readItems? fuel (st.add dot 0) rest
    | '^' :: rest => readItems? fuel (st.add (.boundary st.modes.caret) 0) rest
    | '$' :: rest => readItems? fuel (st.add (.boundary st.modes.dollar) 0) rest
    | '\\' :: rest =>
      match readEscape? st.modes rest with
      | none => none
      | some (.literal c, rest) => readItems? fuel (st.add (st.modes.literal c) 0) rest
      | some (.set set, rest) => readItems? fuel (st.add (.chars set) 0) rest
      | some (.boundary b, rest) => readItems? fuel (st.add (.boundary b) 0) rest
    | c :: rest => readItems? fuel (st.add (st.modes.literal c) 0) rest
where
  /-- Repeats the last item and reads on. -/
  readTimesThen? (fuel : Nat) (st : State) (least : Nat) (most : Option Nat) (rest : List Char) :
      Option (State × List Char) :=
    match st.repeatLast? least most with
    | none => none
    | some st => readItems? fuel st (dropLazyMark st.modes rest)

/-- How deep a pattern may be nested. -/
def maxDepth : Nat := 250

/-- The tree of a written pattern within a limit. -/
def Tree.ofChars? (limit : Limit) (s : List Char) : Option Tree :=
  match readItems? (s.length + 1) { modes := {}, names := [] } s with
  | some (st, []) => if st.depth ≤ maxDepth && limit st.tree then some st.tree else none
  | _ => none

end ModelProbe.Pattern

namespace ModelProbe

/-- A pattern: its text, and what the text means. -/
structure Pattern where
  text : String
  tree : Pattern.Tree
  deriving Repr

namespace Pattern

/-- Reads a pattern within a limit. -/
def ofText? (limit : Limit) (s : String) : Option Pattern :=
  (Tree.ofChars? limit s.toList).map fun tree => ⟨s, tree⟩

end Pattern

end ModelProbe
