import ModelProbe.Text.Search
/-!
# Words of a shell command line

Arguments are printed so that a shell reads them back: a word of plain characters as it is, any
other word between single quotes. `splitWords?` is the shell's own lexical rule for blanks,
quotes and backslashes.
-/

namespace ModelProbe.Shell

/-- The characters that a word is printed bare with. -/
def isPlain (c : Char) : Bool :=
  c.isAlphanum || "-_./:=@%+,~".toList.contains c

/-- A single quote inside a quoted word: leave the quotes, protect it, and enter them again. -/
def protectedQuote : List Char := ['\x27', '\\', '\x27', '\x27']

/-- The word as a shell reads it. -/
def quoteWord (word : List Char) : List Char :=
  if !word.isEmpty && word.all isPlain then word
  else '\x27' :: word.flatMap (fun c => if c = '\x27' then protectedQuote else [c]) ++ ['\x27']

/-- The words of a command line with a space between them. -/
def joinWords (words : List (List Char)) : List Char :=
  Text.joinWith [' '] (words.map quoteWord)

/-- A command line given as texts. -/
def join (words : List String) : String :=
  String.ofList (joinWords (words.map String.toList))

/-! ## Reading words -/

/-- Where the reader of a command line stands. -/
inductive Place
  /-- Between words. -/
  | gap
  /-- In a word, outside quotes. -/
  | bare
  /-- Between single quotes. -/
  | quotes
  deriving DecidableEq, Repr

/-- Reads words by the lexical rules: blanks outside quotes end a word, single quotes protect
everything up to the next one, and a backslash outside quotes protects the next character. -/
def splitFrom? (place : Place) (word : List Char) : List Char → Option (List (List Char))
  | [] =>
    match place with
    | .gap => some []
    | .bare => some [word.reverse]
    | .quotes => none
  | c :: cs =>
    match place with
    | .quotes =>
      if c = '\x27' then splitFrom? .bare word cs else splitFrom? .quotes (c :: word) cs
    | _ =>
      if c = '\x27' then splitFrom? .quotes word cs
      else if c = '\\' then
        match cs with
        | [] => none
        | d :: ds => splitFrom? .bare (d :: word) ds
      else if c = ' ' || c = '\t' || c = '\n' then
        if place = .bare then (splitFrom? .gap [] cs).map (word.reverse :: ·)
        else splitFrom? .gap [] cs
      else splitFrom? .bare (c :: word) cs

/-- The words of a command line; none when a quote is left open. -/
def splitWords? (line : List Char) : Option (List (List Char)) :=
  splitFrom? .gap [] line

end ModelProbe.Shell
