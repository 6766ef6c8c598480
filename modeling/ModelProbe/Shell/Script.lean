import ModelProbe.Text.Digits
import ModelProbe.Text.Search
/-!
# Scripts

A script is a row of commands. A command runs always, or only after success, or only after failure
of the one before. Words are made of pieces, which may be quoted and may stand for values; what is
quoted is not divided into several words.

* `Script.ofText?`: reads a script.
-/

namespace ModelProbe.Shell

/-! ## Words and commands -/

/-- What a piece of a word may stand for. -/
inductive Parameter
  /-- All arguments; each is a word of its own, also in quotes, unless they are joined. -/
  | arguments (joined : Bool)
  /-- The number of arguments. -/
  | count
  /-- The status of the last command. -/
  | status
  /-- The number of the script's own process. -/
  | process
  /-- One argument; the name of the script comes before the first. -/
  | argument (index : Nat)
  | named (name : String)
  deriving DecidableEq, Repr

/-- A piece of a word. -/
inductive Piece
  | text (quoted : Bool) (s : List Char)
  | value (quoted : Bool) (p : Parameter)
  deriving DecidableEq, Repr

/-- Pieces without a blank between them. -/
abbrev Word := List Piece

/-- Where output goes. -/
inductive Sink
  | stdout
  | stderr
  | nowhere
  deriving DecidableEq, Repr, Inhabited

/-- Where the output of a command goes that is not going to the usual places. -/
inductive Redirect
  | stdout (sink : Sink)
  | stderr (sink : Sink)
  deriving DecidableEq, Repr

/-- When a command runs. -/
inductive Link
  | always
  | afterSuccess
  | afterFailure
  deriving DecidableEq, Repr, Inhabited

/-- A command with its arguments. -/
structure Command where
  words : List Word := []
  redirects : List Redirect := []
  /-- A text that the command reads. -/
  input : Option Word := none
  deriving DecidableEq, Repr, Inhabited

/-- Commands in a row. -/
inductive Script
  | nothing
  | command (link : Link) (c : Command) (rest : Script)
  /-- A loop over words. -/
  | forEach (link : Link) (name : String) (items : List Word) (body rest : Script)
  deriving DecidableEq, Repr, Inhabited

/-! ## Tokens -/

/-- A part of a script's text. -/
inductive Token
  | piece (p : Piece)
  | blank
  | redirect (r : Redirect)
  | input (w : Word)
  /-- The end of a command; the next one is linked to it in this way. -/
  | ending (next : Link)
  deriving DecidableEq, Repr

/-- Whether a name may begin with the character. -/
def startsName (c : Char) : Bool := c.isAlpha || c == '_'

/-- Whether a name may go on with the character. -/
def inName (c : Char) : Bool := c.isAlphanum || c == '_'

/-- Whether the character is a blank between words. -/
def isSpace (c : Char) : Bool := c == ' ' || c == '\t'

/-- Whether the character ends a word. -/
def endsWord (c : Char) : Bool := " \t\n;&|<>()".toList.contains c

/-! ### Values -/

/-- Reads what follows a dollar sign, and how many characters it takes. -/
def readParameter? : List Char → Option (Parameter × Nat)
  | '@' :: _ => some (.arguments false, 1)
  | '*' :: _ => some (.arguments true, 1)
  | '#' :: _ => some (.count, 1)
  | '?' :: _ => some (.status, 1)
  | '$' :: _ => some (.process, 1)
  | '{' :: cs =>
    let name := cs.takeWhile inName
    if cs[name.length]? != some '}' || name.isEmpty then none
    else if name.all Char.isDigit then
      some (.argument (Text.digitsValue name), name.length + 2)
    else some (.named (String.ofList name), name.length + 2)
  | c :: cs =>
    if c.isDigit then some (.argument (Text.digitsValue [c]), 1)
    else if startsName c then
      let name := c :: cs.takeWhile inName
      some (.named (String.ofList name), name.length)
    else none
  | [] => none

/-- Reads the piece that a dollar sign begins, and how many characters it takes after the sign.
The output of commands cannot be a piece. -/
def readDollar? (quoted : Bool) (cs : List Char) : Option (Piece × Nat) :=
  match readParameter? cs with
  | some (p, length) => some (.value quoted p, length)
  | none =>
    if cs.head?.any fun c => c == '(' || c == '{' then none else some (.text quoted ['$'], 0)

/-- Reads a piece inside quotes by its first character, and how many characters it takes after
that. A backslash protects only the characters `special` and a line break. -/
def readInner? (special : List Char) (c : Char) (cs : List Char) : Option (Piece × Nat) :=
  match c, cs with
  | '$', cs => readDollar? true cs
  | '\x60', _ => none
  | '\\', '\n' :: _ => some (.text true [], 1)
  | '\\', next :: _ =>
    if special.contains next then some (.text true [next], 1) else some (.text true [c], 0)
  | c, _ => some (.text true [c], 0)

/-! ### Redirections -/

/-- The sink of a stream's number. -/
def sinkOf? : Char → Option Sink
  | '1' => some .stdout
  | '2' => some .stderr
  | _ => none

/-- Reads where output goes after the first `>`, and how many characters it takes. What goes to a
file is not kept. -/
def readSink? : List Char → Option (Sink × Nat)
  | '&' :: c :: _ => (sinkOf? c).map (·, 2)
  | cs =>
    let skipped := (cs.takeWhile fun c => c == '>' || isSpace c).length
    let path := (cs.drop skipped).takeWhile fun c => !endsWord c
    if path.isEmpty then none else some (.nowhere, skipped + path.length)

/-- Reads a redirection, and how many characters it takes. -/
def readRedirect? : List Char → Option (Redirect × Nat)
  | '>' :: cs => (readSink? cs).map fun (sink, length) => (.stdout sink, length + 1)
  | '1' :: '>' :: cs => (readSink? cs).map fun (sink, length) => (.stdout sink, length + 2)
  | '2' :: '>' :: cs => (readSink? cs).map fun (sink, length) => (.stderr sink, length + 2)
  | _ => none

/-! ### Texts that commands read -/

/-- A mark that announces a text from the next line on and stands alone after it. -/
structure Mark where
  name : List Char
  /-- Whether the text stands for itself, without values. -/
  isLiteral : Bool
  deriving DecidableEq, Repr

/-- Whether the character quotes others. -/
def isQuote (c : Char) : Bool := c == '\x27' || c == '"' || c == '\\'

/-- Reads a mark after `<<`, and how many characters it takes. A quoted mark announces a text that
stands for itself. -/
def readMark? (cs : List Char) : Option (Mark × Nat) :=
  let blanks := (cs.takeWhile isSpace).length
  let mark := (cs.drop blanks).takeWhile fun c => !endsWord c
  if mark.isEmpty then none
  else some (⟨mark.filter fun c => !isQuote c, mark.any isQuote⟩, blanks + mark.length)

/-- The word that a text with values stands for. -/
def inputWord? : List Char → Option Word
  | [] => some []
  | c :: cs =>
    match readInner? ['$', '\x60', '\\'] c cs with
    | none => none
    | some (piece, length) => (inputWord? (cs.drop length)).map (piece :: ·)
termination_by s => s.length
decreasing_by simp only [List.length_drop, List.length_cons]; omega

/-- The lines of a text before the one that is the mark, and how many characters they and that line
take. -/
def readInput (mark : List Char) (cs : List Char) : List Char × Nat :=
  let lines := (Text.splitOn '\n' cs).takeWhile (· != mark)
  let text := lines.flatMap (· ++ ['\n'])
  (text, text.length + mark.length + 1)

/-- Reads the texts of marks in a row, and how many characters they take. -/
def readInputs? : List Mark → List Char → Option (List Token × Nat)
  | [], _ => some ([], 0)
  | mark :: marks, cs => do
    let (text, length) := readInput mark.name cs
    let word ← if mark.isLiteral then some [.text true text] else inputWord? text
    let (tokens, more) ← readInputs? marks (cs.drop length)
    return (.input word :: tokens, length + more)

/-! ### Reading tokens -/

/-- Where the reader of tokens stands. -/
inductive Position
  /-- Between two words. -/
  | between
  /-- In a word. -/
  | inside
  /-- In a quoted piece of a word. -/
  | quoted
  deriving DecidableEq, Repr

/-- What the reader of tokens knows. -/
structure Reading where
  position : Position := .between
  /-- The marks of this line. -/
  marks : List Mark := []
  deriving DecidableEq, Repr

/-- Some tokens, what the reader knows after them, and how many characters they take after the
first. -/
structure Step where
  tokens : List Token := []
  next : Reading
  length : Nat := 0

/-- The step that ends a command, and takes one more character than its first when it is doubled. -/
def endCommand (r : Reading) (link : Link) (length : Nat) : Step :=
  { tokens := [.ending link], next := { r with position := .between }, length := length }

/-- Reads a redirection or the first character of a word that is not quoted. -/
def readPlain? (r : Reading) (c : Char) (cs : List Char) : Option Step :=
  let mayRedirect := r.position = .between || c = '>'
  match if mayRedirect then readRedirect? (c :: cs) else none with
  | some (redirect, length) =>
    some { tokens := [.redirect redirect], next := { r with position := .between }
           length := length - 1 }
  | none =>
    if endsWord c then none
    else some { tokens := [.piece (.text false [c])], next := { r with position := .inside } }

/-- Reads the next tokens outside quotes. -/
def readOutside? (r : Reading) (c : Char) (cs : List Char) : Option Step :=
  let inside : Reading := { r with position := .inside }
  let between : Reading := { r with position := .between }
  match c, cs with
  | '$', cs => do
    let (piece, length) ← readDollar? false cs
    return { tokens := [.piece piece], next := inside, length := length }
  | '\x60', _ => none
  | '\\', '\n' :: _ => some { next := r, length := 1 }
  | '\\', next :: _ =>
    some { tokens := [.piece (.text true [next])], next := inside, length := 1 }
  | '"', _ => some { tokens := [.piece (.text true [])], next := { r with position := .quoted } }
  | '\x27', cs =>
    let s := cs.takeWhile (· != '\x27')
    if s.length = cs.length then none
    else some { tokens := [.piece (.text true s)], next := inside, length := s.length + 1 }
  | ' ', _ => some { tokens := [.blank], next := between }
  | '\t', _ => some { tokens := [.blank], next := between }
  | '\n', cs => do
    let (tokens, length) ← readInputs? r.marks cs
    return { tokens := tokens ++ [.ending .always], next := {}, length := length }
  | ';', _ => some (endCommand r .always 0)
  | '&', '&' :: _ => some (endCommand r .afterSuccess 1)
  | '|', '|' :: _ => some (endCommand r .afterFailure 1)
  | '<', '<' :: cs => do
    let (mark, length) ← readMark? cs
    return { next := { position := .between, marks := r.marks ++ [mark] }, length := length + 1 }
  | '#', cs =>
    if r.position = .between then
      some { next := r, length := (cs.takeWhile (· != '\n')).length }
    else readPlain? r c cs
  | c, cs => readPlain? r c cs

/-- Reads the next tokens. -/
def readStep? (r : Reading) (c : Char) (cs : List Char) : Option Step :=
  if r.position = .quoted then
    if c = '"' then some { next := { r with position := .inside } }
    else
      (readInner? ['$', '\x60', '\\', '"'] c cs).map fun (piece, length) =>
        { tokens := [.piece piece], next := r, length := length }
  else readOutside? r c cs

/-- Reads all tokens; none when a quote stays open or when there is what no command here has. -/
def readTokens? (r : Reading) : List Char → Option (List Token)
  | [] => if r.position = .quoted then none else (readInputs? r.marks []).map Prod.fst
  | c :: cs =>
    match readStep? r c cs with
    | none => none
    | some step => (readTokens? step.next (cs.drop step.length)).map (step.tokens ++ ·)
termination_by s => s.length
decreasing_by simp only [List.length_drop, List.length_cons]; omega

/-! ## Commands -/

/-- A command and how it is linked to the one before. -/
structure Clause where
  link : Link := .always
  command : Command := {}
  deriving DecidableEq, Repr

/-- The words and the command of a row of tokens from its end on, with the clauses after it. -/
structure Gathered where
  /-- The word at the start of the tokens. -/
  word : Word := []
  command : Command := {}
  after : List Clause := []

/-- The tokens' word is over. -/
def Gathered.endWord (g : Gathered) : Gathered :=
  if g.word.isEmpty then g
  else { g with word := [], command := { g.command with words := g.word :: g.command.words } }

/-- Ends the command in front of which the tokens stand. Where there is none, as after a line
break, the link goes to the clause that follows. -/
def Gathered.endCommand (g : Gathered) (link : Link) : Gathered :=
  if g.command != {} then { after := ⟨link, g.command⟩ :: g.after }
  else
    match link, g.after with
    | .always, _ => g
    | _, [] => g
    | link, c :: after => { g with after := { c with link := link } :: after }

/-- Adds a token in front. -/
def Gathered.add (token : Token) (g : Gathered) : Gathered :=
  match token with
  | .piece p => { g with word := p :: g.word }
  | .blank => g.endWord
  | .redirect r =>
    let g := g.endWord
    { g with command := { g.command with redirects := r :: g.command.redirects } }
  | .input w =>
    let g := g.endWord
    { g with command := { g.command with input := g.command.input.or (some w) } }
  | .ending next => g.endWord.endCommand next

/-- The clauses of tokens. -/
def clausesOf (tokens : List Token) : List Clause :=
  ((tokens.foldr Gathered.add {}).endWord.endCommand .always).after

/-- The text of a piece that is neither quoted nor a value. -/
def bareChars? : Piece → Option (List Char)
  | .text false s => some s
  | _ => none

/-- The text of a word that has nothing quoted and no values. -/
def bareText? (w : Word) : Option String :=
  (w.mapM bareChars?).map fun texts => String.ofList texts.flatten

/-- The command without its first word. -/
def Command.dropWord (c : Command) : Command := { c with words := c.words.tail }

/-- Adds a clause in front of scripts: the first is what follows it, the others follow the loops
around it. -/
def addClause (c : Clause) (scripts : List Script) : Option (List Script) :=
  let add (command : Command) : List Script → Option (List Script)
    | rest :: more =>
      if command = {} then some (rest :: more) else some (.command c.link command rest :: more)
    | [] => none
  match c.command.words.map bareText? with
  | some "done" :: _ => if c.command.words.length = 1 then some (.nothing :: scripts) else none
  | some "do" :: _ => add c.command.dropWord scripts
  | some "for" :: some name :: header =>
    let items := match header with
      | [] => some [[.value true (.arguments false)]]
      | some "in" :: _ => some (c.command.words.drop 3)
      | _ => none
    match items, scripts with
    | some items, body :: rest :: more => some (.forEach c.link name items body rest :: more)
    | _, _ => none
  | _ => add c.command scripts

/-- Reads a script; none when it is not well formed or has what no command here has. -/
def Script.ofText? (s : String) : Option Script := do
  let clauses := clausesOf (← readTokens? {} s.toList)
  match ← clauses.foldrM addClause [.nothing] with
  | [script] => some script
  | _ => none

end ModelProbe.Shell
