import ModelProbe.Text.CodeRanges
/-!
# Pattern trees

What a pattern means, with letter case and modes already resolved.
-/

namespace ModelProbe.Pattern

/-- A condition on the place between two characters. -/
inductive Boundary
  | textStart
  | textEnd
  /-- After a line feed, or at the start. -/
  | lineStart
  /-- Before a line feed, or at the end. -/
  | lineEnd
  /-- After a line break of one or two characters, or at the start. -/
  | anyLineStart
  /-- Before a line break of one or two characters, or at the end. -/
  | anyLineEnd
  /-- Between a character of `word` and one that is not, or an end. -/
  | wordEdge (word : Text.CodeRanges)
  | noWordEdge (word : Text.CodeRanges)
  | wordStart (word : Text.CodeRanges)
  | wordEnd (word : Text.CodeRanges)
  | wordStartHalf (word : Text.CodeRanges)
  | wordEndHalf (word : Text.CodeRanges)
  deriving DecidableEq, Repr

/-- Whether the condition holds between the character before and the one after a place. -/
def Boundary.holds (b : Boundary) (before after : Option Char) : Bool :=
  let inWord (word : Text.CodeRanges) (c : Option Char) : Bool := c.any word.contains
  match b with
  | textStart => before.isNone
  | textEnd => after.isNone
  | lineStart => before.isNone || before == some '\n'
  | lineEnd => after.isNone || after == some '\n'
  | anyLineStart =>
    before.isNone || before == some '\n' || (before == some '\r' && after != some '\n')
  | anyLineEnd =>
    after.isNone || after == some '\r' || (after == some '\n' && before != some '\r')
  | wordEdge word => inWord word before != inWord word after
  | noWordEdge word => inWord word before == inWord word after
  | wordStart word => !inWord word before && inWord word after
  | wordEnd word => inWord word before && !inWord word after
  | wordStartHalf word => !inWord word before
  | wordEndHalf word => !inWord word after

/-- A pattern as a tree. -/
inductive Tree
  | empty
  | chars (set : Text.CodeRanges)
  | boundary (b : Boundary)
  | seq (a b : Tree)
  | alt (a b : Tree)
  /-- At least `least` and at most `most` times in a row. -/
  | times (a : Tree) (least : Nat) (most : Option Nat)
  deriving Repr, Inhabited

end ModelProbe.Pattern
