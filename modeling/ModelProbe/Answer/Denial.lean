import ModelProbe.Text.Blank
import ModelProbe.Text.Search
/-!
# Reasons of denials

A proxy that turns a call away says why in a header line. The reason is the rest of the first
such line in the output; letter case does not count in the header's name.
-/

namespace ModelProbe.Denial

/-- What a reason stands after. -/
def mark : List Char := "x-ext-auth-reason:".toList

/-- Whether `c` is the lower-case letter `p` in some case. The long s counts as an s; no other
character beyond ASCII differs from the letters of these texts in case only. -/
def sameLetter (p c : Char) : Bool :=
  c.toLower == p || (p == 's' && c == '\u017f')

/-- The rest of a text that begins with `piece` in any letter case. -/
def dropFolded? : (piece : List Char) → List Char → Option (List Char)
  | [], s => some s
  | _ :: _, [] => none
  | p :: ps, c :: cs => if sameLetter p c then dropFolded? ps cs else none

/-- The text after the first occurrence of `piece` in any letter case. -/
def afterFolded? (piece : List Char) : List Char → Option (List Char)
  | [] => dropFolded? piece []
  | c :: cs =>
    match dropFolded? piece (c :: cs) with
    | some rest => some rest
    | none => afterFolded? piece cs

/-- Whether `piece` occurs in any letter case. -/
def mentions (piece s : List Char) : Bool := (afterFolded? piece s).isSome

/-- The text up to the end of its line. -/
def line (s : List Char) : List Char := s.takeWhile fun c => c != '\r' && c != '\n'

/-- The reason that an output gives; none when it gives none or a blank one. -/
def reason? (raw : List Char) : Option (List Char) :=
  match afterFolded? mark raw with
  | none => none
  | some rest =>
    let reason := Text.trim (line rest)
    if reason.isEmpty then none else some reason

/-- The reason that is right for a call without a token. -/
def noCredential : String := "credential not found"

/-- The reasons that are right for a call with a token. -/
def notAllowed : String := "not (authenticated|authorized)"

/-- Whether a reason is right for a call with, or without, a token. -/
def accepts (hasToken : Bool) (reason : List Char) : Bool :=
  if hasToken then
    mentions "not authenticated".toList reason || mentions "not authorized".toList reason
  else mentions noCredential.toList reason

/-- What a reason is measured by. -/
def expected (hasToken : Bool) : String := if hasToken then notAllowed else noCredential

end ModelProbe.Denial
