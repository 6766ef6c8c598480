/-!
# Durations

A duration in milliseconds, and its text: in seconds from one second on, in milliseconds below.
-/

namespace ModelProbe

/-- A duration in milliseconds. -/
structure Duration where
  milliseconds : Nat
  deriving DecidableEq, Repr, Inhabited

namespace Duration

/-- So many seconds. -/
def ofSeconds (n : Nat) : Duration := ⟨n * 1000⟩

/-- The decimal places of a part of a second, without zeros at their end. -/
def places (milliseconds : Nat) : List Char :=
  let digits := Nat.toDigits 10 milliseconds
  let padded := List.replicate (3 - digits.length) '0' ++ digits
  (padded.reverse.dropWhile (· == '0')).reverse

/-- The text of a duration. -/
def text (d : Duration) : String :=
  if d.milliseconds = 0 then "0ns"
  else if d.milliseconds < 1000 then toString d.milliseconds ++ "ms"
  else
    let rest := places (d.milliseconds % 1000)
    toString (d.milliseconds / 1000) ++
      (if rest.isEmpty then "" else "." ++ String.ofList rest) ++ "s"

end Duration

end ModelProbe
