import Mathlib
import ModelProbe.Proofs.Answer.Head
import ModelProbe.Proofs.Json.Extent
import ModelProbe.Proofs.SortedMap
/-!
# Reading back what was printed

An output of heads and a payload is read into a table. With one object as the payload, the table
holds what the heads stand for and over it the object's members; with any other payload, it holds
the whole output over what the heads stand for.

* `ofText_printed_object`, `ofText_printed_other`: the two tables.
* `ofText_printed_members`: decoding an output undoes encoding it.
-/

namespace ModelProbe.Answer

/-! ## The payload behind the heads -/

/-- A text whose trimmed form has no head's mark does not begin with one after its blanks. -/
theorem not_mark_trimStart {s : List Char} (hs : ¬ headMark <+: Text.trim s) :
    ¬ headMark <+: Text.trimStart s := by
  rintro ⟨more, hmore⟩
  refine hs ⟨Text.trimEnd more, ?_⟩
  rw [Text.trim, ← hmore, Text.trimEnd_append]
  split
  · next hempty => rw [List.isEmpty_iff.1 hempty]; decide
  · rfl

/-- **The table of heads and an object.** The members of the object stand over what the heads
stand for. -/
theorem ofText_printed_object (heads : List Head) {payload : String}
    {members : List (String × Json)}
    (hpayload : Json.ofChars? (Text.trim payload.toList) = some (.object members))
    (hmark : ¬ headMark <+: Text.trim payload.toList) :
    ofText (printed heads payload) =
      ⟨printed heads payload, SortedMap.ofList (heads.flatMap Head.entries ++ members)⟩ := by
  rw [ofText, toList_printed, readHeads_printed heads (not_mark_trimStart hmark)]
  dsimp only
  rw [Text.trim_trimStart, hpayload, SortedMap.ofList_append]

/-- **The table of heads and another payload.** The whole output stands over what the heads stand
for, as the only member of an object would. -/
theorem ofText_printed_other (heads : List Head) {payload : String}
    (hpayload : ∀ members, Json.ofChars? (Text.trim payload.toList) ≠ some (.object members))
    (hmark : ¬ headMark <+: Text.trim payload.toList) :
    ofText (printed heads payload) =
      ⟨printed heads payload,
        SortedMap.ofList
          (heads.flatMap Head.entries ++ [(outputKey, .string (printed heads payload))])⟩ := by
  rw [ofText, toList_printed, readHeads_printed heads (not_mark_trimStart hmark)]
  dsimp only
  rw [Text.trim_trimStart, SortedMap.ofList_append]
  split
  · next members h => exact absurd h (hpayload members)
  · rfl

/-- A text that begins with a brace has no head's mark. -/
theorem not_mark_of_brace {s r : List Char} (hs : s = '{' :: r) : ¬ headMark <+: s := by
  rintro ⟨more, hmore⟩
  rw [hs] at hmore
  exact absurd (List.cons.inj hmore).1 (by decide)

/-- **Decoding undoes encoding.** An output is written from heads, each with its own line ends, and
from a text of an object with blanks around it. Its table is what is put in line after line, the
status of each head under its version and each value under its name, and then member after member;
under every name stands what was put in last. -/
theorem ofText_printed_members (heads : List Head) (lead body trail : String)
    (members : List (String × Json)) (hlead : ∀ c ∈ lead.toList, Json.isSpace c = true)
    (hbody : Json.ofText? body = some (.object members))
    (htrail : ∀ c ∈ trail.toList, Json.isSpace c = true) :
    ofText (printed heads (lead ++ body ++ trail)) =
        ⟨printed heads (lead ++ body ++ trail),
          SortedMap.ofList (heads.flatMap Head.entries ++ members)⟩ ∧
      ∀ name, (ofText (printed heads (lead ++ body ++ trail))).get? name =
        (heads.flatMap Head.entries ++ members).reverse.lookup name := by
  have htrim := Json.ofChars?_trim_spaced hbody hlead htrail
  rw [← String.toList_append, ← String.toList_append] at htrim
  obtain ⟨hpayload, r, hbrace⟩ := htrim
  have htable := ofText_printed_object heads hpayload (not_mark_of_brace hbrace)
  refine ⟨htable, fun name => ?_⟩
  rw [htable, get?, SortedMap.get?_ofList]

/-- A first head that only says to go on. -/
def continueHead : Head where
  version := "HTTP/1.1"
  status := "100 Continue"
  headers := []
  lineEnd := .crlf

/-- A head with one name twice, whose lines end otherwise. -/
def repeatingHead : Head where
  version := "HTTP/2"
  status := "200"
  headers := [{ name := "x-id", value := "a" }, { name := "x-id", value := "b" }]
  lineEnd := .lf

/-- A body with empty lines of both kinds inside it. -/
def gappedBody : String := "\x7b\n\n\"text\":\r\n\r\n\"t\"\x7d"

theorem ofText_printed_gappedBody :
    (∀ c ∈ "\r\n".toList, Json.isSpace c = true) ∧
      Json.ofText? gappedBody = some (.object [("text", .string "t")]) ∧
      (∀ c ∈ "\n".toList, Json.isSpace c = true) ∧
      ofText (printed [continueHead, repeatingHead] ("\r\n" ++ gappedBody ++ "\n")) =
        ⟨printed [continueHead, repeatingHead] ("\r\n" ++ gappedBody ++ "\n"),
          SortedMap.ofList [("HTTP/1.1", .string "100 Continue"), ("HTTP/2", .string "200"),
            ("x-id", .string "a"), ("x-id", .string "b"), ("text", .string "t")]⟩ := by
  have hlead : ∀ c ∈ "\r\n".toList, Json.isSpace c = true := List.all_eq_true.1 (by decide)
  have hbody : Json.ofText? gappedBody = some (.object [("text", .string "t")]) := by cbv
  have htrail : ∀ c ∈ "\n".toList, Json.isSpace c = true := List.all_eq_true.1 (by decide)
  have hdecoded := ofText_printed_members [continueHead, repeatingHead] "\r\n" gappedBody "\n"
    [("text", .string "t")] hlead hbody htrail
  exact ⟨hlead, hbody, htrail, hdecoded.1⟩

end ModelProbe.Answer
