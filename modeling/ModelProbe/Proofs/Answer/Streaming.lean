import ModelProbe.Proofs.Answer.Head
import ModelProbe.Proofs.Json.Escape
import ModelProbe.Proofs.Text.Replacing
import ModelProbe.Verdict
/-!
# Streamed chunks are put together

A stream is an output in which chunks stand between texts that do not have the chunks' mark. The
reader finds each chunk where it was written: the text in front of it does not run into its mark,
and the mark inside a chunk is written with an escaped quote, so that it is no mark.

* `rawChunks_streamed`: the chunks are found as they were written.
* `check_streamed_iff`: a stream is verified against its chunks, put together.
-/

namespace ModelProbe.Stream

/-! ## Writing -/

/-- A chunk, the blanks before its string, and what stands after it. -/
structure Chunk where
  text : String
  gap : String := ""
  after : String := ""
  gap_blank : Text.isBlankText gap.toList = true := by decide
  after_clear : ¬ mark <:+: after.toList := by decide

/-- A chunk as it is written: its name, blanks and its string. -/
def Chunk.chars (c : Chunk) : List Char :=
  '"' :: (mark ++ (c.gap.toList ++ Json.stringText c.text.toList))

/-- An output: a text, and the chunks with what stands after them. -/
def streamed (lead : String) (chunks : List Chunk) : String :=
  String.ofList (lead.toList ++ chunks.flatMap fun c => c.chars ++ c.after.toList)

/-! ## Reading one chunk -/

/-- A character that is no quote and no backslash is kept. -/
theorem readChunk?_cons {x : Char} (hx : x ≠ '"' ∧ x ≠ '\\') (s : List Char) :
    readChunk? (x :: s) = (readChunk? s).map fun (chunk, rest) => (x :: chunk, rest) := by
  rw [readChunk?]
  · exact hx.1
  · exact fun _ _ h _ => hx.2 h
  · exact fun h _ => hx.2 h

/-- A text without quotes and backslashes is kept. -/
theorem readChunk?_append {a : List Char} (ha : ∀ x ∈ a, x ≠ '"' ∧ x ≠ '\\') (s : List Char) :
    readChunk? (a ++ s) = (readChunk? s).map fun (chunk, rest) => (a ++ chunk, rest) := by
  induction a with
  | nil => simp
  | cons x a ih =>
    rw [List.cons_append, readChunk?_cons (ha x List.mem_cons_self),
      ih fun y hy => ha y (List.mem_cons_of_mem x hy), Option.map_map]
    rfl

/-- A written character is kept as it is written. -/
theorem readChunk?_escaped_append (c : Char) (s : List Char) :
    readChunk? (Json.escaped c ++ s) =
      (readChunk? s).map fun (chunk, rest) => (Json.escaped c ++ chunk, rest) := by
  rcases Json.escaped_cases c with ⟨hself, hquote, hslash, -⟩ | ⟨d, digits, hescape, hd, hdigits, -⟩
  · rw [hself, List.singleton_append, readChunk?_cons ⟨hquote, hslash⟩]
    rfl
  · -- The backslash keeps the character after it, be it a quote; the digits are plain.
    rw [hescape, List.cons_append, List.cons_append, readChunk?, if_neg hd,
      readChunk?_append hdigits, Option.map_map]
    rfl

/-- A written string is kept as it is written, up to its closing quote. -/
theorem readChunk?_flatMap_escaped (s rest : List Char) :
    readChunk? (s.flatMap Json.escaped ++ '"' :: rest) = some (s.flatMap Json.escaped, rest) := by
  induction s with
  | nil => rfl
  | cons c s ih =>
    rw [List.flatMap_cons, List.append_assoc, readChunk?_escaped_append, ih]
    rfl

/-- A written chunk is read at its mark. -/
theorem takeChunk?_chars (c : Chunk) (rest : List Char) :
    takeChunk? (mark ++ (c.gap.toList ++ Json.stringText c.text.toList) ++ rest) =
      some (c.text.toList.flatMap Json.escaped, rest) := by
  have hdrop : Text.dropPiece? mark
      (mark ++ (c.gap.toList ++ Json.stringText c.text.toList) ++ rest) =
        some (c.gap.toList ++ Json.stringText c.text.toList ++ rest) := by
    rw [Text.dropPiece?_eq_some_iff, List.append_assoc]
  have htrim : Text.trimStart (c.gap.toList ++ Json.stringText c.text.toList ++ rest) =
      '"' :: (c.text.toList.flatMap Json.escaped ++ '"' :: rest) := by
    rw [List.append_assoc, Text.trimStart_append_of_blank c.gap_blank, Json.stringText,
      List.cons_append, List.cons_append, Text.trimStart_cons (by decide), List.append_assoc]
    rfl
  rw [takeChunk?, hdrop]
  dsimp only
  rw [htrim]
  exact readChunk?_flatMap_escaped _ rest

/-- The characters of a written chunk are those of its string. -/
theorem unescape_flatMap_escaped (s : List Char) : unescape (s.flatMap Json.escaped) = s := by
  rw [unescape, Json.readString?_flatMap_escaped]

/-! ## Finding the chunks -/

/-- A chunk that a text begins with is its first chunk. -/
theorem rawChunks_of_takeChunk? {s chunk rest : List Char}
    (h : takeChunk? s = some (chunk, rest)) : rawChunks s = chunk :: rawChunks rest := by
  cases s with
  | nil => cases h
  | cons c s =>
    rw [rawChunks]
    split
    · next chunk' rest' h' =>
      rw [h, Option.some.injEq, Prod.mk.injEq] at h'
      obtain ⟨rfl, rfl⟩ := h'
      rfl
    · next hnone => rw [h] at hnone; cases hnone

/-- Where there is no mark, there is no chunk. -/
theorem rawChunks_cons {c : Char} {s : List Char} (h : ¬ mark <+: c :: s) :
    rawChunks (c :: s) = rawChunks s := by
  have hnone : takeChunk? (c :: s) = none := by
    rw [takeChunk?, Text.dropPiece?_eq_none_iff.2 h]
  rw [rawChunks]
  split
  · next hsome => rw [hnone] at hsome; cases hsome
  · rfl

/-- A text without the mark has no chunks. -/
theorem rawChunks_of_clear {s : List Char} (hs : ¬ mark <:+: s) : rawChunks s = [] := by
  induction s with
  | nil => rw [rawChunks]
  | cons c s ih =>
    rw [List.infix_cons_iff, not_or] at hs
    rw [rawChunks_cons hs.1, ih hs.2]

/-- In a mark, the colon stands after the quote. -/
theorem mark_colon : ∀ n < mark.length, (mark.drop n).head? = some '"' →
    (mark.drop n).tail.head? = some ':' := by decide

/-- A mark does not begin in front of a chunk. -/
theorem not_mark_append {a : List Char} (ha : ¬ mark <+: a) (rest : List Char) :
    ¬ mark <+: a ++ '"' :: (mark ++ rest) := by
  rintro ⟨more, hmore⟩
  rcases List.append_eq_append_iff.1 hmore with ⟨b, hb, -⟩ | ⟨b, hb, hrest⟩
  · exact ha ⟨b, hb.symm⟩
  · -- The mark would run into the chunk, with the quote of the chunk's name as its own.
    cases b with
    | nil => exact ha ⟨[], by rw [hb, List.append_nil, List.append_nil]⟩
    | cons x b =>
      rw [List.cons_append, List.cons.injEq] at hrest
      obtain ⟨rfl, hname⟩ := hrest
      have hlength : a.length < mark.length := by
        rw [hb, List.length_append, List.length_cons]
        omega
      have hcolon := mark_colon a.length hlength
      rw [hb, List.drop_left] at hcolon
      have hb' : b.head? = some ':' := hcolon rfl
      obtain ⟨b, rfl⟩ := List.head?_eq_some_iff.1 hb'
      have hfirst : (mark ++ rest).head? = some 'g' := rfl
      rw [hname, List.cons_append, List.head?_cons] at hfirst
      exact absurd hfirst (by decide)

/-- Text without the mark is passed over up to a chunk. -/
theorem rawChunks_append {s : List Char} (hs : ¬ mark <:+: s) (rest : List Char) :
    rawChunks (s ++ '"' :: (mark ++ rest)) = rawChunks (mark ++ rest) := by
  induction s with
  | nil =>
    have hquote : ¬ mark <+: '"' :: (mark ++ rest) := by
      intro h
      exact absurd (List.cons_prefix_cons.1 h).1 (by decide)
    exact rawChunks_cons hquote
  | cons c s ih =>
    rw [List.infix_cons_iff, not_or] at hs
    have hmark := not_mark_append hs.1 rest
    rw [List.cons_append] at hmark ⊢
    rw [rawChunks_cons hmark, ih hs.2]

/-- **The chunks of a stream are found as they were written**, in order. -/
theorem rawChunks_streamed (chunks : List Chunk) : ∀ {lead : List Char}, ¬ mark <:+: lead →
    rawChunks (lead ++ chunks.flatMap fun c => c.chars ++ c.after.toList) =
      chunks.map fun c => c.text.toList.flatMap Json.escaped := by
  induction chunks with
  | nil =>
    intro lead hlead
    rw [List.flatMap_nil, List.append_nil, List.map_nil, rawChunks_of_clear hlead]
  | cons c chunks ih =>
    intro lead hlead
    -- What stands after a chunk is the text in front of the chunks that follow.
    have hrest := ih c.after_clear
    rw [List.flatMap_cons, Chunk.chars, List.cons_append, List.cons_append, List.append_assoc,
      List.append_assoc, rawChunks_append hlead, ← List.append_assoc,
      rawChunks_of_takeChunk? (takeChunk?_chars c _), hrest, List.map_cons]

/-! ## The text of a stream -/

/-- The text of a stream is that of its chunks, put together. -/
theorem text?_streamed {lead : String} (hlead : ¬ mark <:+: lead.toList) {chunks : List Chunk}
    (hchunks : chunks ≠ []) :
    text? (streamed lead chunks).toList = some (String.join (chunks.map Chunk.text)).toList := by
  have hraw := rawChunks_streamed chunks hlead
  have htext : (chunks.map fun c => c.text.toList.flatMap Json.escaped).flatMap unescape =
      (String.join (chunks.map Chunk.text)).toList := by
    have hchunk : (fun c : Chunk => unescape (c.text.toList.flatMap Json.escaped)) =
        fun c => c.text.toList := by
      funext c
      exact unescape_flatMap_escaped c.text.toList
    rw [String.toList_join, List.flatMap_map, List.flatMap_map, hchunk]
  rw [text?, streamed, String.toList_ofList, hraw]
  split
  · next hnil => exact absurd (List.map_eq_nil_iff.1 hnil) hchunks
  · rw [htext]

/-- **Streamed chunks are put together without loss.** Whatever the chunks' strings have in them,
and whatever stands around the chunks without their mark, the text of the stream is that of its
chunks; and a call for it is verified against this text alone. -/
theorem check_streamed_iff (entry : Entry) (hentry : entry.textField? = none) (lead : String)
    (hlead : ¬ mark <:+: lead.toList) (chunks : List Chunk) (hchunks : chunks ≠ []) :
    text? (streamed lead chunks).toList = some (String.join (chunks.map Chunk.text)).toList ∧
      ∀ t token, (Answer.ofText (streamed lead chunks)).check entry (.text t) token = .ok () ↔
        t = String.join (chunks.map Chunk.text) := by
  have htext := text?_streamed hlead hchunks
  have hactual : (Answer.ofText (streamed lead chunks)).text entry =
      .ok (String.join (chunks.map Chunk.text)) := by
    rw [Answer.text, hentry]
    dsimp only
    rw [Answer.raw_ofText, htext]
    dsimp only
    rw [String.ofList_toList]
  refine ⟨htext, fun t token => ?_⟩
  rw [Answer.check, hactual]
  dsimp only
  split
  · next heq => exact ⟨fun _ => heq.symm, fun _ => rfl⟩
  · next hne => exact ⟨fun h => (nomatch h), fun h => absurd h.symm hne⟩

/-- A chunk whose text looks like a chunk, with a quote and a line break. -/
def quotingChunk : Chunk where
  text := "\"generated_text\":\"a\n"
  gap := " \t"
  after := "\x7d\r\n\r\ndata: generated_text"
  after_clear := by decide +kernel

/-- A chunk that is one backslash. -/
def slashChunk : Chunk where
  text := "\\"

theorem check_streamed_quotingChunk :
    (default : Entry).textField? = none ∧ ¬ mark <:+: "HTTP/2 200\n\n".toList ∧
      (Answer.ofText (streamed "HTTP/2 200\n\n" [quotingChunk, slashChunk])).check default
        (.text "\"generated_text\":\"a\n\\") none = .ok () ∧
      (Answer.ofText (streamed "HTTP/2 200\n\n" [quotingChunk, slashChunk])).check default
        (.text "a\n\\") none ≠ .ok () := by
  have hentry : (default : Entry).textField? = none := rfl
  have hlead : ¬ mark <:+: "HTTP/2 200\n\n".toList := by decide +kernel
  have hstream := (check_streamed_iff default hentry "HTTP/2 200\n\n" hlead
    [quotingChunk, slashChunk] (List.cons_ne_nil _ _)).2
  exact ⟨hentry, hlead, (hstream _ none).2 (by decide +kernel),
    fun h => absurd ((hstream _ none).1 h) (by decide +kernel)⟩

end ModelProbe.Stream
