import ModelProbe.Json.Reader
import ModelProbe.Text.Blank
import ModelProbe.Text.Search
/-!
# Streamed text

A streaming runtime prints its text in chunks, each a string after the name `generated_text`.
What stands around the chunks does not matter.

* `length_readChunk?`: a chunk takes up at least its closing quote.
-/

namespace ModelProbe.Stream

/-- What stands before the blanks and the string of a chunk. -/
def mark : List Char := "generated_text\":".toList

/-- Reads the characters of a chunk after its opening quote, as they are written: up to the next
quote that no backslash protects. A backslash does not protect a line feed. -/
def readChunk? : List Char → Option (List Char × List Char)
  | [] => none
  | '"' :: rest => some ([], rest)
  | '\\' :: c :: rest =>
    if c = '\n' then none
    else (readChunk? rest).map fun (chunk, rest) => ('\\' :: c :: chunk, rest)
  | ['\\'] => none
  | c :: rest => (readChunk? rest).map fun (chunk, rest) => (c :: chunk, rest)

/-- Reads the chunk that a text begins with: the name, blanks and the string. -/
def takeChunk? (s : List Char) : Option (List Char × List Char) :=
  match Text.dropPiece? mark s with
  | none => none
  | some rest =>
    match Text.trimStart rest with
    | '"' :: rest => readChunk? rest
    | _ => none

theorem length_readChunk? {s chunk rest : List Char} (h : readChunk? s = some (chunk, rest)) :
    rest.length < s.length := by
  fun_induction readChunk? s generalizing chunk rest with
  | case1 => simp at h
  | case2 => simp at h; simp [h]
  | case3 => simp at h
  | case4 c r _ ih =>
    simp only [Option.map_eq_some_iff, Prod.mk.injEq, Prod.exists] at h
    obtain ⟨a, b, hab, _, rfl⟩ := h
    have := ih hab
    simp only [List.length_cons]; omega
  | case5 => simp at h
  | case6 c r _ _ _ ih =>
    simp only [Option.map_eq_some_iff, Prod.mk.injEq, Prod.exists] at h
    obtain ⟨a, b, hab, _, rfl⟩ := h
    have := ih hab
    simp only [List.length_cons]; omega

theorem length_takeChunk? {s chunk rest : List Char} (h : takeChunk? s = some (chunk, rest)) :
    rest.length < s.length := by
  unfold takeChunk? at h
  split at h
  · simp at h
  · next r hr =>
    split at h
    · next r' hr' =>
      have h₁ := length_readChunk? h
      have h₂ := Text.length_trimStart_le r
      have h₃ := Text.length_of_dropPiece? hr
      rw [hr'] at h₂
      simp only [List.length_cons] at h₂
      omega
    · simp at h

/-- The chunks of a text, as they are written. -/
def rawChunks : List Char → List (List Char)
  | [] => []
  | c :: cs =>
    match _h : takeChunk? (c :: cs) with
    | some (chunk, rest) => chunk :: rawChunks rest
    | none => rawChunks cs
termination_by s => s.length
decreasing_by
  · exact length_takeChunk? ‹_›
  · simp

/-- The characters that a chunk stands for; a chunk that is no JSON string stands for itself. -/
def unescape (chunk : List Char) : List Char :=
  match Json.readString? (chunk ++ ['"']) with
  | some (s, []) => s
  | _ => chunk

/-- The text that the chunks make together; none when there is no chunk. -/
def text? (raw : List Char) : Option (List Char) :=
  match rawChunks raw with
  | [] => none
  | chunks => some (chunks.flatMap unescape)

end ModelProbe.Stream
