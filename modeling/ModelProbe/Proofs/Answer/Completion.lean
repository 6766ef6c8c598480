import Mathlib
import ModelProbe.Catalog.Builtin
import ModelProbe.Proofs.Answer.Text
import ModelProbe.Proofs.Json.Ordered
/-!
# The text of a chat completion

A chat completion has its text in the message of a choice. The search asks for a `content` among
all members of the choice and takes the first in the order of their names, so a member that is
named before the message may answer for it.

* `locate?_of_firstWith`: what is found below an object without the key.
* `text_chatCompletion`: which member of the choice a completion's text comes from.
-/

namespace ModelProbe

namespace Json

/-! ## The first member that has a key -/

/-- The member `name` has the key, with the value `w`, and no member with a lesser name has it. -/
structure FirstWith (key : String) (members : List (String × Json)) (name : String) (v w : Json) :
    Prop where
  member : SortedMap.lookup name members = some v
  holds : v.member? key = some w
  first : ∀ name' v', SortedMap.lookup name' members = some v' → name' < name →
    v'.member? key = none

variable {key : String} {members : List (String × Json)}

/-- Where members stand in order, the first one in the list that has a key is the one with the
least name. -/
theorem exists_firstWith_iff (hmembers : (object members).Ordered) (w : Json) :
    (∃ name v, FirstWith key members name v w) ↔
      (members.map Prod.snd).findSome? (member? key) = some w := by
  have hmem := SortedMap.mem_iff_lookup hmembers.sorted
  have hsorted := hmembers.sorted
  rw [List.findSome?_map, List.findSome?_eq_some_iff]
  constructor
  · rintro ⟨name, v, h⟩
    obtain ⟨before, after, rfl⟩ := List.append_of_mem ((hmem name v).2 h.member)
    refine ⟨before, (name, v), after, rfl, h.holds, fun e he => ?_⟩
    have hlt := (List.pairwise_append.1 hsorted).2.2 e he (name, v) List.mem_cons_self
    have hlookup := (hmem e.1 e.2).1 (List.mem_append_left _ he)
    exact h.first e.1 e.2 hlookup (compare_lt_iff_lt.1 hlt)
  · rintro ⟨before, ⟨name, v⟩, after, rfl, hw, hbefore⟩
    refine ⟨name, v, (hmem name v).1 (List.mem_append_right _ List.mem_cons_self), hw, ?_⟩
    intro name' v' hlookup hlt
    -- A member behind this one has no lesser name.
    rcases List.mem_append.1 ((hmem name' v').2 hlookup) with he | he
    · exact hbefore _ he
    · exfalso
      rcases List.mem_cons.1 he with heq | he
      · rw [(Prod.mk.inj heq).1] at hlt
        exact lt_irrefl name hlt
      · have hbehind := (List.pairwise_append.1 hsorted).2.1
        have hgt := (List.pairwise_cons.1 hbehind).1 _ he
        exact lt_asymm hlt (compare_lt_iff_lt.1 hgt)

/-- In an object without the key, the first member that has it answers for it. -/
theorem locate?_of_firstWith (hmembers : (object members).Ordered)
    (hown : SortedMap.lookup key members = none) {name : String} {v w : Json}
    (h : FirstWith key members name v w) : locate? key (object members) = some w := by
  have hfirst := (exists_firstWith_iff hmembers w).1 ⟨name, v, h⟩
  rw [locate?_object, hown, Option.none_or, locateFrom?_eq, hfirst, Option.some_or]

end Json

namespace Answer

/-! ## Completions -/

/-- A choice of a completion has a message with this text, and no content of its own. -/
structure Choice (choice : List (String × Json)) (c : String) : Prop where
  own : SortedMap.lookup "content" choice = none
  message : ∃ message, SortedMap.lookup "message" choice = some (.object message) ∧
    SortedMap.lookup "content" message = some (.string c)

/-- Where an entry for chat completions looks for the text. -/
theorem mapped_chatCompletions {entry : Entry}
    (hentry : Catalog.builtin.resolve "vllm-runtime" "chat-completions" .http = .ok entry) :
    entry.textField? = some "content" ∧ entry.container? = some "choices" := by
  have hmapped : (Catalog.builtin.resolve "vllm-runtime" "chat-completions" .http).map
      (fun e => (e.textField?, e.container?)) = .ok (some "content", some "choices") := by cbv
  rw [hentry] at hmapped
  exact Prod.mk.inj (Except.ok.inj hmapped)

/-- The content of the message is the text, unless a member that is named before it has a
content. -/
theorem Choice.firstWith {choice : List (String × Json)} {c : String} (h : Choice choice c)
    (hbefore : ∀ name v, SortedMap.lookup name choice = some v → name < "message" →
      v.member? "content" = none) :
    ∃ message, Json.FirstWith "content" choice "message" (.object message) (.string c) := by
  obtain ⟨message, hmessage, hcontent⟩ := h.message
  exact ⟨message, hmessage, hcontent, hbefore⟩

/-- **The text of a chat completion.** It is the content of the first member of the choice that has
one. This is the message, unless a member that is named before it has a content. -/
theorem text_chatCompletion {entry : Entry}
    (hentry : Catalog.builtin.resolve "vllm-runtime" "chat-completions" .http = .ok entry)
    (heads : List Head) {body : String} {members choice : List (String × Json)}
    {others : List Json} {c : String} (hbody : Json.ofText? body = some (.object members))
    (hchoices : SortedMap.lookup "choices" members = some (.array (.object choice :: others)))
    (hchoice : Choice choice c) :
    (∃ name v w, Json.FirstWith "content" choice name v w ∧
      (ofText (printed heads body)).text entry = .ok (textOf w)) ∧
    ((∀ name v, SortedMap.lookup name choice = some v → name < "message" →
        v.member? "content" = none) →
      (ofText (printed heads body)).text entry = .ok c) := by
  obtain ⟨hfield, hcontainer⟩ := mapped_chatCompletions hentry
  obtain ⟨m, rfl⟩ := Json.exists_map_of_ofChars?_object hbody
  obtain ⟨hpayload, r, hbrace⟩ := Json.ofChars?_trim_of_object hbody
  have htable := ofText_printed_object heads hpayload (not_mark_of_brace hbrace)
  have hitems := (Json.ordered_of_ofChars? hbody).of_mem_members _ (SortedMap.mem_of_lookup hchoices)
  have hordered := hitems.of_mem_items _ List.mem_cons_self
  -- Behind any heads, the choices are those of the object, and only the first one is searched.
  have htext : ∀ name v w, Json.FirstWith "content" choice name v w →
      (ofText (printed heads body)).text entry = .ok (textOf w) := by
    intro name v w hfirst
    have hscope : (Json.array (.object choice :: others)).locate? "content" = some w := by
      rw [Json.locate?_array, Json.locate?_of_firstWith hordered hchoice.own hfirst]
    rw [htable]
    refine text_of_table hfield ?_
    rw [hcontainer, fieldText?, Json.locate?_of_member? (member?_table hchoices heads),
      Option.bind_some, hscope]
    rfl
  refine ⟨?_, fun hbefore => ?_⟩
  · obtain ⟨message, hmessage, hcontent⟩ := hchoice.message
    have hsome : ((choice.map Prod.snd).findSome? (Json.member? "content")).isSome := by
      rw [List.findSome?_isSome_iff]
      refine ⟨_, List.mem_map_of_mem (SortedMap.mem_of_lookup hmessage), ?_⟩
      rw [Json.member?, hcontent]
      rfl
    obtain ⟨w, hw⟩ := Option.isSome_iff_exists.1 hsome
    obtain ⟨name, v, hfirst⟩ := (Json.exists_firstWith_iff hordered w).2 hw
    exact ⟨name, v, w, hfirst, htext name v w hfirst⟩
  · obtain ⟨message, hfirst⟩ := hchoice.firstWith hbefore
    exact htext "message" _ _ hfirst

/-- The first choice of a completion, with a content that is named behind the message. -/
def toolChoice : List (String × Json) :=
  [("index", .null), ("message", .object [("content", .string "Paris")]),
    ("tool", .object [("content", .null)])]

/-- A completion with this choice. -/
def toolBody : String :=
  "\x7b\"choices\":[\x7b\"index\":null,\"message\":\x7b\"content\":\"Paris\"\x7d," ++
  "\"tool\":\x7b\"content\":null\x7d\x7d],\"usage\":\x7b\x7d\x7d"

theorem text_chatCompletion_toolBody :
    ∃ entry members,
      Catalog.builtin.resolve "vllm-runtime" "chat-completions" .http = .ok entry ∧
      Json.ofText? toolBody = some (.object members) ∧
      SortedMap.lookup "choices" members = some (.array [.object toolChoice]) ∧
      Choice toolChoice "Paris" ∧
      (∀ name v, SortedMap.lookup name toolChoice = some v → name < "message" →
        v.member? "content" = none) ∧
      (ofText (printed [continueHead, repeatingHead] toolBody)).text entry = .ok "Paris" := by
  obtain ⟨entry, hentry⟩ : ∃ entry,
      Catalog.builtin.resolve "vllm-runtime" "chat-completions" .http = .ok entry := ⟨_, rfl⟩
  have hbody : Json.ofText? toolBody = some (.object [("choices", .array [.object toolChoice]),
      ("usage", .object [])]) := by cbv
  have hchoice : Choice toolChoice "Paris" := ⟨rfl, _, rfl, rfl⟩
  have hbefore : ∀ name v, SortedMap.lookup name toolChoice = some v → name < "message" →
      v.member? "content" = none := by
    intro name v hlookup hlt
    have hmem := SortedMap.mem_of_lookup hlookup
    simp only [toolChoice, List.mem_cons, List.not_mem_nil, or_false, Prod.mk.injEq] at hmem
    rcases hmem with ⟨-, rfl⟩ | ⟨rfl, -⟩ | ⟨rfl, -⟩
    · rfl
    · exact absurd hlt (by decide)
    · exact absurd hlt (by decide)
  exact ⟨entry, _, hentry, hbody, rfl, hchoice, hbefore,
    (text_chatCompletion hentry [continueHead, repeatingHead] hbody rfl hchoice).2 hbefore⟩

/-- The first choice of a completion, with the probabilities of its words. -/
def logprobsChoice : List (String × Json) :=
  [("logprobs", .object [("content", .array [])]),
    ("message", .object [("content", .string "Paris")])]

/-- A completion with this choice. -/
def logprobsBody : String :=
  "\x7b\"choices\":[\x7b\"logprobs\":\x7b\"content\":[]\x7d,\"message\":" ++
  "\x7b\"content\":\"Paris\"\x7d\x7d]\x7d"

/-- The probabilities are named before the message, and their list is the text. -/
theorem not_text_chatCompletion_logprobsBody :
    Json.ofText? logprobsBody = some (.object [("choices", .array [.object logprobsChoice])]) ∧
      Choice logprobsChoice "Paris" ∧
      ∃ entry, Catalog.builtin.resolve "vllm-runtime" "chat-completions" .http = .ok entry ∧
        (ofText logprobsBody).text entry = .ok "[]" := by
  refine ⟨by cbv, ⟨rfl, _, rfl, rfl⟩, _, rfl, by cbv⟩

end Answer

end ModelProbe
