import Mathlib
import ModelProbe.Client
import ModelProbe.Proofs.Text.Trimming
import ModelProbe.Transport.Http
/-!
# The command line and the message of a request

A request for HTTP can be carried by a program or be sent as a message. The program is told what to
send by the words of its command line; a reader of such words finds in them the address, the body,
the header lines and whether certificates go unchecked, and no word is left over or taken for
another. The message has the same parts, read from the request itself.

* `CurlCall.ofWords?_curlArgs`: what the words for a request say.
* `HttpMessage.ofRequest_eq_ok_iff`: what the message of a request has in it.
* `ofCommandLine?_commandLine`: the words ask for the message.
-/

namespace ModelProbe

/-! ## Reading words -/

/-- What the words of a command line say about a call. -/
structure CurlCall where
  /-- Whether the response heads are shown. -/
  showsHeads : Bool := false
  /-- Whether the progress of the call stays unshown. -/
  silent : Bool := false
  unchecked : Bool := false
  bodies : List String := []
  headerLines : List String := []
  urls : List String := []
  deriving DecidableEq, Repr

namespace CurlCall

/-- Reads the words after the program's name. An option for a body or a header line takes the next
word whatever it looks like; the other options take none. A word that is no option is an address,
and no other options are known. -/
def ofWords? : List String → Option CurlCall
  | [] => some {}
  | "-i" :: words => (ofWords? words).map fun c => { c with showsHeads := true }
  | "-s" :: words => (ofWords? words).map fun c => { c with silent := true }
  | "--insecure" :: words => (ofWords? words).map fun c => { c with unchecked := true }
  | "-d" :: body :: words => (ofWords? words).map fun c => { c with bodies := body :: c.bodies }
  | "-H" :: line :: words =>
    (ofWords? words).map fun c => { c with headerLines := line :: c.headerLines }
  | word :: words =>
    if word.toList.head? = some '-' then none
    else (ofWords? words).map fun c => { c with urls := word :: c.urls }

/-- Reads a command line: the program's name and its words. -/
def ofCommandLine? : List String → Option CurlCall
  | [] => none
  | _ :: words => ofWords? words

/-- A word that does not begin with a hyphen is an address. -/
theorem ofWords?_url {url : String} (h : url.toList.head? ≠ some '-') (words : List String) :
    ofWords? (url :: words) = (ofWords? words).map fun c => { c with urls := url :: c.urls } := by
  rw [ofWords?]
  · exact if_neg h
  all_goals
    intros
    subst url
    exact h rfl

/-- Header lines are read as they are, in their order. -/
theorem ofWords?_headerOptions (lines words : List String) :
    ofWords? (lines.flatMap (fun line => ["-H", line]) ++ words) =
      (ofWords? words).map fun c => { c with headerLines := lines ++ c.headerLines } := by
  induction lines with
  | nil =>
    rw [List.flatMap_nil, List.nil_append]
    cases ofWords? words <;> rfl
  | cons line lines ih =>
    show ofWords? ("-H" :: line :: (lines.flatMap (fun line => ["-H", line]) ++ words)) = _
    rw [ofWords?, ih]
    cases ofWords? words <;> rfl

/-- The call for a request: it shows the response heads and no progress, and has what the request
has. -/
def ofRequest (r : Request) : CurlCall where
  showsHeads := true
  silent := true
  unchecked := r.insecure
  bodies := [r.body]
  headerLines := r.headerLines
  urls := [r.target]

/-- **The words for a request.** All of them are read, and they say what the request has. -/
theorem ofWords?_curlArgs {r : Request} (h : r.target.toList.head? ≠ some '-') :
    ofWords? r.curlArgs = some (ofRequest r) := by
  have hurl : ofWords? [r.target] = some { urls := [r.target] } := by
    rw [ofWords?_url h]
    rfl
  have hinsecure : ofWords? ((if r.insecure then ["--insecure"] else []) ++ [r.target]) =
      some { unchecked := r.insecure, urls := [r.target] } := by
    cases r.insecure with
    | false => exact hurl
    | true =>
      show ofWords? ("--insecure" :: [r.target]) = _
      rw [ofWords?, hurl]
      rfl
  have hargs : r.curlArgs = "-i" :: "-s" :: "-d" :: r.body ::
      (r.headerLines.flatMap (fun line => ["-H", line]) ++
        ((if r.insecure then ["--insecure"] else []) ++ [r.target])) := by
    simp [Request.curlArgs, Request.headerOptions]
  rw [hargs, ofWords?, ofWords?, ofWords?, ofWords?_headerOptions, hinsecure]
  simp [ofRequest]

end CurlCall

/-! ## Header lines -/

/-- A header line has this name and this value: they stand before and after its first colon. -/
def HeaderSplits (line : String) (header : String × String) : Prop :=
  ∃ before after, line.toList = before ++ ':' :: after ∧ ':' ∉ before ∧
    header = (String.ofList (Text.trim before), String.ofList (Text.trim after))

/-- A line has one name and one value. -/
theorem HeaderSplits.unique {line : String} {a b : String × String} (ha : HeaderSplits line a)
    (hb : HeaderSplits line b) : a = b := by
  obtain ⟨before, after, hline, hno, rfl⟩ := ha
  obtain ⟨before', after', hline', hno', rfl⟩ := hb
  have hsplit := Text.splitFirst?_append hno after
  have hsplit' := Text.splitFirst?_append hno' after'
  rw [← hline] at hsplit
  rw [← hline', hsplit] at hsplit'
  obtain ⟨rfl, rfl⟩ := Prod.mk.inj (Option.some.inj hsplit')
  rfl

/-- Lines have one list of names and values. -/
theorem HeaderSplits.unique_list {lines : List String} {a b : List (String × String)}
    (ha : List.Forall₂ HeaderSplits lines a) (hb : List.Forall₂ HeaderSplits lines b) : a = b := by
  induction ha generalizing b with
  | nil =>
    cases hb
    rfl
  | cons hline _ ih =>
    cases hb with
    | cons hline' hlines' => rw [hline.unique hline', ih hlines']

namespace Request

/-- Every header line has a colon. -/
theorem colon_mem_of_mem_headerLines {r : Request} {line : String} (h : line ∈ r.headerLines) :
    ':' ∈ line.toList := by
  rw [headerLines, List.mem_append] at h
  rcases h with hown | htoken
  · unfold ownHeaderLines at hown
    dsimp only at hown
    split at hown
    · next hcolon =>
      obtain rfl := List.mem_singleton.1 hown
      rw [String.toList_ofList]
      exact List.contains_iff_mem.1 hcolon
    · split at hown
      · cases hown
      · obtain rfl := List.mem_singleton.1 hown
        simp
  · split at htoken
    · obtain rfl := List.mem_singleton.1 htoken
      simp
    · cases htoken

/-- **No header line is lost.** The headers are the header lines, split one by one. -/
theorem forall₂_headers (r : Request) : List.Forall₂ HeaderSplits r.headerLines r.headers := by
  have hlines : ∀ line ∈ r.headerLines, ':' ∈ line.toList :=
    fun _ hline => colon_mem_of_mem_headerLines hline
  unfold headers
  revert hlines
  induction r.headerLines with
  | nil => exact fun _ => .nil
  | cons line lines ih =>
    intro hlines
    have hcolon := hlines line (by simp)
    cases hsplit : Text.splitFirst? ':' line.toList with
    | none => exact absurd hcolon (Text.splitFirst?_eq_none_iff.1 hsplit)
    | some parts =>
      obtain ⟨before, after⟩ := parts
      obtain ⟨hline, hno⟩ := Text.splitFirst?_eq_some hsplit
      rw [List.filterMap_cons, hsplit]
      exact .cons ⟨before, after, hline, hno, rfl⟩
        (ih fun l hl => hlines l (List.mem_cons_of_mem line hl))

/-- The line with the token is the last one. -/
theorem getLast?_headerLines {r : Request} {token : String} (h : r.token = some token) :
    r.headerLines.getLast? = some ("Authorization: Bearer " ++ token) := by
  rw [headerLines, h]
  simp

end Request

/-! ## Messages -/

/-- What the text of a body stands for: `@path` for the contents of that file without line breaks,
any other text for itself. -/
inductive BodyStandsFor (ws : Workspace) : String → String → Prop
  | text {s : String} (h : s.toList.head? ≠ some '@') : BodyStandsFor ws s s
  | file {path contents : String} (h : ws.look path = .file contents) :
      BodyStandsFor ws ("@" ++ path)
        (String.ofList (contents.toList.filter fun c => c != '\r' && c != '\n'))

namespace HttpMessage

/-- A body is read as what its text stands for. -/
theorem readBody_eq_ok_iff {ws : Workspace} {s body : String} :
    readBody ws s = .ok body ↔ BodyStandsFor ws s body := by
  constructor
  · intro h
    unfold readBody at h
    split at h
    · next path hpath =>
      obtain rfl : s = "@" ++ String.ofList path := by
        rw [← String.toList_inj, hpath]
        simp
      dsimp only at h
      split at h
      · next contents hcontents =>
        obtain rfl := Except.ok.inj h
        unfold Workspace.read at hcontents
        split at hcontents
        · next hlook =>
          obtain rfl := Except.ok.inj hcontents
          exact .file hlook
        all_goals cases hcontents
      · cases h
    · next hno =>
      obtain rfl := Except.ok.inj h
      refine .text fun hhead => ?_
      obtain ⟨path, hpath⟩ := List.head?_eq_some_iff.1 hhead
      exact hno path hpath
  · intro h
    cases h with
    | text hhead =>
      unfold readBody
      split
      · next path hpath =>
        rw [hpath] at hhead
        exact absurd rfl hhead
      · rfl
    | @file path contents hlook =>
      have hlist : ("@" ++ path).toList = '@' :: path.toList := by simp
      have hread : ws.read path = .ok contents := by rw [Workspace.read, hlook]
      simp only [readBody, hlist, String.ofList_toList, hread]

/-- A message that can be sent: its target has a host and is an address of HTTP, and its headers
have names and values that may be sent. -/
structure Sendable (m : HttpMessage) : Prop where
  host : m.target.host.isSome = true
  headers : (m.headers.all fun header => isName header.1 && isValue header.2) = true
  address : isAddress m.target = true

/-- What stands behind a check is reached where the check finds nothing. -/
theorem guarded_eq_ok_iff {ε α : Type} {p : Prop} [Decidable p] {e : ε} {x : Except ε α} {a : α} :
    (if p then .error e else x) = .ok a ↔ ¬ p ∧ x = .ok a := by
  by_cases hp : p
  · simp [hp]
  · simp [hp]

/-- **The message of a request** has the request's parts, and can be sent. -/
theorem ofRequest_eq_ok_iff {ws : Workspace} {r : Request} {m : HttpMessage} :
    ofRequest ws r = .ok m ↔
      Url.ofText? r.target = some m.target ∧ BodyStandsFor ws r.body m.body ∧
        m.headers = r.headers ∧ m.unchecked = r.insecure ∧ m.Sendable := by
  rw [← readBody_eq_ok_iff]
  unfold ofRequest
  cases hbody : readBody ws r.body with
  | error fault => simp [bind, Except.bind]
  | ok body =>
    cases htarget : Url.ofText? r.target with
    | none => simp [bind, Except.bind, throw, throwThe, MonadExceptOf.throw]
    | some target =>
      simp only [bind, Except.bind, throw, throwThe, MonadExceptOf.throw, guarded_eq_ok_iff, pure,
        Except.pure]
      constructor
      · rintro ⟨hhost, hheaders, haddress, hm⟩
        obtain rfl := Except.ok.inj hm
        refine ⟨rfl, rfl, rfl, rfl, ?_, ?_, ?_⟩
        · exact Option.isSome_iff_ne_none.2 (by simpa using hhost)
        · simpa using hheaders
        · simpa using haddress
      · rintro ⟨htarget, hbody, hheaders, hunchecked, hhost, hall, haddress⟩
        obtain rfl := Option.some.inj htarget
        obtain rfl := Except.ok.inj hbody
        rw [hheaders] at hall
        refine ⟨?_, ?_, ?_, ?_⟩
        · simpa [Option.isSome_iff_ne_none] using hhost
        · simpa using hall
        · simpa using haddress
        · rw [← hheaders, ← hunchecked]

end HttpMessage

/-! ## Both carry the same -/

namespace CurlCall

/-- A call asks for what a request has. -/
structure Renders (call : CurlCall) (r : Request) : Prop where
  url : call.urls = [r.target]
  body : call.bodies = [r.body]
  unchecked : call.unchecked = r.insecure
  headers : List.Forall₂ HeaderSplits call.headerLines r.headers
  tokenLast : ∀ token, r.token = some token →
    call.headerLines.getLast? = some ("Authorization: Bearer " ++ token)

/-- A call asks for a message: for its target, its body, its headers one by one, and for
certificates to go unchecked or not. -/
structure Asks (ws : Workspace) (call : CurlCall) (m : HttpMessage) : Prop where
  target : ∃ url, call.urls = [url] ∧ Url.ofText? url = some m.target
  body : ∃ data, call.bodies = [data] ∧ BodyStandsFor ws data m.body
  headers : List.Forall₂ HeaderSplits call.headerLines m.headers
  unchecked : call.unchecked = m.unchecked

/-- The call for a request asks for what the request has. -/
theorem renders_ofRequest (r : Request) : (ofRequest r).Renders r where
  url := rfl
  body := rfl
  unchecked := rfl
  headers := r.forall₂_headers
  tokenLast := fun _ htoken => Request.getLast?_headerLines htoken

/-- A call that renders a request asks for the message of the request, if it can be sent, and for
no other. -/
theorem Renders.asks_iff {call : CurlCall} {r : Request} (h : call.Renders r) {ws : Workspace}
    {m : HttpMessage} : call.Asks ws m ∧ m.Sendable ↔ HttpMessage.ofRequest ws r = .ok m := by
  rw [HttpMessage.ofRequest_eq_ok_iff]
  constructor
  · rintro ⟨⟨⟨url, hurl, htarget⟩, ⟨data, hdata, hbody⟩, hheaders, hunchecked⟩, hsendable⟩
    obtain rfl := List.singleton_inj.1 (h.url.symm.trans hurl)
    obtain rfl := List.singleton_inj.1 (h.body.symm.trans hdata)
    exact ⟨htarget, hbody, HeaderSplits.unique_list hheaders h.headers,
      hunchecked.symm.trans h.unchecked, hsendable⟩
  · rintro ⟨htarget, hbody, hheaders, hunchecked, hsendable⟩
    exact ⟨⟨⟨_, h.url, htarget⟩, ⟨_, h.body, hbody⟩, hheaders ▸ h.headers,
      h.unchecked.trans hunchecked.symm⟩, hsendable⟩

/-- The target of a request for HTTP begins like a scheme and not like an option. -/
theorem head?_target (e : Entry) (target : Target) (q : Query) :
    (e.request .http target q).target.toList.head? = some 'h' := by
  show (target.httpUrl _).toList.head? = _
  unfold Target.httpUrl
  cases target.scheme <;> simp [Scheme.name]

/-- **The command line and the message carry the same.** For every entry, target and query, the
whole command line is read, and it says what the request has: one address, one body, the header
lines as they are split for the message, with the token's line last, and whether certificates go
unchecked. So the message that is sent without a program is the one that can be sent of those that
the command line asks for. -/
theorem ofCommandLine?_commandLine (ps : Programs) (ws : Workspace) (e : Entry) (target : Target)
    (q : Query) :
    ∃ call, ofCommandLine? (ps.commandLine (e.request .http target q)) = some call ∧
      call.Renders (e.request .http target q) ∧
      (∀ m, call.Asks ws m ∧ m.Sendable ↔
        HttpMessage.ofRequest ws (e.request .http target q) = .ok m) ∧
      ∀ network count m, HttpMessage.ofRequest ws (e.request .http target q) = .ok m →
        (Transport.http ws network).reply count (e.request .http target q) = network count m := by
  -- The proof does not look into the request but at its protocol and the head of its target.
  have hprotocol : (e.request .http target q).protocol = .http := rfl
  have hhead : (e.request .http target q).target.toList.head? ≠ some '-' := by
    rw [head?_target]
    decide
  generalize e.request .http target q = r at hprotocol hhead
  refine ⟨ofRequest r, ?_, renders_ofRequest r, fun m => (renders_ofRequest r).asks_iff, ?_⟩
  · rw [Programs.commandLine, Programs.args, hprotocol]
    exact ofWords?_curlArgs hhead
  · intro network count m hm
    simp only [Transport.http, hprotocol, hm]

/-- An entry whose body and header look like options. -/
def hyphenEntry : Entry :=
  { endpoint := "/v1", header := " -H : a:b ", body := "--insecure" }

/-- A question about that entry, with a token that looks like an option. -/
def hyphenQuery : Query :=
  { model := "m", token := some "-d", insecure := true }

/-- The message for that question to a host. -/
def hyphenMessage : HttpMessage where
  target :=
    { scheme := "https", hasAuthority := true, host := some (.address128 [0, 0, 0, 0, 0, 0, 0, 1]),
      port := none, path := ['/', 'v', '1'], query := none, fragment := none }
  headers := [("-H", "a:b"), ("Authorization", "Bearer -d")]
  body := "--insecure"
  unchecked := true

/-- Words that look like options are read as what they are. -/
theorem ofCommandLine?_commandLine_hyphenEntry :
    ∃ call, ofCommandLine? (Programs.commandLine {}
        (hyphenEntry.request .http { host := "[::1]" } hyphenQuery)) = some call ∧
      call.urls = ["https://[::1]/v1"] ∧ call.bodies = ["--insecure"] ∧ call.unchecked = true ∧
      call.headerLines.getLast? = some "Authorization: Bearer -d" ∧ call.Asks {} hyphenMessage := by
  obtain ⟨call, hcall, hrenders, hasks, -⟩ :=
    ofCommandLine?_commandLine {} {} hyphenEntry { host := "[::1]" } hyphenQuery
  have hmessage : HttpMessage.ofRequest {}
      (hyphenEntry.request .http { host := "[::1]" } hyphenQuery) = .ok hyphenMessage := by
    decide +kernel
  have hurl : (hyphenEntry.request .http { host := "[::1]" } hyphenQuery).target =
      "https://[::1]/v1" := by
    decide +kernel
  have hbody : (hyphenEntry.request .http { host := "[::1]" } hyphenQuery).body =
      "--insecure" := by
    decide +kernel
  refine ⟨call, hcall, ?_, ?_, hrenders.unchecked, hrenders.tokenLast "-d" rfl,
    ((hasks hyphenMessage).2 hmessage).1⟩
  · rw [hrenders.url, hurl]
  · rw [hrenders.body, hbody]

end CurlCall

end ModelProbe
