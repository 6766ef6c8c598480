import Mathlib.Data.List.TakeWhile
import ModelProbe.Proofs.Host.Text
import ModelProbe.Proofs.Text.Digits
import ModelProbe.Protocol
import ModelProbe.Url
/-!
# The place that an address names

An address of a server, as it is written: its scheme, the text of its host, and its port, if one
is written. Reading the address drops the port that is the scheme's own, and brings the host to
its normal form; the place keeps both.

* `exists_place?`: what is read of an address, by its place.
* `place?_authorityText`: the place of an address that is put together from a scheme and a host.
-/

namespace ModelProbe

namespace Scheme

/-- The port of addresses without one. -/
def port : Scheme → Nat
  | https => 443
  | http => 80

/-- Reads a scheme's name in lower case. -/
def ofName? (name : String) : Option Scheme :=
  [https, http].find? fun scheme => scheme.name = name

theorem ofName?_name (scheme : Scheme) : ofName? scheme.name = some scheme := by
  cases scheme <;> decide

theorem schemeKind_name (scheme : Scheme) : Url.schemeKind scheme.name = .known scheme.port := by
  cases scheme <;> rfl

end Scheme

namespace Url

/-! ## Places -/

/-- Where an address leads. -/
structure Place where
  scheme : Scheme
  /-- The text of the host. -/
  host : List Char
  /-- The port that is written, also when it is the scheme's own. -/
  port : Option Nat
  deriving DecidableEq, Repr

/-- The port at which the place is reached: the one that is written, else the scheme's own. -/
def Place.reachedPort (place : Place) : Nat := place.port.getD place.scheme.port

/-- Reads the port after a host. -/
def readPortAfter? : List Char → Option (Option Nat)
  | [] => some none
  | _ :: digits => (readPort? digits).map Prod.fst

/-- The place of an authority. -/
def placeOf? (scheme : Scheme) (authority : List Char) : Option Place :=
  let parts := splitHost false (splitUser authority).2
  (readPortAfter? parts.2).map fun port => ⟨scheme, parts.1, port⟩

/-- The place of an address whose scheme is HTTP or HTTPS. -/
def place? (s : String) : Option Place := do
  let parts ← splitScheme? (cleaned s.toList)
  let scheme ← Scheme.ofName? parts.1
  placeOf? scheme ((parts.2.dropWhile (isSlash true)).takeWhile fun c => !endsAuthority true c)

/-! ## What is read -/

theorem known_bne_known (m n : Nat) :
    (SchemeKind.known m != SchemeKind.known n) = decide (n ≠ m) := by
  by_cases h : n = m
  · simp [h]
  · have hne : SchemeKind.known m ≠ SchemeKind.known n := fun hk =>
      h (SchemeKind.known.inj hk).symm
    simp [h, hne]

/-- An authority that is read has a place. Its host is that of the place, and its port too unless
that is the scheme's own. -/
theorem exists_placeOf? {scheme : Scheme} {s rest : List Char} {a : Authority}
    (ha : readAuthority? (.known scheme.port) s = some (a, rest)) :
    ∃ place host, placeOf? scheme (s.takeWhile fun c => !endsAuthority true c) = some place ∧
      place.scheme = scheme ∧ a.host = some host ∧ Host.ofDomain? place.host = some host ∧
      a.port = place.port.filter fun n => n ≠ scheme.port := by
  unfold readAuthority? at ha
  unfold placeOf?
  simp only [SchemeKind.isSpecial, Bool.true_or, if_true, Option.bind_eq_bind,
    known_bne_known] at ha ⊢
  generalize splitHost false
    (splitUser (s.takeWhile fun c => !endsAuthority true c)).2 = parts at ha ⊢
  split at ha
  · simp at ha
  · obtain ⟨host, hhost, ha⟩ := Option.bind_eq_some_iff.1 ha
    -- With a colon after the host, the port is read from what stands behind it.
    split at ha
    · next colon digits hparts =>
      obtain ⟨read, hread, ha⟩ := Option.bind_eq_some_iff.1 ha
      obtain ⟨rfl, -⟩ := Prod.mk.inj (Option.some.inj ha)
      have hport : readPortAfter? parts.2 = some read.1 := by
        rw [hparts, readPortAfter?, hread, Option.map_some]
      exact ⟨⟨scheme, parts.1, read.1⟩, host, by rw [hport]; rfl, rfl, rfl, hhost, rfl⟩
    · next hparts =>
      obtain ⟨rfl, -⟩ := Prod.mk.inj (Option.some.inj ha)
      have hport : readPortAfter? parts.2 = some none := by rw [hparts, readPortAfter?]
      exact ⟨⟨scheme, parts.1, none⟩, host, by rw [hport]; rfl, rfl, rfl, hhost, rfl⟩

/-- The scheme of an address is what stands before its first colon, in lower case. -/
theorem exists_splitScheme? {s : String} {url : Url} (hurl : ofText? s = some url) :
    ∃ rest, splitScheme? (cleaned s.toList) = some (url.scheme, rest) := by
  unfold ofText? at hurl
  obtain ⟨⟨mark, rest⟩, hparts, hurl⟩ := Option.bind_eq_some_iff.1 hurl
  refine ⟨rest, ?_⟩
  suffices hmark : url.scheme = mark by rw [hparts, hmark]
  have hmade : ∀ {hasAuthority hasNames : Bool} {a : Authority} {rest : List Char},
      some (ofParts mark hasAuthority hasNames a rest) = some url → url.scheme = mark := by
    intro _ _ _ _ h
    rw [← Option.some.inj h]
    rfl
  -- Whatever kind of scheme it is, the parts are put together with it at the end.
  dsimp only at hurl
  split at hurl
  · obtain ⟨_, -, hurl⟩ := Option.bind_eq_some_iff.1 hurl
    exact hmade hurl
  · split at hurl
    · obtain ⟨_, -, hurl⟩ := Option.bind_eq_some_iff.1 hurl
      exact hmade hurl
    · exact hmade hurl
  · exact hmade hurl
  · obtain ⟨_, -, hurl⟩ := Option.bind_eq_some_iff.1 hurl
    exact hmade hurl
  · exact hmade hurl
  · exact hmade hurl

/-- An HTTP or HTTPS address that is read has a place. Its host is that of the place, and its port
too unless that is the scheme's own. -/
theorem exists_place? {s : String} {url : Url} {scheme : Scheme} (hurl : ofText? s = some url)
    (hscheme : url.scheme = scheme.name) :
    ∃ place host, place? s = some place ∧ place.scheme = scheme ∧ url.host = some host ∧
      Host.ofDomain? place.host = some host ∧
      url.port = place.port.filter fun n => n ≠ scheme.port := by
  obtain ⟨rest, hparts⟩ := exists_splitScheme? hurl
  rw [hscheme] at hparts
  unfold ofText? at hurl
  simp only [Option.bind_eq_bind, hparts, Option.bind_some, Scheme.schemeKind_name] at hurl
  obtain ⟨read, hread, hurl⟩ := Option.bind_eq_some_iff.1 hurl
  obtain rfl := Option.some.inj hurl
  obtain ⟨place, host, hplace, hscheme, hhost, hdomain, hport⟩ := exists_placeOf? hread
  refine ⟨place, host, ?_, hscheme, hhost, hdomain, hport⟩
  simp only [place?, Option.bind_eq_bind, hparts, Option.bind_some, Scheme.ofName?_name, hplace]

-- Reading drops the scheme's own port, and the place keeps it.
example : (ofText? "http://[::1]:80/v1").map Url.port = some none ∧
    (place? "http://[::1]:80/v1").map Place.port = some (some 80) := by decide +kernel

/-- Ports have 16 bits. -/
theorem lt_of_readPort? {s rest : List Char} {n : Nat} (h : readPort? s = some (some n, rest)) :
    n < 65536 := by
  rw [readPort?] at h
  obtain ⟨hfits, h⟩ := Option.ite_none_left_eq_some.1 h
  rw [Bool.or_eq_true, not_or, decide_eq_true_eq] at hfits
  obtain ⟨hread, -⟩ := Prod.mk.inj (Option.some.inj h)
  obtain ⟨-, hread⟩ := Option.ite_none_left_eq_some.1 hread
  obtain rfl := Option.some.inj hread
  omega

theorem lt_of_mem_port {s : String} {place : Place} (hplace : place? s = some place) :
    ∀ n ∈ place.port, n < 65536 := by
  unfold place? at hplace
  obtain ⟨parts, -, hplace⟩ := Option.bind_eq_some_iff.1 hplace
  obtain ⟨scheme, -, hplace⟩ := Option.bind_eq_some_iff.1 hplace
  obtain ⟨port, hport, rfl⟩ := Option.map_eq_some_iff.1 hplace
  intro n hn
  obtain rfl : port = some n := hn
  rw [readPortAfter?.eq_def] at hport
  split at hport
  · cases hport
  · obtain ⟨⟨_, rest⟩, hread, rfl⟩ := Option.map_eq_some_iff.1 hport
    exact lt_of_readPort? hread

/-! ## Addresses that are put together -/

/-- A host and a port as they are written. -/
def authorityText (host : List Char) : Option Nat → List Char
  | none => host
  | some port => host ++ ':' :: Nat.toDigits 10 port

theorem authorityText_ne_nil {host : List Char} (hhost : Host.IsText host) (port : Option Nat) :
    authorityText host port ≠ [] := by
  cases port with
  | none => exact hhost.ne_nil
  | some port => simp [authorityText]

/-- What is kept of an address are its host and its port. -/
theorem hostText_eq {url : Url} {host : Host} (hhost : url.host = some host) :
    url.hostText = authorityText host.text url.port := by
  rw [hostText, hhost]
  cases url.port with
  | none => simp [authorityText]
  | some port => rfl

theorem ofList_authorityText (host : List Char) (port : Nat) :
    String.ofList (authorityText host (some port)) =
      String.ofList host ++ ":" ++ toString port := by
  rw [← String.toList_inj, Nat.toString_eq_ofList_toDigits]
  simp [authorityText]

/-- Outside of brackets a colon ends the host. -/
theorem splitHost_clean {s : List Char} (hs : Host.Clean s) {after : List Char}
    (hafter : after.head?.all (· == ':') = true) : splitHost false (s ++ after) = (s, after) := by
  induction s with
  | nil =>
    cases after with
    | nil => rfl
    | cons c after =>
      obtain rfl : c = ':' := by simpa using hafter
      rfl
  | cons c s ih =>
    obtain ⟨hc, hs⟩ := List.forall_mem_cons.1 hs
    have hcolon : c ≠ ':' := Host.ne_of_not_isForbidden hc (by decide)
    have hopen : c ≠ '[' := Host.ne_of_not_isForbidden hc (by decide)
    have hclose : c ≠ ']' := Host.ne_of_not_isForbidden hc (by decide)
    rw [List.cons_append, splitHost, if_neg (by simp [hcolon])]
    simp only [if_neg hopen, if_neg hclose, ih hs]

/-- In brackets a colon belongs to the host. -/
theorem splitHost_brackets {s : List Char} (hs : ∀ c ∈ s, c = ':' ∨ Host.isForbidden c = false)
    {after : List Char} (hafter : after.head?.all (· == ':') = true) :
    splitHost true (s ++ ']' :: after) = (s ++ [']'], after) := by
  induction s with
  | nil =>
    have hrest := splitHost_clean Host.clean_nil hafter
    simp only [List.nil_append] at hrest ⊢
    rw [splitHost, if_neg (by simp)]
    simp [hrest]
  | cons c s ih =>
    obtain ⟨hc, hs⟩ := List.forall_mem_cons.1 hs
    have hopen : c ≠ '[' := by
      rintro rfl
      exact absurd hc (by decide)
    have hclose : c ≠ ']' := by
      rintro rfl
      exact absurd hc (by decide)
    rw [List.cons_append, splitHost, if_neg (by simp)]
    simp only [if_neg hopen, if_neg hclose, ih hs, List.cons_append]

/-- A colon after the text of a host ends it. -/
theorem splitHost_append {s : List Char} (hs : Host.IsText s) {after : List Char}
    (hafter : after.head?.all (· == ':') = true) : splitHost false (s ++ after) = (s, after) := by
  cases hs with
  | bare _ clean => exact splitHost_clean clean hafter
  | @bracketed s clean =>
    have hrest := splitHost_brackets clean hafter
    rw [List.append_assoc, List.singleton_append, List.cons_append, splitHost,
      if_neg (by simp)]
    simp [hrest]

/-- A host and a port have characters of hosts only. -/
theorem isTextChar_authorityText {host : List Char} (hhost : Host.IsText host)
    (port : Option Nat) : ∀ c ∈ authorityText host port, Host.IsTextChar c := by
  cases port with
  | none => exact hhost.isTextChar
  | some port =>
    refine List.forall_mem_append.2 ⟨hhost.isTextChar, List.forall_mem_cons.2 ⟨?_, ?_⟩⟩
    · exact Or.inr (Or.inl rfl)
    · exact fun c hc => Or.inl (Host.clean_toDigits (by decide) (by decide) port c hc)

/-- The port that is read after a host is the one that is written there. -/
theorem placeOf?_authorityText (scheme : Scheme) {host : List Char} (hhost : Host.IsText host)
    {port : Option Nat} (hport : ∀ n ∈ port, n < 65536) :
    placeOf? scheme (authorityText host port) = some ⟨scheme, host, port⟩ := by
  have hat : '@' ∉ authorityText host port := fun h =>
    (isTextChar_authorityText hhost port '@' h).ne (by decide) (by decide) (by decide) (by decide) rfl
  rw [placeOf?, splitUser, Text.splitLast?_eq_none_iff.2 hat, Option.getD_none]
  cases port with
  | none =>
    have hsplit : splitHost false (host ++ []) = (host, []) := splitHost_append hhost rfl
    rw [List.append_nil] at hsplit
    simp only [authorityText, hsplit]
    rfl
  | some port =>
    have hsplit : splitHost false (host ++ ':' :: Nat.toDigits 10 port) =
        (host, ':' :: Nat.toDigits 10 port) := splitHost_append hhost rfl
    have hdigits : (Nat.toDigits 10 port).takeWhile Char.isDigit = Nat.toDigits 10 port :=
      List.takeWhile_eq_self_iff.2 Text.isDigit_of_mem_toDigits
    have hsmall : ¬ 65535 < port := by
      have := hport port rfl
      omega
    have hread : readPort? (Nat.toDigits 10 port) = some (some port, []) := by
      rw [readPort?]
      simp [hdigits, Text.digitsValue_toDigits, hsmall]
    simp only [authorityText, hsplit, readPortAfter?, hread]
    rfl

/-- A text without blanks and controls stays at the front when what surrounds an address is cut
off. -/
theorem exists_cleaned_append {s : List Char} (hne : s ≠ []) (hs : ∀ c ∈ s, 32 < c.toNat)
    (tail : List Char) : ∃ rest, cleaned (s ++ tail) = s ++ rest := by
  -- Nothing is cut off at the start, and at the end the cut does not reach the text.
  have hstart : (s ++ tail).dropWhile (fun c => decide (c.toNat ≤ 32)) = s ++ tail := by
    cases s with
    | nil => exact absurd rfl hne
    | cons c s =>
      have hc : ¬ c.toNat ≤ 32 := Nat.not_le.2 (hs c List.mem_cons_self)
      rw [List.cons_append, List.dropWhile_cons_of_neg (by simpa using hc)]
  have hstop : s.reverse.dropWhile (fun c => decide (c.toNat ≤ 32)) = s.reverse := by
    rw [List.dropWhile_eq_self_iff]
    intro hpos
    have := hs _ (List.mem_reverse.1 (List.getElem_mem hpos))
    simpa using this
  have hkept : s.filter (fun c => c != '\t' && c != '\n' && c != '\r') = s := by
    rw [List.filter_eq_self]
    intro c hc
    have hlow := hs c hc
    simp only [Bool.and_eq_true, bne_iff_ne]
    refine ⟨⟨?_, ?_⟩, ?_⟩ <;> rintro rfl <;> exact absurd hlow (by decide)
  rw [cleaned, hstart, List.reverse_append, List.dropWhile_append, hstop]
  split
  · exact ⟨[], by rw [List.reverse_reverse, hkept, List.append_nil]⟩
  · rw [List.reverse_append, List.reverse_reverse, List.filter_append, hkept]
    exact ⟨_, rfl⟩

/-- What stands before the first colon of an address that is put together is its scheme. -/
theorem splitScheme?_name (scheme : Scheme) (rest : List Char) :
    splitScheme? (scheme.name.toList ++ ':' :: rest) = some (scheme.name, rest) := by
  cases scheme <;> rfl

/-- The characters of hosts do not end an authority. -/
theorem not_endsAuthority {c : Char} (hc : Host.IsTextChar c) : endsAuthority true c = false := by
  have hslash : c ≠ '/' := hc.ne (by decide) (by decide) (by decide) (by decide)
  have hbackslash : c ≠ '\\' := hc.ne (by decide) (by decide) (by decide) (by decide)
  have hquery : c ≠ '?' := hc.ne (by decide) (by decide) (by decide) (by decide)
  have hfragment : c ≠ '#' := hc.ne (by decide) (by decide) (by decide) (by decide)
  simp [endsAuthority, isSlash, hslash, hbackslash, hquery, hfragment]

/-- The authority of an address ends at the slash after it. -/
theorem takeWhile_authorityText {host : List Char} (hhost : Host.IsText host) (port : Option Nat)
    (rest : List Char) :
    (('/' :: '/' :: (authorityText host port ++ '/' :: rest)).dropWhile (isSlash true)).takeWhile
      (fun c => !endsAuthority true c) = authorityText host port := by
  have hkept : ∀ c ∈ authorityText host port, endsAuthority true c = false :=
    fun c hc => not_endsAuthority (isTextChar_authorityText hhost port c hc)
  have hslashes : ('/' :: '/' :: (authorityText host port ++ '/' :: rest)).dropWhile
      (isSlash true) = authorityText host port ++ '/' :: rest := by
    obtain ⟨c, authority, hc⟩ := List.exists_cons_of_ne_nil (authorityText_ne_nil hhost port)
    have hslash : isSlash true c = false := by
      have hc := hkept c (by rw [hc]; exact List.mem_cons_self)
      simp only [endsAuthority, Bool.or_eq_false_iff] at hc
      exact hc.1.1
    rw [hc, List.cons_append, List.dropWhile_cons_of_pos rfl, List.dropWhile_cons_of_pos rfl,
      List.dropWhile_cons_of_neg (by simp [hslash])]
  rw [hslashes, List.takeWhile_append_of_pos (fun c hc => by simp [hkept c hc])]
  simp [endsAuthority, isSlash]

/-- The place of an address that is put together. -/
theorem place?_authorityText (scheme : Scheme) {host : List Char} (hhost : Host.IsText host)
    {port : Option Nat} (hport : ∀ n ∈ port, n < 65536) (tail : List Char) :
    place? (scheme.name ++ "://" ++ String.ofList (authorityText host port) ++ "/" ++
      String.ofList tail) = some ⟨scheme, host, port⟩ := by
  let start := scheme.name.toList ++ ':' :: '/' :: '/' :: (authorityText host port ++ ['/'])
  have hchars : (scheme.name ++ "://" ++ String.ofList (authorityText host port) ++ "/" ++
      String.ofList tail).toList = start ++ tail := by
    simp [start]
  have hstart : ∀ c ∈ start, 32 < c.toNat := by
    have hscheme : scheme.name.toList.all (fun c => 32 < c.toNat) = true := by
      cases scheme <;> decide
    have hauthority : ∀ c ∈ authorityText host port, 32 < c.toNat := fun c hc =>
      (isTextChar_authorityText hhost port c hc).lt_toNat
    simp only [start, List.forall_mem_append, List.forall_mem_cons]
    exact ⟨fun c hc => of_decide_eq_true (List.all_eq_true.1 hscheme c hc), by decide, by decide,
      by decide, hauthority, by decide, by simp⟩
  have hne : start ≠ [] := by simp [start]
  obtain ⟨rest, hrest⟩ := exists_cleaned_append hne hstart tail
  have hparts : splitScheme? (start ++ rest) =
      some (scheme.name, '/' :: '/' :: (authorityText host port ++ '/' :: rest)) := by
    rw [← splitScheme?_name]
    simp [start]
  simp only [place?, Option.bind_eq_bind, hchars, hrest, hparts, Option.bind_some,
    Scheme.ofName?_name, takeWhile_authorityText hhost, placeOf?_authorityText scheme hhost hport]

end Url

end ModelProbe
