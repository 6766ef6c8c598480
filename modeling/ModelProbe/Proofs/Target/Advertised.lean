import ModelProbe.Proofs.Url.Place
import ModelProbe.Status
/-!
# The port of an advertised address

A serving status advertises the address of its predictor. Of this address only the host and the
port are kept, and the port only if it is not the scheme's own: then requests go to the port that
gRPC falls back to, or to that of the scheme they are sent with.

* `splitPort?_authorityText`: a host with a port is split again.
* `ofStatus_advertised`: the port that requests go to.
-/

namespace ModelProbe

namespace Target

/-! ## Hosts with ports -/

/-- A host with a port is split again. -/
theorem splitPort?_authorityText (host : List Char) {port : Nat} (hport : port < 65536) :
    splitPort? (String.ofList (Url.authorityText host (some port))) =
      some (String.ofList host, port.toUInt16) := by
  have hcolon : ':' ∉ Nat.toDigits 10 port := fun h =>
    absurd (Text.isDigit_of_mem_toDigits ':' h) (by decide)
  have hread : Text.readUInt16? (Nat.toDigits 10 port) = some port.toUInt16 := by
    have hdigits := Text.readUInt16?_toDigits port.toUInt16
    rwa [UInt16.toNat_ofNat_of_lt' hport] at hdigits
  unfold splitPort?
  simp [Url.authorityText, Text.splitLast?_append host hcolon, hread]

/-- A host alone has no port: what stands behind the last colon of an address of 128 bits ends with
a bracket. -/
theorem splitPort?_of_isText {host : List Char} (hhost : Host.IsText host) :
    splitPort? (String.ofList host) = none := by
  unfold splitPort?
  rw [String.toList_ofList]
  cases hhost with
  | bare _ clean =>
    have hcolon : ':' ∉ host := fun h => absurd (clean ':' h) (by decide)
    rw [Text.splitLast?_eq_none_iff.2 hcolon]
    rfl
  | @bracketed s _ =>
    cases hsplit : Text.splitLast? ':' ('[' :: s ++ [']']) with
    | none => rfl
    | some parts =>
      obtain ⟨name, port⟩ := parts
      have hparts := Text.splitLast?_eq_some hsplit
      have hlast : (':' :: port).getLast? = some ']' := by
        have hends := congrArg List.getLast? hparts
        rw [List.getLast?_append, List.getLast?_append] at hends
        simpa using hends.symm
      have hbracket : ']' ∈ port := by
        have hmem := List.mem_of_getLast? hlast
        simpa using hmem
      have hread : Text.readUInt16? port = none := by
        cases hport : Text.readUInt16? port with
        | none => rfl
        | some n => exact absurd (Text.isDigit_of_readUInt16? hport ']' hbracket) (by decide)
      simp [hread]

section Told

variable {t : Target} {host : List Char} {port : Option Nat}

/-- gRPC goes to the port that the host has, else to the one that it falls back to. -/
theorem grpcAuthority_authorityText (hhost : Host.IsText host) (hsmall : ∀ n ∈ port, n < 65536)
    (htext : t.host = String.ofList (Url.authorityText host port)) (hport : t.port = none) :
    t.grpcAuthority =
      String.ofList host ++ ":" ++ toString (port.getD t.defaultPort.toNat) := by
  unfold grpcAuthority
  cases port with
  | none =>
    rw [hport, htext, Url.authorityText, splitPort?_of_isText hhost]
    rfl
  | some n =>
    rw [hport, htext, splitPort?_authorityText host (hsmall n rfl)]
    exact Url.ofList_authorityText host n

/-- An HTTP address has the host of its target, and its port. -/
theorem place?_httpUrl (hhost : Host.IsText host) (hsmall : ∀ n ∈ port, n < 65536)
    (htext : t.host = String.ofList (Url.authorityText host port)) (hport : t.port = none)
    (endpoint : String) : Url.place? (t.httpUrl endpoint) = some ⟨t.scheme, host, port⟩ := by
  rw [httpUrl, httpAuthority, hport, htext]
  exact Url.place?_authorityText t.scheme hhost hsmall _

end Told

/-! ## Advertised addresses -/

/-- The target with a port that gRPC falls back to and a scheme. -/
def configured (t : Target) (defaultPort : UInt16) (scheme : Scheme) : Target :=
  { t with defaultPort := defaultPort, scheme := scheme }

/-- **The port that requests go to.** It is the port of the address that a service advertises, unless
that is the own port of the address's scheme: then gRPC goes to the port that it falls back to, and
HTTP to the own port of the scheme with which requests are sent. -/
theorem ofStatus_advertised {status : ServingStatus} {raw : String} {url : Url} {own : Scheme}
    {p : Nat} (hraw : status.predictorUrl? = some raw) (hurl : Url.ofText? raw = some url)
    (hown : url.scheme = own.name) (hport : (Url.place? raw).bind Url.Place.port = some p) :
    ∃ host told, url.host = some host ∧ ofStatus status = .ok told ∧ told.port = none ∧
      ∀ (defaultPort : UInt16) (scheme : Scheme),
        (told.configured defaultPort scheme).grpcAuthority = String.ofList host.text ++ ":" ++
          toString (if p = own.port then defaultPort.toNat else p) ∧
        ∀ endpoint, ∃ place,
          Url.place? ((told.configured defaultPort scheme).httpUrl endpoint) = some place ∧
            place.scheme = scheme ∧ place.host = host.text ∧
            place.reachedPort = if p = own.port then scheme.port else p := by
  obtain ⟨place, host, hplace, -, hhost, hdomain, hkept⟩ := Url.exists_place? hurl hown
  rw [hplace, Option.bind_some] at hport
  have hsmall : ∀ n ∈ url.port, n < 65536 := by
    rw [hkept]
    exact fun n hn => Url.lt_of_mem_port hplace n (Option.eq_some_of_filter_eq_some hn)
  have htext : Host.IsText host.text := Host.isText_of_ofDomain? hdomain
  have hnetloc : Url.netloc? raw = some (String.ofList (Url.authorityText host.text url.port)) := by
    rw [Url.netloc?, hurl, ← Url.hostText_eq hhost]
    simp [hhost]
  let told : Target := { host := String.ofList (Url.authorityText host.text url.port) }
  have htold : ofStatus status = .ok told := by
    rw [ofStatus, ServingStatus.hostOf, hraw, Option.bind_some, hnetloc]
    rfl
  refine ⟨host, told, hhost, htold, rfl, fun defaultPort scheme => ⟨?_, fun endpoint => ?_⟩⟩
  · rw [grpcAuthority_authorityText htext hsmall rfl rfl, hkept, hport]
    by_cases hp : p = own.port <;> simp [hp, Option.filter_some, configured]
  · refine ⟨_, place?_httpUrl htext hsmall rfl rfl endpoint, rfl, rfl, ?_⟩
    rw [Url.Place.reachedPort, hkept, hport]
    by_cases hp : p = own.port <;> simp [hp, Option.filter_some, configured]

/-- A service that is reached on the local host, at a port that is not the own one of HTTP. -/
def loopbackStatus : ServingStatus := { predictor := some "http://[::1]:8080/v1" }

/-- What is read of the address of `loopbackStatus`. -/
def loopbackUrl : Url where
  scheme := "http"
  hasAuthority := true
  host := some (.address128 [0, 0, 0, 0, 0, 0, 0, 1])
  port := some 8080
  path := ['/', 'v', '1']
  query := none
  fragment := none

/-- Whatever the settings say, requests for `loopbackStatus` go to the port that it advertises. -/
theorem ofStatus_advertised_loopback :
    ∃ told, ofStatus loopbackStatus = .ok told ∧
      ∀ (defaultPort : UInt16) (scheme : Scheme),
        (told.configured defaultPort scheme).grpcAuthority = "[::1]:8080" ∧
        ∀ endpoint, ∃ place,
          Url.place? ((told.configured defaultPort scheme).httpUrl endpoint) = some place ∧
            place.reachedPort = 8080 := by
  have hraw : loopbackStatus.predictorUrl? = some "http://[::1]:8080/v1" := by decide +kernel
  have hurl : Url.ofText? "http://[::1]:8080/v1" = some loopbackUrl := by decide +kernel
  have hport : (Url.place? "http://[::1]:8080/v1").bind Url.Place.port = some 8080 := by
    decide +kernel
  have hown : loopbackUrl.scheme = Scheme.http.name := rfl
  obtain ⟨host, told, hhost, htold, -, hreached⟩ :=
    ofStatus_advertised hraw hurl hown hport
  obtain rfl : Host.address128 [0, 0, 0, 0, 0, 0, 0, 1] = host := Option.some.inj hhost
  refine ⟨told, htold, fun defaultPort scheme => ?_⟩
  obtain ⟨hgrpc, hhttp⟩ := hreached defaultPort scheme
  have hport_ne : ¬ 8080 = Scheme.http.port := by decide
  rw [if_neg hport_ne] at hgrpc
  refine ⟨hgrpc.trans (by decide +kernel), fun endpoint => ?_⟩
  obtain ⟨place, hplace, -, -, hreachedPort⟩ := hhttp endpoint
  rw [if_neg hport_ne] at hreachedPort
  exact ⟨place, hplace, hreachedPort⟩

/-- A service that advertises the own port of HTTP is reached neither there by gRPC nor, over TLS,
by HTTP. -/
theorem ofStatus_ownPort :
    (Url.ofText? "http://[::1]:80").map Url.scheme = some Scheme.http.name ∧
      (Url.place? "http://[::1]:80").bind Url.Place.port = some 80 ∧
      ∃ told, ofStatus { predictor := some "http://[::1]:80" } = .ok told ∧ told.port = none ∧
        (told.configured 8033 .https).grpcAuthority = "[::1]:8033" ∧
        (told.configured 8033 .https).httpUrl "v1" = "https://[::1]/v1" ∧
        (Url.place? "https://[::1]/v1").map Url.Place.reachedPort = some 443 := by
  refine ⟨by decide +kernel, by decide +kernel, { host := "[::1]" }, ?_, rfl, ?_, ?_, ?_⟩
  all_goals decide +kernel

end Target

end ModelProbe
