import ModelProbe.Proofs.Text.Digits
import ModelProbe.Proofs.Text.Trimming
import ModelProbe.Target
/-!
# Which port a target is reached at

A port can be given in three places: explicitly, behind the host's name, and as the one that gRPC
falls back to. An explicit port counts before the host's own, and that before the last. The address
of HTTP has the same authority as gRPC when the port is explicit, and the host as it is otherwise.

* `splitPort?_eq_some_iff`: which hosts have a port of their own.
* `authorities_agree`: the authorities of gRPC and of HTTP.
-/

namespace ModelProbe.Target

/-! ## Hosts with a port of their own -/

/-- What follows the last colon of the host writes the port, and the name stands before it. A text
that writes a number has no colon, so no other colon can be meant. -/
def OwnPort (host name : String) (port : UInt16) : Prop :=
  ∃ written, host.toList = name.toList ++ ':' :: written ∧ Text.Writes written port.toNat

/-- The host has no port of its own. -/
def IsBare (host : String) : Prop := ∀ name port, ¬ OwnPort host name port

theorem splitPort?_eq_some_iff {host name : String} {port : UInt16} :
    splitPort? host = some (name, port) ↔ OwnPort host name port := by
  unfold splitPort? OwnPort
  constructor
  · intro h
    obtain ⟨⟨before, after⟩, hsplit, h⟩ := Option.bind_eq_some_iff.1 h
    obtain ⟨own, hread, h⟩ := Option.bind_eq_some_iff.1 h
    obtain ⟨rfl, rfl⟩ := Prod.mk.inj (Option.some.inj h)
    refine ⟨after, ?_, Text.readUInt16?_eq_some_iff.1 hread⟩
    rw [String.toList_ofList]
    exact Text.splitLast?_eq_some hsplit
  · rintro ⟨written, hhost, hwrites⟩
    have hcolon : ':' ∉ written := hwrites.not_mem (by decide) (by decide)
    rw [hhost, Text.splitLast?_append name.toList hcolon]
    show ((Text.readUInt16? written).bind fun own => some (String.ofList name.toList, own)) = _
    rw [Text.readUInt16?_eq_some_iff.2 hwrites, Option.bind_some, String.ofList_toList]

theorem splitPort?_eq_none_iff {host : String} : splitPort? host = none ↔ IsBare host := by
  rw [Option.eq_none_iff_forall_ne_some]
  constructor
  · intro h name port hown
    exact h (name, port) (splitPort?_eq_some_iff.2 hown)
  · rintro h ⟨name, port⟩ hsplit
    exact h name port (splitPort?_eq_some_iff.1 hsplit)

/-- A host that is given a port has it. -/
theorem ownPort_authorityOf (host : String) (port : UInt16) :
    OwnPort (authorityOf host port) host port := by
  refine ⟨Nat.toDigits 10 port.toNat, ?_, Text.writes_toDigits _⟩
  rw [authorityOf, String.toList_append, String.toList_append, Text.toList_toString,
    List.append_assoc]
  rfl

/-- Behind a colon, what writes a port is the host's own. -/
theorem ownPort_append (host : String) {written : String} {port : UInt16}
    (h : Text.Writes written.toList port.toNat) : OwnPort (host ++ ":" ++ written) host port := by
  refine ⟨written.toList, ?_, h⟩
  rw [String.toList_append, String.toList_append, List.append_assoc]
  rfl

/-! ## Which authority is meant -/

/-- The target with another host. -/
def withHost (t : Target) (host : String) : Target := { t with host := host }

/-- The authority that the three ports of a target lead to. -/
inductive Resolves (t : Target) : String → Prop
  /-- An explicit port replaces the host's own. -/
  | replaced {port own : UInt16} {name : String} (explicit : t.port = some port)
    (host : OwnPort t.host name own) : Resolves t (authorityOf name port)
  /-- An explicit port stands behind a bare host. -/
  | added {port : UInt16} (explicit : t.port = some port) (host : IsBare t.host) :
    Resolves t (authorityOf t.host port)
  /-- Without an explicit port the host's own counts. -/
  | kept {own : UInt16} {name : String} (implicit : t.port = none)
    (host : OwnPort t.host name own) : Resolves t t.host
  /-- With neither, the last one counts. -/
  | fallback (implicit : t.port = none) (host : IsBare t.host) :
    Resolves t (authorityOf t.host t.defaultPort)

variable (t : Target)

theorem bareHost_of_ownPort {name : String} {own : UInt16} (h : OwnPort t.host name own) :
    t.bareHost = name := by
  rw [bareHost, splitPort?_eq_some_iff.2 h]

theorem bareHost_of_isBare (h : IsBare t.host) : t.bareHost = t.host := by
  rw [bareHost, splitPort?_eq_none_iff.2 h]

/-- With an explicit port, that one stands behind the host's name. -/
theorem grpcAuthority_of_port {port : UInt16} (h : t.port = some port) :
    t.grpcAuthority = authorityOf t.bareHost port := by
  rw [grpcAuthority, h]

/-- Without an explicit port, a host with a port is the authority. -/
theorem grpcAuthority_of_ownPort {name : String} {own : UInt16} (h : t.port = none)
    (hown : OwnPort t.host name own) : t.grpcAuthority = t.host := by
  rw [grpcAuthority, h, splitPort?_eq_some_iff.2 hown]

/-- Without any port, gRPC falls back to its own. -/
theorem grpcAuthority_of_isBare (h : t.port = none) (hbare : IsBare t.host) :
    t.grpcAuthority = authorityOf t.host t.defaultPort := by
  rw [grpcAuthority, h, splitPort?_eq_none_iff.2 hbare]

/-- The authority of gRPC is the one that the ports lead to. -/
theorem resolves_grpcAuthority : Resolves t t.grpcAuthority := by
  cases hport : t.port with
  | some port =>
    rw [grpcAuthority_of_port t hport]
    cases hsplit : splitPort? t.host with
    | some parts =>
      have hown : OwnPort t.host parts.1 parts.2 := splitPort?_eq_some_iff.1 hsplit
      rw [bareHost_of_ownPort t hown]
      exact .replaced hport hown
    | none =>
      have hbare := splitPort?_eq_none_iff.1 hsplit
      rw [bareHost_of_isBare t hbare]
      exact .added hport hbare
  | none =>
    cases hsplit : splitPort? t.host with
    | some parts =>
      have hown : OwnPort t.host parts.1 parts.2 := splitPort?_eq_some_iff.1 hsplit
      rw [grpcAuthority_of_ownPort t hport hown]
      exact .kept hport hown
    | none =>
      have hbare := splitPort?_eq_none_iff.1 hsplit
      rw [grpcAuthority_of_isBare t hport hbare]
      exact .fallback hport hbare

/-- An authority that ports lead to has a port. -/
theorem Resolves.exists_ownPort {t : Target} {authority : String} (h : Resolves t authority) :
    ∃ name port, OwnPort authority name port := by
  cases h with
  | replaced _ _ => exact ⟨_, _, ownPort_authorityOf _ _⟩
  | added _ _ => exact ⟨_, _, ownPort_authorityOf _ _⟩
  | kept _ host => exact ⟨_, _, host⟩
  | fallback _ _ => exact ⟨_, _, ownPort_authorityOf _ _⟩

/-- The authority of HTTP is that of gRPC if the port is explicit, else the host. -/
theorem httpAuthority_eq :
    t.httpAuthority = if t.port.isSome then t.grpcAuthority else t.host := by
  unfold httpAuthority
  cases hport : t.port with
  | none => rfl
  | some port => exact (grpcAuthority_of_port t hport).symm

/-- Slashes that an endpoint begins with do not count. -/
theorem httpUrl_slashes (slashes : Nat) (endpoint : String) :
    t.httpUrl (String.ofList (List.replicate slashes '/') ++ endpoint) = t.httpUrl endpoint := by
  have hdrop : (List.replicate slashes '/' ++ endpoint.toList).dropWhile (· == '/') =
      endpoint.toList.dropWhile (· == '/') :=
    List.dropWhile_append_of_pos fun c hc => by simp [List.eq_of_mem_replicate hc]
  rw [httpUrl, httpUrl, String.toList_append, String.toList_ofList, hdrop]

/-- An endpoint without leading slashes stands behind the authority. -/
theorem httpUrl_of_head (endpoint : String) (h : endpoint.toList.head? ≠ some '/') :
    t.httpUrl endpoint = t.scheme.name ++ "://" ++ t.httpAuthority ++ "/" ++ endpoint := by
  have hdrop : endpoint.toList.dropWhile (· == '/') = endpoint.toList := by
    cases hlist : endpoint.toList with
    | nil => rfl
    | cons c rest =>
      rw [hlist, List.head?_cons, ne_eq, Option.some.injEq] at h
      exact List.dropWhile_cons_of_neg (by simpa using h)
  rw [httpUrl, hdrop, String.ofList_toList]

/-- **The authorities of a target.** That of gRPC has the port that the three places lead to, and
a target that is given it as its host has it again. That of HTTP is the same if the port is
explicit, and the host as it is otherwise. With an explicit port no port of the host counts, and
slashes in front of an endpoint never do. -/
theorem authorities_agree :
    Resolves t t.grpcAuthority ∧
      (∃ name port, OwnPort t.grpcAuthority name port) ∧
      (∀ (defaultPort : UInt16) (scheme : Scheme),
        (Target.mk t.grpcAuthority none defaultPort scheme).grpcAuthority = t.grpcAuthority) ∧
      (∀ slashes endpoint, endpoint.toList.head? ≠ some '/' →
        t.httpUrl (String.ofList (List.replicate slashes '/') ++ endpoint) =
          t.scheme.name ++ "://" ++ (if t.port.isSome then t.grpcAuthority else t.host) ++ "/" ++
            endpoint) ∧
      (∀ slashes endpoint,
        t.httpUrl (String.ofList (List.replicate slashes '/') ++ endpoint) = t.httpUrl endpoint) ∧
      (t.port.isSome → IsBare t.host → ∀ (own : UInt16) (written : String),
        Text.Writes written.toList own.toNat →
          (t.withHost (t.host ++ ":" ++ written)).grpcAuthority = t.grpcAuthority) := by
  have hresolves := resolves_grpcAuthority t
  obtain ⟨name, port, hown⟩ := hresolves.exists_ownPort
  refine ⟨hresolves, ⟨name, port, hown⟩, fun defaultPort scheme => ?_,
    fun slashes endpoint hhead => ?_, httpUrl_slashes t, ?_⟩
  · exact grpcAuthority_of_ownPort _ rfl hown
  · rw [httpUrl_slashes, httpUrl_of_head t endpoint hhead, httpAuthority_eq]
  · intro hport hbare own written hwrites
    obtain ⟨explicit, hexplicit⟩ := Option.isSome_iff_exists.1 hport
    have hgiven : OwnPort (t.withHost (t.host ++ ":" ++ written)).host t.host own :=
      ownPort_append t.host hwrites
    calc (t.withHost (t.host ++ ":" ++ written)).grpcAuthority
        = authorityOf (t.withHost (t.host ++ ":" ++ written)).bareHost explicit :=
          grpcAuthority_of_port _ hexplicit
      _ = authorityOf t.host explicit := by rw [bareHost_of_ownPort _ hgiven]
      _ = authorityOf t.bareHost explicit := by rw [bareHost_of_isBare t hbare]
      _ = t.grpcAuthority := (grpcAuthority_of_port t hexplicit).symm

/-- A target with an explicit port, on a host whose last colon stands inside brackets. -/
def loopback : Target := { host := "[::1]", port := some 9000, defaultPort := 8033 }

/-- Requests for `loopback` go to its explicit port, also when a port is written behind the host. -/
theorem authorities_agree_loopback :
    loopback.grpcAuthority = "[::1]:9000" ∧
      loopback.httpUrl "///v1" = "https://[::1]:9000/v1" ∧
      (loopback.withHost "[::1]:+080").grpcAuthority = "[::1]:9000" := by
  obtain ⟨-, -, -, hurl, -, hgiven⟩ := authorities_agree loopback
  have hauthority : loopback.grpcAuthority = "[::1]:9000" := by decide +kernel
  have hbare : IsBare loopback.host := splitPort?_eq_none_iff.1 (by decide +kernel)
  have hwrites : Text.Writes "+080".toList (80 : UInt16).toNat :=
    Text.readUInt16?_eq_some_iff.1 (by decide +kernel)
  refine ⟨hauthority, ?_, (hgiven rfl hbare 80 "+080" hwrites).trans hauthority⟩
  have hslashes := hurl 3 "v1" (by decide)
  rw [hauthority] at hslashes
  exact hslashes

end ModelProbe.Target
