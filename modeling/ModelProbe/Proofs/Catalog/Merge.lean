import ModelProbe.Catalog.Builtin
import ModelProbe.Proofs.SortedMap
/-!
# Lookups in layered catalogs

A lookup goes down three levels: the runtimes, the inference types of one of them, and the
protocols of one of those. It fails at the first level that lacks what is asked for, and says what
the level has. In two layers it finds what the upper one holds before what the lower one holds; if
it fails in both, it fails as in the layer where it got deeper, and where it got equally deep it
lists what either of them has.

* `layered_descend`: one level of two merged maps.
* `layered_resolve_merge`: all levels of two layered catalogs.
-/

namespace ModelProbe

/-! ## Failed lookups -/

/-- The number of levels that a lookup passed before it failed. -/
def Failure.depth : Failure → Nat
  | unsupportedInferenceType .. => 1
  | unsupportedProtocol .. => 2
  | _ => 0

/-- The list has what is in either of two lists, in increasing order and each once. -/
def IsUnion {κ : Type} [Ord κ] (a b known : List κ) : Prop :=
  known.Pairwise (fun x y => compare x y = .lt) ∧ ∀ x, x ∈ known ↔ x ∈ a ∨ x ∈ b

/-- The keys of two merged maps are the union of their keys. -/
theorem SortedMap.isUnion_keys_mergeWith {κ α : Type} [Ord κ] [Std.TransOrd κ]
    [Std.LawfulEqOrd κ] (f : α → α → α) (a b : SortedMap κ α) :
    IsUnion a.keys b.keys (mergeWith f a b).keys :=
  ⟨pairwise_keys _, mem_keys_mergeWith f a b⟩

/-- Two lookups fail at the same level, and a third one fails there too and lists what either of
them lists. -/
inductive ListsBoth : Failure → Failure → Failure → Prop
  | runtimes {runtime : String} {a b known : List String} (union : IsUnion a b known) :
    ListsBoth (.unsupportedRuntime runtime a) (.unsupportedRuntime runtime b)
      (.unsupportedRuntime runtime known)
  | inferenceTypes {runtime inferenceType : String} {a b known : List String}
      (union : IsUnion a b known) :
    ListsBoth (.unsupportedInferenceType runtime inferenceType a)
      (.unsupportedInferenceType runtime inferenceType b)
      (.unsupportedInferenceType runtime inferenceType known)
  | protocols {runtime inferenceType : String} {protocol : Protocol} {a b known : List Protocol}
      (union : IsUnion a b known) :
    ListsBoth (.unsupportedProtocol runtime inferenceType protocol a)
      (.unsupportedProtocol runtime inferenceType protocol b)
      (.unsupportedProtocol runtime inferenceType protocol known)

namespace Catalog

/-- What a lookup gives in two layers together, by what it gives in the lower and in the upper
one. -/
inductive Layered : Except Failure Entry → Except Failure Entry → Except Failure Entry → Prop
  /-- The upper layer's entry comes first. -/
  | upper (below : Except Failure Entry) (e : Entry) : Layered below (.ok e) (.ok e)
  /-- The lower layer's entry shows where the upper one has none. -/
  | lower (e : Entry) (f : Failure) : Layered (.ok e) (.error f) (.ok e)
  /-- The lookup got deeper in the lower layer. -/
  | deeperBelow {f g : Failure} (deeper : g.depth < f.depth) :
    Layered (.error f) (.error g) (.error f)
  /-- The lookup got deeper in the upper layer. -/
  | deeperAbove {f g : Failure} (deeper : f.depth < g.depth) :
    Layered (.error f) (.error g) (.error g)
  /-- The lookup got equally deep in both. -/
  | level {f g h : Failure} (lists : ListsBoth f g h) : Layered (.error f) (.error g) (.error h)

/-- What the lower layer holds is found, unless the upper layer replaces it. -/
theorem Layered.exists_entry {e : Entry} {above found : Except Failure Entry}
    (h : Layered (.ok e) above found) : ∃ e', found = .ok e' := by
  cases h with
  | upper _ e' => exact ⟨e', rfl⟩
  | lower _ _ => exact ⟨e, rfl⟩

/-! ## One level -/

/-- One level of a lookup: it goes on with what stands under the key, or fails with the keys that
there are. -/
def descend {κ α : Type} [Ord κ] (m : SortedMap κ α) (key : κ) (missing : List κ → Failure)
    (next : α → Except Failure Entry) : Except Failure Entry :=
  match m.get? key with
  | some x => next x
  | none => .error (missing m.keys)

/-- A lookup goes down three levels. -/
theorem resolve_eq_descend (c : Catalog) (runtime inferenceType : String) (protocol : Protocol) :
    c.resolve runtime inferenceType protocol =
      descend c.runtimes runtime (.unsupportedRuntime runtime) fun r =>
        descend r.inferenceTypes inferenceType (.unsupportedInferenceType runtime inferenceType)
          fun table => descend table protocol
            (.unsupportedProtocol runtime inferenceType protocol) .ok := by
  unfold resolve protocols Catalog.runtime descend
  cases c.runtimes.get? runtime with
  | none => rfl
  | some r =>
    dsimp only
    cases r.inferenceTypes.get? inferenceType with
    | none => rfl
    | some table =>
      dsimp only
      cases table.get? protocol <;> rfl

/-- What fails further down has got deeper. -/
def FailsBelow {α : Type} (next : α → Except Failure Entry) (depth : Nat) : Prop :=
  ∀ x f, next x = .error f → depth < f.depth

/-- A level fails at its own depth or further down. -/
theorem failsBelow_descend {κ α β : Type} [Ord κ] {m : β → SortedMap κ α} {key : κ}
    {missing : List κ → Failure} {next : α → Except Failure Entry} {depth : Nat}
    (hmissing : ∀ known, depth < (missing known).depth) (hnext : FailsBelow next depth) :
    FailsBelow (fun x => descend (m x) key missing next) depth := by
  intro x f hf
  have hf : descend (m x) key missing next = .error f := hf
  unfold descend at hf
  split at hf
  · next y hget => exact hnext y f hf
  · next hget =>
    obtain rfl := Except.error.inj hf
    exact hmissing _

/-- **One level of two merged maps** is one level of two layers, when the values that are combined
are layers for what follows. -/
theorem layered_descend {κ α : Type} [Ord κ] [Std.TransOrd κ] [Std.LawfulEqOrd κ]
    {combine : α → α → α} {missing : List κ → Failure} {next : α → Except Failure Entry}
    (hlists : ∀ a b known, IsUnion a b known →
      ListsBoth (missing a) (missing b) (missing known))
    (hbelow : ∀ known, FailsBelow next (missing known).depth)
    (hnext : ∀ x y, Layered (next x) (next y) (next (combine x y)))
    (lower upper : SortedMap κ α) (key : κ) :
    Layered (descend lower key missing next) (descend upper key missing next)
      (descend (lower.mergeWith combine upper) key missing next) := by
  unfold descend
  rw [SortedMap.get?_mergeWith]
  cases hlower : lower.get? key with
  | none =>
    cases hupper : upper.get? key with
    | none => exact .level (hlists _ _ _ (SortedMap.isUnion_keys_mergeWith combine lower upper))
    | some y =>
      show Layered _ (next y) (next y)
      cases hy : next y with
      | ok e => exact .upper _ e
      | error g => exact .deeperAbove (hbelow _ y g hy)
  | some x =>
    cases hupper : upper.get? key with
    | none =>
      show Layered (next x) _ (next x)
      cases hx : next x with
      | ok e => exact .lower e _
      | error f => exact .deeperBelow (hbelow _ x f hx)
    | some y => exact hnext x y

/-! ## All levels -/

/-- The protocols of two layers. -/
theorem layered_protocols (runtime inferenceType : String) (protocol : Protocol)
    (lower upper : ProtocolTable) :
    Layered (descend lower protocol (.unsupportedProtocol runtime inferenceType protocol) .ok)
      (descend upper protocol (.unsupportedProtocol runtime inferenceType protocol) .ok)
      (descend (lower.union upper) protocol
        (.unsupportedProtocol runtime inferenceType protocol) .ok) :=
  layered_descend (fun _ _ _ => .protocols) (fun _ _ _ h => by cases h)
    (fun x y => .upper (.ok x) y) lower upper protocol

/-- **Lookups in layered catalogs.** A lookup finds the upper layer's entry, else the lower
layer's; when it fails in both it fails as in the one where it got deeper, or lists what either has
at the level where it failed in both. So no layer over the built-in catalog hides what that has. -/
theorem layered_resolve_merge (lower upper : Catalog) (runtime inferenceType : String)
    (protocol : Protocol) :
    Layered (lower.resolve runtime inferenceType protocol)
        (upper.resolve runtime inferenceType protocol)
        ((lower.merge upper).resolve runtime inferenceType protocol) ∧
      ∀ e, builtin.resolve runtime inferenceType protocol = .ok e →
        ∃ e', (builtin.merge upper).resolve runtime inferenceType protocol = .ok e' := by
  have hlayered : ∀ lower : Catalog, Layered (lower.resolve runtime inferenceType protocol)
      (upper.resolve runtime inferenceType protocol)
      ((lower.merge upper).resolve runtime inferenceType protocol) := by
    intro lower
    have hprotocols : FailsBelow (fun table : ProtocolTable => descend table protocol
        (.unsupportedProtocol runtime inferenceType protocol) .ok) 1 :=
      failsBelow_descend (fun _ => Nat.one_lt_two) fun _ _ h => by cases h
    have htypes : FailsBelow (fun r : ServingRuntime => descend r.inferenceTypes inferenceType
        (.unsupportedInferenceType runtime inferenceType) fun table : ProtocolTable =>
          descend table protocol (.unsupportedProtocol runtime inferenceType protocol) .ok) 0 :=
      failsBelow_descend (fun _ => Nat.zero_lt_one) fun x f h =>
        Nat.lt_of_succ_lt (hprotocols x f h)
    rw [resolve_eq_descend, resolve_eq_descend, resolve_eq_descend]
    refine layered_descend (fun _ _ _ => .runtimes) (fun _ => htypes) (fun r s => ?_) _ _ runtime
    exact layered_descend (fun _ _ _ => .inferenceTypes) (fun _ => hprotocols)
      (layered_protocols runtime inferenceType protocol) r.inferenceTypes s.inferenceTypes
      inferenceType
  refine ⟨hlayered lower, fun e he => ?_⟩
  have hbuiltin := hlayered builtin
  rw [he] at hbuiltin
  exact hbuiltin.exists_entry

end Catalog

end ModelProbe
