import ModelProbe.Proofs.SortedMap
import ModelProbe.Catalog
/-!
# Stacks of layers

Layering is associative and the empty catalog is its unit, so a stack of layers can be put onto a
catalog one by one or as the one catalog that they make together. A layer that lies on top already
changes nothing when it is put there again.

* `overlay_assoc`, `overlay_self`: the three rules by which a runtime is layered.
* `merge_stack`: layers as a monoid, and stacks of them.
-/

namespace ModelProbe

/-! ## One runtime -/

/-- Of two values under a key the upper one stays. -/
instance associative_upper {α : Type} : Std.Associative fun _ upper : α => upper :=
  ⟨fun _ _ _ => rfl⟩

instance idempotent_upper {α : Type} : Std.IdempotentOp fun _ upper : α => upper :=
  ⟨fun _ => rfl⟩

instance associative_union : Std.Associative (SortedMap.union : ProtocolTable → _ → _) :=
  ⟨SortedMap.mergeWith_assoc _⟩

instance idempotent_union : Std.IdempotentOp (SortedMap.union : ProtocolTable → _ → _) :=
  ⟨SortedMap.mergeWith_self _⟩

namespace ServingRuntime

/-- The topmost containers that are listed are the same however three runtimes are layered. -/
theorem overlay_assoc (a b c : ServingRuntime) :
    (a.overlay b).overlay c = a.overlay (b.overlay c) := by
  unfold overlay
  congr 1
  · -- If the top lists no containers, both sides go by the middle.
    by_cases hc : c.containers.isEmpty
    · simp only [if_pos hc]
    · simp only [if_neg hc]
  · exact Option.or_assoc.symm
  · exact SortedMap.mergeWith_assoc _ _ _ _

/-- A runtime layered on itself is unchanged. -/
theorem overlay_self (r : ServingRuntime) : r.overlay r = r := by
  unfold overlay
  rw [ite_self, Option.or_self, SortedMap.mergeWith_self]

instance associative_overlay : Std.Associative overlay := ⟨overlay_assoc⟩

instance idempotent_overlay : Std.IdempotentOp overlay := ⟨overlay_self⟩

end ServingRuntime

namespace Catalog

/-! ## Catalogs -/

/-- Three catalogs are layered in either order of layering. -/
theorem merge_assoc (a b c : Catalog) : (a.merge b).merge c = a.merge (b.merge c) :=
  congrArg Catalog.mk (SortedMap.mergeWith_assoc _ _ _ _)

/-- The empty catalog on top changes nothing. -/
theorem merge_empty (a : Catalog) : a.merge empty = a := rfl

/-- A catalog on top of the empty one is unchanged. -/
theorem empty_merge (a : Catalog) : empty.merge a = a :=
  congrArg Catalog.mk (SortedMap.empty_mergeWith _ _)

/-- A catalog on top of itself changes nothing. -/
theorem merge_self (a : Catalog) : a.merge a = a :=
  congrArg Catalog.mk (SortedMap.mergeWith_self _ _)

/-- A stack of layers is put on one by one, or as what it is together. -/
theorem foldl_merge (base : Catalog) (layers : List Catalog) :
    layers.foldl merge base = base.merge (layers.foldl merge empty) := by
  induction layers generalizing base with
  | nil => exact base.merge_empty.symm
  | cons layer layers ih =>
    rw [List.foldl_cons, List.foldl_cons, ih (base.merge layer), ih (empty.merge layer),
      merge_assoc, empty_merge]

/-- Putting the topmost layer on again changes nothing. -/
theorem foldl_merge_concat_merge (base : Catalog) (layers : List Catalog) (last : Catalog) :
    ((layers ++ [last]).foldl merge base).merge last = (layers ++ [last]).foldl merge base := by
  rw [List.foldl_concat, merge_assoc, merge_self]

/-- **Layers form a monoid, and each of them is idempotent.** So a stack of layers can be put on
one by one or be made one catalog before, and its topmost layer can be put on again. -/
theorem merge_stack :
    (∀ a b c : Catalog, (a.merge b).merge c = a.merge (b.merge c)) ∧
      (∀ a : Catalog, a.merge empty = a ∧ empty.merge a = a ∧ a.merge a = a) ∧
      (∀ (base : Catalog) (layers : List Catalog),
        layers.foldl merge base = base.merge (layers.foldl merge empty)) ∧
      ∀ (base : Catalog) (layers : List Catalog) (last : Catalog),
        ((layers ++ [last]).foldl merge base).merge last = (layers ++ [last]).foldl merge base :=
  ⟨merge_assoc, fun a => ⟨a.merge_empty, a.empty_merge, a.merge_self⟩, foldl_merge,
    foldl_merge_concat_merge⟩

end Catalog

end ModelProbe
