import ModelProbe.Proofs.Setting.Variable
import ModelProbe.Proofs.Settings.Leaves
/-!
# Settings from variables

A leaf of the settings has a variable, named after its section and its key, that goes over the
file. The name that is found is not the name that is documented: the mark that it begins with ends
in two underscores.

* `Leaf.spells_spelling`: which values a variable can give.
* `exists_ofLayers_override`: a value put at a leaf is that leaf's, and the other leaves are kept.
* `loadFrom_override`: what a variable does under either name.
-/

namespace ModelProbe.Settings

open Setting (fieldOr?)

/-! ## A value at a leaf -/

/-- The way to a leaf. -/
def Leaf.path (l : Leaf) : List Setting.Step := [.name l.area, .name l.key]

/-- The file writes the section of the leaf as a list. -/
def Leaf.Listed (l : Leaf) (file : List (String × Setting)) : Prop :=
  ∃ vs, SortedMap.lookup l.area (Setting.ofLayer file).members = some (.list vs)

section Put

variable {l l' : Leaf} {v u : Setting}

/-- The sections after a scalar was put at a leaf. -/
theorem Leaf.lookup_put (hu : u.isScalar = true) (area : String) :
    SortedMap.lookup area (v.put l.path u).members =
      if area = l.area then
        some (.table (Setting.withMember l.key u (Setting.memberOf l.area v.members).members))
      else SortedMap.lookup area v.members := by
  have hvalue : ∀ w : Setting, w.put [] u = u := fun w => Setting.overlay_of_isScalar hu w
  rw [path, Setting.put_name, Setting.put_name, hvalue]
  exact Setting.lookup_withMember l.area area _ v.members

/-- The leaf has the value that was put there, whatever there was. -/
theorem Leaf.from?_put_self (hu : u.isScalar = true) :
    l.from? (v.put l.path u).members = l.read? u := by
  rw [from?, lookup_put hu, if_pos rfl]
  show fieldOr? l.default l.read? (SortedMap.lookup l.key (Setting.withMember l.key u _)) = _
  rw [Setting.lookup_withMember, if_pos rfl]
  rfl

/-- Another leaf keeps its value. Only a section that was a list is lost, with all that was in
it. -/
theorem Leaf.from?_put_of_ne (hu : u.isScalar = true) (hne : l' ≠ l) {y : l'.Value}
    (hy : l'.from? v.members = some y) :
    l'.from? (v.put l.path u).members = some y ∨
      (l'.area = l.area ∧ (∃ vs, SortedMap.lookup l.area v.members = some (.list vs)) ∧
        l'.from? (v.put l.path u).members = some l'.default) := by
  rw [from?, lookup_put hu]
  by_cases harea : l'.area = l.area
  · have hkey : l'.key ≠ l.key := fun hkey => hne (eq_of_area_key harea hkey)
    have hfield : l'.under? {} (some (.table
          (Setting.withMember l.key u (Setting.memberOf l.area v.members).members))) =
        fieldOr? l'.default l'.read?
          (SortedMap.lookup l'.key (Setting.memberOf l.area v.members).members) := by
      show fieldOr? l'.default l'.read? (SortedMap.lookup l'.key (Setting.withMember l.key u _)) = _
      rw [Setting.lookup_withMember, if_neg hkey]
    rw [if_pos harea, hfield, Setting.memberOf]
    rw [from?, harea] at hy
    cases hsection : SortedMap.lookup l.area v.members with
    | none =>
      rw [hsection] at hy
      exact .inl hy
    | some w =>
      rw [hsection] at hy
      cases w with
      | table ms => exact .inl hy
      | list vs => exact .inr ⟨harea, ⟨vs, rfl⟩, rfl⟩
      | _ => exact absurd hy (by rintro ⟨⟩)
  · rw [if_neg harea]
    exact .inl hy

end Put

/-! ## A value over a file -/

/-- The value of a file over the defaults, with a value put at a leaf. -/
def overridden (file : List (String × Setting)) (l : Leaf) (u : Setting) : Setting :=
  (overDefaults file).put l.path u

section Overridden

variable {file : List (String × Setting)} {l l' : Leaf} {u : Setting}

/-- A layer with the key of a leaf puts its value at the leaf. -/
theorem addLayer_overridden {key : String} (hkey : Setting.pathOfKey key = l.path) :
    (overDefaults file).addLayer [(key, u)] = overridden file l u := by
  rw [Setting.addLayer_cons, hkey]
  rfl

theorem table_members_overridden : .table (overridden file l u).members = overridden file l u := by
  rw [overridden, Leaf.path, Setting.put_name]
  rfl

/-- What another leaf has once a value was put at a leaf. -/
theorem Leaf.from?_overridden_of_ne (hu : u.isScalar = true) (hne : l' ≠ l) {y : l'.Value}
    (hy : l'.ofFile? file = some y) :
    l'.from? (overridden file l u).members = some y ∨
      (l'.area = l.area ∧ l.Listed file ∧
        l'.from? (overridden file l u).members = some l'.default) := by
  have hover : l'.from? (overDefaults file).members = some y :=
    (l'.from?_overDefaults file).trans hy
  rcases from?_put_of_ne hu hne hover with hkept | ⟨harea, ⟨vs, hvs⟩, hdefault⟩
  · exact .inl hkept
  · have hfills := fills_overDefaults l file
    rw [hvs] at hfills
    exact .inr ⟨harea, ⟨vs, hfills.eq_of_list⟩, hdefault⟩

/-- Once a value was put at a leaf, every leaf has a value if the others had one. -/
theorem Leaf.exists_from?_overridden (hu : u.isScalar = true) {x : l.Value}
    (hx : l.read? u = some x) (hothers : ∀ l' : Leaf, l' ≠ l → ∃ y, l'.ofFile? file = some y)
    (l' : Leaf) : ∃ y, l'.from? (overridden file l u).members = some y := by
  by_cases hne : l' = l
  · subst hne
    exact ⟨x, (from?_put_self hu).trans hx⟩
  · obtain ⟨y, hy⟩ := hothers l' hne
    rcases from?_overridden_of_ne hu hne hy with hkept | ⟨-, -, hdefault⟩
    · exact ⟨y, hkept⟩
    · exact ⟨l'.default, hdefault⟩

/-- **A value over a file's is that leaf's value, and every other leaf keeps the file's value or
else its default.** In a section that the file writes as a list the others get their defaults. -/
theorem exists_ofLayers_override {key : String} (hkey : Setting.pathOfKey key = l.path)
    (hu : u.isScalar = true) {x : l.Value} (hx : l.read? u = some x)
    (hothers : ∀ l' : Leaf, l' ≠ l → ∃ y, l'.ofFile? file = some y) :
    ∃ s, ofLayers file [(key, u)] = .ok s ∧ l.get s = x ∧
      ∀ l' : Leaf, l' ≠ l → l'.ofFile? file = some (l'.get s) ∨
        (l'.area = l.area ∧ l.Listed file ∧ l'.get s = l'.default) := by
  obtain ⟨s, hs⟩ := exists_of_from? (Leaf.exists_from?_overridden hu hx hothers)
  have hleaves := ofSetting?_eq_some_iff.1 hs
  have hself : l.from? (overridden file l u).members = some x := (Leaf.from?_put_self hu).trans hx
  refine ⟨s, ?_, ?_, ?_⟩
  · rw [ofLayers_eq_ok_iff, addLayer_overridden hkey, ← table_members_overridden]
    exact hs
  · exact Option.some.inj ((hleaves l).symm.trans hself)
  · intro l' hne
    obtain ⟨y, hy⟩ := hothers l' hne
    rcases Leaf.from?_overridden_of_ne hu hne hy with hkept | ⟨harea, hlisted, hdefault⟩
    · exact .inl (hy.trans (hkept.symm.trans (hleaves l')))
    · exact .inr ⟨harea, hlisted, Option.some.inj ((hleaves l').symm.trans hdefault)⟩

end Overridden

/-! ## The text of a variable -/

/-- The text of a variable is read as this value of a leaf. -/
def Leaf.Spells (l : Leaf) (text : String) (x : l.Value) : Prop :=
  l.read? (Setting.ofVariable text) = some x

/-- How a value is written. -/
def Leaf.spelling : (l : Leaf) → l.Value → String
  | kind, k => k.name
  | timeout, n => toString n
  | curl, s | grpcurl, s => s
  | defaultPort, n => toString n.toNat
  | catalogPath, path => path.getD ""

/-- A variable can give this value, since its text is not taken for another: a whole number from
`2 ^ 63` on is rounded, and a text that looks like a number or a truth value is written anew. -/
def Leaf.Settable : (l : Leaf) → l.Value → Prop
  | kind, _ => True
  | timeout, n => n < 2 ^ 63
  | curl, s | grpcurl, s => Setting.ofVariable s = .text s
  | defaultPort, _ => True
  | catalogPath, path => ∃ s, path = some s ∧ Setting.ofVariable s = .text s

/-- **A value that can be given is read from how it is written.** -/
theorem Leaf.spells_spelling {l : Leaf} {x : l.Value} (h : l.Settable x) :
    l.Spells (l.spelling x) x := by
  cases l with
  | kind =>
    show kindOf? (Setting.ofVariable (TransportKind.name x)) = some x
    cases x <;> decide +kernel
  | timeout =>
    show Setting.asNatural? (Setting.ofVariable (toString x)) = some x
    rw [Setting.ofVariable_toString h, Setting.asNatural?_whole h]
  | curl =>
    show Setting.asText? (Setting.ofVariable x) = some x
    rw [show Setting.ofVariable x = .text x from h]
    rfl
  | grpcurl =>
    show Setting.asText? (Setting.ofVariable x) = some x
    rw [show Setting.ofVariable x = .text x from h]
    rfl
  | defaultPort =>
    show Setting.asPort? (Setting.ofVariable (toString x.toNat)) = some x
    have hlt : x.toNat < 65536 := x.toNat_lt
    have h63 : x.toNat < 2 ^ 63 := Nat.lt_trans hlt (by decide)
    rw [Setting.asPort?, Setting.ofVariable_toString h63, Setting.asNatural?_whole h63]
    show (if x.toNat < 65536 then some x.toNat.toUInt16 else none) = some x
    rw [if_pos hlt]
    exact congrArg some UInt16.ofNat_toNat
  | catalogPath =>
    obtain ⟨s, rfl, hs⟩ := h
    show Setting.asOptional? Setting.asText? (Setting.ofVariable s) = some (some s)
    rw [hs]
    rfl

/-! ## The names of variables -/

/-- The name that is documented for the variable of a leaf. -/
def Leaf.documentedName (l : Leaf) : String := "IQE_" ++ l.area.toUpper ++ "__" ++ l.key.toUpper

/-- The name under which the variable of a leaf is found. -/
def Leaf.variableName (l : Leaf) : String := "IQE__" ++ l.area.toUpper ++ "__" ++ l.key.toUpper

example : Leaf.timeout.documentedName = "IQE_TRANSPORT__TIMEOUT_SECS" := by decide +kernel

/-- A variable with the documented name is of no setting. -/
theorem Leaf.keyOfVariable?_documentedName (l : Leaf) :
    Setting.keyOfVariable? l.documentedName = none := by
  cases l <;> decide +kernel

/-- A variable with two underscores after the first mark is of the leaf. -/
theorem Leaf.keyOfVariable?_variableName (l : Leaf) :
    Setting.keyOfVariable? l.variableName = some (l.area ++ "." ++ l.key) := by
  cases l <;> decide +kernel

/-- The key of a leaf's variable is the way to the leaf. -/
theorem Leaf.pathOfKey_variable (l : Leaf) :
    Setting.pathOfKey (l.area ++ "." ++ l.key) = l.path := by
  cases l <;> decide +kernel

/-! ## Loading with a variable -/

/-- The environment has this variable, and no other that is of settings. -/
def SetsOnly (ws : Workspace) (name text : String) : Prop :=
  ∃ before after, ws.environment = before ++ (name, text) :: after ∧
    ∀ e ∈ before ++ after, Setting.keyOfVariable? e.1 = none

/-- The layer of the environment is that of the one variable. -/
theorem ofEnvironment_of_setsOnly {ws : Workspace} {name text : String}
    (h : SetsOnly ws name text) :
    Setting.ofEnvironment ws.environment =
      ((Setting.keyOfVariable? name).map fun key => (key, Setting.ofVariable text)).toList := by
  obtain ⟨before, after, henvironment, hother⟩ := h
  have hbefore : Setting.ofEnvironment before = [] :=
    Setting.ofEnvironment_eq_nil fun e he => hother e (List.mem_append_left after he)
  have hafter : Setting.ofEnvironment after = [] :=
    Setting.ofEnvironment_eq_nil fun e he => hother e (List.mem_append_right before he)
  rw [henvironment, Setting.ofEnvironment_append, Setting.ofEnvironment_cons, hbefore, hafter,
    List.nil_append, List.append_nil]

/-- The layer of the file at a path; a file that is not there has an empty one. -/
def fileLayer? (ws : Workspace) (path : String) : Option (List (String × Setting)) :=
  match Setting.findFile? ws path with
  | none => some []
  | some found => Setting.readFile? found

/-- With a file that can be read, the settings are those of its layer and the environment's. -/
theorem loadFrom_of_fileLayer? {ws : Workspace} {path : String} {file : List (String × Setting)}
    (h : fileLayer? ws path = some file) :
    loadFrom ws path = ofLayers file (Setting.ofEnvironment ws.environment) := by
  cases hfound : Setting.findFile? ws path with
  | none =>
    simp only [fileLayer?, hfound] at h
    obtain rfl := Option.some.inj h
    simp only [loadFrom, hfound]
  | some found =>
    simp only [fileLayer?, hfound] at h
    simp only [loadFrom, hfound, h]

/-- **What the variable of a leaf does.** Under the documented name it does nothing: every leaf has
the file's value or else its default. Under the name with two underscores after the first mark it
gives the leaf its value, whatever the file says, and every other leaf keeps the file's value or
else its default; only in a section that the file writes as a list the others get their
defaults. -/
theorem loadFrom_override {ws : Workspace} {path : String} {file : List (String × Setting)}
    (hfile : fileLayer? ws path = some file) (l : Leaf) (text : String) :
    (SetsOnly ws l.documentedName text →
      ∀ s, loadFrom ws path = .ok s ↔ ∀ l' : Leaf, l'.ofFile? file = some (l'.get s)) ∧
    (SetsOnly ws l.variableName text →
      ∀ x, l.Spells text x → (∀ l' : Leaf, l' ≠ l → ∃ y, l'.ofFile? file = some y) →
        ∃ s, loadFrom ws path = .ok s ∧ l.get s = x ∧
          ∀ l' : Leaf, l' ≠ l → l'.ofFile? file = some (l'.get s) ∨
            (l'.area = l.area ∧ l.Listed file ∧ l'.get s = l'.default)) := by
  rw [loadFrom_of_fileLayer? hfile]
  constructor
  · intro hset s
    have hlayer : Setting.ofEnvironment ws.environment = [] := by
      rw [ofEnvironment_of_setsOnly hset, l.keyOfVariable?_documentedName]
      rfl
    rw [hlayer]
    exact ofLayers_nil_eq_ok_iff
  · intro hset x hx hothers
    have hlayer : Setting.ofEnvironment ws.environment =
        [(l.area ++ "." ++ l.key, Setting.ofVariable text)] := by
      rw [ofEnvironment_of_setsOnly hset, l.keyOfVariable?_variableName]
      rfl
    rw [hlayer]
    exact exists_ofLayers_override l.pathOfKey_variable (Setting.isScalar_ofVariable text) hx hothers

/-- A workspace with a file of settings and a variable of this name that says 30. -/
def sevenSeconds (name : String) : Workspace :=
  .ofFiles ["home"]
    [("config.toml",
      "[transport]\nkind='command'\ntimeout_secs=7\ncurl_bin='f'\n[grpc]\ndefault_port=1\n")]
    [("HOME", "."), (name, "30")]

/-- The settings of that file. -/
def sevenSecondsSettings : Settings where
  timeoutSeconds := 7
  programs := { curl := "f" }
  defaultPort := 1

theorem spells_thirty : Leaf.timeout.Spells "30" 30 := by
  show Setting.asNatural? (Setting.ofVariable "30") = some 30
  decide +kernel

/-- Under the name that is found, the variable gives its leaf 30 seconds; the port is kept. -/
theorem loadFrom_override_sevenSeconds :
    Leaf.timeout.variableName = "IQE__TRANSPORT__TIMEOUT_SECS" ∧
      ∃ s, loadFrom (sevenSeconds "IQE__TRANSPORT__TIMEOUT_SECS") "config.toml" = .ok s ∧
        s.timeoutSeconds = 30 ∧ s.defaultPort = 1 := by
  have hname : Leaf.timeout.variableName = "IQE__TRANSPORT__TIMEOUT_SECS" := by decide +kernel
  have hisSome : (fileLayer? (sevenSeconds "IQE__TRANSPORT__TIMEOUT_SECS") "config.toml").isSome =
      true := by decide +kernel
  have hfileAlone : ofLayers
      ((fileLayer? (sevenSeconds "IQE__TRANSPORT__TIMEOUT_SECS") "config.toml").getD []) [] =
        .ok sevenSecondsSettings := by
    decide +kernel
  obtain ⟨file, hfile⟩ := Option.isSome_iff_exists.1 hisSome
  rw [hfile, Option.getD_some, ofLayers_nil_eq_ok_iff] at hfileAlone
  have hset : SetsOnly (sevenSeconds "IQE__TRANSPORT__TIMEOUT_SECS") Leaf.timeout.variableName
      "30" := by
    refine ⟨[("HOME", ".")], [], by rw [hname]; rfl, fun e he => ?_⟩
    obtain rfl := List.mem_singleton.1 he
    decide +kernel
  obtain ⟨s, hload, htimeout, hkept⟩ :=
    (loadFrom_override hfile .timeout "30").2 hset 30 spells_thirty fun l' _ => ⟨_, hfileAlone l'⟩
  refine ⟨hname, s, hload, htimeout, ?_⟩
  rcases hkept .defaultPort (by decide) with hport | ⟨harea, -, -⟩
  · exact Option.some.inj (hport.symm.trans (hfileAlone .defaultPort))
  · exact absurd harea (by decide)

/-- Under the documented name, the file's 7 seconds stay. -/
theorem not_loadFrom_documentedName :
    Leaf.timeout.documentedName = "IQE_TRANSPORT__TIMEOUT_SECS" ∧
      ("IQE_TRANSPORT__TIMEOUT_SECS", "30") ∈
        (sevenSeconds "IQE_TRANSPORT__TIMEOUT_SECS").environment ∧
      Leaf.timeout.Spells "30" 30 ∧
      ∃ s, loadFrom (sevenSeconds "IQE_TRANSPORT__TIMEOUT_SECS") "config.toml" = .ok s ∧
        s.timeoutSeconds ≠ 30 := by
  have hload : loadFrom (sevenSeconds "IQE_TRANSPORT__TIMEOUT_SECS") "config.toml" =
      .ok sevenSecondsSettings := by
    decide +kernel
  exact ⟨by decide +kernel, List.mem_cons_of_mem _ List.mem_cons_self, spells_thirty,
    sevenSecondsSettings, hload, by decide⟩

end ModelProbe.Settings
