import Mathlib
import ModelProbe.Proofs.Json.Ordered
import ModelProbe.Status
/-!
# Statuses alone and within resources

A serving status is written alone, or as a member of the resource that it belongs to. Either way it
is read as a record of records, in each of which only the declared fields count. So what is read of
it depends neither on where it stands, but for the name, nor on members that no record declares.

* `readRecord_object`: the members of an object are read in the order of the fields' names.
* `readRecord_congr`: values that agree in the fields of a record are read alike.
* `ofJson_congr`: statuses that agree in what is declared, at all three levels, are read alike.
* `ofText_resource`: a status alone and within a resource.
-/

namespace ModelProbe

namespace ServingStatus

/-! ## Values that agree in the fields of a record -/

/-- Two values agree in the fields of a record: they are the same, or objects whose members of these
names agree, or lists of one length whose items in the places of these fields agree. -/
inductive AgreeOn (fields : List String) (agree : String → Json → Json → Prop) :
    Json → Json → Prop
  | same (v : Json) : AgreeOn fields agree v v
  | object {members others : List (String × Json)}
    (each : ∀ field ∈ fields, Option.Rel (agree field) (SortedMap.lookup field members)
      (SortedMap.lookup field others)) : AgreeOn fields agree (.object members) (.object others)
  | array {items others : List Json} (length : items.length = others.length)
    (each : ∀ e ∈ fields.zip (items.zip others), agree e.1 e.2.1 e.2.2) :
    AgreeOn fields agree (.array items) (.array others)

section Records

variable {α : Type} {name : String} {fields order : List String}
  {read : α → String → Json → Except ShapeFault α} {agree : String → Json → Json → Prop}

/-! ## Reading a record -/

/-- **The members of an object are read in the order of the fields' names**, and no other member is
read. -/
theorem readRecord_object {members : List (String × Json)}
    (hmembers : (Json.object members).Ordered)
    (horder : order.Pairwise fun a b => compare a b = .lt) (hperm : order.Perm fields)
    (start : α) :
    readRecord name fields read start (.object members) =
      (order.filterMap fun field => (SortedMap.lookup field members).map fun v =>
        (field, v)).foldlM (fun r e => read r e.1 e.2) start := by
  rw [← SortedMap.filter_keys hmembers.sorted horder hperm]
  rfl

/-- Two fields with their values say the same to the reader of a record. -/
def SayAlike (read : α → String → Json → Except ShapeFault α) (e e' : String × Json) : Prop :=
  ∀ r, read r e.1 e.2 = read r e'.1 e'.2

/-- Fields that say the same, one by one, are read alike. -/
theorem foldlM_sayAlike {l l' : List (String × Json)} (h : List.Forall₂ (SayAlike read) l l') :
    ∀ start, l.foldlM (fun r e => read r e.1 e.2) start =
      l'.foldlM (fun r e => read r e.1 e.2) start := by
  induction h with
  | nil => intro start; rfl
  | cons hread _ ih =>
    intro start
    rw [List.foldlM_cons, List.foldlM_cons, hread]
    exact congrArg _ (funext ih)

/-- Members that say the same are missing together, so they stand in the same places. -/
theorem sayAlike_members {members others : List (String × Json)}
    (h : ∀ field ∈ order, Option.Rel (fun v w => SayAlike read (field, v) (field, w))
      (SortedMap.lookup field members) (SortedMap.lookup field others)) :
    List.Forall₂ (SayAlike read)
      (order.filterMap fun field => (SortedMap.lookup field members).map fun v => (field, v))
      (order.filterMap fun field => (SortedMap.lookup field others).map fun v => (field, v)) := by
  induction order with
  | nil => exact .nil
  | cons field order ih =>
    obtain ⟨hfield, hlater⟩ := List.forall_mem_cons.1 h
    rw [List.filterMap_cons, List.filterMap_cons]
    generalize SortedMap.lookup field members = v at hfield
    generalize SortedMap.lookup field others = w at hfield
    cases hfield with
    | none => exact ih hlater
    | some hread => exact .cons hread (ih hlater)

/-- Items of lists of one length are given to the same fields. -/
theorem sayAlike_items {items others : List Json} (hlength : items.length = others.length)
    (h : ∀ e ∈ fields.zip (items.zip others), SayAlike read (e.1, e.2.1) (e.1, e.2.2)) :
    List.Forall₂ (SayAlike read) (fields.zip items) (fields.zip others) := by
  induction fields generalizing items others with
  | nil => exact .nil
  | cons field fields ih =>
    cases items with
    | nil =>
      obtain rfl := List.eq_nil_of_length_eq_zero hlength.symm
      exact .nil
    | cons v items =>
      cases others with
      | nil => cases hlength
      | cons w others =>
        obtain ⟨hfield, hlater⟩ := List.forall_mem_cons.1 h
        exact .cons hfield (ih (Nat.succ.inj hlength) hlater)

/-- **Values that agree in the fields of a record are read alike**, also where they are refused. -/
theorem readRecord_congr (horder : order.Pairwise fun a b => compare a b = .lt)
    (hperm : order.Perm fields)
    (hread : ∀ field ∈ fields, ∀ v w, agree field v w → v.Ordered → w.Ordered →
      SayAlike read (field, v) (field, w))
    {v w : Json} (h : AgreeOn fields agree v w) (hv : v.Ordered) (hw : w.Ordered) (start : α) :
    readRecord name fields read start v = readRecord name fields read start w := by
  cases h with
  | same => rfl
  | @object members others each =>
    -- Other members may stand between the declared ones, which are read in one order all the same.
    rw [readRecord_object hv horder hperm, readRecord_object hw horder hperm]
    refine foldlM_sayAlike (sayAlike_members fun field hfield => ?_) start
    have hmem := hperm.mem_iff.1 hfield
    have hagree := each field hmem
    have hmembers := fun v hv' => hv.of_mem_members (field, v) (SortedMap.mem_of_lookup hv')
    have hothers := fun w hw' => hw.of_mem_members (field, w) (SortedMap.mem_of_lookup hw')
    generalize SortedMap.lookup field members = v at hagree hmembers
    generalize SortedMap.lookup field others = w at hagree hothers
    cases hagree with
    | none => exact .none
    | some hagree => exact .some (hread field hmem _ _ hagree (hmembers _ rfl) (hothers _ rfl))
  | @array items others hlength each =>
    have hitems : List.Forall₂ (SayAlike read) (fields.zip items) (fields.zip others) := by
      refine sayAlike_items hlength fun e he => ?_
      obtain ⟨hfield, hpair⟩ := List.of_mem_zip he
      obtain ⟨hmem, hmem'⟩ := List.of_mem_zip hpair
      exact hread e.1 hfield _ _ (each e he) (hv.of_mem_items _ hmem) (hw.of_mem_items _ hmem')
    have hfold := foldlM_sayAlike hitems start
    unfold readRecord
    dsimp only
    rw [hlength]
    exact congrArg (· >>= _) hfold

/-- What each step of reading fields keeps is kept to their end. -/
theorem foldlM_keeps {p : α → Prop}
    (hread : ∀ r field v r', p r → read r field v = .ok r' → p r') {r : α}
    (l : List (String × Json)) :
    ∀ start, p start → l.foldlM (fun r e => read r e.1 e.2) start = .ok r → p r := by
  induction l with
  | nil =>
    intro start hstart h
    exact Except.ok.inj h ▸ hstart
  | cons e l ih =>
    intro start hstart h
    rw [List.foldlM_cons] at h
    cases hfirst : read start e.1 e.2 with
    | error fault =>
      rw [hfirst] at h
      cases h
    | ok next =>
      rw [hfirst] at h
      exact ih next (hread _ _ _ _ hstart hfirst) h

/-- What the reader of the fields keeps, the reader of the record keeps. -/
theorem readRecord_keeps {p : α → Prop}
    (hread : ∀ r field v r', p r → read r field v = .ok r' → p r') {start r : α} {v : Json}
    (hstart : p start) (h : readRecord name fields read start v = .ok r) : p r := by
  cases v with
  | object members => exact foldlM_keeps hread _ start hstart h
  | array items =>
    unfold readRecord at h
    dsimp only at h
    cases hitems : (fields.zip items).foldlM (fun r e => read r e.1 e.2) start with
    | error fault =>
      rw [hitems] at h
      cases h
    | ok last =>
      rw [hitems] at h
      replace h : (if fields.length < items.length then
        Except.error (ShapeFault.tooLong items.length) else .ok last) = .ok r := h
      split at h
      · cases h
      · exact foldlM_keeps hread _ start hstart (hitems.trans h)
  | _ => cases h

/-- Values that agree in the fields of a record are null together. -/
theorem readNullable_congr {read : Json → Except ShapeFault α} {v w : Json}
    (h : AgreeOn fields agree v w) (hread : read v = read w) :
    readNullable read v = readNullable read w := by
  cases h with
  | same => rfl
  | object each => exact congrArg (Except.map some) hread
  | array hlength each => exact congrArg (Except.map some) hread

end Records

/-! ## What is declared of a status -/

/-- Two values agree in a record whose only field is a text. -/
def AgreeOnSole (field : String) : Json → Json → Prop := AgreeOn [field] fun _ => Eq

/-- Objects that have the same member of this name agree in it, whatever other members they have. -/
theorem agreeOnSole_of_lookup {field : String} {members others : List (String × Json)}
    (h : SortedMap.lookup field members = SortedMap.lookup field others) :
    AgreeOnSole field (.object members) (.object others) := by
  refine .object fun name hname => ?_
  obtain rfl := List.mem_singleton.1 hname
  rw [h]
  cases SortedMap.lookup name others with
  | none => exact .none
  | some v => exact .some rfl

/-- Two values agree in the components of a service: in the address of its predictor. -/
def AgreeOnComponents : Json → Json → Prop := AgreeOn ["predictor"] fun _ => AgreeOnSole "url"

/-- Two values agree in a field of a status. -/
def AgreeOnField (field : String) : Json → Json → Prop :=
  if field = "url" then Eq
  else if field = "address" then AgreeOnSole "url"
  else AgreeOnComponents

/-- Two values agree in what is declared of a status. -/
def AgreeOnStatus : Json → Json → Prop := AgreeOn ["url", "address", "components"] AgreeOnField

section Declared

variable {v w : Json}

theorem readSole_congr (name : String) {field : String} (h : AgreeOnSole field v w)
    (hv : v.Ordered) (hw : w.Ordered) : readSole name field v = readSole name field w := by
  refine readRecord_congr (List.pairwise_singleton _ field) (.refl _) ?_ h hv hw none
  rintro field - v w rfl - - r
  rfl

theorem readComponents_congr (h : AgreeOnComponents v w) (hv : v.Ordered) (hw : w.Ordered) :
    readComponents v = readComponents w := by
  refine readRecord_congr (List.pairwise_singleton _ "predictor") (.refl _) ?_ h hv hw none
  intro field _ v w hagree hv hw r
  have hread := readNullable_congr hagree (readSole_congr "ComponentStatus" hagree hv hw)
  exact congrArg (Except.map Option.join) hread

theorem readField_congr {field : String} (hfield : field ∈ ["url", "address", "components"])
    (h : AgreeOnField field v w) (hv : v.Ordered) (hw : w.Ordered) (s : ServingStatus) :
    readField s field v = readField s field w := by
  simp only [List.mem_cons, List.not_mem_nil, or_false] at hfield
  rcases hfield with rfl | rfl | rfl
  · obtain rfl : v = w := h
    rfl
  · have haddress : AgreeOnSole "url" v w := h
    have hread := readNullable_congr haddress (readSole_congr "Addressable" haddress hv hw)
    exact congrArg (Except.map fun a => { s with address := a.join }) hread
  · have hcomponents : AgreeOnComponents v w := h
    have hread := readNullable_congr hcomponents (readComponents_congr hcomponents hv hw)
    exact congrArg (Except.map fun p => { s with predictor := p.join }) hread

/-- **Statuses that agree in what is declared are read alike.** -/
theorem ofJson_congr (h : AgreeOnStatus v w) (hv : v.Ordered) (hw : w.Ordered) :
    ofJson v = ofJson w := by
  have horder : ["address", "components", "url"].Pairwise fun a b => compare a b = .lt := by
    decide
  have hperm : ["address", "components", "url"].Perm ["url", "address", "components"] := by
    decide
  refine readRecord_congr horder hperm ?_ h hv hw _
  intro field hfield v w hagree hv hw s
  exact readField_congr hfield hagree hv hw s

end Declared

/-! ## Names -/

/-- The status of a service with this name. -/
def named (s : ServingStatus) (name : String) : ServingStatus := { s with name := name }

/-- A good result of a mapped computation comes from a good result of the computation. -/
theorem exists_of_map_eq_ok {ε α β : Type} {x : Except ε α} {f : α → β} {b : β}
    (h : x.map f = .ok b) : ∃ a, x = .ok a ∧ f a = b := by
  cases x with
  | error e => cases h
  | ok a => exact ⟨a, rfl, Except.ok.inj h⟩

/-- A status says no name, also where it has a member `name`. -/
theorem name_of_ofJson {v : Json} {s : ServingStatus} (h : ofJson v = .ok s) : s.name = "" := by
  refine readRecord_keeps (p := fun s => s.name = "") ?_ rfl h
  intro s field v s' hs hread
  unfold readField at hread
  split at hread
  all_goals
    obtain ⟨x, -, rfl⟩ := exists_of_map_eq_ok hread
    exact hs

/-- A record whose only field is a text is read from an object that has this field. -/
theorem readSole_of_member? (record : String) {field text : String} {v : Json} (hv : v.Ordered)
    (h : v.member? field = some (.string text)) : readSole record field v = .ok (some text) := by
  cases v with
  | object members =>
    have hlookup : SortedMap.lookup field members = some (.string text) := h
    rw [readSole, readRecord_object hv (List.pairwise_singleton _ field) (.refl _),
      List.filterMap_cons, hlookup]
    rfl
  | _ => cases h

/-- The name of a service comes from the metadata of its resource. -/
theorem readResourceField_metadata {metadata : Json} {name : String} (hordered : metadata.Ordered)
    (hname : metadata.member? "name" = some (.string name)) (s : ServingStatus) :
    readResourceField s "metadata" metadata = .ok (s.named name) := by
  have hread := readSole_of_member? "Metadata" hordered hname
  have hnullable : readNullable (readSole "Metadata" "name") metadata = .ok (some (some name)) := by
    cases metadata with
    | object members => exact congrArg (Except.map some) hread
    | _ => cases hname
  exact congrArg (Except.map fun n => s.named (n.join.getD "")) hnullable

/-- **A resource says what its status says**, with the name of its metadata. -/
theorem ofResource_eq {resource metadata status : Json} {name : String}
    (hresource : resource.Ordered) (hmetadata : resource.member? "metadata" = some metadata)
    (hname : metadata.member? "name" = some (.string name))
    (hstatus : resource.member? "status" = some status) :
    ofResource resource = (ofJson status).map fun s => s.named name := by
  have horder : ["metadata", "status"].Pairwise fun a b => compare a b = .lt := by decide
  have hordered := hresource.of_under (Json.under_of_member? hmetadata)
  cases resource with
  | object members =>
    have hfirst : SortedMap.lookup "metadata" members = some metadata := hmetadata
    have hsecond : SortedMap.lookup "status" members = some status := hstatus
    rw [ofResource, readRecord_object hresource horder (.refl _), List.filterMap_cons, hfirst,
      List.filterMap_cons, hsecond]
    show (readResourceField {} "metadata" metadata >>= fun s =>
      readResourceField s "status" status >>= pure) = _
    rw [readResourceField_metadata hordered hname]
    exact bind_pure ((ofJson status).map fun s => s.named name)
  | _ => cases hstatus

/-! ## Texts -/

/-- The text is a status alone: it has no member for which it could be taken for a resource. -/
structure IsStatus (status : Json) (text : String) : Prop where
  reads : Json.ofText? text = some status
  alone : status.member? "status" = none

/-- The text is a resource with this status and with metadata that say this name. -/
inductive IsResource (name : String) (status : Json) (text : String) : Prop
  | intro {resource metadata : Json} (reads : Json.ofText? text = some resource)
    (tells : resource.member? "metadata" = some metadata)
    (names : metadata.member? "name" = some (.string name))
    (holds : resource.member? "status" = some status)

section Texts

variable {status : Json} {name text : String}

theorem IsStatus.ordered (h : IsStatus status text) : status.Ordered :=
  Json.ordered_of_ofChars? h.reads

theorem IsResource.ordered (h : IsResource name status text) : status.Ordered := by
  obtain ⟨reads, -, -, holds⟩ := h
  exact (Json.ordered_of_ofChars? reads).of_under (Json.under_of_member? holds)

theorem IsStatus.ofText_eq (h : IsStatus status text) :
    ofText text = (ofJson status).mapError fun fault =>
      .invalidStatus (.malformedStatus fault) := by
  rw [ofText, h.reads]
  dsimp only
  rw [h.alone]
  cases ofJson status <;> rfl

theorem IsResource.ofText_eq (h : IsResource name status text) :
    ofText text = ((ofJson status).map fun s => s.named name).mapError fun fault =>
      .invalidStatus (.malformedResource fault) := by
  obtain ⟨reads, tells, names, holds⟩ := h
  rw [ofText, reads]
  dsimp only
  rw [holds, ofResource_eq (Json.ordered_of_ofChars? reads) tells names holds]
  cases ofJson status <;> rfl

end Texts

end ServingStatus

/-! ## Targets -/

/-- Two statuses tell the same target, or neither of them tells one. -/
def Target.ToldAlike (a b : ServingStatus) : Prop :=
  (∃ target, ofStatus a = .ok target ∧ ofStatus b = .ok target) ∨
    (ofStatus a = .error (.targetUnavailable a.shownName) ∧
      ofStatus b = .error (.targetUnavailable b.shownName))

/-- The target that a status tells does not depend on the name of its service. -/
theorem Target.toldAlike_named (s : ServingStatus) (name : String) :
    ToldAlike s (s.named name) := by
  have hurl : (s.named name).predictorUrl? = s.predictorUrl? := rfl
  unfold ToldAlike ofStatus ServingStatus.hostOf
  rw [hurl]
  cases s.predictorUrl?.bind Url.netloc? with
  | none => exact .inr ⟨rfl, rfl⟩
  | some host => exact .inl ⟨{ host := host }, rfl, rfl⟩

namespace ServingStatus

/-- **A status is read alike alone and within a resource.** Both are accepted, with no difference
but the name and with the same target, or both are refused for the same fault. Members that are not
declared change nothing of this, alone or within a resource. -/
theorem ofText_resource {status : Json} {name s r : String} (hs : IsStatus status s)
    (hr : IsResource name status r) :
    ((∃ told : ServingStatus, told.name = "" ∧ ofText s = .ok told ∧
        ofText r = .ok (told.named name) ∧ Target.ToldAlike told (told.named name)) ∨
      ∃ fault, ofText s = .error (.invalidStatus (.malformedStatus fault)) ∧
        ofText r = .error (.invalidStatus (.malformedResource fault))) ∧
    ∀ other, AgreeOnStatus status other →
      (∀ s', IsStatus other s' → ofText s' = ofText s) ∧
        ∀ r', IsResource name other r' → ofText r' = ofText r := by
  refine ⟨?_, fun other hother => ⟨fun s' hs' => ?_, fun r' hr' => ?_⟩⟩
  · rw [hs.ofText_eq, hr.ofText_eq]
    cases hjson : ofJson status with
    | error fault => exact .inr ⟨fault, rfl, rfl⟩
    | ok told => exact .inl ⟨told, name_of_ofJson hjson, rfl, rfl, Target.toldAlike_named told name⟩
  · rw [hs.ofText_eq, hs'.ofText_eq, ofJson_congr hother hs.ordered hs'.ordered]
  · rw [hr.ofText_eq, hr'.ofText_eq, ofJson_congr hother hr.ordered hr'.ordered]

/-- A status whose components are written as the list of their fields. -/
def plainStatus : Json :=
  .object [("address", .object [("url", .null)]),
    ("components", .array [.object [("url", .string "h:")]])]

/-- The same status with members that are not declared, at every level. -/
def crowdedStatus : Json :=
  .object [("address", .object [("a", .null), ("url", .null)]),
    ("components", .array [.object [("b", .bool true), ("url", .string "h:")]]),
    ("name", .array [])]

/-- The text of `plainStatus`. -/
def plainText : String :=
  "\x7b\"address\":\x7b\"url\":null\x7d,\"components\":[\x7b\"url\":\"h:\"\x7d]\x7d"

/-- A text of `crowdedStatus`. -/
def crowdedText : String :=
  "\x7b\"name\":[],\"address\":\x7b\"a\":null,\"url\":null\x7d," ++
  "\"components\":[\x7b\"url\":\"h:\",\"b\":true\x7d]\x7d"

/-- The text of a resource with `plainStatus`. -/
def resourceText : String :=
  "\x7b\"status\":" ++ plainText ++ ",\"metadata\":\x7b\"name\":\"m\"\x7d,\"kind\":\"K\"\x7d"

theorem ofText_resource_crowdedStatus :
    IsStatus plainStatus plainText ∧ IsResource "m" plainStatus resourceText ∧
      AgreeOnStatus plainStatus crowdedStatus ∧ IsStatus crowdedStatus crowdedText ∧
      ofText plainText = .ok { predictor := some "h:" } ∧
      ofText crowdedText = .ok { predictor := some "h:" } ∧
      ofText resourceText = .ok { name := "m", predictor := some "h:" } := by
  have hplain : IsStatus plainStatus plainText := ⟨by cbv, rfl⟩
  have hcrowded : IsStatus crowdedStatus crowdedText := ⟨by cbv, rfl⟩
  have hresource : IsResource "m" plainStatus resourceText := by
    have hreads : Json.ofText? resourceText = some (.object [("kind", .string "K"),
        ("metadata", .object [("name", .string "m")]), ("status", plainStatus)]) := by cbv
    exact .intro hreads rfl rfl rfl
  have hagree : AgreeOnStatus plainStatus crowdedStatus := by
    refine .object fun field hfield => ?_
    simp only [List.mem_cons, List.not_mem_nil, or_false] at hfield
    rcases hfield with rfl | rfl | rfl
    · exact .none
    · exact .some (agreeOnSole_of_lookup rfl)
    · refine .some (.array rfl fun e he => ?_)
      obtain rfl := List.mem_singleton.1 he
      exact agreeOnSole_of_lookup rfl
  have htold : ofText plainText = .ok { predictor := some "h:" } := by
    rw [hplain.ofText_eq]
    rfl
  obtain ⟨hread, hframe⟩ := ofText_resource hplain hresource
  refine ⟨hplain, hresource, hagree, hcrowded, htold,
    ((hframe crowdedStatus hagree).1 crowdedText hcrowded).trans htold, ?_⟩
  rw [htold] at hread
  obtain ⟨told, -, hs, hr, -⟩ | ⟨fault, hs, -⟩ := hread
  · obtain rfl := Except.ok.inj hs
    exact hr
  · cases hs

end ServingStatus

end ModelProbe
