import AdvisoryLedger.Advisory.Document
import AdvisoryLedger.Proofs.Json.Reading

/-!
# Entries are read one by one

A response is a frame around a list of entries. `ResponseShape.decode?_eq` reads it off the
value of the document, for both shapes alike: the frame gives the address of the package, and
each entry gives an advisory or nothing. Everything about malformed entries follows from that
equation. The one thing that makes a body with a sound frame fail is a list that is none, and
an entry can neither make the body fail nor change what another entry gives.
`entriesStandAlone_of_distinctKeys` puts this together.

What an entry can give is said in a section of its own: an issue gives an advisory only if it
has the right type, and the references of an advisory are never blank.
-/

namespace AdvisoryLedger

open Json

/-! ## A response as the value of its document -/

/-- The address is the same whether a null in its place is there or not. -/
theorem packageUrl?_eq_of_null {found value : Option Value}
    (h : found = value ∨ found = none ∧ value = some .null) :
    packageUrl? found = packageUrl? value := by
  rcases h with rfl | ⟨rfl, rfl⟩ <;> rfl

theorem Issues.batch?_eq {t : Tree} {v : Value} {holder : List (String × Value)}
    (h : Reads nestingLimit t v) (hframe : ResponseShape.issues.HasPlainFrame v)
    (hholder : ResponseShape.issues.holder? v = some holder) :
    batch? t = (listedItems? (lookupLast "data" holder)).map fun entries =>
      ⟨packageUrl? (ResponseShape.issues.url? v), entries.filterMap advisory?⟩ := by
  obtain rfl : v = .object holder := Value.members?_eq_some_iff.mp hholder
  obtain ⟨field, hfields, hrel⟩ :=
    fields?_of_reads (nestingLimit - 1) h hframe ["meta", "data"] 2
  obtain ⟨about, habout, hnull⟩ := exists_optionalTree? (hrel "meta")
  have hentries := treesOf?_of_rel (nestingLimit - 2) (hrel "data")
  have hurl : (about.bind (·.member? "package")).bind (·.member? "url")
      = ResponseShape.issues.url? (.object holder) := by
    show _ = ((lookupLast "meta" holder).bind (·.member? "package")).bind (·.member? "url")
    rcases hnull with rfl | ⟨rfl, hmeta⟩
    · rfl
    · rw [hmeta]
      rfl
  rw [← hurl, ← hentries]
  unfold batch?
  simp only [hfields, List.map_cons, List.map_nil, Option.bind_eq_bind, Option.bind_some, habout]
  cases optionalTree? (treesOf? (Value.ofTree? (nestingLimit - 2))) (field "data") <;> rfl

namespace Package

/-- A part of the document that is an object in the value is read as it is. -/
theorem optionalTree?_of_object {α : Type} (room : Nat) {field : Option Tree}
    {members : List (String × Value)}
    (h : Option.Rel (Reads (room + 1)) field (some (.object members))) (read : Tree → Option α) :
    ∃ t, Reads (room + 1) t (.object members) ∧ optionalTree? read field = (read t).map some := by
  cases h with
  | @some t _ hread =>
      obtain ⟨raw, -, rfl, -, -⟩ := exists_members_of_reads hread
      exact ⟨.object raw, hread, rfl⟩

theorem attributes?_eq {t : Tree} {members : List (String × Value)}
    (h : Reads (nestingLimit - 2) t (.object members)) (hkeys : (members.map Prod.fst).Nodup) :
    attributes? t = (listedItems? (lookupLast "vulnerabilities" members)).map fun entries =>
      ⟨packageUrl? (lookupLast "package_url" members), entries.filterMap advisory?⟩ := by
  obtain ⟨field, hfields, hrel⟩ :=
    fields?_of_reads (nestingLimit - 3) h hkeys ["package_url", "vulnerabilities"] 2
  obtain ⟨url, hurl, hnull⟩ := exists_optionalTree? (hrel "package_url")
  have hentries := treesOf?_of_rel (nestingLimit - 4) (hrel "vulnerabilities")
  rw [← packageUrl?_eq_of_null hnull, ← hentries]
  unfold attributes?
  simp only [hfields, List.map_cons, List.map_nil, Option.bind_eq_bind, Option.bind_some, hurl]
  cases optionalTree? (treesOf? (Value.ofTree? (nestingLimit - 4))) (field "vulnerabilities") <;> rfl

theorem data?_eq {t : Tree} {members attributes : List (String × Value)}
    (h : Reads (nestingLimit - 1) t (.object members)) (hkeys : (members.map Prod.fst).Nodup)
    (hattributes : lookupLast "attributes" members = some (.object attributes)) :
    ∃ t', Reads (nestingLimit - 2) t' (.object attributes) ∧
      data? t = (attributes? t').map some := by
  obtain ⟨field, hfields, hrel⟩ :=
    fields?_of_reads (nestingLimit - 2) h hkeys ["attributes"] 1
  obtain ⟨t', hread, hoptional⟩ :=
    optionalTree?_of_object (nestingLimit - 3) (hattributes ▸ hrel "attributes") attributes?
  refine ⟨t', hread, ?_⟩
  unfold data?
  simp only [hfields, List.map_cons, List.map_nil, Option.bind_eq_bind, Option.bind_some, hoptional]

theorem batch?_eq {t : Tree} {v : Value} {holder : List (String × Value)}
    (h : Reads nestingLimit t v) (hframe : ResponseShape.package.HasPlainFrame v)
    (hholder : ResponseShape.package.holder? v = some holder) :
    batch? t = (listedItems? (lookupLast "vulnerabilities" holder)).map fun entries =>
      ⟨packageUrl? (ResponseShape.package.url? v), entries.filterMap advisory?⟩ := by
  obtain ⟨attributes, hvalue, hmembers⟩ := Option.bind_eq_some_iff.mp hholder
  obtain ⟨data, hdata, hattributes⟩ := Option.bind_eq_some_iff.mp hvalue
  have hurl : ResponseShape.package.url? v = attributes.member? "package_url" := by
    show ((v.member? "data").bind (·.member? "attributes")).bind (·.member? "package_url") = _
    rw [hvalue]
    rfl
  obtain ⟨hkeys, hframe⟩ := hframe
  obtain ⟨hdataKeys, hframe⟩ := hframe data hdata
  have hattributesKeys := hframe attributes hattributes
  -- the document, its data and the attributes are objects, since they have members
  obtain rfl : attributes = .object holder := Value.members?_eq_some_iff.mp hmembers
  obtain ⟨dataMembers, rfl, hlookup⟩ := Value.exists_of_member?_eq_some hattributes
  obtain ⟨members, rfl, hlookup'⟩ := Value.exists_of_member?_eq_some hdata
  obtain ⟨field, hfields, hrel⟩ := fields?_of_reads (nestingLimit - 1) h hkeys ["data"] 1
  obtain ⟨t₁, hread₁, hoptional⟩ :=
    optionalTree?_of_object (nestingLimit - 2) (hlookup' ▸ hrel "data") data?
  obtain ⟨t₂, hread₂, hdata₂⟩ := data?_eq hread₁ hdataKeys hlookup
  rw [hurl]
  unfold batch?
  simp only [hfields, List.map_cons, List.map_nil, Option.bind_eq_bind, Option.bind_some, hoptional,
    hdata₂, attributes?_eq hread₂ hattributesKeys]
  cases listedItems? (lookupLast "vulnerabilities" holder) <;> rfl

end Package

namespace ResponseShape

/-- A response is read from the value of its document: the address from its place, and an
advisory from each entry that has one. -/
theorem decode?_eq (shape : ResponseShape) {body : List UInt8} {v : Value}
    {holder : List (String × Value)} (hv : Value.ofBytes? body = some v)
    (hframe : shape.HasPlainFrame v) (hholder : shape.holder? v = some holder) :
    shape.decode? body = (listedItems? (lookupLast shape.entriesKey holder)).map fun entries =>
      ⟨packageUrl? (shape.url? v), entries.filterMap shape.advisory?⟩ := by
  obtain ⟨t, ht, hread⟩ := Option.bind_eq_some_iff.mp hv
  unfold decode?
  rw [ht, Option.bind_some]
  cases shape with
  | issues => exact Issues.batch?_eq hread hframe hholder
  | package => exact Package.batch?_eq hread hframe hholder

/-! ## The frame of a document -/

theorem hasPlainFrame_of_hasDistinctKeys (shape : ResponseShape) {v : Value}
    (h : v.HasDistinctKeys) : shape.HasPlainFrame v := by
  have hkeys {w : Value} (hw : w.HasDistinctKeys) : w.keys.Nodup := by
    cases hw with
    | object hnodup _ => exact hnodup
    | _ => exact List.nodup_nil
  have hmember {key : String} {w w' : Value} (hw : w.HasDistinctKeys)
      (hw' : w' ∈ w.member? key) : w'.HasDistinctKeys := by
    obtain ⟨members, rfl, hlookup⟩ := Value.exists_of_member?_eq_some hw'
    cases hw with
    | object _ hall => exact hall _ (mem_of_lookupLast_eq_some hlookup)
  cases shape with
  | issues => exact hkeys h
  | package =>
      refine ⟨hkeys h, fun data hdata => ⟨hkeys (hmember h hdata), ?_⟩⟩
      intro attributes hattributes
      exact hkeys (hmember (hmember h hdata) hattributes)

/-- Other entries are in the same frame. -/
theorem HasPlainFrame.withEntries {shape : ResponseShape} {v : Value} (h : shape.HasPlainFrame v)
    (entries : List Value) : shape.HasPlainFrame (shape.withEntries entries v) := by
  cases shape with
  | issues =>
      simp only [HasPlainFrame, ResponseShape.withEntries, keys_mapMember]
      exact h
  | package =>
      obtain ⟨hkeys, hrest⟩ := h
      simp only [HasPlainFrame, ResponseShape.withEntries, keys_mapMember, member?_mapMember, if_true]
      refine ⟨hkeys, ?_⟩
      intro data' hdata'
      obtain ⟨data, hdata, rfl⟩ := Option.map_eq_some_iff.mp hdata'
      obtain ⟨hdataKeys, hattributes⟩ := hrest data hdata
      simp only [keys_mapMember, member?_mapMember, if_true]
      refine ⟨hdataKeys, ?_⟩
      intro attributes' hattributes'
      obtain ⟨attributes, hmem, rfl⟩ := Option.map_eq_some_iff.mp hattributes'
      rw [keys_mapMember]
      exact hattributes attributes hmem

theorem url?_withEntries (shape : ResponseShape) (entries : List Value) (v : Value) :
    shape.url? (shape.withEntries entries v) = shape.url? v := by
  cases shape with
  | issues =>
      simp only [url?, withEntries]
      rw [member?_mapMember, if_neg (by decide)]
  | package =>
      simp only [url?, withEntries, member?_mapMember, if_true]
      cases v.member? "data" with
      | none => rfl
      | some data =>
          simp only [Option.map_some, Option.bind_some, member?_mapMember, if_true]
          cases data.member? "attributes" with
          | none => rfl
          | some attributes =>
              simp only [Option.map_some, Option.bind_some]
              rw [member?_mapMember, if_neg (by decide)]

theorem holder?_withEntries {shape : ResponseShape} {v : Value} {holder : List (String × Value)}
    (h : shape.holder? v = some holder) (entries : List Value) :
    shape.holder? (shape.withEntries entries v)
      = some (holder.map (updateMember shape.entriesKey fun _ => .array entries)) := by
  cases shape with
  | issues =>
      obtain rfl : v = .object holder := Value.members?_eq_some_iff.mp h
      rfl
  | package =>
      obtain ⟨attributes, hvalue, hmembers⟩ := Option.bind_eq_some_iff.mp h
      obtain ⟨data, hdata, hattributes⟩ := Option.bind_eq_some_iff.mp hvalue
      obtain rfl : attributes = .object holder := Value.members?_eq_some_iff.mp hmembers
      simp only [holder?, withEntries, member?_mapMember, if_true, hdata, hattributes,
        Option.map_some, Option.bind_some]
      rfl

end ResponseShape

/-! ## What an entry can contribute -/

/-- A field that was read and found was there. -/
theorem exists_of_optional?_eq_some {α : Type} {read : Value → Option α} {field : Option Value} {a : α}
    (h : optional? read field = some (some a)) : ∃ v, field = some v ∧ read v = some a := by
  cases field with
  | none => cases h
  | some v =>
      refine ⟨v, rfl, ?_⟩
      cases v with
      | null => cases h
      | _ => simpa [optional?] using h

theorem exists_of_optionalTree?_eq_some {α : Type} {read : Tree → Option α} {field : Option Tree}
    {a : α} (h : optionalTree? read field = some (some a)) : ∃ t, field = some t ∧ read t = some a := by
  cases field with
  | none => cases h
  | some t =>
      refine ⟨t, rfl, ?_⟩
      cases t with
      | null => cases h
      | _ => simpa [optionalTree?] using h

theorem eq_string_of_text?_eq_some {v : Value} {s : String} (h : v.text? = some s) :
    v = .string s := by
  cases v with
  | string s' => rw [Option.some.inj h]
  | _ => cases h

/-- The names of the attributes of an issue. -/
def Issues.attributeNames : List String :=
  ["type", "title", "description", "created_at", "updated_at", "problems", "severities", "slots",
    "coordinates"]

/-- Attributes that can be read give a type or none, and addresses that are not blank. -/
theorem Issues.cases_of_attributes?_eq_some {id type : Option String} {v : Value} {a : Advisory}
    (h : attributes? id v = some (type, a)) :
    ∃ field rest list, v.fields? attributeNames = some (field :: rest) ∧
      optional? Value.text? field = some type ∧ a.references = presentAddresses list := by
  unfold attributes? at h
  obtain ⟨fields, hfields, h⟩ := Option.bind_eq_some_iff.mp h
  split at h
  · next field _ _ _ _ _ _ _ _ =>
    simp only [Option.bind_eq_bind, Option.bind_eq_some_iff, Option.some.injEq, Prod.mk.injEq] at h
    obtain ⟨type', htype, slots, -, _, -, _, -, _, -, _, -, _, -, _, -, _, -, rfl, rfl⟩ := h
    exact ⟨field, _, slots.join, hfields, htype, rfl⟩
  · cases h

/-- Only issues whose attributes give the right type are advisories. -/
theorem Issues.cases_of_advisory?_eq_some {v : Value} {a : Advisory} (h : advisory? v = some a) :
    ∃ id type attributes, v.fields? ["id", "attributes"] = some [id, some attributes] ∧
      (∃ id, attributes? id attributes = some (some type, a)) ∧
      Text.equalIgnoringAsciiCase type vulnerabilityType = true := by
  unfold advisory? at h
  obtain ⟨fields, hfields, h⟩ := Option.bind_eq_some_iff.mp h
  split at h
  · next idField field =>
    obtain ⟨id, -, h⟩ := Option.bind_eq_some_iff.mp h
    obtain ⟨found, hfound, h⟩ := Option.bind_eq_some_iff.mp h
    split at h
    · next type advisory =>
      split at h
      · next htype =>
        obtain rfl := Option.some.inj h
        obtain ⟨attributes, rfl, hattributes⟩ := exists_of_optional?_eq_some hfound
        exact ⟨idField, type, attributes, hfields, ⟨id, hattributes⟩, htype⟩
      · cases h
    · cases h
  · cases h

/-- An issue that is an object is an advisory only if its attributes have the right type. -/
theorem Issues.type_of_advisory?_eq_some {members attributes : List (String × Value)} {a : Advisory}
    (h : advisory? (.object members) = some a)
    (hattributes : lookupLast "attributes" members = some (.object attributes)) :
    ∃ type, lookupLast "type" attributes = some (.string type) ∧
      Text.equalIgnoringAsciiCase type vulnerabilityType = true := by
  obtain ⟨idField, type, found, hfields, ⟨id, hfound⟩, htype⟩ := cases_of_advisory?_eq_some h
  simp only [Value.fields?, List.map_cons, List.map_nil, Option.some.injEq, List.cons.injEq,
    hattributes, and_true] at hfields
  obtain ⟨-, rfl⟩ := hfields
  obtain ⟨field, rest, -, hfields, hread, -⟩ := cases_of_attributes?_eq_some hfound
  simp only [Value.fields?, attributeNames, List.map_cons, Option.some.injEq, List.cons.injEq]
    at hfields
  obtain ⟨rfl, -⟩ := hfields
  obtain ⟨v, hv, htext⟩ := exists_of_optional?_eq_some hread
  exact ⟨type, hv.trans (congrArg some (eq_string_of_text?_eq_some htext)), htype⟩

theorem Issues.exists_references {v : Value} {a : Advisory} (h : advisory? v = some a) :
    ∃ list, a.references = presentAddresses list := by
  obtain ⟨-, type, attributes, -, ⟨id, hattributes⟩, -⟩ := cases_of_advisory?_eq_some h
  obtain ⟨-, -, list, -, -, hlist⟩ := cases_of_attributes?_eq_some hattributes
  exact ⟨list, hlist⟩

theorem Package.exists_references {v : Value} {a : Advisory} (h : advisory? v = some a) :
    ∃ list, a.references = presentAddresses list := by
  unfold advisory? at h
  obtain ⟨fields, -, h⟩ := Option.bind_eq_some_iff.mp h
  split at h
  · simp only [Option.bind_eq_bind, Option.bind_eq_some_iff, Option.some.injEq] at h
    obtain ⟨_, -, _, -, _, -, _, -, _, -, _, -, references, hread, _, -, _, -, _, -, rfl⟩ := h
    obtain ⟨list, -, rfl⟩ := Option.map_eq_some_iff.mp hread
    exact ⟨list, rfl⟩
  · cases h

theorem Issues.exists_entries {t : Tree} {batch : AdvisoryBatch} (h : batch? t = some batch) :
    ∃ entries : List Value, batch.advisories = entries.filterMap advisory? := by
  unfold batch? at h
  obtain ⟨fields, -, h⟩ := Option.bind_eq_some_iff.mp h
  split at h
  · obtain ⟨about, -, h⟩ := Option.bind_eq_some_iff.mp h
    obtain ⟨entries, -, h⟩ := Option.bind_eq_some_iff.mp h
    rw [← Option.some.inj h]
    exact ⟨entries.getD [], rfl⟩
  · cases h

theorem Package.exists_entries_attributes {t : Tree} {batch : AdvisoryBatch}
    (h : attributes? t = some batch) :
    ∃ entries : List Value, batch.advisories = entries.filterMap advisory? := by
  unfold attributes? at h
  obtain ⟨fields, -, h⟩ := Option.bind_eq_some_iff.mp h
  split at h
  · obtain ⟨url, -, h⟩ := Option.bind_eq_some_iff.mp h
    obtain ⟨entries, -, h⟩ := Option.bind_eq_some_iff.mp h
    rw [← Option.some.inj h]
    exact ⟨entries.getD [], rfl⟩
  · cases h

theorem Package.exists_entries {t : Tree} {batch : AdvisoryBatch} (h : batch? t = some batch) :
    ∃ entries : List Value, batch.advisories = entries.filterMap advisory? := by
  unfold batch? at h
  obtain ⟨fields, -, h⟩ := Option.bind_eq_some_iff.mp h
  split at h
  · obtain ⟨found, hfound, h⟩ := Option.bind_eq_some_iff.mp h
    rw [← Option.some.inj h]
    cases hdata : found.join with
    | none => exact ⟨[], rfl⟩
    | some inner =>
        obtain rfl : found = some (some inner) := Option.join_eq_some_iff.mp hdata
        obtain ⟨data, -, hread⟩ := exists_of_optionalTree?_eq_some hfound
        unfold data? at hread
        obtain ⟨fields, -, hread⟩ := Option.bind_eq_some_iff.mp hread
        split at hread
        · obtain ⟨attributes, -, hread⟩ := exists_of_optionalTree?_eq_some hread
          exact exists_entries_attributes hread
        · cases hread
  · cases h

namespace ResponseShape

/-- Whatever the entry, the references of its advisory are not blank. -/
theorem isBlankText_of_mem_references (shape : ResponseShape) {entry : Value} {a : Advisory}
    (h : shape.advisory? entry = some a) {url : String} (hurl : url ∈ a.references) :
    Text.isBlankText url = false := by
  obtain ⟨list, hlist⟩ : ∃ list, a.references = presentAddresses list := by
    cases shape with
    | issues => exact Issues.exists_references h
    | package => exact Package.exists_references h
  rw [hlist] at hurl
  simpa using List.of_mem_filter hurl

/-- Whatever the body, the advisories in it are those of some entries. -/
theorem exists_entries_of_decode?_eq_some (shape : ResponseShape) {body : List UInt8}
    {batch : AdvisoryBatch} (h : shape.decode? body = some batch) :
    ∃ entries : List Value, batch.advisories = entries.filterMap shape.advisory? := by
  obtain ⟨t, -, hbatch⟩ := Option.bind_eq_some_iff.mp h
  cases shape with
  | issues => exact Issues.exists_entries hbatch
  | package => exact Package.exists_entries hbatch

/-! ## Malformed entries -/

/-- The entries of the document with the value `v`, which stand in the object `holder`, have
nothing to do with each other. -/
structure EntriesStandAlone (shape : ResponseShape) (body : List UInt8) (v : Value)
    (holder : List (String × Value)) : Prop where
  /-- The body is refused exactly if there is something in the place of the list that is no list. -/
  refused : shape.decode? body = none ↔
    ∃ w, lookupLast shape.entriesKey holder = some w ∧ w ≠ .null ∧ ∀ entries, w ≠ .array entries
  /-- An entry gives what it gives on its own, and the address is that of the frame. -/
  each : ∀ entries, lookupLast shape.entriesKey holder = some (.array entries) →
    shape.decode? body = some ⟨packageUrl? (shape.url? v), entries.filterMap shape.advisory?⟩
  /-- Two lists of entries give together what bodies with one of them give. -/
  append : ∀ xs ys, lookupLast shape.entriesKey holder = some (.array (xs ++ ys)) →
    ∀ front back, Value.ofBytes? front = some (shape.withEntries xs v) →
      Value.ofBytes? back = some (shape.withEntries ys v) →
      ∃ url as bs, shape.decode? front = some ⟨url, as⟩ ∧ shape.decode? back = some ⟨url, bs⟩ ∧
        shape.decode? body = some ⟨url, as ++ bs⟩
  /-- An issue gives nothing unless its attributes have the right type. -/
  type : shape = .issues → ∀ members attributes a, shape.advisory? (.object members) = some a →
    lookupLast "attributes" members = some (.object attributes) →
    ∃ type, lookupLast "type" attributes = some (.string type) ∧
      Text.equalIgnoringAsciiCase type Issues.vulnerabilityType = true
  /-- No reference is blank. -/
  references : ∀ batch, shape.decode? body = some batch →
    ∀ a ∈ batch.advisories, ∀ url ∈ a.references, Text.isBlankText url = false

theorem listedItems?_eq_none_iff {field : Option Value} :
    listedItems? field = none ↔ ∃ w, field = some w ∧ w ≠ .null ∧ ∀ items, w ≠ .array items := by
  cases field with
  | none => simp [listedItems?]
  | some w => cases w <;> simp [listedItems?]

/-- Bodies with the same frame are read with the same address. -/
theorem decode?_withEntries (shape : ResponseShape) {body : List UInt8} {v w : Value}
    {holder : List (String × Value)} (hframe : shape.HasPlainFrame v)
    (hholder : shape.holder? v = some holder) (hw : lookupLast shape.entriesKey holder = some w)
    {entries : List Value} (hbody : Value.ofBytes? body = some (shape.withEntries entries v)) :
    shape.decode? body = some ⟨packageUrl? (shape.url? v), entries.filterMap shape.advisory?⟩ := by
  rw [shape.decode?_eq hbody (hframe.withEntries entries) (holder?_withEntries hholder entries),
    lookupLast_map_updateMember, if_pos rfl, hw, url?_withEntries]
  rfl

/-- **A malformed entry drops only itself.** -/
theorem entriesStandAlone_of_distinctKeys (shape : ResponseShape) {body : List UInt8} {v : Value}
    {holder : List (String × Value)} (hv : Value.ofBytes? body = some v)
    (hdistinct : v.HasDistinctKeys) (hholder : shape.holder? v = some holder) :
    shape.EntriesStandAlone body v holder := by
  have hframe := shape.hasPlainFrame_of_hasDistinctKeys hdistinct
  have hdecode := shape.decode?_eq hv hframe hholder
  have heach : ∀ entries, lookupLast shape.entriesKey holder = some (.array entries) →
      shape.decode? body
        = some ⟨packageUrl? (shape.url? v), entries.filterMap shape.advisory?⟩ := by
    intro entries hentries
    rw [hdecode, hentries]
    rfl
  constructor
  case refused => rw [hdecode, Option.map_eq_none_iff, listedItems?_eq_none_iff]
  case each => exact heach
  case append =>
    intro xs ys hentries front back hfront hback
    refine ⟨packageUrl? (shape.url? v), xs.filterMap shape.advisory?, ys.filterMap shape.advisory?,
      decode?_withEntries shape hframe hholder hentries hfront,
      decode?_withEntries shape hframe hholder hentries hback, ?_⟩
    rw [heach _ hentries, List.filterMap_append]
  case type =>
    rintro rfl members attributes a ha hattributes
    exact Issues.type_of_advisory?_eq_some ha hattributes
  case references =>
    intro batch hbatch a ha url hurl
    obtain ⟨entries, hentries⟩ := shape.exists_entries_of_decode?_eq_some hbatch
    rw [hentries] at ha
    obtain ⟨entry, -, hentry⟩ := List.mem_filterMap.mp ha
    exact shape.isBlankText_of_mem_references hentry hurl

set_option maxRecDepth 2000 in
/-- An issue next to one with a malformed title. -/
theorem entriesStandAlone_malformedTitle :
    let issue := fun (id : String) (title : Value) => Value.object
      [("id", .string id), ("attributes", .object
        [("type", .string "package_vulnerability"), ("title", title)])]
    let holder : List (String × Value) :=
      [("data", .array [issue "A" (.number (.natural 5)), issue "B" .null])]
    let body := Text.utf8
      ("\x7b\"data\":["
        ++ "\x7b\"id\":\"A\",\"attributes\":\x7b\"type\":\"package_vulnerability\","
        ++ "\"title\":5\x7d\x7d,"
        ++ "\x7b\"id\":\"B\",\"attributes\":\x7b\"type\":\"package_vulnerability\","
        ++ "\"title\":null\x7d\x7d]\x7d")
    Value.ofBytes? body = some (.object holder) ∧ (Value.object holder).HasDistinctKeys ∧
      ResponseShape.issues.EntriesStandAlone body (.object holder) holder := by
  intro issue holder body
  have hissue (id : String) {title : Value} (htitle : title.HasDistinctKeys) :
      (issue id title).HasDistinctKeys := by
    refine .object (by simp) (List.forall_mem_cons.mpr ⟨.string id, ?_⟩)
    refine List.forall_mem_singleton.mpr (.object (by simp) ?_)
    exact List.forall_mem_cons.mpr ⟨.string _, List.forall_mem_singleton.mpr htitle⟩
  have hbody : Value.ofBytes? body = some (.object holder) := by rfl
  have hdistinct : (Value.object holder).HasDistinctKeys := by
    refine .object (by decide) (List.forall_mem_singleton.mpr (.array ?_))
    exact List.forall_mem_cons.mpr
      ⟨hissue "A" (.number _), List.forall_mem_singleton.mpr (hissue "B" .null)⟩
  exact ⟨hbody, hdistinct, entriesStandAlone_of_distinctKeys .issues hbody hdistinct rfl⟩

end ResponseShape

end AdvisoryLedger
