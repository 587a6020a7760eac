import AdvisoryLedger.Proofs.Advisory.Entries

/-!
# Both shapes say the same

A raw advisory can be written as an issue, with its attributes and its slots, or as an entry of
a package, and either way it comes to `RawAdvisory.advisory?`: the same advisory, or none if a
member is malformed. With what is known of whole responses (`ResponseShape.decode?_eq`), two
responses of different shapes that list the same raw advisories decode to the same batch. For
any raw advisories there are two such responses (`ResponseShape.lists_document`).
-/

namespace AdvisoryLedger

open Json

/-! ## Single entries -/

/-- An entry of a package comes to the raw advisory that it gives. -/
theorem Package.advisory?_eq_of_gives {entry : Value} {r : RawAdvisory} (h : Gives entry r) :
    advisory? entry = r.advisory? := by
  obtain ⟨members, rfl, h⟩ := h
  unfold advisory? RawAdvisory.advisory?
  simp only [Value.fields?, List.map_cons, List.map_nil, Option.bind_eq_bind, Option.bind_some,
    h.id, h.title, h.description, h.createdAt, h.updatedAt, h.publishedAt, h.problems, h.severities,
    h.references, h.coordinates]
  rfl

/-- How the slots of an issue are read. -/
def Issues.slots? (field : Option Value) : Option (Option (Option (List (Option String)))) :=
  optional? (fun slots => do
    match ← slots.fields? ["references"] with
    | [list] => optional? (listOf? reference?) list
    | _ => none) field

/-- The references in the slots are read like those of an entry of a package. -/
theorem Issues.slots?_of_slotsGive {slots references : Option Value}
    (h : SlotsGive slots references) :
    (slots? slots).map (fun found => presentAddresses found.join) = references? references := by
  rcases h with ⟨rfl, rfl⟩ | ⟨members, rfl, rfl⟩
  · rfl
  · show ((optional? (listOf? reference?) (lookupLast "references" members)).map some).map _
      = (optional? (listOf? reference?) (lookupLast "references" members)).map presentAddresses
    rw [Option.map_map]
    rfl

/-- An issue comes to the raw advisory that it gives. -/
theorem Issues.advisory?_eq_of_gives {entry : Value} {r : RawAdvisory} (h : Gives entry r) :
    advisory? entry = r.advisory? := by
  obtain ⟨hid, attributes, hattributes, h⟩ := h
  obtain ⟨members, rfl, hlookup⟩ := Value.exists_of_member?_eq_some hattributes
  obtain ⟨type, htype, hequal⟩ := h.type
  have hid : lookupLast "id" members = r.id := hid
  have hread : ∀ id, attributes? id (.object attributes) = (do
      let slots ← slots? (lookupLast "slots" attributes)
      let title ← optional? Value.text? r.title
      let description ← optional? Value.text? r.description
      let createdAt ← optional? Value.text? r.createdAt
      let updatedAt ← optional? Value.text? r.updatedAt
      let problems ← problems? r.problems
      let severity ← firstSeverity? r.severities
      let ranges ← ranges? r.coordinates
      some (some type, ⟨id, title, description, createdAt, updatedAt, none,
        presentAddresses slots.join, problems, severity, ranges⟩)) := by
    intro id
    unfold attributes?
    simp only [Value.fields?, List.map_cons, List.map_nil, Option.bind_eq_bind, Option.bind_some,
      htype, h.title, h.description, h.createdAt, h.updatedAt, h.problems, h.severities,
      h.coordinates]
    rfl
  have hfound (id : Option String) : optional? (attributes? id) (some (.object attributes))
      = (attributes? id (.object attributes)).map some := rfl
  unfold advisory? RawAdvisory.advisory?
  simp only [Value.fields?, List.map_cons, List.map_nil, Option.bind_eq_bind, Option.bind_some, hid,
    hlookup, hfound, hread, ← slots?_of_slotsGive h.slots]
  cases slots? (lookupLast "slots" attributes) with
  | none => simp
  | some slots => simp [hequal, Option.map_bind, Option.bind_assoc]

/-! ## Entries as they are written -/

/-- An issue gives what was written into it. -/
theorem Issues.gives_entry (r : RawAdvisory) : Gives (entry r) r := by
  refine ⟨by simp [entry, Value.member?], attributes r, by simp [entry, Value.member?], ?_⟩
  unfold attributes
  constructor
  case type => exact ⟨vulnerabilityType, by simp, by decide⟩
  case slots =>
    cases r.references with
    | none => exact .inl ⟨by simp, rfl⟩
    | some list => exact .inr ⟨[("references", list)], by simp, rfl⟩
  all_goals simp

/-- An entry of a package gives what was written into it. -/
theorem Package.gives_entry (r : RawAdvisory) : Gives (entry r) r := by
  refine ⟨_, rfl, ?_⟩
  constructor <;> simp

/-! ## Whole responses -/

namespace ResponseShape

theorem advisory?_eq_of_gives (shape : ResponseShape) {entry : Value} {r : RawAdvisory}
    (h : shape.Gives entry r) : shape.advisory? entry = r.advisory? := by
  cases shape with
  | issues => exact Issues.advisory?_eq_of_gives h
  | package => exact Package.advisory?_eq_of_gives h

theorem filterMap_advisory?_eq (shape : ResponseShape) {entries : List Value}
    {raws : List RawAdvisory} (h : List.Forall₂ shape.Gives entries raws) :
    entries.filterMap shape.advisory? = raws.filterMap RawAdvisory.advisory? := by
  induction h with
  | nil => rfl
  | cons hgives _ ih =>
      rw [List.filterMap_cons, List.filterMap_cons, shape.advisory?_eq_of_gives hgives, ih]

/-- A response of any shape decodes to the advisories that it lists. -/
theorem decode?_of_lists (shape : ResponseShape) {body : List UInt8} {v : Value}
    {url : Option Value} {raws : List RawAdvisory} (hv : Value.ofBytes? body = some v)
    (h : shape.Lists v url raws) :
    shape.decode? body = some ⟨packageUrl? url, raws.filterMap RawAdvisory.advisory?⟩ := by
  obtain ⟨holder, entries, hholder, hentries, hgives⟩ := h.entries
  rw [shape.decode?_eq hv h.frame hholder, hentries, h.url, ← shape.filterMap_advisory?_eq hgives]
  rfl

/-- In either shape a response can be written that lists any raw advisories whatever. -/
theorem lists_document (shape : ResponseShape) (url : Value) (raws : List RawAdvisory) :
    shape.Lists (shape.document url raws) (some url) raws := by
  cases shape with
  | issues =>
      have hgives : List.Forall₂ Issues.Gives (raws.map Issues.entry) raws :=
        List.forall₂_map_left_iff.mpr (List.forall₂_same.mpr fun r _ => Issues.gives_entry r)
      refine ⟨?_, rfl, _, _, rfl, rfl, hgives⟩
      show ["meta", "data"].Nodup
      decide
  | package =>
      have hgives : List.Forall₂ Package.Gives (raws.map Package.entry) raws :=
        List.forall₂_map_left_iff.mpr (List.forall₂_same.mpr fun r _ => Package.gives_entry r)
      refine ⟨⟨List.nodup_singleton "data", ?_⟩, rfl, _, _, rfl, rfl, hgives⟩
      rintro data ⟨⟩
      refine ⟨List.nodup_singleton "attributes", ?_⟩
      rintro attributes ⟨⟩
      show ["package_url", "vulnerabilities"].Nodup
      decide

/-- **Both shapes decode alike.** A response that lists issues and a response about a package
that have the same raw advisories, and the same in the place of the address, both decode, and
to the same batch. -/
theorem decode?_issues_eq_package {issuesBody packageBody : List UInt8} {v w : Value}
    {url : Option Value} {raws : List RawAdvisory} (hv : Value.ofBytes? issuesBody = some v)
    (hw : Value.ofBytes? packageBody = some w) (hissues : issues.Lists v url raws)
    (hpackage : package.Lists w url raws) :
    ∃ batch, issues.decode? issuesBody = some batch ∧ package.decode? packageBody = some batch ∧
      batch.packageUrl = packageUrl? url ∧
      batch.advisories = raws.filterMap RawAdvisory.advisory? :=
  ⟨_, issues.decode?_of_lists hv hissues, package.decode?_of_lists hw hpackage, rfl, rfl⟩

/-- An advisory with a reference, and one whose title is no text. -/
def sampleRaws : List RawAdvisory :=
  [⟨some (.string "A"), none, none, none, none, none, none,
      some (.array [.object [("url", .string "https://a.example")]]), none⟩,
    ⟨some (.string "B"), some (.number (.natural 5)), none, none, none, none, none, none, none⟩]

set_option maxRecDepth 4000 in
theorem decode?_issues_eq_package_sampleRaws :
    let issuesBody := Text.utf8
      ("\x7b\"meta\":\x7b\"package\":\x7b\"url\":\"pkg:npm/a@1\"\x7d\x7d,\"data\":["
        ++ "\x7b\"id\":\"A\",\"attributes\":\x7b\"type\":\"package_vulnerability\","
        ++ "\"slots\":\x7b\"references\":[\x7b\"url\":\"https://a.example\"\x7d]\x7d\x7d\x7d,"
        ++ "\x7b\"id\":\"B\",\"attributes\":\x7b\"type\":\"package_vulnerability\","
        ++ "\"title\":5\x7d\x7d]\x7d")
    let packageBody := Text.utf8
      ("\x7b\"data\":\x7b\"attributes\":\x7b\"package_url\":\"pkg:npm/a@1\",\"vulnerabilities\":["
        ++ "\x7b\"id\":\"A\",\"references\":[\x7b\"url\":\"https://a.example\"\x7d]\x7d,"
        ++ "\x7b\"id\":\"B\",\"title\":5\x7d]\x7d\x7d\x7d")
    ∃ v w, Value.ofBytes? issuesBody = some v ∧ Value.ofBytes? packageBody = some w ∧
      issues.Lists v (some (.string "pkg:npm/a@1")) sampleRaws ∧
      package.Lists w (some (.string "pkg:npm/a@1")) sampleRaws ∧
      ∃ batch, issues.decode? issuesBody = some batch ∧ package.decode? packageBody = some batch ∧
        batch.packageUrl = packageUrl? (some (.string "pkg:npm/a@1")) ∧
        batch.advisories = sampleRaws.filterMap RawAdvisory.advisory? := by
  intro issuesBody packageBody
  let v := issues.document (.string "pkg:npm/a@1") sampleRaws
  let w := package.document (.string "pkg:npm/a@1") sampleRaws
  have hv : Value.ofBytes? issuesBody = some v := by rfl
  have hw : Value.ofBytes? packageBody = some w := by rfl
  have hissues := issues.lists_document (.string "pkg:npm/a@1") sampleRaws
  have hpackage := package.lists_document (.string "pkg:npm/a@1") sampleRaws
  exact ⟨v, w, hv, hw, hissues, hpackage, decode?_issues_eq_package hv hw hissues hpackage⟩

end ResponseShape
end AdvisoryLedger
