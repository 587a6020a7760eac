import AdvisoryLedger.Proofs.Store.Attributions
import AdvisoryLedger.Proofs.Text.ByteOrder

/-!
# The oldest attribution comes first

The time of an attribution is kept as text, and the vulnerabilities of a component are sorted by
the bytes of that text. The texts differ in length, since a fraction has only as many digits as
it needs, and still their bytes are in the order of time (`Instant.timestamp_lt_iff`), for leap
seconds too. So the listing of a component goes by time.
-/

namespace AdvisoryLedger

/-- The bytes of two timestamps are in the order of the instants. -/
theorem Instant.utf8_timestamp_lt_iff {t u : Instant} (ht : t.hasPlainYear = true)
    (hu : u.hasPlainYear = true) :
    Text.utf8 t.timestamp < Text.utf8 u.timestamp ↔ t.before u := by
  rw [Text.utf8_lt_iff]
  exact timestamp_lt_iff ht hu

namespace Store

variable {s : Store} {component : String}

/-- The component has the vulnerability of the row since the instant. -/
def HasSince (s : Store) (component : String) (row : Option Int) (time : Instant) : Prop :=
  ∃ a ∈ s.attributions, a.component = component ∧ row = some (a.vulnerability : Int) ∧
    a.attributedOn = time.timestamp

/-- There is one attribution of a vulnerability to a component. -/
theorem attribution_unique (h : s.WellFormed) {a b : Attribution} (ha : a ∈ s.attributions)
    (hb : b ∈ s.attributions) (hcomponent : a.component = b.component)
    (hrow : a.vulnerability = b.vulnerability) : a = b :=
  List.inj_on_of_nodup_map h.attributions ha hb (Prod.ext hcomponent hrow)

/-- The time since which a component has a row is the one that the listing sorts by. -/
theorem attributedOn_of_hasSince (h : s.WellFormed) {a : Attribution} {time : Instant}
    (ha : a ∈ s.listing component)
    (hsince : s.HasSince component (some (a.vulnerability : Int)) time) :
    a.attributedOn = time.timestamp := by
  obtain ⟨hmem, hcomponent⟩ := mem_listing.mp ha
  obtain ⟨b, hb, hb', hrow, htime⟩ := hsince
  have hsame : a = b :=
    attribution_unique h hmem hb (hcomponent.trans hb'.symm) (Int.ofNat_inj.mp (Option.some.inj hrow))
  rw [hsame]
  exact htime

/-- What is listed was attached at some time. -/
theorem exists_hasSince {made : List Attachment} (h : Attributed made s) (hs : s.WellFormed)
    {v : Vulnerability} (hv : v ∈ s.vulnerabilitiesOf component) :
    ∃ time, s.HasSince component v.row time := by
  have hrow : v.row ∈ (s.vulnerabilitiesOf component).map (·.row) := List.mem_map_of_mem hv
  rw [rows_vulnerabilitiesOf hs] at hrow
  obtain ⟨a, ha, heq⟩ := List.mem_map.mp hrow
  obtain ⟨hmem, hcomponent⟩ := mem_listing.mp ha
  obtain ⟨m, -, htime⟩ := h.recorded a hmem
  exact ⟨m.time, a, hmem, hcomponent, heq.symm, htime⟩

/-- The bytes of its text say where an attribution is listed and, where they are the same, its
row does. -/
theorem pairwise_utf8_listing (h : s.WellFormed) (component : String) :
    (s.listing component).Pairwise fun a b =>
      Text.utf8 a.attributedOn < Text.utf8 b.attributedOn ∨
        a.attributedOn = b.attributedOn ∧ a.vulnerability < b.vulnerability := by
  refine (pairwise_listing h component).imp ?_
  intro a b hlt
  unfold Attribution.place at hlt
  rw [Prod.Lex.toLex_lt_toLex] at hlt
  rwa [Text.utf8_lt_iff]

/-- Vulnerabilities are listed by the time since which the component has them. -/
theorem pairwise_vulnerabilitiesOf (h : s.WellFormed) (component : String) :
    (s.vulnerabilitiesOf component).Pairwise fun v w => ∀ t u : Instant,
      t.hasPlainYear = true → u.hasPlainYear = true →
      s.HasSince component v.row t → s.HasSince component w.row u →
        t.before u ∨ t = u ∧ v.row < w.row := by
  have hrows : ((s.vulnerabilitiesOf component).map (·.row)).Pairwise fun m n => ∀ t u : Instant,
      t.hasPlainYear = true → u.hasPlainYear = true →
      s.HasSince component m t → s.HasSince component n u → t.before u ∨ t = u ∧ m < n := by
    rw [rows_vulnerabilitiesOf h, List.pairwise_map]
    refine (pairwise_utf8_listing h component).imp_of_mem ?_
    intro a b ha hb hlt t u ht hu hsince hsince'
    rw [attributedOn_of_hasSince h ha hsince, attributedOn_of_hasSince h hb hsince',
      Instant.utf8_timestamp_lt_iff ht hu, Instant.timestamp_inj ht hu] at hlt
    simpa using hlt
  exact List.pairwise_map.mp hrows

/-- **The oldest attribution comes first.** As long as four digits write their years, two
instants are in the order of time exactly if the bytes of their timestamps are in order, however
many digits their fractions have. The vulnerabilities of a component, which are sorted by these
bytes, are listed in the order in which the component got them. -/
theorem vulnerabilitiesOf_oldestFirst (ops : List Operation) (component : String) :
    (∀ t u : Instant, t.hasPlainYear = true → u.hasPlainYear = true →
      (Text.utf8 t.timestamp < Text.utf8 u.timestamp ↔ t.before u)) ∧
    let s := empty.after ops
    (∀ v ∈ s.vulnerabilitiesOf component, ∃ time, s.HasSince component v.row time) ∧
    (s.vulnerabilitiesOf component).Pairwise fun v w => ∀ t u : Instant,
      t.hasPlainYear = true → u.hasPlainYear = true →
      s.HasSince component v.row t → s.HasSince component w.row u →
        t.before u ∨ t = u ∧ v.row < w.row := by
  refine ⟨fun t u => Instant.utf8_timestamp_lt_iff, ?_⟩
  intro s
  have hs : s.WellFormed := wellFormed_empty.after ops
  have hmade : Attributed (attachments (empty.trace ops)) s :=
    attributed_empty.after wellFormed_empty ops
  exact ⟨fun v => exists_hasSince hmade hs, pairwise_vulnerabilitiesOf hs component⟩

/-- In a leap second, the text without a fraction comes before the one with a fraction. -/
theorem utf8_timestamp_inLeapSecond :
    ∃ t u, Instant.ofTimestamp? "2016-12-31T23:59:60Z" = some t ∧
      Instant.ofTimestamp? "2016-12-31T23:59:60.5Z" = some u ∧
      Text.utf8 t.timestamp < Text.utf8 u.timestamp := by
  refine ⟨_, _, rfl, rfl, ?_⟩
  have hbytes := (vulnerabilitiesOf_oldestFirst [] "").1
  exact (hbytes _ _ (by decide +kernel) (by decide +kernel)).mpr (.inr (by decide +kernel))

end Store
end AdvisoryLedger
