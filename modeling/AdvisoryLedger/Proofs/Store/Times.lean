import AdvisoryLedger.Proofs.Session.ReadBack

/-!
# Which times last

A time is stored as text and read back from it. The text of an instant has a sign where four
digits cannot write the year, and no reader of timestamps knows signs. The instants that a
reader of timestamps comes upon have such years only on two days: a text has a year of four
digits, but its offset may lead across the end of the last of these years or the beginning of
the first. So on all days but two the reader of the store finds the time that was written, and
on these two it finds none.
-/

namespace AdvisoryLedger

/-- The three columns of times. -/
def Vulnerability.times : List (Vulnerability → Option Instant) :=
  [Vulnerability.created, Vulnerability.published, Vulnerability.updated]

/-- A text that is a time has a year of four digits, or is a day away from one. -/
theorem isOutside_of_timeOf_eq_some {text : Option String} {i : Instant}
    (h : timeOf text = some i) (hyear : i.hasPlainYear = false) : i.IsOutside := by
  obtain ⟨text, -, htime⟩ := Option.bind_eq_some_iff.mp h
  exact Instant.isOutside_of_ofTimestamp?_eq_some htime hyear

theorem not_isOutside_of_hasPlainYear {i : Instant} (h : i.hasPlainYear = true) :
    ¬ i.IsOutside := by
  have hyear := of_decide_eq_true h
  rintro (⟨hlate, -⟩ | ⟨hearly, -⟩) <;> omega

namespace Store

variable {s t : Store} {d : Draft} {vulnId : String} {row : Nat} {kept : List (Nat × Predicate)}

/-- Whatever the draft, its times are read back if their years have four digits. -/
theorem Synchronized.get?_times (h : Synchronized s d vulnId row kept t) :
    ∃ v, t.get? d.record.source vulnId = some v ∧
      ∀ time ∈ Vulnerability.times, time v = (time d.record).filter Instant.hasPlainYear := by
  have hreread (time : Option Instant) :
      (time.map Instant.timestamp).bind Instant.ofTimestamp? = time.filter Instant.hasPlainYear := by
    rw [Option.bind_map]
    exact rereadTime_eq time
  refine ⟨t.load (vulnerabilityRow row vulnId d.record), ?_, fun time htime => ?_⟩
  · unfold Store.get?
    rw [h.vulnerabilityRow?, Option.map_some]
  · simp only [Vulnerability.times, List.mem_cons, List.not_mem_nil, or_false] at htime
    rcases htime with rfl | rfl | rfl <;> exact hreread _

/-- **A time lasts exactly if it is on none of two days.** Whatever was written before, a draft
with an identifier is written, and a reader finds each of its times as it was if the text that
it comes from does not lead to the first day after the year 9999 or to the last one before the
year 0. On these two days it is missing. -/
theorem synchronize_times (ops : List Operation) (d : Draft) :
    let s := empty.after ops
    match s.synchronize d with
    | .ok (_, t) => ∃ vulnId v, d.record.vulnId = some vulnId ∧
        t.get? d.record.source vulnId = some v ∧
        ∀ time ∈ Vulnerability.times, ∀ text i, timeOf (some text) = some i →
          time d.record = some i →
            (¬ i.IsOutside → time v = some i) ∧ (i.IsOutside → time v = none)
    | .error e => e = .payload .missingIdentifier ∧ storableId? d.record = none := by
  intro s
  have hs : s.WellFormed := wellFormed_empty.after ops
  cases hid : storableId? d.record with
  | none =>
      rw [synchronize_of_storableId?_eq_none hid]
      exact ⟨rfl, rfl⟩
  | some vulnId =>
      obtain ⟨row, kept, t, heq, ht⟩ := synchronize_spec hs hid
      obtain ⟨v, hv, htimes⟩ := ht.get?_times
      rw [heq]
      refine ⟨vulnId, v, (storableId?_eq_some_iff.mp hid).1, hv, ?_⟩
      intro time htime text i htext hi
      rw [htimes time htime, hi, Option.filter_some]
      cases hyear : i.hasPlainYear with
      | true => exact ⟨fun _ => rfl, fun hout => absurd hout (not_isOutside_of_hasPlainYear hyear)⟩
      | false => exact ⟨fun hin => absurd (isOutside_of_timeOf_eq_some htext hyear) hin, fun _ => rfl⟩

/-- The last second of the year 9999 one hour west of universal time. -/
def lastSecond : String := "9999-12-31T23:59:59-01:00"

/-- It is a time, a record with it is written, and the record comes back without it. -/
theorem synchronize_lastSecond :
    let d : Draft := ⟨{ Vulnerability.blank .snyk (some "A") with
      created := timeOf (some lastSecond) }, []⟩
    ∃ i r t v, timeOf (some lastSecond) = some i ∧ d.record.created = some i ∧
      empty.synchronize d = .ok (r, t) ∧ t.get? .snyk "A" = some v ∧ v.created ≠ some i := by
  intro d
  obtain ⟨i, hi, hyear⟩ : ∃ i, timeOf (some lastSecond) = some i ∧ i.hasPlainYear = false :=
    ⟨_, rfl, by decide +kernel⟩
  have hid : storableId? d.record = some "A" := by decide +kernel
  obtain ⟨row, kept, t, heq, ht⟩ := synchronize_spec wellFormed_empty hid
  obtain ⟨v, hv, htimes⟩ := ht.get?_times
  refine ⟨i, _, t, v, hi, hi, heq, hv, ?_⟩
  have hcreated := htimes Vulnerability.created (by simp [Vulnerability.times])
  rw [hcreated, show d.record.created = some i from hi, Option.filter_some, hyear]
  simp

end Store
end AdvisoryLedger
