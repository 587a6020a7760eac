import AdvisoryLedger.Proofs.Dispatch.Batch
import AdvisoryLedger.Proofs.Store.Weaknesses

/-!
# Which weaknesses a reader finds

An advisory names its weaknesses in problems, and four steps lie between these and a reader: the
problems are looked up, repetitions are dropped, the numbers are linked in place of those that
were linked before, and the links are read back from the table. What comes out is a matter of
the table and of the set of numbers that the problems have, and of nothing else: not of the
order and the spelling of the problems, not of those that say nothing, and not of what the
vulnerability had before.
-/

namespace AdvisoryLedger
namespace Store

variable {s t : Store} {d : Draft} {vulnId : String} {row : Nat} {kept : List (Nat × Predicate)}

/-- A row that shows a draft has the weaknesses of the table whose numbers are in the draft. -/
theorem Shows.mem_weaknessesOf (h : t.Shows row vulnId d) (ht : t.WellFormed) {w : Weakness} :
    w ∈ t.weaknessesOf row ↔ w ∈ t.weaknesses ∧ w.id ∈ d.record.weaknesses.map (·.id) := by
  rw [Store.mem_weaknessesOf ht, h.weaknesses, List.mem_eraseDups]

/-- A reader of its key finds them. -/
theorem Shows.get? (h : t.Shows row vulnId d) :
    ∃ v, t.get? d.record.source vulnId = some v ∧ v.weaknesses = t.weaknessesOf row := by
  refine ⟨t.load (vulnerabilityRow row vulnId d.record), ?_, rfl⟩
  unfold Store.get?
  rw [h.columns]
  rfl

/-- A draft that was written shows until another one is written under its key. -/
theorem Synchronized.shows_after (h : Synchronized s d vulnId row kept t) (hs : s.WellFormed)
    (hid : d.record.vulnId = some vulnId) {later : List Operation}
    (hlater : (writes (t.trace later)).filter (·.isTo d.record.source vulnId) = []) :
    ∃ row, (t.after later).Shows row vulnId d := by
  let mine : Write := ⟨d, answer d row kept⟩
  have hmine : mine.isTo d.record.source vulnId = true := isTo_iff.mpr ⟨rfl, hid⟩
  have hrecalls : Recalls s (mine :: writes (t.trace later)) (t.after later) :=
    ((Recalls.refl s).synchronize hs hid h).after h.wellFormed later
  obtain ⟨row, hshows, -⟩ := hrecalls.written d.record.source vulnId mine (by
    rw [List.filter_cons_of_pos hmine, hlater]
    rfl)
  exact ⟨row, hshows⟩

end Store

namespace Ledger

/-- **A reader finds the weaknesses that the problems name.** An advisory with an identifier that
is not blank is made into a draft, whatever was done to the tables before, and the draft is
written, whatever was done in between. While the table of weaknesses is the one that the draft
was made from, and no other draft was written under the identifier, a reader finds the rows of
that table whose numbers are in the problems, each once and by ascending number. -/
theorem weaknesses_readBack (clock : Nat → Instant) (ops between : List Operation)
    (readings readings' : Nat) (source : Source) (package : Option Coordinate) (a : Advisory)
    {vulnId : String} (hid : a.id = some vulnId) (hblank : Text.isBlankText vulnId = false) :
    let l : Ledger := ⟨Store.empty.after ops, readings⟩
    let l₁ : Ledger := ⟨l.store.after between, readings'⟩
    ∃ d r l₂, ((session clock).draft source package a).on l = (.ok d, l) ∧
      ((session clock).synchronize d).on l₁ = (.ok r, l₂) ∧
      l₂.store.weaknesses = l₁.store.weaknesses ∧
      ∀ later, (l₂.store.after later).weaknesses = l.store.weaknesses →
        (writes (l₂.store.trace later)).filter (·.isTo source vulnId) = [] →
        ∃ v, (l₂.store.after later).get? source vulnId = some v ∧
          v.weaknesses.Pairwise (fun w w' => w.id < w'.id) ∧
          ∀ w, w ∈ v.weaknesses ↔ w ∈ l.store.weaknesses ∧
            ∃ problem ∈ a.problems, Weakness.parseId? problem = some w.id := by
  intro l l₁
  have hl : l.store.WellFormed := Store.wellFormed_empty.after ops
  have hl₁ : l₁.store.WellFormed := hl.after between
  let d := l.store.draft source package a
  have hstorable : Store.storableId? d.record = some vulnId :=
    Option.filter_eq_some_iff.mpr ⟨hid, by rw [hblank]; rfl⟩
  obtain ⟨row, kept, t, hsync, ht⟩ := synchronize_on clock l₁ hl₁ hstorable
  refine ⟨d, _, _, draft_on clock l source package a, hsync, ht.weaknesses, ?_⟩
  intro later htable hlater
  have hwf : (t.after later).WellFormed := ht.wellFormed.after later
  obtain ⟨row, hshows⟩ := ht.shows_after hl₁ hid hlater
  obtain ⟨v, hget, hweaknesses⟩ := hshows.get?
  refine ⟨v, hget, ?_, fun w => ?_⟩
  · rw [hweaknesses]
    exact Store.pairwise_weaknessesOf hwf row
  · -- only numbers are linked, and the names come from the table at the time of reading
    rw [hweaknesses, hshows.mem_weaknessesOf hwf, htable]
    have hnamed : w.id ∈ d.record.weaknesses.map (·.id) ↔ w.id ∈ l.store.weaknessIds ∧
        ∃ problem ∈ a.problems, Weakness.parseId? problem = some w.id :=
      Store.mem_map_id_weaknessesAmong hl
    rw [hnamed]
    constructor
    · rintro ⟨hw, -, hproblem⟩
      exact ⟨hw, hproblem⟩
    · rintro ⟨hw, hproblem⟩
      exact ⟨hw, List.mem_map_of_mem hw, hproblem⟩

/-- An advisory that names one weakness in three ways, and two that no table has. -/
def spelledThrice : Advisory :=
  ⟨some "A", none, none, none, none, none, [], ["cwe-79", "CWE-79", "79", "CWE-9999", "bogus"],
    none, []⟩

/-- The weakness that the vulnerability had before is gone. -/
theorem weaknesses_spelledThrice :
    let tables := session fun _ => (Instant.ofEpoch? 0 0).get (by decide)
    let known := Store.empty.after
      [.insertWeakness ⟨22, "Path Traversal"⟩, .insertWeakness ⟨79, "Cross-site Scripting"⟩]
    let l : Ledger := ⟨known.after [.synchronize (known.draft .snyk none
      ⟨some "A", none, none, none, none, none, [], ["CWE-22"], none, []⟩)], 0⟩
    (l.store.get? .snyk "A").map (·.weaknesses) = some [⟨22, "Path Traversal"⟩] ∧
    ∃ d r l' v, (tables.draft .snyk none spelledThrice).on l = (.ok d, l) ∧
      (tables.synchronize d).on l = (.ok r, l') ∧ l'.store.get? .snyk "A" = some v ∧
      ⟨79, "Cross-site Scripting"⟩ ∈ v.weaknesses ∧ ⟨22, "Path Traversal"⟩ ∉ v.weaknesses := by
  intro tables known l
  obtain ⟨d, r, l', hdraft, hsync, htable, hread⟩ := weaknesses_readBack
    (fun _ => (Instant.ofEpoch? 0 0).get (by decide))
    [.insertWeakness ⟨22, "Path Traversal"⟩, .insertWeakness ⟨79, "Cross-site Scripting"⟩,
      .synchronize (known.draft .snyk none
        ⟨some "A", none, none, none, none, none, [], ["CWE-22"], none, []⟩)]
    [] 0 0 .snyk none spelledThrice rfl (by decide)
  obtain ⟨v, hget, -, hmem⟩ := hread [] htable rfl
  refine ⟨?_, d, r, l', v, hdraft, hsync, hget, (hmem _).mpr ⟨?_, ?_⟩, fun h => ?_⟩
  · decide +kernel
  · decide +kernel
  · decide +kernel
  · revert h
    rw [hmem]
    decide +kernel

end Ledger
end AdvisoryLedger
