import AdvisoryLedger.Proofs.Dispatch.Alone
import AdvisoryLedger.Proofs.Dispatch.Underway

/-!
# The order of the workers does not matter

When the reply of each entry is fixed, a run writes the drafts of the entries, however its
workers take turns. Those drafts, apart from row numbers, do not depend on what was written
before. So any two runs write the same drafts in two orders, and the two stores agree.

That needs two things of the replies. No two entries have an identifier in common, or the
last one would win. And neither packages nor ranges have the separator of keys in them, or
two predicates could share a row, and the first one would win.
-/

namespace AdvisoryLedger
namespace Dispatcher

variable {π : Type} {d : Dispatcher Ledger π} {token : ApiToken} {entries : List Entry}

/-! ## When all entries are finished -/

/-- A run over entries, in terms of where it began: the drafts `ds` were written, in this order,
and all of them were told and attached in some order. -/
structure Processed (d : Dispatcher Ledger π) (token : ApiToken) (entries : List Entry)
    (f : RunState Ledger π) (ds told attached : List (String × Draft)) (g : RunState Ledger π) :
    Prop where
  written : Interleaved (entries.map (d.draftsOf token f.ledger.store)) ds
  reached : f.ledger.store.Reached ds attached g.ledger.store
  attached : attached.Perm ds
  progress : g.progress = f.progress.tell (told.map (·.2))
  told : told.Perm ds
  processed : g.processed = f.processed + entries.countP fun e => (d.found? token e).isSome
  failed : g.failed = f.failed + entries.countP fun e => (d.found? token e).isNone

/-- The share of a finished entry is all that there was to do. -/
theorem Stage.eq_of_task_eq_none {s₀ s : Store} {sh : Share} (h : d.Stage token s₀ s sh)
    (hdone : sh.task = none) : sh = ⟨sh.entry, none, d.draftsOf token s₀ sh.entry, [], []⟩ := by
  cases h with
  | finish => rfl
  | _ => cases hdone

/-- A run that is accounted for has done everything when all entries are finished. -/
theorem Underway.processed {f g : RunState Ledger π}
    (h : d.Underway token entries f (entries.map (·, none)) g) :
    ∃ ds told attached, d.Processed token entries f ds told attached g := by
  obtain ⟨shares, ds, told, attached, hjobs, h⟩ := h
  -- every share is that of a finished entry, in the order of the entries
  have hshares : shares
      = entries.map fun e => ⟨e, none, d.draftsOf token f.ledger.store e, [], []⟩ := by
    have hentries := congrArg (List.map Prod.fst) hjobs
    rw [List.map_map, List.map_map, show Prod.fst ∘ (fun e : Entry => (e, (none : Option Task)))
      = id from rfl, List.map_id] at hentries
    rw [← hentries, List.map_map]
    refine (List.map_id _).symm.trans (List.map_congr_left ?_)
    intro sh hsh
    obtain ⟨e, _, heq⟩ := List.mem_map.mp (hjobs ▸ List.mem_map_of_mem hsh)
    exact (h.stages sh hsh).eq_of_task_eq_none (congrArg Prod.snd heq).symm
  subst hshares
  have hnone (own : Share → List (String × Draft))
      (hown : ∀ e, own ⟨e, none, d.draftsOf token f.ledger.store e, [], []⟩ = []) :
      (entries.map fun e => ⟨e, none, d.draftsOf token f.ledger.store e, [], []⟩).flatMap own
        = [] := by
    rw [List.flatMap_map, List.flatMap_eq_nil_iff]
    exact fun e _ => hown e
  refine ⟨ds, told, attached, ?_, h.reached, ?_, h.progress, ?_, ?_, ?_⟩
  · have hwritten := h.written
    rw [List.map_map] at hwritten
    exact hwritten
  · have hattached := h.attached
    rw [hnone _ fun _ => rfl, List.append_nil] at hattached
    exact hattached
  · have htold := h.told
    rw [hnone _ fun _ => rfl, List.append_nil] at htold
    exact htold
  · rw [h.processed, List.countP_map]
    rfl
  · rw [h.failed, List.countP_map]
    rfl

/-- Whatever the workers did, a run has processed its entries. -/
theorem EntriesRun.processed {clock : Nat → Instant} {f g : RunState Ledger π}
    (hd : d.session = Ledger.session clock) (hf : f.ledger.store.WellFormed)
    (hsep : ∀ e ∈ entries, d.isUnseparated token e = true) (hrun : d.EntriesRun token entries f g) :
    ∃ ds told attached, d.Processed token entries f ds told attached g :=
  (hrun.keeps (keeps_underway hd hf hsep) (.start hf)).processed

/-- The drafts that were written are drafts of the entries. -/
theorem Processed.settled {f g : RunState Ledger π} {ds told attached : List (String × Draft)}
    (h : d.Processed token entries f ds told attached g)
    (hsep : ∀ e ∈ entries, d.isUnseparated token e = true) :
    f.ledger.store.Settled (d.Describes token entries) ds :=
  Dispatcher.settled hsep fun _ hx => h.written.exists_of_mem hx

/-! ## Two runs -/

/-- Where no two entries have an identifier in common, the drafts of a key stand in the order of
the entries. -/
theorem Processed.filter_eq {f g : RunState Ledger π} {ds told attached : List (String × Draft)}
    (h : d.Processed token entries f ds told attached g)
    (hids : entries.Pairwise fun e e' =>
      ∀ id ∈ d.identifiers token e, id ∉ d.identifiers token e') (key : Source × String) :
    ds.filter (·.2.key? == some key)
      = (entries.map (d.draftsOf token f.ledger.store)).flatten.filter (·.2.key? == some key) := by
  apply h.written.filter_eq
  rw [List.pairwise_map]
  refine hids.imp ?_
  intro e e' hdisjoint
  -- two entries with drafts of one key would have its identifier in common
  by_contra hboth
  rw [not_or] at hboth
  have hmem {x : Entry}
      (hx : (d.draftsOf token f.ledger.store x).filter (·.2.key? == some key) ≠ []) :
      key.2 ∈ d.identifiers token x := by
    obtain ⟨draft, hdraft⟩ := List.exists_mem_of_ne_nil _ hx
    obtain ⟨hof, hkey⟩ := List.mem_filter.mp hdraft
    exact mem_identifiers_of_key? hof (by simpa using hkey)
  exact hdisjoint key.2 (hmem hboth.1) (hmem hboth.2)

/-- A dispatcher on the tables. -/
def ofTables (settings : AnalyzerSettings) (source : Source) (clock : Nat → Instant)
    (peer : Peer π) : Dispatcher Ledger π :=
  { settings := settings, source := source, session := Ledger.session clock, peer := peer }

/-- What is found does not depend on the clock. -/
theorem found?_ofTables (settings : AnalyzerSettings) (source : Source)
    (clock clock' : Nat → Instant) (peer : Peer π) (token : ApiToken) :
    (ofTables settings source clock peer).found? token
      = (ofTables settings source clock' peer).found? token := by
  have hsettings : (ofTables settings source clock peer).settings
      = (ofTables settings source clock' peer).settings := rfl
  funext e
  unfold found? requestFor batchOf shape
  rw [hsettings]

theorem identifiers_ofTables (settings : AnalyzerSettings) (source : Source)
    (clock clock' : Nat → Instant) (peer : Peer π) (token : ApiToken) :
    (ofTables settings source clock peer).identifiers token
      = (ofTables settings source clock' peer).identifiers token := by
  funext e
  unfold identifiers
  rw [found?_ofTables settings source clock clock']

theorem draftsOf_ofTables (settings : AnalyzerSettings) (source : Source)
    (clock clock' : Nat → Instant) (peer : Peer π) (token : ApiToken) (s : Store) :
    (ofTables settings source clock peer).draftsOf token s
      = (ofTables settings source clock' peer).draftsOf token s := by
  funext e
  unfold draftsOf
  rw [found?_ofTables settings source clock clock']

theorem isUnseparated_ofTables (settings : AnalyzerSettings) (source : Source)
    (clock clock' : Nat → Instant) (peer : Peer π) (token : ApiToken) :
    (ofTables settings source clock peer).isUnseparated token
      = (ofTables settings source clock' peer).isUnseparated token := by
  funext e
  unfold isUnseparated
  rw [found?_ofTables settings source clock clock']

/-- **The order of the workers does not matter.** Two runs over the same entries with the same
replies, from one store that any history led to, come to the same summary and to stores that
agree, and tell the same events in some order, provided that no two entries have an identifier
in common and that packages and ranges do not have the separator of keys in them. -/
theorem entriesRun_independent (settings : AnalyzerSettings) (source : Source)
    (clock clock' : Nat → Instant) (readings readings' : Nat) (peer : Peer π) (state : π)
    (token : ApiToken) (ops : List Operation) (entries : List Entry) (g g' : RunState Ledger π)
    (hids : entries.Pairwise fun e e' =>
      ∀ id ∈ (ofTables settings source clock peer).identifiers token e,
        id ∉ (ofTables settings source clock peer).identifiers token e')
    (hsep : ∀ e ∈ entries, (ofTables settings source clock peer).isUnseparated token e = true)
    (hrun : (ofTables settings source clock peer).EntriesRun token entries
      (.start ⟨Store.empty.after ops, readings⟩ state) g)
    (hrun' : (ofTables settings source clock' peer).EntriesRun token entries
      (.start ⟨Store.empty.after ops, readings'⟩ state) g') :
    g.summary = g'.summary ∧ g.progress.events.Perm g'.progress.events ∧
      g.ledger.store.Agrees g'.ledger.store := by
  have hs : (Store.empty.after ops).WellFormed := Store.wellFormed_empty.after ops
  have hids' : entries.Pairwise fun e e' =>
      ∀ id ∈ (ofTables settings source clock' peer).identifiers token e,
        id ∉ (ofTables settings source clock' peer).identifiers token e' := by
    rw [identifiers_ofTables settings source clock' clock]
    exact hids
  have hsep' : ∀ e ∈ entries,
      (ofTables settings source clock' peer).isUnseparated token e = true := by
    rw [isUnseparated_ofTables settings source clock' clock]
    exact hsep
  obtain ⟨ds, told, attached, h⟩ := hrun.processed rfl hs hsep
  obtain ⟨ds', told', attached', h'⟩ := hrun'.processed rfl hs hsep'
  -- both runs wrote the drafts of the entries, each in its own order
  have hperm : ds.Perm ds' := by
    have hwritten := h'.written.perm
    rw [draftsOf_ofTables settings source clock' clock] at hwritten
    exact h.written.perm.trans hwritten.symm
  have hevents := ((h.told.trans (hperm.trans h'.told.symm)).map (·.2)).filterMap Draft.event?
  refine ⟨?_, ?_, ?_⟩
  · unfold RunState.summary
    rw [Summary.mk.injEq, h.processed, h'.processed, h.failed, h'.failed, h.progress, h'.progress,
      found?_ofTables settings source clock' clock]
    exact ⟨rfl, rfl, congrArg (0 + ·) hevents.length_eq⟩
  · rw [h.progress, h'.progress]
    exact hevents.append_left []
  · have hattached := h.attached.trans (hperm.trans h'.attached.symm)
    apply h.reached.agrees h'.reached hs (h.settled hsep) hperm hattached
    intro key
    have hkey' := h'.filter_eq hids' key
    rw [draftsOf_ofTables settings source clock' clock] at hkey'
    exact (h.filter_eq hids key).trans hkey'.symm

/-! ### Two entries in either order

The replies below describe one predicate, so the entry that is finished first stores it. -/

/-- A component with the given identifier, and a reply with one advisory of that identifier. -/
def sampleEntry (id : String) : Entry :=
  { component := ⟨id, id, some "pkg:cargo/c@1"⟩
    reply := some ⟨200, Text.utf8 ("\x7b\x22data\x22:[\x7b\x22id\x22:\x22" ++ id
      ++ "\x22,\x22attributes\x22:\x7b\x22type\x22:\x22package_vulnerability\x22,"
      ++ "\x22coordinates\x22:[\x7b\x22representation\x22:[\x22<2\x22]\x7d]\x7d\x7d]\x7d")⟩ }

def sampleToken : ApiToken := ⟨"t", by decide⟩

/-- A clock that stands at the beginning of a year. -/
def sampleClock : Nat → Instant := fun _ =>
  { date := ⟨2024, 1, 1, by decide, by decide, by decide, by decide⟩
    hour := 0, minute := 0, second := 0, nano := 0
    hour_lt := by decide, minute_lt := by decide, second_lt := by decide, nano_lt := by decide
    leap := by decide }

def sampleDispatcher : Dispatcher Ledger Unit := ofTables .default .snyk sampleClock .unreachable

/-- A run that begins with one component in the catalogue. -/
def sampleStart : RunState Ledger Unit :=
  .start ⟨Store.empty.after [.upsertComponent (sampleEntry "A").component], 0⟩ ()

/-- The run after an entry. -/
def sampleStep (f : RunState Ledger Unit) (id : String) : RunState Ledger Unit :=
  sampleDispatcher.processEntry sampleToken f (sampleEntry id)

theorem sample_entriesRun :
    sampleDispatcher.EntriesRun sampleToken [sampleEntry "A", sampleEntry "B"] sampleStart
        (sampleStep (sampleStep sampleStart "A") "B") ∧
      sampleDispatcher.EntriesRun sampleToken [sampleEntry "A", sampleEntry "B"] sampleStart
        (sampleStep (sampleStep sampleStart "B") "A") := by
  have hpages : pages sampleDispatcher.settings.pageLength [sampleEntry "A", sampleEntry "B"]
      = [[sampleEntry "A", sampleEntry "B"]] := pages_of_length_lt (by decide)
  have hworkers : 2 ≤ sampleDispatcher.settings.workers := by decide
  have halone := alone_processEntry sampleDispatcher sampleToken
  unfold EntriesRun sampleStep
  rw [hpages]
  constructor
  · exact .cons (pageRun_foldl halone (by decide) [sampleEntry "A", sampleEntry "B"] _) .nil
  · exact .cons (pageRun_swap halone hworkers (sampleEntry "A") (sampleEntry "B") _) .nil

theorem sample_independent :
    (sampleStep (sampleStep sampleStart "A") "B").summary
        = (sampleStep (sampleStep sampleStart "B") "A").summary ∧
      (sampleStep (sampleStep sampleStart "A") "B").progress.events.Perm
        (sampleStep (sampleStep sampleStart "B") "A").progress.events ∧
      (sampleStep (sampleStep sampleStart "A") "B").ledger.store.Agrees
        (sampleStep (sampleStep sampleStart "B") "A").ledger.store :=
  entriesRun_independent .default .snyk sampleClock sampleClock 0 0 .unreachable () sampleToken
    [.upsertComponent (sampleEntry "A").component] [sampleEntry "A", sampleEntry "B"] _ _
    (by decide +kernel) (by decide +kernel) sample_entriesRun.1 sample_entriesRun.2

end Dispatcher
end AdvisoryLedger
