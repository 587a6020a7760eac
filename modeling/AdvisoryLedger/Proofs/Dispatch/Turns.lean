import AdvisoryLedger.Dispatch.Turns
import AdvisoryLedger.Proofs.Dispatch.Underway

/-!
# One turn after another

`Tracks` says that shares account for a run in turns. A turn of an entry that is not finished
is the first deed that is left to be done for it, and it is counted with the last one
(`Tracks.turn`). Whatever workers do to pages of entries is such a run in some order
(`EntriesRun.exists_takeTurns`).
-/

namespace AdvisoryLedger
namespace Dispatcher

variable {π : Type} {d : Dispatcher Ledger π} {token : ApiToken} {entries : List Entry}
  {f g : RunState Ledger π} {t : Turns Ledger π} {y : Tally} {sh : Share} {clock : Nat → Instant}

/-- What accounts for a run: the share of each entry, and the drafts that were written, told and
attached, each time in this order. -/
structure Tally where
  shares : List Share
  written : List (String × Draft)
  told : List (String × Draft)
  attached : List (String × Draft)

/-- The tally after one more deed for the entry at a place, which has another share then. -/
def Tally.add (y : Tally) (i : Nat) (sh : Share) (deed : Deed) : Tally :=
  { shares := y.shares.set i sh
    written := y.written ++ deed.written sh.entry.component.id
    told := y.told ++ deed.told sh.entry.component.id
    attached := y.attached ++ deed.attached sh.entry.component.id }

/-- A run in turns that is accounted for. -/
structure Tracks (d : Dispatcher Ledger π) (token : ApiToken) (entries : List Entry)
    (f : RunState Ledger π) (y : Tally) (t : Turns Ledger π) : Prop where
  jobs : t.jobs = y.shares.map Share.job
  accounts : d.Accounts token entries f y.shares y.written y.told y.attached t.run

/-- The share of an entry before its first turn. -/
def Share.first (e : Entry) : Share := ⟨e, some .request, [], [], []⟩

theorem Tracks.start (hf : f.ledger.store.WellFormed) :
    d.Tracks token entries f ⟨entries.map Share.first, [], [], []⟩ (.start entries f) where
  jobs := by
    rw [List.map_map]
    rfl
  accounts := by
    have hnone {q : Share → Bool} (hq : ∀ e, q (.first e) = false) :
        (entries.map Share.first).countP q = 0 := by
      rw [List.countP_map, List.countP_eq_zero]
      exact fun e _ => by simp [hq e]
    constructor
    · intro sh hsh
      obtain ⟨e, he, rfl⟩ := List.mem_map.mp hsh
      exact he
    · intro sh hsh
      obtain ⟨e, he, rfl⟩ := List.mem_map.mp hsh
      exact .request
    · refine .nil ?_
      intro part hpart
      rw [List.map_map] at hpart
      obtain ⟨e, he, rfl⟩ := List.mem_map.mp hpart
      rfl
    · exact .refl hf
    · simp [List.flatMap_map, Share.first]
    · exact (Progress.tell_nil _).symm
    · simp [List.flatMap_map, Share.first]
    · rw [hnone fun _ => rfl]
      rfl
    · rw [hnone fun _ => rfl]
      rfl

/-- Nothing is left to be done exactly for an entry that is finished. -/
theorem isEmpty_upcoming (d : Dispatcher Ledger π) (token : ApiToken) (s₀ : Store) (sh : Share) :
    (d.upcoming token s₀ sh).isEmpty = sh.task.isNone := by
  obtain ⟨e, task, written, untold, unattached⟩ := sh
  cases task with
  | none => rfl
  | some k =>
      cases k with
      | request =>
          unfold upcoming
          dsimp only
          split
          · rfl
          · split <;> rfl
      | _ => simp [upcoming, Deed.drafting, Deed.writing]

/-- An entry that is finished lets its turn pass, and so does a place without an entry. -/
theorem Tracks.turn_of_finished (h : d.Tracks token entries f y t) {i : Nat}
    (hdone : ∀ sh ∈ y.shares[i]?, sh.task = none) : d.turn token t i = t := by
  unfold Dispatcher.turn
  rw [h.jobs, List.getElem?_map]
  cases hsh : y.shares[i]? with
  | none => rfl
  | some sh => simp only [Option.map_some, Share.job, hdone sh hsh]

theorem exists_append_of_getElem? {α : Type} {xs : List α} {i : Nat} {x : α}
    (h : xs[i]? = some x) :
    ∃ first last, xs = first ++ x :: last ∧ ∀ y, xs.set i y = first ++ y :: last := by
  obtain ⟨hi, rfl⟩ := List.getElem?_eq_some_iff.mp h
  refine ⟨xs.take i, xs.drop (i + 1), ?_, fun y => List.set_eq_take_append_cons_drop .. |>.trans ?_⟩
  · rw [List.getElem_cons_drop, List.take_append_drop]
  · rw [if_pos hi]

/-- A turn of an entry that is not finished. -/
theorem Tracks.turn (hd : d.session = Ledger.session clock) (hf : f.ledger.store.WellFormed)
    (hsep : ∀ e ∈ entries, d.isUnseparated token e = true)
    (h : d.Tracks token entries f y t) {i : Nat} {k : Task} (hi : y.shares[i]? = some sh)
    (hk : sh.task = some k) :
    ∃ deed sh', sh'.entry = sh.entry ∧
      d.upcoming token f.ledger.store sh = deed :: d.upcoming token f.ledger.store sh' ∧
      d.Tracks token entries f (y.add i sh' deed) (d.turn token t i) ∧
      (d.turn token t i).counted = t.counted ++
        if (d.upcoming token f.ledger.store sh').isEmpty
          then [(i, (d.found? token sh.entry).isSome)] else [] := by
  obtain ⟨first, last, hshares, hset⟩ := exists_append_of_getElem? hi
  have haccounts := h.accounts
  rw [hshares] at haccounts
  obtain ⟨deed, sh', hjob, hdeed, hnext⟩ := haccounts.act hd hf hsep hk
  have hentry : sh'.entry = sh.entry := congrArg Prod.fst hjob
  have htask : sh'.task = ((d.entryServer token).act sh.entry k t.run).2 := congrArg Prod.snd hjob
  have hturn : d.turn token t i =
      { jobs := t.jobs.set i sh'.job
        run := ((d.entryServer token).act sh.entry k t.run).1
        counted := t.counted ++ if sh'.task.isNone then [(i, decide (t.run.processed
          < ((d.entryServer token).act sh.entry k t.run).1.processed))] else [] } := by
    unfold Dispatcher.turn
    rw [h.jobs, List.getElem?_map, hi, hjob, htask]
    simp only [Option.map_some, Share.job, hk]
  refine ⟨deed, sh', hentry, hdeed, ⟨?_, ?_⟩, ?_⟩
  · rw [hturn, h.jobs, Tally.add, List.map_set]
  · rw [hturn, Tally.add, hset, hentry]
    exact hnext
  · -- the count grows exactly when the last deed was done for an entry with a batch
    have hcount := hnext.processed
    have hunfinished : Share.isProcessed d token sh = false := by simp [Share.isProcessed, hk]
    rw [countP_replace (y := sh') hunfinished, ← Nat.add_assoc, ← haccounts.processed] at hcount
    rw [hturn, isEmpty_upcoming]
    cases hdone : sh'.task with
    | some k' => rfl
    | none =>
        have hprocessed : Share.isProcessed d token sh' = (d.found? token sh.entry).isSome := by
          rw [Share.isProcessed, hdone, hentry]
          rfl
        rw [hcount, List.countP_singleton, hprocessed]
        cases (d.found? token sh.entry).isSome <;> simp

/-! ## Workers take turns -/

section Workers

variable {σ : Type} {d : Dispatcher σ π} {f g : RunState σ π}

theorem takeTurns_concat (d : Dispatcher σ π) (token : ApiToken) (entries : List Entry)
    (order : List Nat) (i : Nat) (f : RunState σ π) :
    d.takeTurns token entries (order ++ [i]) f
      = d.turn token (d.takeTurns token entries order f) i := by
  unfold takeTurns
  rw [List.foldl_append]
  rfl

/-- The turn of a worker is a turn of its entry. -/
theorem turn_eq {t : Turns σ π} {first last : List (Entry × Option Task)} {e : Entry} {k : Task}
    {k' : Option Task} (hjobs : t.jobs = first ++ (e, some k) :: last)
    (hact : (d.entryServer token).act e k t.run = (g, k')) :
    (d.turn token t first.length).run = g ∧
      (d.turn token t first.length).jobs = first ++ (e, k') :: last := by
  have hjob : t.jobs[first.length]? = some (e, some k) := by simp [hjobs]
  unfold Dispatcher.turn
  simp only [hjob, hact, true_and]
  simp [hjobs]

/-- **Whatever the workers do, the entries have turns in some order**, until all of them are
finished. -/
theorem EntriesRun.exists_takeTurns (hrun : d.EntriesRun token entries f g) :
    ∃ order, (d.takeTurns token entries order f).run = g ∧
      (d.takeTurns token entries order f).jobs = entries.map (·, none) := by
  -- the entries that no worker has taken yet are among those that have had no turn
  have hkeeps : (d.entryServer token).Keeps entries fun jobs a => ∀ rest, ∃ order,
      (d.takeTurns token (jobs.map (·.1) ++ rest) order f).run = a ∧
      (d.takeTurns token (jobs.map (·.1) ++ rest) order f).jobs
        = jobs ++ rest.map (·, some .request) := by
    constructor
    · intro jobs a e _ h rest
      obtain ⟨order, hrun, hjobs⟩ := h (e :: rest)
      rw [List.append_cons] at hrun hjobs
      rw [List.map_append]
      exact ⟨order, hrun, hjobs.trans (List.append_cons ..)⟩
    · intro before after e k k' a b h hact rest
      obtain ⟨order, rfl, hjobs⟩ := h rest
      refine ⟨order ++ [before.length], ?_⟩
      have hentries : (before ++ (e, k') :: after).map (·.1)
          = (before ++ (e, some k) :: after).map (·.1) := by simp
      rw [List.append_assoc, List.cons_append] at hjobs ⊢
      rw [hentries, takeTurns_concat]
      exact turn_eq hjobs hact
  obtain ⟨order, hg, hjobs⟩ := hrun.keeps hkeeps (fun rest => ⟨[], rfl, rfl⟩) []
  have hentries : (entries.map fun e => (e, (none : Option Task))).map (·.1) ++ [] = entries := by
    rw [List.append_nil, List.map_map]
    exact List.map_id entries
  rw [hentries] at hg hjobs
  exact ⟨order, hg, by rw [hjobs, List.map_nil, List.append_nil]⟩

end Workers

end Dispatcher
end AdvisoryLedger
