import AdvisoryLedger.Dispatch.Workers
import Mathlib.Data.List.Basic

/-!
# What holds whatever the workers do

A property of a run that is kept when a worker takes an entry, and when a worker does the
next thing for the entry that it has, holds when all is done. The property may speak of the
jobs: each entry that was taken, in the order in which they were taken, with the place where
its worker stands, or none when it is finished. That order is the order of the entries, so
in the end the jobs are the entries, all finished, whatever happened in between.

`Server.Keeps` says what has to be shown of single steps, and `PagesRun.keeps` is the
conclusion for all pages. What the steps of different workers do to each other is left to
the property.
-/

namespace AdvisoryLedger

variable {α ε κ : Type} {server : Server α ε κ} {I : List (ε × Option κ) → α → Prop}
  {entries page : List ε} {workers : Nat} {a b : α}

/-- The property is kept by single steps that work on some entries. -/
structure Server.Keeps (server : Server α ε κ) (entries : List ε)
    (I : List (ε × Option κ) → α → Prop) : Prop where
  take : ∀ {jobs a e}, e ∈ entries → I jobs a → I (jobs ++ [(e, some (server.start e))]) a
  act : ∀ {before after e k k' a b}, I (before ++ (e, some k) :: after) a →
    server.act e k a = (b, k') → I (before ++ (e, k') :: after) b

/-! ## One page -/

/-- The entry and the place of a job that is not finished. -/
def unfinished? (job : ε × Option κ) : Option (ε × κ) := job.2.map fun k => (job.1, k)

/-- What holds while workers serve a page, where `done` are the jobs of the pages before. -/
structure Serving (I : List (ε × Option κ) → α → Prop) (workers : Nat) (page : List ε)
    (done : List (ε × Option κ)) (s : PageState ε κ × α) : Prop where
  jobs : ∃ jobs, I (done ++ jobs) s.2 ∧ jobs.map (·.1) ++ s.1.queue = page ∧
    s.1.inFlight.Perm (jobs.filterMap unfinished?)
  workers : s.1.workers.length = min workers page.length
  gone : .gone ∈ s.1.workers → s.1.queue = []

theorem PageState.inFlight_start (workers : Nat) (page : List ε) :
    (start workers page : PageState ε κ).inFlight = [] := by
  unfold inFlight
  rw [List.filterMap_eq_nil_iff]
  intro w hw
  rw [List.eq_of_mem_replicate hw]
  rfl

theorem Serving.start {done : List (ε × Option κ)} (h : I done a) (workers : Nat)
    (page : List ε) : Serving I workers page done (.start workers page, a) where
  jobs := by
    refine ⟨[], ?_, rfl, ?_⟩
    · rw [List.append_nil]
      exact h
    · rw [PageState.inFlight_start]
      exact .nil
  workers := List.length_replicate
  gone := by
    intro hgone
    cases List.eq_of_mem_replicate hgone

/-- A worker that has an entry in hand has one of the jobs that are not finished. -/
theorem exists_job {before after : List (Worker ε κ)} {jobs : List (ε × Option κ)} {e : ε} {k : κ}
    (h : ((before ++ .busy e k :: after).filterMap PageState.inHand?).Perm
      (jobs.filterMap unfinished?)) :
    ∃ first last, jobs = first ++ (e, some k) :: last ∧
      (before.filterMap PageState.inHand? ++ after.filterMap PageState.inHand?).Perm
        (first.filterMap unfinished? ++ last.filterMap unfinished?) := by
  rw [List.filterMap_append, List.filterMap_cons_some (PageState.inHand?_busy e k)] at h
  -- one of the jobs is that of the worker, and without it both lists are as they were
  have hmem : (e, k) ∈ jobs.filterMap unfinished? :=
    h.subset (List.mem_append_right _ (List.mem_cons_self ..))
  obtain ⟨⟨e', k?⟩, hjob, heq⟩ := List.mem_filterMap.mp hmem
  obtain ⟨k', hk, hpair⟩ := Option.map_eq_some_iff.mp heq
  rw [Prod.mk.injEq] at hpair
  obtain ⟨rfl, rfl⟩ := hpair
  obtain rfl : k? = some k' := hk
  obtain ⟨first, last, rfl⟩ := List.append_of_mem hjob
  refine ⟨first, last, rfl, ?_⟩
  rw [List.filterMap_append, List.filterMap_cons_some heq] at h
  exact (List.perm_middle.symm.trans (h.trans List.perm_middle)).cons_inv

/-- Each step of a worker keeps it. -/
theorem Serving.step (hI : server.Keeps entries I) (hpage : page ⊆ entries)
    {done : List (ε × Option κ)} {s t : PageState ε κ × α} (h : Serving I workers page done s)
    (hst : PageStep server s t) : Serving I workers page done t := by
  obtain ⟨⟨jobs, hjobs, hentries, hflight⟩, hworkers, hgone⟩ := h
  cases hst with
  | @take e queue before after taken finished a =>
      refine ⟨⟨jobs ++ [(e, some (server.start e))], ?_, ?_, ?_⟩, by simpa using hworkers, ?_⟩
      · have he : e ∈ entries := hpage (hentries ▸ List.mem_append_right _ (List.mem_cons_self ..))
        rw [← List.append_assoc]
        exact hI.take he hjobs
      · rw [List.map_append, List.append_assoc]
        exact hentries
      · simp only [PageState.inFlight, PageState.inHand?_idle, PageState.inHand?_busy,
          List.filterMap_append, List.filterMap_cons] at hflight ⊢
        -- the new job is the last one, and its worker is somewhere among the others
        exact List.perm_middle.trans ((hflight.cons _).trans (List.perm_append_singleton _ _).symm)
      · intro hmem
        cases hgone (by simpa using hmem)
  | @act e k k' queue before after taken finished a b hact =>
      obtain ⟨first, last, rfl, hrest⟩ := exists_job hflight
      refine ⟨⟨first ++ (e, some k') :: last, ?_, ?_, ?_⟩, by simpa using hworkers, ?_⟩
      · rw [← List.append_assoc] at hjobs ⊢
        exact hI.act hjobs hact
      · rw [← hentries, List.map_append, List.map_append, List.map_cons, List.map_cons]
      · have hpair : unfinished? (e, some k') = some (e, k') := rfl
        simp only [PageState.inFlight, PageState.inHand?_busy, List.filterMap_append,
          List.filterMap_cons, hpair]
        exact List.perm_middle.trans ((hrest.cons _).trans List.perm_middle.symm)
      · intro hmem
        exact hgone (by simpa using hmem)
  | @finish e k queue before after taken finished a b hact =>
      obtain ⟨first, last, rfl, hrest⟩ := exists_job hflight
      refine ⟨⟨first ++ (e, none) :: last, ?_, ?_, ?_⟩, by simpa using hworkers, ?_⟩
      · rw [← List.append_assoc] at hjobs ⊢
        exact hI.act hjobs hact
      · rw [← hentries, List.map_append, List.map_append, List.map_cons, List.map_cons]
      · have hnone : unfinished? (e, (none : Option κ)) = none := rfl
        simp only [PageState.inFlight, PageState.inHand?_idle, List.filterMap_append,
          List.filterMap_cons, hnone]
        exact hrest
      · intro hmem
        exact hgone (by simpa using hmem)
  | leave =>
      refine ⟨⟨jobs, hjobs, hentries, ?_⟩, by simpa using hworkers, fun _ => rfl⟩
      simpa [PageState.inFlight, List.filterMap_cons] using hflight

theorem Serving.steps (hI : server.Keeps entries I) (hpage : page ⊆ entries)
    {done : List (ε × Option κ)} {s t : PageState ε κ × α} (h : Serving I workers page done s)
    (hst : PageSteps server s t) : Serving I workers page done t := by
  induction hst with
  | refl => exact h
  | step _ hstep ih => exact ih.step hI hpage hstep

/-- Jobs of which none is unfinished are entries that are finished. -/
theorem eq_map_of_filterMap_eq_nil {jobs : List (ε × Option κ)}
    (h : jobs.filterMap unfinished? = []) : jobs = (jobs.map (·.1)).map (·, none) := by
  rw [List.map_map]
  refine (List.map_id _).symm.trans (List.map_congr_left ?_)
  intro job hjob
  have hnone := Option.map_eq_none_iff.mp (List.filterMap_eq_nil_iff.mp h job hjob)
  exact Prod.ext rfl hnone

/-- Workers that have left have nothing in hand. -/
theorem PageState.inFlight_of_isDone {p : PageState ε κ} (h : p.isDone) : p.inFlight = [] := by
  unfold PageState.inFlight
  rw [List.filterMap_eq_nil_iff]
  intro w hw
  rw [h w hw]
  rfl

/-- When all workers have left, nothing waits: either nobody was needed or somebody found the
queue empty. -/
theorem PageState.queue_of_isDone {p : PageState ε κ} (hworkers : 0 < workers)
    (hlength : p.workers.length = min workers page.length)
    (hgone : .gone ∈ p.workers → p.queue = []) (hqueue : p.queue.length ≤ page.length)
    (h : p.isDone) : p.queue = [] := by
  cases hcase : page with
  | nil =>
      rw [hcase, List.length_nil, Nat.le_zero] at hqueue
      exact List.eq_nil_of_length_eq_zero hqueue
  | cons e es =>
      have hpos : 0 < p.workers.length := by
        rw [hlength, hcase, List.length_cons]
        omega
      obtain ⟨w, hw⟩ := List.exists_mem_of_length_pos hpos
      exact hgone (h w hw ▸ hw)

/-- After a page its entries are finished. -/
theorem PageRun.keeps (hI : server.Keeps entries I) (hworkers : 0 < workers)
    (hpage : page ⊆ entries) {done : List (ε × Option κ)} (h : I done a)
    (hrun : PageRun server workers page a b) : I (done ++ page.map (·, none)) b := by
  obtain ⟨p, hsteps, hleft⟩ := hrun
  obtain ⟨⟨jobs, hjobs, hentries, hflight⟩, hlength, hgone⟩ :=
    (Serving.start h workers page).steps hI hpage hsteps
  have hnone := PageState.inFlight_of_isDone hleft
  have hqueue := PageState.queue_of_isDone hworkers hlength hgone
    (List.Sublist.length_le (hentries ▸ List.sublist_append_right ..)) hleft
  rw [hnone] at hflight
  rw [hqueue, List.append_nil] at hentries
  rw [← hentries, ← eq_map_of_filterMap_eq_nil (List.nil_perm.mp hflight)]
  exact hjobs

/-! ## All pages -/

/-- After all pages all entries are finished. -/
theorem PagesRun.keeps (hI : server.Keeps entries I) (hworkers : 0 < workers)
    {pages : List (List ε)} (hpages : pages.flatten ⊆ entries) {done : List (ε × Option κ)}
    (h : I done a) (hrun : PagesRun server workers pages a b) :
    I (done ++ pages.flatten.map (·, none)) b := by
  induction hrun generalizing done with
  | nil =>
      rw [List.flatten_nil, List.map_nil, List.append_nil]
      exact h
  | cons hpage _ ih =>
      rw [List.flatten_cons] at hpages ⊢
      have hfirst := hpage.keeps hI hworkers
        (List.Subset.trans (List.subset_append_left ..) hpages) h
      rw [List.map_append, ← List.append_assoc]
      exact ih (List.Subset.trans (List.subset_append_right ..) hpages) hfirst

/-- The pages of a list are the list. -/
theorem flatten_pages (length : Nat) (xs : List ε) : (pages length xs).flatten = xs := by
  induction xs using pages.induct length with
  | case1 => rw [pages, List.flatten_nil]
  | case2 x xs ih =>
      rw [pages, List.flatten_cons, ih, List.cons_append, List.take_append_drop]

/-- A list that fits on a page is one. -/
theorem pages_of_length_lt {length : Nat} {x : ε} {xs : List ε} (h : xs.length < length) :
    pages length (x :: xs) = [x :: xs] := by
  have hlast : xs.length ≤ length - 1 := by omega
  rw [pages, List.take_of_length_le hlast, List.drop_of_length_le hlast, pages]

/-- After the pages of a list all its entries are finished, in their order. -/
theorem PagesRun.keeps_pages {length : Nat} (hI : server.Keeps entries I) (hworkers : 0 < workers)
    (h : I [] a) (hrun : PagesRun server workers (pages length entries) a b) :
    I (entries.map (·, none)) b := by
  have hsub : (pages length entries).flatten ⊆ entries := by
    rw [flatten_pages]
    exact List.Subset.refl _
  have hall := PagesRun.keeps hI hworkers hsub h hrun
  rw [List.nil_append, flatten_pages] at hall
  exact hall

/-- Pages make no difference to components that are looked up one after another. -/
theorem Dispatcher.dispatch_eq_runPage {σ π : Type} (d : Dispatcher σ π) (token : ApiToken)
    (components : List Component) (f : RunState σ π) :
    d.dispatch token components f = d.runPage token f components :=
  calc d.dispatch token components f
    _ = (pages d.settings.pageLength components).flatten.foldl (d.process token) f :=
      List.foldl_flatten.symm
    _ = d.runPage token f components := by
      rw [flatten_pages]
      rfl

/-- There is a worker, whatever the settings say. -/
theorem Dispatcher.workers_pos {σ π : Type} (d : Dispatcher σ π) : 0 < d.settings.workers := by
  unfold AnalyzerSettings.workers
  omega

/-- After a run over entries all of them are finished, in their order. -/
theorem Dispatcher.EntriesRun.keeps {σ π : Type} {d : Dispatcher σ π} {token : ApiToken}
    {entries : List Entry} {f g : RunState σ π}
    {I : List (Entry × Option Task) → RunState σ π → Prop}
    (hI : (d.entryServer token).Keeps entries I) (h : I [] f)
    (hrun : d.EntriesRun token entries f g) :
    I (entries.map (·, none)) g :=
  PagesRun.keeps_pages hI d.workers_pos h hrun

end AdvisoryLedger
