import AdvisoryLedger.Dispatch.Moments
import AdvisoryLedger.Proofs.Dispatch.Alone
import AdvisoryLedger.Proofs.Dispatch.Prefix
import AdvisoryLedger.Proofs.Dispatch.Watching
import Mathlib.Data.List.Perm.Basic

/-!
# Every component once, and within bounds

At every moment of a run the entries that were taken are the first ones of the list, each of
them is either finished or in the hand of one worker, no more workers than configured have one
in hand, and an entry of a page is taken only when all entries of the pages before are
finished. When the run is completed nothing is left of that but: all entries were taken in
order, and each is finished.

`PageState.Tallied` is what one step of a worker keeps, `PagesState.Sound` what one step of
the whole run keeps. The moments that are completed are the ends of the runs, so what is
proved of moments is proved of `DispatchRun`.
-/

namespace AdvisoryLedger

/-! ## One page -/

section Page

variable {α ε κ : Type} {server : Server α ε κ} {workers : Nat} {page : List ε}

namespace PageState

/-- The entries of the page are accounted for. -/
structure Tallied (workers : Nat) (page : List ε) (p : PageState ε κ) : Prop where
  queued : p.taken ++ p.queue = page
  accounted : p.taken.Perm (p.finished ++ p.inFlight.map (·.1))
  workers : p.workers.length = min workers page.length
  gone : .gone ∈ p.workers → p.queue = []

theorem Tallied.start (workers : Nat) (page : List ε) :
    (start workers page : PageState ε κ).Tallied workers page where
  queued := rfl
  accounted := by
    rw [inFlight_start]
    exact .nil
  workers := List.length_replicate
  gone := by
    intro hgone
    cases List.eq_of_mem_replicate hgone

theorem Tallied.step {s t : PageState ε κ × α} (h : s.1.Tallied workers page)
    (hst : PageStep server s t) : t.1.Tallied workers page := by
  obtain ⟨hqueued, haccounted, hworkers, hgone⟩ := h
  cases hst with
  | @take e queue before after taken finished a =>
      refine ⟨by simpa using hqueued, ?_, by simpa using hworkers, ?_⟩
      · simp only [inFlight, List.filterMap_append, List.filterMap_cons, inHand?_idle,
          inHand?_busy, List.map_append, List.map_cons] at haccounted ⊢
        rw [← List.append_assoc] at haccounted ⊢
        exact (haccounted.append_right [e]).trans
          ((List.perm_append_singleton _ _).trans List.perm_middle.symm)
      · intro hmem
        cases hgone (by simpa using hmem)
  | act _ =>
      refine ⟨hqueued, ?_, by simpa using hworkers, fun hmem => hgone (by simpa using hmem)⟩
      simpa [inFlight, List.filterMap_cons] using haccounted
  | @finish e k queue before after taken finished a b _ =>
      refine ⟨hqueued, ?_, by simpa using hworkers, fun hmem => hgone (by simpa using hmem)⟩
      simp only [inFlight, List.filterMap_append, List.filterMap_cons, inHand?_idle,
        inHand?_busy, List.map_append, List.map_cons] at haccounted ⊢
      -- the entry goes from the hands of the workers to those that are finished
      rw [List.append_assoc, List.singleton_append]
      exact haccounted.trans (List.Perm.append_left finished List.perm_middle)
  | leave =>
      refine ⟨hqueued, ?_, by simpa using hworkers, fun _ => rfl⟩
      simpa [inFlight, List.filterMap_cons] using haccounted

theorem Tallied.taken_eq {p : PageState ε κ} (h : p.Tallied workers page) (hworkers : 0 < workers)
    (hdone : p.isDone) : p.taken = page := by
  have hqueue := queue_of_isDone hworkers h.workers h.gone
    (List.Sublist.length_le (h.queued ▸ List.sublist_append_right ..)) hdone
  have hqueued := h.queued
  rw [hqueue, List.append_nil] at hqueued
  exact hqueued

theorem Tallied.length_inFlight_le {p : PageState ε κ} (h : p.Tallied workers page) :
    p.inFlight.length ≤ min workers page.length :=
  h.workers ▸ List.length_filterMap_le inHand? p.workers

end PageState

theorem PageState.start_nil (workers : Nat) :
    (start workers [] : PageState ε κ) = ⟨[], [], [], []⟩ := by
  simp [start]

/-- A page without entries has no workers that could do anything. -/
theorem eq_of_pageSteps_nil {a : α} {t : PageState ε κ × α}
    (h : PageSteps server (.start workers [], a) t) : t = (.start workers [], a) := by
  rw [PageState.start_nil] at h ⊢
  induction h with
  | refl => rfl
  | step _ hstep ih =>
      subst ih
      generalize hs : ((⟨[], [], [], []⟩ : PageState ε κ), a) = s at hstep
      cases hstep <;> simp at hs

end Page

/-! ## All pages -/

section Pages

variable {α ε κ : Type} {server : Server α ε κ} {workers : Nat} {pages : List (List ε)} {a b : α}

theorem PagesRun.concat {page : List ε} {c : α} (h : PagesRun server workers pages a b)
    (hpage : PageRun server workers page b c) : PagesRun server workers (pages ++ [page]) a c := by
  induction h with
  | nil => exact .cons hpage .nil
  | cons hfirst _ ih => exact .cons hfirst (ih hpage)

namespace PagesState

/-- The pages that a run begins with, or an empty one where there is none. -/
def plan (pages : List (List ε)) : List (List ε) := pages.headD [] :: pages.tail

theorem start_eq (workers : Nat) (pages : List (List ε)) : (start workers pages : PagesState ε κ)
    = ⟨[], pages.headD [], .start workers (pages.headD []), pages.tail⟩ := by
  cases pages <;> rfl

/-- What holds at every moment, where `a` is the state at the beginning: the pages are those
that were planned, those that were served are finished, and workers serve the current one. -/
structure Sound (server : Server α ε κ) (workers : Nat) (pages : List (List ε)) (a : α)
    (s : PagesState ε κ × α) : Prop where
  planned : s.1.served.map (·.taken) ++ s.1.entries :: s.1.waiting = plan pages
  served : ∀ p ∈ s.1.served, p.taken.Perm p.finished ∧ p.inFlight = []
  page : s.1.page.Tallied workers s.1.entries
  reached : ∃ c, PagesRun server workers (s.1.served.map (·.taken)) a c ∧
    PageSteps server (.start workers s.1.entries, c) (s.1.page, s.2)

theorem Sound.start (server : Server α ε κ) (workers : Nat) (pages : List (List ε)) (a : α) :
    Sound server workers pages a (.start workers pages, a) where
  planned := by rw [start_eq]; rfl
  served := by
    rw [start_eq]
    exact fun p hp => by cases hp
  page := by
    rw [start_eq]
    exact .start workers _
  reached := by
    rw [start_eq]
    exact ⟨a, .nil, .refl⟩

/-- Each step of the run keeps it. -/
theorem Sound.step (hworkers : 0 < workers) {s t : PagesState ε κ × α}
    (h : Sound server workers pages a s) (hst : PagesStep server workers s t) :
    Sound server workers pages a t := by
  obtain ⟨hplanned, hserved, hpage, c, hrun, hsteps⟩ := h
  cases hst with
  | serve hact => exact ⟨hplanned, hserved, hpage.step hact, c, hrun, hsteps.step hact⟩
  | @turn served entries p page waiting b hdone =>
      have htaken : p.taken = entries := hpage.taken_eq hworkers hdone
      have hnone := PageState.inFlight_of_isDone hdone
      have hfinished : p.taken.Perm p.finished := by
        have haccounted := hpage.accounted
        rw [hnone, List.map_nil, List.append_nil] at haccounted
        exact haccounted
      refine ⟨?_, ?_, .start workers page, b, ?_, .refl⟩
      · rw [List.map_append, List.map_singleton, List.append_assoc, List.singleton_append, htaken]
        exact hplanned
      · intro q hq
        rcases List.mem_append.mp hq with hold | hlast
        · exact hserved q hold
        · rw [List.mem_singleton.mp hlast]
          exact ⟨hfinished, hnone⟩
      · rw [List.map_append, List.map_singleton, htaken]
        exact hrun.concat ⟨p, hsteps, hdone⟩

theorem Sound.steps (hworkers : 0 < workers) {s t : PagesState ε κ × α}
    (h : Sound server workers pages a s) (hst : PagesSteps server workers s t) :
    Sound server workers pages a t := by
  induction hst with
  | refl => exact h
  | step _ hstep ih => exact ih.step hworkers hstep

end PagesState

/-! ### Completed moments are the ends of runs -/

theorem PagesSteps.serve {served : List (PageState ε κ)} {entries : List ε}
    {waiting : List (List ε)} {p : PageState ε κ} {t : PageState ε κ × α}
    {s : PagesState ε κ × α}
    (h : PagesSteps server workers s (⟨served, entries, p, waiting⟩, a))
    (hst : PageSteps server (p, a) t) :
    PagesSteps server workers s (⟨served, entries, t.1, waiting⟩, t.2) := by
  induction hst with
  | refl => exact h
  | step _ hstep ih => exact ih.step (.serve hstep)

/-- From a moment at which a page is over the rest of the run can follow. -/
theorem PagesRun.exists_completed {s : PagesState ε κ × α} {served : List (PageState ε κ)}
    {entries : List ε} {p : PageState ε κ} (hrun : PagesRun server workers pages a b)
    (hdone : p.isDone) (h : PagesSteps server workers s (⟨served, entries, p, pages⟩, a)) :
    ∃ t, PagesSteps server workers s (t, b) ∧ t.isCompleted := by
  induction hrun generalizing served entries p with
  | nil => exact ⟨_, h, hdone, rfl⟩
  | cons hpage _ ih =>
      obtain ⟨q, hsteps, hleft⟩ := hpage
      exact ih hleft ((h.step (.turn hdone)).serve hsteps)

theorem pagesRun_iff_exists_completed (hworkers : 0 < workers) :
    PagesRun server workers pages a b ↔
      ∃ s, PagesSteps server workers (.start workers pages, a) (s, b) ∧ s.isCompleted := by
  constructor
  · intro hrun
    cases hrun with
    | nil =>
        refine ⟨_, .refl, ?_, rfl⟩
        intro w hw
        rw [PagesState.start, PageState.start_nil] at hw
        cases hw
    | cons hpage hrest =>
        obtain ⟨p, hsteps, hdone⟩ := hpage
        exact hrest.exists_completed hdone (PagesSteps.refl.serve hsteps)
  · rintro ⟨s, hst, hdone, hwaiting⟩
    obtain ⟨hplanned, -, -, c, hrun, hsteps⟩ :=
      (PagesState.Sound.start server workers pages a).steps hworkers hst
    rw [hwaiting] at hplanned
    cases pages with
    | nil =>
        -- nothing but the empty page in the place of one was there to serve
        obtain ⟨hserved, hentries⟩ := List.append_eq_singleton_iff.mp hplanned |>.resolve_right
          (by simp)
        rw [hserved] at hrun
        rw [List.cons.injEq] at hentries
        cases hrun
        rw [hentries.1] at hsteps
        cases congrArg (·.2) (eq_of_pageSteps_nil hsteps)
        exact .nil
    | cons page rest =>
        have hall := hrun.concat ⟨_, hsteps, hdone⟩
        rw [hplanned] at hall
        exact hall

/-- A run never gets stuck: at a moment that is not completed somebody can act. -/
theorem PagesState.exists_step (server : Server α ε κ) (workers : Nat) {s : PagesState ε κ}
    (h : ¬ s.isCompleted) (a : α) : ∃ t, PagesStep server workers (s, a) t := by
  obtain ⟨served, entries, ⟨queue, hands, taken, finished⟩, waiting⟩ := s
  by_cases hdone : (⟨queue, hands, taken, finished⟩ : PageState ε κ).isDone
  · cases waiting with
    | nil => exact absurd ⟨hdone, rfl⟩ h
    | cons page waiting => exact ⟨_, .turn hdone⟩
  · obtain ⟨w, hw, hstays⟩ : ∃ w ∈ hands, w ≠ .gone := by
      simpa [PageState.isDone] using hdone
    obtain ⟨before, after, rfl⟩ := List.append_of_mem hw
    cases w with
    | idle =>
        cases queue with
        | nil => exact ⟨_, .serve .leave⟩
        | cons e queue => exact ⟨_, .serve .take⟩
    | busy e k =>
        cases hact : server.act e k a with
        | mk b next =>
            cases next with
            | none => exact ⟨_, .serve (.finish hact)⟩
            | some k' => exact ⟨_, .serve (.act hact)⟩
    | gone => exact absurd rfl hstays

end Pages

/-! ## Places -/

section Places

variable {α ε κ : Type} {server : Server α ε κ} {workers length : Nat} {xs : List ε} {a : α}

/-- A page is a stretch of the list. -/
theorem getElem?_pages (hlength : 0 < length) (xs : List ε) (j : Nat) :
    (pages length xs)[j]? =
      if j * length < xs.length then some ((xs.drop (j * length)).take length) else none := by
  obtain ⟨more, rfl⟩ := Nat.exists_eq_add_one.mpr hlength
  induction xs using pages.induct (more + 1) generalizing j with
  | case1 => simp [pages]
  | case2 x xs ih =>
      rw [pages]
      cases j with
      | zero => simp
      | succ j =>
          rw [List.getElem?_cons_succ, ih, Nat.add_one_mul]
          generalize j * (more + 1) = n
          have hlt : n < (xs.drop more).length ↔ n + (more + 1) < (x :: xs).length := by
            rw [List.length_drop, List.length_cons]
            omega
          have hdrop : (xs.drop more).drop n = (x :: xs).drop (n + (more + 1)) := by
            rw [List.drop_drop, Nat.add_comm more]
            rfl
          simp only [Nat.add_one_sub_one, hlt, hdrop]

/-- The place of an entry tells the page that it is on. -/
theorem mem_drop_take_zipIdx_iff (hlength : 0 < length) {j : Nat} {e : ε × Nat} :
    e ∈ (xs.zipIdx.drop (j * length)).take length ↔ e ∈ xs.zipIdx ∧ e.2 / length = j := by
  rw [List.mem_iff_getElem?]
  simp only [List.getElem?_take, List.getElem?_drop, List.getElem?_zipIdx, Nat.zero_add]
  obtain ⟨x, place⟩ := e
  rw [List.mk_mem_zipIdx_iff_getElem?]
  constructor
  · rintro ⟨m, hm⟩
    split at hm
    · next hlt =>
      obtain ⟨y, hy, heq⟩ := Option.map_eq_some_iff.mp hm
      obtain ⟨rfl, rfl⟩ := Prod.mk.inj heq
      refine ⟨hy, Nat.div_eq_of_lt_le (Nat.le_add_right ..) ?_⟩
      rw [Nat.add_mul]
      omega
    · cases hm
  · rintro ⟨hx, rfl⟩
    have hle := Nat.div_mul_le_self place length
    have hmod := Nat.mod_lt place hlength
    have hsum : place / length * length + place % length = place := by
      rw [Nat.mul_comm]
      exact Nat.div_add_mod place length
    refine ⟨place % length, ?_⟩
    rw [if_pos hmod, hsum, hx]
    rfl

namespace PagesState

theorem getElem?_plan (hlength : 0 < length) (xs : List ε) {j : Nat} {page : List ε}
    (h : (plan (pages length xs))[j]? = some page) :
    page = (xs.drop (j * length)).take length := by
  unfold plan at h
  cases hpages : pages length xs with
  | nil =>
      have hnil : xs = [] := by rw [← flatten_pages length xs, hpages, List.flatten_nil]
      rw [hpages] at h
      cases j with
      | zero =>
          rw [hnil]
          simpa using (Option.some.inj h).symm
      | succ j => cases h
  | cons first rest =>
      rw [hpages, List.headD_cons, List.tail_cons, ← hpages, getElem?_pages hlength] at h
      split at h
      · exact (Option.some.inj h).symm
      · cases h

theorem flatten_plan (pages : List (List ε)) : (plan pages).flatten = pages.flatten := by
  cases pages <;> rfl

/-- What single steps keep holds at every moment, of the jobs that there are then. -/
theorem Sound.keeps {I : List (ε × Option κ) → α → Prop} {pages : List (List ε)}
    {s : PagesState ε κ × α} (h : Sound server workers pages a s)
    (hI : server.Keeps pages.flatten I) (hworkers : 0 < workers) (ha : I [] a) :
    ∃ jobs, I jobs s.2 := by
  obtain ⟨b, hserved, hcurrent⟩ := h.reached
  have hflatten : (s.1.served.map (·.taken)).flatten ++ (s.1.entries ++ s.1.waiting.flatten)
      = pages.flatten := by
    rw [← flatten_plan pages, ← h.planned, List.flatten_append, List.flatten_cons]
  have hsub : (s.1.served.map (·.taken)).flatten ⊆ pages.flatten :=
    hflatten ▸ List.subset_append_left ..
  have hsub' : s.1.entries ⊆ pages.flatten := by
    rw [← hflatten]
    exact List.Subset.trans (List.subset_append_left ..) (List.subset_append_right ..)
  have hdone := hserved.keeps hI hworkers hsub ha
  obtain ⟨⟨jobs, hjobs, -, -⟩, -, -⟩ :=
    (Serving.start hdone workers s.1.entries).steps hI hsub' hcurrent
  exact ⟨_, hjobs⟩

/-- The pages that were served, then the current one, count from zero. -/
theorem Sound.entries_eq (hlength : 0 < length) {s : PagesState ε κ × α}
    (h : Sound server workers (pages length xs) a s) :
    s.1.entries = (xs.drop (s.1.served.length * length)).take length := by
  apply getElem?_plan hlength xs
  rw [← h.planned, List.getElem?_append_right (by simp), List.length_map, Nat.sub_self]
  rfl

theorem Sound.taken_eq (hlength : 0 < length) {s : PagesState ε κ × α}
    (h : Sound server workers (pages length xs) a s) {j : Nat} {p : PageState ε κ}
    (hp : s.1.served[j]? = some p) : p.taken = (xs.drop (j * length)).take length := by
  apply getElem?_plan hlength xs
  have hj : j < (s.1.served.map (·.taken)).length := by
    rw [List.length_map]
    exact (List.getElem?_eq_some_iff.mp hp).1
  rw [← h.planned, List.getElem?_append_left hj, List.getElem?_map, hp]
  rfl

end PagesState

/-! ## What holds at every moment -/

namespace PagesState

theorem Sound.inFlight_eq {pages : List (List ε)} {s : PagesState ε κ × α}
    (h : Sound server workers pages a s) : s.1.inFlight = s.1.page.inFlight.map (·.1) := by
  have hnone : (s.1.served.flatMap fun p => p.inFlight.map (·.1)) = [] := by
    rw [List.flatMap_eq_nil_iff]
    intro p hp
    rw [(h.served p hp).2, List.map_nil]
  rw [inFlight, List.flatMap_append, hnone, List.nil_append, List.flatMap_singleton]

theorem Sound.taken_append {pages : List (List ε)} {s : PagesState ε κ × α}
    (h : Sound server workers pages a s) :
    s.1.taken ++ s.1.page.queue ++ s.1.waiting.flatten = pages.flatten := by
  rw [← flatten_plan pages, ← h.planned, List.flatten_append, List.flatten_cons,
    ← h.page.queued, taken, List.flatMap_append, List.flatMap_singleton, List.flatMap_def]
  simp only [List.append_assoc]

theorem Sound.accounted {pages : List (List ε)} {s : PagesState ε κ × α}
    (h : Sound server workers pages a s) : s.1.taken.Perm (s.1.finished ++ s.1.inFlight) := by
  have hserved : (s.1.served.flatMap (·.taken)).Perm (s.1.served.flatMap (·.finished)) :=
    List.Perm.flatMap_left _ fun p hp => (h.served p hp).1
  rw [h.inFlight_eq, taken, finished, List.flatMap_append, List.flatMap_append,
    List.flatMap_singleton, List.flatMap_singleton, List.append_assoc]
  exact hserved.append h.page.accounted

/-- The entries of the run are looked up as they should be. -/
structure Orderly (workers length : Nat) (entries : List (ε × Nat)) (s : PagesState (ε × Nat) κ) :
    Prop where
  /-- The current page has the entries that come after those of the pages before. -/
  page : s.entries = (entries.drop (s.served.length * length)).take length
  /-- No more entries are in flight than there are workers, nor others than those of the page. -/
  bounded : s.inFlight.length ≤ min workers s.entries.length
  current : s.inFlight ⊆ s.entries
  /-- Entries are taken in the order of the list, and an entry that was taken is either finished
  or in flight. -/
  ordered : s.taken <+: entries
  accounted : s.taken.Perm (s.finished ++ s.inFlight)
  /-- An entry is taken when those of the pages before it are finished. -/
  barrier : ∀ e ∈ s.taken, ∀ e' ∈ entries, e'.2 / length < e.2 / length → e' ∈ s.finished
  /-- In the end each entry was taken and finished once, and nothing is in flight. -/
  completed : s.isCompleted → s.taken = entries ∧ s.finished.Perm entries ∧ s.inFlight = []

/-- An entry that was taken is on a page that was served or on the current one. -/
theorem Sound.div_le {server : Server α (ε × Nat) κ} (hlength : 0 < length)
    {s : PagesState (ε × Nat) κ × α}
    (h : Sound server workers (pages length xs.zipIdx) a s) {e : ε × Nat} (he : e ∈ s.1.taken) :
    e.2 / length ≤ s.1.served.length := by
  obtain ⟨p, hp, hep⟩ := List.mem_flatMap.mp he
  rcases List.mem_append.mp hp with hold | hlast
  · obtain ⟨j, hj⟩ := List.mem_iff_getElem?.mp hold
    rw [h.taken_eq hlength hj, mem_drop_take_zipIdx_iff hlength] at hep
    have hlt := (List.getElem?_eq_some_iff.mp hj).1
    omega
  · have hentry : e ∈ s.1.entries := by
      rw [← h.page.queued, ← List.mem_singleton.mp hlast]
      exact List.mem_append_left _ hep
    rw [h.entries_eq hlength, mem_drop_take_zipIdx_iff hlength] at hentry
    omega

/-- The entries of the pages before the current one are finished. -/
theorem Sound.mem_finished {server : Server α (ε × Nat) κ} (hlength : 0 < length)
    {s : PagesState (ε × Nat) κ × α} (h : Sound server workers (pages length xs.zipIdx) a s)
    {e : ε × Nat} (he : e ∈ xs.zipIdx) (hlt : e.2 / length < s.1.served.length) :
    e ∈ s.1.finished := by
  have hp := List.getElem?_eq_getElem hlt
  have hmem := List.getElem_mem hlt
  have htaken : e ∈ s.1.served[e.2 / length].taken := by
    rw [h.taken_eq hlength hp, mem_drop_take_zipIdx_iff hlength]
    exact ⟨he, rfl⟩
  exact List.mem_flatMap.mpr ⟨_, List.mem_append_left _ hmem, (h.served _ hmem).1.subset htaken⟩

theorem Sound.orderly {server : Server α (ε × Nat) κ} (hworkers : 0 < workers)
    (hlength : 0 < length) {s : PagesState (ε × Nat) κ × α}
    (h : Sound server workers (pages length xs.zipIdx) a s) :
    s.1.Orderly workers length xs.zipIdx := by
  have hall := h.taken_append
  rw [flatten_pages] at hall
  constructor
  case page => exact h.entries_eq hlength
  case bounded =>
    rw [h.inFlight_eq, List.length_map]
    exact h.page.length_inFlight_le
  case current =>
    rw [h.inFlight_eq, ← h.page.queued]
    intro e he
    exact List.mem_append_left _
      (h.page.accounted.symm.subset (List.mem_append_right _ he))
  case ordered => exact ⟨_, by rw [← hall, List.append_assoc]⟩
  case accounted => exact h.accounted
  case barrier =>
    intro e he e' he' hlt
    exact h.mem_finished hlength he' (Nat.lt_of_lt_of_le hlt (h.div_le hlength he))
  case completed =>
    rintro ⟨hdone, hwaiting⟩
    have hnone : s.1.inFlight = [] := by
      rw [h.inFlight_eq, PageState.inFlight_of_isDone hdone, List.map_nil]
    have hqueue : s.1.page.queue = [] := by
      have hqueued := h.page.queued
      rw [h.page.taken_eq hworkers hdone] at hqueued
      exact List.append_right_eq_self.mp hqueued
    have htaken : s.1.taken = xs.zipIdx := by
      rw [hqueue, hwaiting, List.flatten_nil, List.append_nil, List.append_nil] at hall
      exact hall
    have haccounted := h.accounted
    rw [hnone, List.append_nil, htaken] at haccounted
    exact ⟨htaken, haccounted.symm, hnone⟩

end PagesState

end Places

/-! ## Runs over components -/

namespace Dispatcher

variable {σ π : Type}

theorem watches_placed {α ε κ : Type} (server : Server α ε κ) :
    server.placed.Watches server (·.1) id where
  start := fun _ => rfl
  act := fun _ _ _ => rfl

theorem pageLength_pos (d : Dispatcher σ π) : 0 < d.settings.pageLength := by
  unfold AnalyzerSettings.pageLength
  omega

/-- **Every component is looked up once, and within bounds.** The runs over a list are those
that end in a completed moment. At every moment, whatever the workers did so far, no more
entries are in flight than there are workers or entries on the page, the entries of one page
are finished before those of the next are taken, and in the end every entry was taken once and
finished once. -/
theorem moment_orderly (d : Dispatcher σ π) (token : ApiToken) (components : List Component)
    (f : RunState σ π) :
    (∀ g, d.DispatchRun token components f g ↔
      ∃ s, d.Moment token components f s g ∧ s.isCompleted) ∧
    ∀ s g, d.Moment token components f s g →
      s.Orderly (max 1 d.settings.concurrency) (max 1 d.settings.pageSize) components.zipIdx := by
  constructor
  · intro g
    have hplaced : PagesRun (d.server token) d.settings.workers
          ((pages d.settings.pageLength components.zipIdx).map (List.map (·.1))) f g ↔
        ∃ g', PagesRun (d.server token).placed d.settings.workers
          (pages d.settings.pageLength components.zipIdx) f g' ∧ g = g' :=
      pagesRun_iff_of_watches (watches_placed (d.server token))
    rw [map_pages, List.zipIdx_map_fst] at hplaced
    unfold DispatchRun Moment
    rw [← pagesRun_iff_exists_completed d.workers_pos, hplaced, exists_eq_right']
  · intro s g hmoment
    have hsound := (PagesState.Sound.start (d.server token).placed d.settings.workers
      (pages d.settings.pageLength components.zipIdx) f).steps d.workers_pos hmoment
    rw [Nat.max_comm, Nat.max_comm 1]
    exact hsound.orderly d.workers_pos d.pageLength_pos

/-- A dispatcher that is configured with no workers and with empty pages. -/
def leastDispatcher : Dispatcher (Ledger × Nat) Unit :=
  { settings := { AnalyzerSettings.default with concurrency := 0, pageSize := 0 }
    source := .snyk
    session := Session.brokenTables
    peer := .unreachable }

/-- It looks up its components all the same, one at a time. -/
theorem moment_orderly_leastDispatcher :
    let entries : List (Component × Nat) :=
      [(⟨"A", "a", some "pkg:npm/a@1"⟩, 0), (⟨"A", "a", some "pkg:npm/a@1"⟩, 1)]
    ∃ s g, leastDispatcher.Moment ⟨"t", by decide⟩ (entries.map (·.1)) (.start (.empty, 0) ()) s g ∧
      s.isCompleted ∧ s.Orderly 1 1 entries ∧ s.taken = entries := by
  intro entries
  obtain ⟨hrun, horderly⟩ :=
    moment_orderly leastDispatcher ⟨"t", by decide⟩ (entries.map (·.1)) (.start (.empty, 0) ())
  obtain ⟨s, hmoment, hcompleted⟩ := (hrun _).mp (dispatchRun_dispatch ..)
  have h : s.Orderly 1 1 entries := horderly s _ hmoment
  exact ⟨s, _, hmoment, hcompleted, h, (h.completed hcompleted).1⟩

end Dispatcher
end AdvisoryLedger
