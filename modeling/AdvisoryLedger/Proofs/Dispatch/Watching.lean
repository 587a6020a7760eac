import AdvisoryLedger.Proofs.Dispatch.Schedule

/-!
# Watching the workers

A server may tell more than another one: its entries may be told apart by something that the
work on them does not depend on, and its state may keep a record of what was done. If it does
the same otherwise, then its runs are those of the other one, each with what was watched
(`pagesRun_iff_of_watches`). So a question about what happened during a run can be put to a
server that watches, and no run is lost or made up by watching.
-/

namespace AdvisoryLedger

/-- The one server does what the other one does, where `entry` and `state` forget what it
tells beyond. -/
structure Server.Watches {α β δ ε κ : Type} (watcher : Server β δ κ) (server : Server α ε κ)
    (entry : δ → ε) (state : β → α) : Prop where
  start : ∀ e, watcher.start e = server.start (entry e)
  act : ∀ e k b, server.act (entry e) k (state b)
    = (state (watcher.act e k b).1, (watcher.act e k b).2)

section Map

variable {δ ε κ : Type}

def Worker.map (f : δ → ε) : Worker δ κ → Worker ε κ
  | .idle => .idle
  | .busy e k => .busy (f e) k
  | .gone => .gone

@[simp] theorem Worker.map_eq_idle {f : δ → ε} {w : Worker δ κ} :
    w.map f = .idle ↔ w = .idle := by
  cases w <;> simp [Worker.map]

@[simp] theorem Worker.map_eq_gone {f : δ → ε} {w : Worker δ κ} :
    w.map f = .gone ↔ w = .gone := by
  cases w <;> simp [Worker.map]

theorem Worker.map_eq_busy {f : δ → ε} {w : Worker δ κ} {e : ε} {k : κ} :
    w.map f = .busy e k ↔ ∃ e', w = .busy e' k ∧ f e' = e := by
  cases w <;> simp [Worker.map, and_comm]

def PageState.map (f : δ → ε) (p : PageState δ κ) : PageState ε κ :=
  ⟨p.queue.map f, p.workers.map (Worker.map f), p.taken.map f, p.finished.map f⟩

theorem PageState.map_start (f : δ → ε) (workers : Nat) (page : List δ) :
    (PageState.start workers page : PageState δ κ).map f = .start workers (page.map f) := by
  simp [PageState.map, PageState.start, Worker.map]

theorem PageState.isDone_map {f : δ → ε} {p : PageState δ κ} : (p.map f).isDone ↔ p.isDone := by
  simp [PageState.isDone, PageState.map]

theorem map_pages (f : δ → ε) (length : Nat) (xs : List δ) :
    (pages length xs).map (List.map f) = pages length (xs.map f) := by
  induction xs using pages.induct length with
  | case1 => simp only [pages, List.map_nil]
  | case2 x xs ih =>
      simp only [pages, List.map_cons, ih, List.map_take, List.map_drop]

end Map

section Watches

variable {α β δ ε κ : Type} {watcher : Server β δ κ} {server : Server α ε κ} {entry : δ → ε}
  {state : β → α} {workers : Nat}

/-! ## From the watcher -/

theorem PageStep.of_watches (h : watcher.Watches server entry state) {s t : PageState δ κ × β}
    (hst : PageStep watcher s t) :
    PageStep server (s.1.map entry, state s.2) (t.1.map entry, state t.2) := by
  cases hst with
  | @take e queue before after taken finished a =>
      simp only [PageState.map, List.map_append, List.map_cons, List.map_nil, Worker.map, h.start]
      exact .take
  | @act e k k' queue before after taken finished a b hact =>
      simp only [PageState.map, List.map_append, List.map_cons, Worker.map]
      exact .act (by rw [h.act, hact])
  | @finish e k queue before after taken finished a b hact =>
      simp only [PageState.map, List.map_append, List.map_cons, List.map_nil, Worker.map]
      exact .finish (by rw [h.act, hact])
  | leave =>
      simp only [PageState.map, List.map_append, List.map_cons, List.map_nil, Worker.map]
      exact .leave

theorem PageSteps.of_watches (h : watcher.Watches server entry state) {s t : PageState δ κ × β}
    (hst : PageSteps watcher s t) :
    PageSteps server (s.1.map entry, state s.2) (t.1.map entry, state t.2) := by
  induction hst with
  | refl => exact .refl
  | step _ hstep ih => exact ih.step (hstep.of_watches h)

/-! ## To the watcher -/

/-- Whatever a worker does can be watched. -/
theorem PageStep.exists_watched (h : watcher.Watches server entry state) {p : PageState δ κ}
    {b : β} {t : PageState ε κ × α} (hst : PageStep server (p.map entry, state b) t) :
    ∃ q c, PageStep watcher (p, b) (q, c) ∧ t = (q.map entry, state c) := by
  obtain ⟨queue, workers, taken, finished⟩ := p
  generalize hs : (PageState.map entry ⟨queue, workers, taken, finished⟩, state b) = s at hst
  simp only [PageState.map] at hs
  cases hst with
  | take =>
      simp only [Prod.mk.injEq, PageState.mk.injEq, List.map_eq_cons_iff,
        List.map_eq_append_iff] at hs
      obtain ⟨⟨⟨e, queue, rfl, rfl, rfl⟩, ⟨before, rest, rfl, rfl, w, after, rfl, hw, rfl⟩,
        rfl, rfl⟩, rfl⟩ := hs
      rw [Worker.map_eq_idle] at hw
      subst hw
      refine ⟨_, _, .take, ?_⟩
      simp [PageState.map, Worker.map, h.start]
  | act hact =>
      simp only [Prod.mk.injEq, PageState.mk.injEq, List.map_eq_cons_iff,
        List.map_eq_append_iff] at hs
      obtain ⟨⟨rfl, ⟨before, rest, rfl, rfl, w, after, rfl, hw, rfl⟩, rfl, rfl⟩, rfl⟩ := hs
      obtain ⟨e, rfl, rfl⟩ := Worker.map_eq_busy.mp hw
      rw [h.act, Prod.mk.injEq] at hact
      obtain ⟨rfl, hnext⟩ := hact
      refine ⟨_, _, .act (Prod.ext rfl hnext), ?_⟩
      simp [PageState.map, Worker.map]
  | finish hact =>
      simp only [Prod.mk.injEq, PageState.mk.injEq, List.map_eq_cons_iff,
        List.map_eq_append_iff] at hs
      obtain ⟨⟨rfl, ⟨before, rest, rfl, rfl, w, after, rfl, hw, rfl⟩, rfl, rfl⟩, rfl⟩ := hs
      obtain ⟨e, rfl, rfl⟩ := Worker.map_eq_busy.mp hw
      rw [h.act, Prod.mk.injEq] at hact
      obtain ⟨rfl, hnext⟩ := hact
      refine ⟨_, _, .finish (Prod.ext rfl hnext), ?_⟩
      simp [PageState.map, Worker.map]
  | leave =>
      simp only [Prod.mk.injEq, PageState.mk.injEq, List.map_eq_nil_iff, List.map_eq_cons_iff,
        List.map_eq_append_iff] at hs
      obtain ⟨⟨rfl, ⟨before, rest, rfl, rfl, w, after, rfl, hw, rfl⟩, rfl, rfl⟩, rfl⟩ := hs
      rw [Worker.map_eq_idle] at hw
      subst hw
      refine ⟨_, _, .leave, ?_⟩
      simp [PageState.map, Worker.map]

theorem pageSteps_iff_of_watches (h : watcher.Watches server entry state) {p : PageState δ κ}
    {b : β} {t : PageState ε κ × α} :
    PageSteps server (p.map entry, state b) t ↔
      ∃ q c, PageSteps watcher (p, b) (q, c) ∧ t = (q.map entry, state c) := by
  constructor
  · intro hst
    induction hst with
    | refl => exact ⟨p, b, .refl, rfl⟩
    | step _ hstep ih =>
        obtain ⟨q, c, hsteps, rfl⟩ := ih
        obtain ⟨q', c', hnext, rfl⟩ := hstep.exists_watched h
        exact ⟨q', c', hsteps.step hnext, rfl⟩
  · rintro ⟨q, c, hst, rfl⟩
    exact hst.of_watches h

theorem pageRun_iff_of_watches (h : watcher.Watches server entry state) {page : List δ} {b : β}
    {a : α} :
    PageRun server workers (page.map entry) (state b) a ↔
      ∃ c, PageRun watcher workers page b c ∧ a = state c := by
  unfold PageRun
  simp only [← PageState.map_start, pageSteps_iff_of_watches h, Prod.mk.injEq]
  constructor
  · rintro ⟨_, ⟨q, c, hst, rfl, rfl⟩, hdone⟩
    exact ⟨c, ⟨q, hst, PageState.isDone_map.mp hdone⟩, rfl⟩
  · rintro ⟨c, ⟨q, hst, hdone⟩, rfl⟩
    exact ⟨_, ⟨q, c, hst, rfl, rfl⟩, PageState.isDone_map.mpr hdone⟩

/-- **Watching changes nothing.** The runs of a server are those of a watching one, each with
what was watched. -/
theorem pagesRun_iff_of_watches (h : watcher.Watches server entry state) {pages : List (List δ)}
    {b : β} {a : α} :
    PagesRun server workers (pages.map (List.map entry)) (state b) a ↔
      ∃ c, PagesRun watcher workers pages b c ∧ a = state c := by
  induction pages generalizing b with
  | nil =>
      constructor
      · intro hrun
        cases hrun
        exact ⟨b, .nil, rfl⟩
      · rintro ⟨c, hrun, rfl⟩
        cases hrun
        exact .nil
  | cons page pages ih =>
      constructor
      · intro hrun
        rw [List.map_cons] at hrun
        cases hrun with
        | cons hpage hrest =>
            obtain ⟨b', hpage', rfl⟩ := (pageRun_iff_of_watches h).mp hpage
            obtain ⟨c, hrest', rfl⟩ := ih.mp hrest
            exact ⟨c, .cons hpage' hrest', rfl⟩
      · rintro ⟨c, hrun, rfl⟩
        cases hrun with
        | cons hpage hrest =>
            exact .cons ((pageRun_iff_of_watches h).mpr ⟨_, hpage, rfl⟩)
              (ih.mpr ⟨c, hrest, rfl⟩)

end Watches
end AdvisoryLedger
