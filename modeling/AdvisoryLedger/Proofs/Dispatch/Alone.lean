import AdvisoryLedger.Proofs.Dispatch.Schedule

/-!
# A worker that acts alone

The steps of a worker are cut as finely as other workers can come between them. Put together
again they are `Dispatcher.process`: a worker that acts alone from the request to the end
does exactly that, with any session and any peer. So what runs one after another is one of
the runs that the workers may come to.

`Continues` carries the pieces of a unit of work over to the steps. A failure of a call ends
the entry, and otherwise the worker goes on from what the call gave.
-/

namespace AdvisoryLedger

/-- A worker alone, from a place to the end of an entry. -/
inductive Alone {α κ : Type} (act : κ → α → α × Option κ) : κ → α → α → Prop
  | last {k a b} : act k a = (b, none) → Alone act k a b
  | next {k j a b c} : act k a = (b, some j) → Alone act j b c → Alone act k a c

/-! ## One component -/

section Component

variable {σ π β γ : Type}

/-- The run `g` is that after some work failed, or one that goes on from its result. -/
def Continues (w : Work σ β) (f g : RunState σ π) (next : β → RunState σ π → Prop) : Prop :=
  match w.on f.ledger with
  | (.error _, l) => g = { f with ledger := l }.fail
  | (.ok b, l) => next b { f with ledger := l }

theorem continues_pure {b : β} {f g : RunState σ π} {next : β → RunState σ π → Prop} :
    Continues (pure b) f g next ↔ next b f := Iff.rfl

theorem continues_bind {w : Work σ β} {k : β → Work σ γ} {f g : RunState σ π}
    {next : γ → RunState σ π → Prop} :
    Continues (w >>= k) f g next ↔ Continues w f g fun b f' => Continues (k b) f' g next := by
  unfold Continues
  rw [Work.on_bind]
  rcases w.on f.ledger with ⟨_ | _, l⟩ <;> rfl

theorem Continues.imp {w : Work σ β} {f g : RunState σ π} {next next' : β → RunState σ π → Prop}
    (himp : ∀ b f', next b f' → next' b f') (h : Continues w f g next) :
    Continues w f g next' := by
  unfold Continues at h ⊢
  split
  · next heq =>
    rw [heq] at h
    exact h
  · next heq =>
    rw [heq] at h
    exact himp _ _ h

theorem continues_iff_of_ok {w : Work σ β} {f g : RunState σ π}
    {next : β → RunState σ π → Prop} {b : β} {l : σ} (h : w.on f.ledger = (.ok b, l)) :
    Continues w f g next ↔ next b { f with ledger := l } := by
  unfold Continues
  rw [h]

theorem continues_iff_of_error {w : Work σ β} {f g : RunState σ π}
    {next : β → RunState σ π → Prop} {e : Failure} {l : σ} (h : w.on f.ledger = (.error e, l)) :
    Continues w f g next ↔ g = { f with ledger := l }.fail := by
  unfold Continues
  rw [h]

variable {d : Dispatcher σ π} {token : ApiToken} {c : Component} {f g : RunState σ π}

/-- Candidates are settled one after another. -/
theorem alone_settle {n : Drafting} {record : Vulnerability} {settled wanted : List Predicate}
    (h : Continues (wanted.mapM d.session.settlePredicate) f g fun qs f' =>
      Alone (d.act token c) (.settle n record (settled ++ qs) []) f' g) :
    Alone (d.act token c) (.settle n record settled wanted) f g := by
  -- on the candidates that are left, while those that are settled grow
  induction wanted generalizing settled f with
  | nil =>
      rw [List.mapM_nil, continues_pure, List.append_nil] at h
      exact h
  | cons p wanted ih =>
      rw [List.mapM_cons, continues_bind] at h
      cases hq : (d.session.settlePredicate p).on f.ledger with
      | mk result l =>
          cases result with
          | error e =>
              rw [continues_iff_of_error hq] at h
              subst h
              exact .last (by simp only [Dispatcher.act, hq])
          | ok q =>
              rw [continues_iff_of_ok hq, continues_bind] at h
              refine .next (j := .settle n record (settled ++ [q]) wanted)
                (b := { f with ledger := l }) (by simp only [Dispatcher.act, hq]) (ih ?_)
              simpa only [continues_pure, List.append_assoc, List.singleton_append] using h

/-- Advisories are drafted one after another. -/
theorem alone_draft {package : Option Coordinate} {drafts : List Draft} {rest : List Advisory}
    (h : Continues (rest.mapM (d.session.draft d.source package)) f g fun ds f' =>
      Alone (d.act token c) (.write (drafts ++ ds)) f' g) :
    Alone (d.act token c) (.draft ⟨package, drafts, rest⟩) f g := by
  induction rest generalizing drafts f with
  | nil =>
      rw [List.mapM_nil, continues_pure, List.append_nil] at h
      exact .next rfl h
  | cons a rest ih =>
      refine .next rfl (alone_settle ?_)
      rw [List.mapM_cons, continues_bind, Session.draft, continues_bind] at h
      have hget : (get : Work σ σ).on f.ledger = (.ok f.ledger, f.ledger) := rfl
      rw [continues_iff_of_ok hget, continues_bind] at h
      refine Continues.imp (fun qs f' h => ?_) h
      rw [continues_pure, continues_bind] at h
      refine .next rfl (ih ?_)
      simpa only [continues_pure, List.append_assoc, List.singleton_append, List.nil_append] using h

/-- The run after the drafts of a component were written, or after that failed. -/
def RunState.ended (f : RunState σ π) (r : Except Failure Unit × Progress × σ) : RunState σ π :=
  match r with
  | (.ok (), progress, l) => { f with ledger := l, progress := progress }.succeed
  | (.error _, progress, l) => { f with ledger := l, progress := progress }.fail

/-- Drafts are written one after another. -/
theorem alone_write (drafts : List Draft) (f : RunState σ π) :
    Alone (d.act token c) (.write drafts) f
      (f.ended (d.session.writeDrafts c.id drafts f.progress f.ledger)) := by
  induction drafts generalizing f with
  | nil => exact .last rfl
  | cons draft drafts ih =>
      cases hsync : (d.session.synchronize draft).on f.ledger with
      | mk result l =>
          cases result with
          | error e =>
              -- only a draft that is refused lets the next one have its turn
              cases e with
              | payload fault =>
                  rw [Session.writeDrafts_skip hsync]
                  exact .next (b := { f with ledger := l }) (by simp only [Dispatcher.act, hsync])
                    (ih { f with ledger := l })
              | _ =>
                  rw [Session.writeDrafts_refused hsync (by simp)]
                  exact .last (by simp only [Dispatcher.act, hsync]; rfl)
          | ok v =>
              refine .next (j := .tell v drafts) (b := { f with ledger := l })
                (by simp only [Dispatcher.act, hsync]) (.next rfl ?_)
              cases hatt : (d.session.attach v c.id).on l with
              | mk result m =>
                  cases result with
                  | error e =>
                      rw [Session.writeDrafts_unattached hsync hatt]
                      exact .last (by simp only [Dispatcher.act, hatt]; rfl)
                  | ok known =>
                      rw [Session.writeDrafts_stored hsync hatt]
                      exact .next (j := .write drafts)
                        (b := { f with ledger := m, progress := f.progress.record v })
                        (by simp only [Dispatcher.act, hatt])
                        (ih { f with ledger := m, progress := f.progress.record v })

/-- A batch is drafted and written. -/
theorem alone_acquire (package : Coordinate) (b : AdvisoryBatch) (f : RunState σ π) :
    Alone (d.act token c) (.acquire package b) f
      (f.ended (d.session.writeBatch d.source package c.id b f.progress f.ledger)) := by
  unfold Session.writeBatch
  simp only [Work.on_bind]
  cases hacquire : d.session.acquire.on f.ledger with
  | mk result l =>
      cases result with
      | error e => exact .last (by simp only [Dispatcher.act, hacquire]; rfl)
      | ok u =>
          refine .next (j := .draft ⟨b.package (some package), [], b.advisories⟩)
            (b := { f with ledger := l }) (by simp only [Dispatcher.act, hacquire]) (alone_draft ?_)
          show Continues (d.session.drafts d.source (some package) b) { f with ledger := l } _ _
          cases hdrafts : (d.session.drafts d.source (some package) b).on l with
          | mk result m =>
              cases result with
              | error e =>
                  rw [continues_iff_of_error hdrafts]
                  simp only [hdrafts]
                  rfl
              | ok ds =>
                  rw [continues_iff_of_ok hdrafts]
                  simp only [hdrafts]
                  exact alone_write ds { f with ledger := m }

/-- **A worker alone does what `process` does.** -/
theorem alone_process (d : Dispatcher σ π) (token : ApiToken) (c : Component) (f : RunState σ π) :
    Alone (d.act token c) .request f (d.process token f c) := by
  unfold Dispatcher.process Dispatcher.lookup
  cases hpackage : c.coordinate? with
  | none => exact .last (by simp only [Dispatcher.act, hpackage]; rfl)
  | some package =>
      cases hreply : d.peer.request f.peer (d.requestFor token package) with
      | mk reply peer =>
          cases hbatch : d.batchOf (d.requestFor token package).url reply with
          | error e => exact .last (by simp only [Dispatcher.act, hpackage, hreply, hbatch]; rfl)
          | ok b =>
              cases hempty : b.advisories.isEmpty with
              | true =>
                  exact .last (by simp only [Dispatcher.act, hpackage, hreply, hbatch, hempty]; rfl)
              | false =>
                  refine .next (j := .acquire package b) (b := { f with peer := peer })
                    (by simp only [Dispatcher.act, hpackage, hreply, hbatch, hempty]; rfl) ?_
                  have halone :
                      Alone (d.act token c) (.acquire package b) { f with peer := peer } _ :=
                    alone_acquire package b { f with peer := peer }
                  simp only [hreply, hbatch, hempty]
                  rw [if_neg Bool.false_ne_true]
                  rcases hwrite : d.session.writeBatch d.source package c.id b f.progress f.ledger
                    with ⟨_ | _, progress, l⟩
                  · rw [hwrite] at halone
                    exact halone
                  · rw [hwrite] at halone
                    exact halone

theorem alone_processEntry (d : Dispatcher σ π) (token : ApiToken) (e : Entry)
    (f : RunState σ π) :
    Alone ((d.entryServer token).act e) .request f (d.processEntry token f e) :=
  alone_process { d with peer := .giving e.reply } token e.component f

end Component

/-! ## One after another -/

section Page

variable {α ε κ : Type} {server : Server α ε κ} {process : α → ε → α} {workers : Nat}
  {page queue taken finished : List ε} {before after : List (Worker ε κ)} {a b : α}

theorem PageSteps.take (before : List (Worker ε κ)) {e : ε} {s : PageState ε κ × α}
    (h : PageSteps server s (⟨e :: queue, before ++ .idle :: after, taken, finished⟩, a)) :
    PageSteps server s
      (⟨queue, before ++ .busy e (server.start e) :: after, taken ++ [e], finished⟩, a) :=
  .step h .take

/-- A worker finishes the entry that it has while the others wait. -/
theorem PageSteps.alone (before : List (Worker ε κ)) {e : ε} {k : κ} {s : PageState ε κ × α}
    (h : PageSteps server s (⟨queue, before ++ .busy e k :: after, taken, finished⟩, a))
    (halone : Alone (server.act e) k a b) :
    PageSteps server s (⟨queue, before ++ .idle :: after, taken, finished ++ [e]⟩, b) := by
  induction halone with
  | last hact => exact .step h (.finish hact)
  | next hact _ ih => exact ih (.step h (.act hact))

/-- The first worker serves the whole queue while the others wait. -/
theorem PageSteps.foldl (halone : ∀ e a, Alone (server.act e) (server.start e) a (process a e))
    {s : PageState ε κ × α}
    (h : PageSteps server s (⟨queue, .idle :: after, taken, finished⟩, a)) :
    PageSteps server s
      (⟨[], .idle :: after, taken ++ queue, finished ++ queue⟩, queue.foldl process a) := by
  induction queue generalizing taken finished a with
  | nil =>
      rw [List.append_nil, List.append_nil]
      exact h
  | cons e queue ih =>
      have hfinish := (h.take []).alone [] (halone e a)
      rw [List.append_cons taken, List.append_cons finished]
      exact ih hfinish

/-- When nothing waits and nothing is in hand, all workers leave. -/
theorem PageSteps.pageRun (before : List (Worker ε κ)) (n : Nat) (hgone : ∀ w ∈ before, w = .gone)
    (h : PageSteps server (.start workers page, a)
      (⟨[], before ++ List.replicate n .idle, taken, finished⟩, b)) :
    PageRun server workers page a b := by
  -- on the workers that are still there, where those before them have left
  induction n generalizing before with
  | zero =>
      rw [List.replicate_zero, List.append_nil] at h
      exact ⟨_, h, hgone⟩
  | succ n ih =>
      rw [List.replicate_succ] at h
      have hleave := PageSteps.step h .leave
      rw [List.append_cons] at hleave
      refine ih _ ?_ hleave
      intro w hw
      rcases List.mem_append.mp hw with hold | hlast
      · exact hgone w hold
      · exact List.mem_singleton.mp hlast

/-- One worker can serve a page in its order. -/
theorem pageRun_foldl (halone : ∀ e a, Alone (server.act e) (server.start e) a (process a e))
    (hworkers : 0 < workers) (page : List ε) (a : α) :
    PageRun server workers page a (page.foldl process a) := by
  cases page with
  | nil => exact PageSteps.pageRun [] _ (by simp) .refl
  | cons e page =>
      obtain ⟨n, hn⟩ : ∃ n, min workers (e :: page).length = n + 1 := by
        refine Nat.exists_eq_add_one.mpr ?_
        rw [List.length_cons]
        omega
      have hstart : PageSteps server (.start workers (e :: page), a)
          (⟨e :: page, .idle :: List.replicate n .idle, [], []⟩, a) := by
        unfold PageState.start
        rw [hn, List.replicate_succ]
        exact .refl
      exact PageSteps.pageRun [] (n + 1) (by simp) (hstart.foldl halone)

/-- Two workers with an entry each can finish in the other order too. -/
theorem pageRun_swap (halone : ∀ e a, Alone (server.act e) (server.start e) a (process a e))
    (hworkers : 2 ≤ workers) (e e' : ε) (a : α) :
    PageRun server workers [e, e'] a (process (process a e') e) := by
  have hstart : PageSteps server (.start workers [e, e'], a)
      (⟨[e, e'], [.idle, .idle], [], []⟩, a) := by
    unfold PageState.start
    rw [show min workers [e, e'].length = 2 from Nat.min_eq_right hworkers]
    exact .refl
  have hboth := (hstart.take []).take [.busy e (server.start e)]
  have hlast := hboth.alone [.busy e (server.start e)] (halone e' a)
  exact PageSteps.pageRun [] 2 (by simp) (hlast.alone [] (halone e (process a e')))

theorem pagesRun_foldl (halone : ∀ e a, Alone (server.act e) (server.start e) a (process a e))
    (hworkers : 0 < workers) (pages : List (List ε)) (a : α) :
    PagesRun server workers pages a (pages.foldl (fun a page => page.foldl process a) a) := by
  induction pages generalizing a with
  | nil => exact .nil
  | cons page pages ih => exact .cons (pageRun_foldl halone hworkers page a) (ih _)

end Page

/-- What runs one component after another is what the workers may come to. -/
theorem Dispatcher.dispatchRun_dispatch {σ π : Type} (d : Dispatcher σ π) (token : ApiToken)
    (components : List Component) (f : RunState σ π) :
    d.DispatchRun token components f (d.dispatch token components f) :=
  pagesRun_foldl (fun c f => alone_process d token c f) d.workers_pos _ f

end AdvisoryLedger
