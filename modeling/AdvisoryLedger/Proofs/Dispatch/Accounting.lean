import AdvisoryLedger.Proofs.Dispatch.Alone
import AdvisoryLedger.Proofs.Dispatch.Watched
import Mathlib.Data.List.Nodup

/-!
# The summary accounts for everything

A run counts the components that went well and those that failed, and the records that were
stored. Three counters are kept in different places, so that they agree is a fact about whole
runs, whatever the workers do and wherever the store breaks down. The session may be any one
that stores a record under the key of its draft, as the tables do with whatever pattern of
failures (`Session.KeepsKeys.of_answers`): only then is there an event for each record.

`Tallies` is what holds while workers act: what was written down for each component fits the
place where its worker stands, a component is counted when it is finished and not before, and
every record that was stored is told or in the hand of a worker that is about to tell it. The
places of the components tell their notes apart, so a step for one component leaves the notes
of the others as they are (`Did.notesAt_of_ne`).
-/

namespace AdvisoryLedger

/-- Counting after one element of a list was replaced, where the others count as before. -/
theorem countP_replace {α : Type} (p q : α → Bool) {before after : List α} (x y : α)
    (h : ∀ z, z ∈ before ∨ z ∈ after → q z = p z) :
    (before ++ y :: after).countP q + (p x).toNat
      = (before ++ x :: after).countP p + (q y).toNat := by
  have hbefore : before.countP q = before.countP p :=
    List.countP_congr fun z hz => by rw [h z (.inl hz)]
  have hafter : after.countP q = after.countP p :=
    List.countP_congr fun z hz => by rw [h z (.inr hz)]
  rw [List.countP_append, List.countP_append, List.countP_cons, List.countP_cons, hbefore, hafter]
  cases p x <;> cases q y <;> simp <;> omega

namespace Dispatcher

variable {σ π : Type} {d : Dispatcher σ π} {token : ApiToken}

/-! ## Notes by place -/

/-- What was written down for the component at a place, where `told` are the events that were
told and the places for which. -/
def notesAt (f : WatchState σ π) (told : List (Nat × IndexEvent)) (place : Nat) : Notes :=
  ⟨logAt place f.peer.2, f.callsAt place, logAt place told⟩

section Did

variable {c : Component} {place other : Nat} {k : Task} {n more : Notes} {f : WatchState σ π}
  {r : WatchState σ π × Option Task}

theorem Did.notesAt_self (h : d.Did token c place k n more f r) (told : List (Nat × IndexEvent)) :
    notesAt r.1 (told ++ more.events.map (place, ·)) place
      = (notesAt f told place).append more := by
  simp only [notesAt, RunState.callsAt, h.replies, h.calls, logAt_append, logAt_map_self,
    Notes.append]

/-- A step for one component leaves the notes of the others as they are. -/
theorem Did.notesAt_of_ne (h : d.Did token c place k n more f r) (told : List (Nat × IndexEvent))
    (hne : place ≠ other) :
    notesAt r.1 (told ++ more.events.map (place, ·)) other = notesAt f told other := by
  simp only [notesAt, RunState.callsAt, h.replies, h.calls, logAt_append, logAt_map_of_ne hne,
    List.append_nil]

end Did

/-! ## What holds while workers act -/

/-- A component with its place, and the place where its worker stands. -/
abbrev Job := (Component × Nat) × Option Task

/-- The counts are those of the jobs, and the events that were told are `told`. -/
structure Tallies (d : Dispatcher σ π) (token : ApiToken) (jobs : List Job)
    (told : List (Nat × IndexEvent)) (f : WatchState σ π) : Prop where
  standing : ∀ job ∈ jobs, d.Standing token job.1.1 job.2 (notesAt f told job.1.2)
  fresh : ∀ place, place ∉ jobs.map (·.1.2) → notesAt f told place = ⟨[], [], []⟩
  events : f.progress.events = told.map (·.2)
  synchronized : f.progress.synchronized = told.length
  stored : f.ledger.2.countP (·.2.stored?.isSome) = told.length + jobs.countP (isUntold ·.2)
  processed : f.processed = jobs.countP
    fun job => d.isCounted job.1.1 (notesAt f told job.1.2) job.2 false
  failed : f.failed = jobs.countP
    fun job => d.isCounted job.1.1 (notesAt f told job.1.2) job.2 true

theorem Tallies.start (d : Dispatcher σ π) (token : ApiToken) (ledger : σ) (peer : π) :
    d.Tallies token [] [] (.start (ledger, []) (peer, [])) where
  standing := by simp
  fresh := fun _ _ => rfl
  events := rfl
  synchronized := rfl
  stored := rfl
  processed := rfl
  failed := rfl

section Step

variable {jobs before after : List Job} {told : List (Nat × IndexEvent)} {f : WatchState σ π}
  {e : Component × Nat} {k : Task}

theorem Tallies.take (h : d.Tallies token jobs told f) (hnew : e.2 ∉ jobs.map (·.1.2)) :
    d.Tallies token (jobs ++ [(e, some .request)]) told f where
  standing := by
    intro job hjob
    rcases List.mem_append.mp hjob with hold | hlast
    · exact h.standing job hold
    · rw [List.mem_singleton.mp hlast, h.fresh e.2 hnew]
      exact .request
  fresh := by
    intro place hplace
    apply h.fresh
    intro hmem
    rw [List.map_append] at hplace
    exact hplace (List.mem_append_left _ hmem)
  events := h.events
  synchronized := h.synchronized
  stored := by
    rw [List.countP_append]
    exact h.stored
  processed := by
    rw [List.countP_append]
    exact h.processed
  failed := by
    rw [List.countP_append]
    exact h.failed

/-- The next thing that a worker does for one component. -/
theorem Tallies.act (hkeys : d.session.KeepsKeys)
    (h : d.Tallies token (before ++ (e, some k) :: after) told f)
    (hplaces : ((before ++ (e, some k) :: after).map (·.1.2)).Nodup) :
    ∃ told', d.Tallies token (before ++ (e, ((d.loggedAt e.2).act token e.1 k f).2) :: after) told'
      ((d.loggedAt e.2).act token e.1 k f).1 := by
  have hmem : (e, some k) ∈ before ++ (e, some k) :: after :=
    List.mem_append_right _ (List.mem_cons_self ..)
  obtain ⟨more, hdid⟩ := d.act_spec hkeys (h.standing _ hmem) f
  generalize (d.loggedAt e.2).act token e.1 k f = r at hdid ⊢
  -- the other jobs have other places, so their notes and their verdicts stay
  have hne : ∀ job, job ∈ before ∨ job ∈ after → e.2 ≠ job.1.2 := by
    intro job hjob heq
    rw [List.map_append, List.map_cons, List.nodup_middle, List.nodup_cons] at hplaces
    apply hplaces.1
    rw [heq, ← List.map_append]
    exact List.mem_map_of_mem (List.mem_append.mpr hjob)
  have hself := hdid.notesAt_self told
  have hother : ∀ job, job ∈ before ∨ job ∈ after →
      notesAt r.1 (told ++ more.events.map (e.2, ·)) job.1.2 = notesAt f told job.1.2 :=
    fun job hjob => hdid.notesAt_of_ne told (hne job hjob)
  have hcounted (failed : Bool) : (before ++ (e, r.2) :: after).countP
        (fun job => d.isCounted job.1.1
          (notesAt r.1 (told ++ more.events.map (e.2, ·)) job.1.2) job.2 failed)
      = (before ++ (e, some k) :: after).countP
          (fun job => d.isCounted job.1.1 (notesAt f told job.1.2) job.2 failed)
        + (d.isCounted e.1 ((notesAt f told e.2).append more) r.2 failed).toNat := by
    rw [← hself]
    exact countP_replace
      (fun job : Job => d.isCounted job.1.1 (notesAt f told job.1.2) job.2 failed)
      (fun job => d.isCounted job.1.1
        (notesAt r.1 (told ++ more.events.map (e.2, ·)) job.1.2) job.2 failed)
      (e, some k) (e, r.2) fun job hjob => by simp only [hother job hjob]
  refine ⟨told ++ more.events.map (e.2, ·), ?_⟩
  constructor
  case standing =>
    intro job hjob
    rcases List.mem_append.mp hjob with hbefore | hrest
    · rw [hother job (.inl hbefore)]
      exact h.standing job (List.mem_append_left _ hbefore)
    · rcases List.mem_cons.mp hrest with rfl | hafter
      · rw [hself]
        exact hdid.standing
      · rw [hother job (.inr hafter)]
        exact h.standing job (List.mem_append_right _ (List.mem_cons_of_mem _ hafter))
  case fresh =>
    intro place hplace
    rw [List.map_append, List.map_cons] at hplace
    have hplace' : place ∉ (before ++ (e, some k) :: after).map (·.1.2) := by
      rw [List.map_append, List.map_cons]
      exact hplace
    rw [hdid.notesAt_of_ne told fun heq => hplace (heq ▸ by simp)]
    exact h.fresh place hplace'
  case events =>
    rw [hdid.events, h.events, List.map_append, List.map_map]
    simp [Function.comp_def]
  case synchronized => rw [hdid.synchronized, h.synchronized, List.length_append, List.length_map]
  case stored =>
    have hjobs : (before ++ (e, r.2) :: after).countP (isUntold ·.2) + (isUntold (some k)).toNat
        = (before ++ (e, some k) :: after).countP (isUntold ·.2) + (isUntold r.2).toNat :=
      countP_replace (fun job : Job => isUntold job.2) (fun job => isUntold job.2) (e, some k)
        (e, r.2) fun _ _ => rfl
    have hmore : (more.calls.map (e.2, ·)).countP (·.2.stored?.isSome)
        = more.calls.countP (·.stored?.isSome) := by
      rw [List.countP_map]
      rfl
    have hnew := hdid.stored
    have hold := h.stored
    rw [hdid.calls, List.countP_append, hmore, List.length_append, List.length_map]
    omega
  case processed => rw [hdid.processed, h.processed, hcounted false]
  case failed => rw [hdid.failed, h.failed, hcounted true]

end Step

/-! ## Whole runs -/

theorem tallies_keeps (hkeys : d.session.KeepsKeys) (token : ApiToken)
    (entries : List (Component × Nat)) :
    (d.watchServer token).Keeps entries fun jobs f =>
      (jobs.map (·.1.2)).Nodup → ∃ told, d.Tallies token jobs told f where
  take := by
    intro jobs f e _ h hplaces
    rw [List.map_append, List.nodup_append] at hplaces
    obtain ⟨hold, -, hnew⟩ := hplaces
    obtain ⟨told, htold⟩ := h hold
    exact ⟨told, htold.take fun hmem => hnew e.2 hmem e.2 (List.mem_singleton_self _) rfl⟩
  act := by
    intro before after e k k' f g h hact hplaces
    rw [List.map_append, List.map_cons] at hplaces
    have hplaces' : ((before ++ (e, some k) :: after).map (·.1.2)).Nodup := by
      rw [List.map_append, List.map_cons]
      exact hplaces
    obtain ⟨told, htold⟩ := h hplaces'
    obtain ⟨told', htold'⟩ := htold.act hkeys hplaces'
    have hact' : (d.loggedAt e.2).act token e.1 k f = (g, k') := hact
    rw [hact'] at htold'
    exact ⟨told', htold'⟩

/-- What a run counted and told agrees with what was written down for its components. The list
`told` has the events in the order in which they were told, each with the place of the component
that it is of; the events of one component are those of the records that were stored for it, in
the order of its advisories, whether or not it failed later. -/
structure Account (d : Dispatcher σ π) (token : ApiToken) (components : List Component)
    (w : WatchState σ π) : Prop where
  total : w.processed + w.failed = components.length
  failed : w.failed = components.zipIdx.countP
    fun e => d.fails e.1 (w.replyAt e.2) (w.callsAt e.2)
  stored : w.progress.synchronized = w.ledger.2.countP (·.2.stored?.isSome)
  told : w.progress.synchronized = w.progress.events.length
  ordered : ∃ told : List (Nat × IndexEvent), told.map (·.2) = w.progress.events ∧
    (∀ x ∈ told, x.1 < components.length) ∧
    ∀ e ∈ components.zipIdx, logAt e.2 told = (w.callsAt e.2).filterMap Call.event? ∧
      (logAt e.2 told).Sublist
        ((d.advisoriesOf token e.1 (w.replyAt e.2)).filterMap (Advisory.event? d.source))

theorem mem_logAt {α : Type} {log : List (Nat × α)} {x : Nat × α} (h : x ∈ log) :
    x.2 ∈ logAt x.1 log :=
  List.mem_filterMap.mpr ⟨x, h, if_pos rfl⟩

theorem places_zipIdx (components : List Component) :
    (components.zipIdx.map (·, (none : Option Task))).map (·.1.2)
      = List.range' 0 components.length := by
  rw [List.map_map]
  exact List.zipIdx_map_snd 0 components

/-- When all components are finished the counts are an account of the run. -/
theorem Tallies.account {components : List Component} {told : List (Nat × IndexEvent)}
    {w : WatchState σ π} (h : d.Tallies token (components.zipIdx.map (·, none)) told w) :
    d.Account token components w := by
  have hcount (failed : Bool) :
      (components.zipIdx.map (·, (none : Option Task))).countP
          (fun job => d.isCounted job.1.1 (notesAt w told job.1.2) job.2 failed)
        = components.zipIdx.countP
          (fun e => d.fails e.1 (w.replyAt e.2) (w.callsAt e.2) == failed) := by
    rw [List.countP_map]
    rfl
  have huntold : (components.zipIdx.map (·, (none : Option Task))).countP (isUntold ·.2) = 0 := by
    simp [List.countP_map]
  have hprocessed := h.processed
  have hfailed := h.failed
  have hstored := h.stored
  rw [hcount] at hprocessed hfailed
  simp only [beq_true] at hfailed
  constructor
  case total =>
    have hall := List.length_eq_countP_add_countP (l := components.zipIdx)
      fun e => d.fails e.1 (w.replyAt e.2) (w.callsAt e.2)
    rw [List.length_zipIdx] at hall
    rw [hprocessed, hfailed, hall, Nat.add_comm]
    simp only [beq_false, Bool.not_eq_true, Bool.decide_eq_false]
  case failed => exact hfailed
  case stored => rw [h.synchronized, hstored, huntold, Nat.add_zero]
  case told => rw [h.synchronized, h.events, List.length_map]
  case ordered =>
    refine ⟨told, h.events.symm, ?_, ?_⟩
    · intro x hx
      by_contra hlength
      have hnew : x.1 ∉ (components.zipIdx.map (·, (none : Option Task))).map (·.1.2) := by
        rw [places_zipIdx, List.mem_range'_1]
        omega
      have hnone : logAt x.1 told = [] := congrArg Notes.events (h.fresh x.1 hnew)
      have hmem := mem_logAt hx
      rw [hnone] at hmem
      cases hmem
    · intro e he
      have hstanding := h.standing (e, none) (List.mem_map_of_mem he)
      cases hstanding with
      | finish htold => exact ⟨htold.events, htold.ordered⟩

/-- **The summary accounts for everything.** The runs of a dispatcher are the watched runs
without what was written down, so each run has an account: every component is counted once, as
failed exactly if it `fails`, and as many records are counted and told as were stored. -/
theorem dispatch_account (d : Dispatcher σ π) (hkeys : d.session.KeepsKeys) (token : ApiToken)
    (components : List Component) (ledger : σ) (peer : π) :
    (∀ g, d.DispatchRun token components (.start ledger peer) g ↔
      ∃ w, d.WatchedRun token components ledger peer w ∧ g = w.forget) ∧
    ∀ w, d.WatchedRun token components ledger peer w → d.Account token components w := by
  constructor
  · intro g
    have hwatched : PagesRun (d.server token) d.settings.workers
          ((pages d.settings.pageLength components.zipIdx).map (List.map (·.1)))
          (RunState.forget (.start (ledger, []) (peer, []))) g ↔ _ :=
      pagesRun_iff_of_watches (d.watches_forget token)
    rw [map_pages, List.zipIdx_map_fst] at hwatched
    exact hwatched
  · intro w hrun
    have hall := PagesRun.keeps_pages (tallies_keeps hkeys token components.zipIdx) d.workers_pos
      (fun _ => ⟨[], Tallies.start d token ledger peer⟩) hrun
    obtain ⟨told, htold⟩ := hall (places_zipIdx components ▸ List.nodup_range')
    exact htold.account

/-! ### A component that fails half way -/

/-- A dispatcher whose store breaks down at the second of two advisories. -/
def partialDispatcher : Dispatcher (Ledger × Nat) Unit :=
  let issue (id : String) : String := "\x7b\x22id\x22:\x22" ++ id ++
    "\x22,\x22attributes\x22:\x7b\x22type\x22:\x22package_vulnerability\x22\x7d\x7d"
  { settings := .default
    source := .snyk
    session := Session.brokenTables
    peer := .giving (some ⟨200, Text.utf8
      ("\x7b\x22data\x22:[" ++ issue "A" ++ "," ++ issue "B" ++ "]\x7d")⟩) }

/-- Two components, the second without a usable package URL. -/
def partialComponents : List Component :=
  [⟨"c1", "left-pad", some "pkg:npm/left-pad@1.0.0"⟩, ⟨"c2", "right-pad", some "right-pad"⟩]

/-- Both components count as failed, and the advisory that was stored is counted and told. -/
theorem dispatch_account_partial :
    ∃ w, partialDispatcher.WatchedRun ⟨"t", by decide⟩ partialComponents (.empty, 0) () w ∧
      partialDispatcher.Account ⟨"t", by decide⟩ partialComponents w ∧
      w.forget.summary = ⟨0, 2, 1⟩ ∧ w.forget.progress.events = [⟨.snyk, "A"⟩] := by
  have hkeys : partialDispatcher.session.KeepsKeys :=
    (Session.keepsKeys_tables _).failingAfter .synchronize 1 .store
  obtain ⟨hruns, haccount⟩ := dispatch_account partialDispatcher hkeys ⟨"t", by decide⟩
    partialComponents (.empty, 0) ()
  obtain ⟨w, hw, hforget⟩ := (hruns _).mp (dispatchRun_dispatch ..)
  rw [dispatch_eq_runPage] at hforget
  refine ⟨w, hw, haccount w hw, ?_, ?_⟩
  · rw [← hforget]
    decide +kernel
  · rw [← hforget]
    decide +kernel

end Dispatcher
end AdvisoryLedger
