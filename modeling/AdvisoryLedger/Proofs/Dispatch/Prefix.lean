import Mathlib.Data.List.Forall2
import AdvisoryLedger.Dispatch.CallLog

/-!
# What is left of a batch that fails

A batch can fail at any call of its session. What it leaves is read off the calls that it
made: nothing is written before all advisories became drafts, drafts are written in their
order, the first call with a failure that ends the batch is the last one, and the events, the
count and the attachments are those of the records that were stored up to there.

All of it holds for every session, that is for every way in which a store may answer. The
logged session tells the calls; that logging changes nothing else is part of each statement.
-/

namespace AdvisoryLedger

variable {σ α β : Type}

/-! ## Reading -/

namespace Work

theorem exists_of_on_bind {w : Work σ α} {k : α → Work σ β} {s t : σ} {b : β}
    (h : (w >>= k).on s = (.ok b, t)) :
    ∃ a u, w.on s = (.ok a, u) ∧ (k a).on u = (.ok b, t) := by
  rw [on_bind] at h
  rcases hw : w.on s with ⟨e | a, u⟩
  · rw [hw] at h
    cases h
  · rw [hw] at h
    exact ⟨a, u, rfl, h⟩

/-- Taking a step for each of some things gives an answer for each. -/
theorem forall₂_of_mapM_on {f : α → Work σ β} {P : α → β → Prop}
    (hf : ∀ a s b t, (f a).on s = (.ok b, t) → P a b) {xs : List α} {ys : List β} {s t : σ}
    (h : (xs.mapM f).on s = (.ok ys, t)) : List.Forall₂ P xs ys := by
  induction xs generalizing ys s with
  | nil =>
      cases h
      exact .nil
  | cons x xs ih =>
      rw [List.mapM_cons] at h
      obtain ⟨y, u, hx, h⟩ := exists_of_on_bind h
      obtain ⟨ys', u', hxs, h⟩ := exists_of_on_bind h
      cases h
      exact .cons (hf x s y u hx) (ih hxs)

/-- The second operation is the first one beside a log that only reading calls are added to. -/
def LogsReading (w : Work σ α) (w' : Work (σ × List Call) α) : Prop :=
  ∀ state calls, ∃ more, (∀ c ∈ more, c.isReading = true) ∧
    w'.on (state, calls) = ((w.on state).1, (w.on state).2, calls ++ more)

namespace LogsReading

theorem pure (a : α) : LogsReading (Pure.pure a : Work σ α) (Pure.pure a) := by
  intro state calls
  refine ⟨[], by simp, ?_⟩
  rw [List.append_nil]
  rfl

theorem noted {note : Except Failure α → Call} (h : ∀ answer, (note answer).isReading = true)
    (w : Work σ α) : LogsReading w (w.noted note) := by
  intro state calls
  refine ⟨[note (w.on state).1], ?_, rfl⟩
  intro c hc
  rw [List.mem_singleton.mp hc]
  exact h _

theorem bind {w : Work σ α} {w' : Work (σ × List Call) α} {k : α → Work σ β}
    {k' : α → Work (σ × List Call) β} (h : LogsReading w w')
    (hk : ∀ a, LogsReading (k a) (k' a)) : LogsReading (w >>= k) (w' >>= k') := by
  intro state calls
  obtain ⟨more, hmore, hw⟩ := h state calls
  rw [on_bind, on_bind, hw]
  rcases w.on state with ⟨e | a, t⟩
  · exact ⟨more, hmore, rfl⟩
  · obtain ⟨more', hmore', hk⟩ := hk a t (calls ++ more)
    refine ⟨more ++ more', ?_, ?_⟩
    · intro c hc
      exact (List.mem_append.mp hc).elim (hmore c) (hmore' c)
    · rw [← List.append_assoc]
      exact hk

theorem mapM {f : α → Work σ β} {f' : α → Work (σ × List Call) β}
    (h : ∀ a, LogsReading (f a) (f' a)) (xs : List α) :
    LogsReading (xs.mapM f) (xs.mapM f') := by
  induction xs with
  | nil => exact pure []
  | cons x xs ih =>
      rw [List.mapM_cons, List.mapM_cons]
      exact bind (h x) fun y => bind ih fun ys => pure (y :: ys)

end LogsReading
end Work

namespace Session

open Work

theorem logsReading_settlePredicate (s : Session σ) (p : Predicate) :
    LogsReading (s.settlePredicate p) (s.logged.settlePredicate p) :=
  .bind (.noted (fun _ => rfl) _) fun _ => .pure _

theorem logsReading_draft (s : Session σ) (source : Source) (package : Option Coordinate)
    (a : Advisory) :
    LogsReading (s.draft source package a) (s.logged.draft source package a) := by
  -- the state is read on both sides, but it is a different one
  intro state calls
  exact LogsReading.bind (.mapM (logsReading_settlePredicate s) _) (fun _ => .pure _) state calls

/-- Making drafts only reads, after the session was acquired. -/
theorem logsReading_drafts (s : Session σ) (source : Source) (package : Option Coordinate)
    (b : AdvisoryBatch) :
    LogsReading (s.acquire >>= fun _ => s.drafts source package b)
      (s.logged.acquire >>= fun _ => s.logged.drafts source package b) :=
  .bind (.noted (fun _ => rfl) _) fun _ => .mapM (logsReading_draft s source _) _

end Session

/-! ## Writing -/

namespace Call

/-- A log without a failure that ends a batch. -/
theorem stop?_eq_none_of_outcome {calls : List Call} (h : outcome calls = .ok ())
    (hdrop : ∀ c ∈ calls.dropLast, c.stop? = none) : ∀ c ∈ calls, c.stop? = none := by
  intro c hc
  rcases List.eq_nil_or_concat calls with rfl | ⟨front, last, rfl⟩
  · cases hc
  · rw [List.concat_eq_append] at *
    rw [List.dropLast_concat] at hdrop
    rcases List.mem_append.mp hc with hfront | hlast
    · exact hdrop c hfront
    · rw [List.mem_singleton.mp hlast]
      cases hstop : last.stop? with
      | none => rfl
      | some e => simp [outcome, hstop] at h

theorem outcome_append {calls calls' : List Call} (h : outcome calls = .ok ()) :
    outcome (calls ++ calls') = outcome calls' := by
  cases hlast : calls'.getLast? with
  | none =>
      rw [List.getLast?_eq_none_iff.mp hlast, List.append_nil, h]
      rfl
  | some last =>
      unfold outcome
      rw [List.getLast?_append, hlast]
      rfl

end Call

/-- The calls that wrote drafts for a component, and what they left. -/
structure WrotePrefix (component : String) (drafts : List Draft) (calls : List Call)
    (before after : Progress) (result : Except Failure Unit) : Prop where
  writing : ∀ c ∈ calls, c.isReading = false
  /-- The drafts are taken in their order. -/
  ordered : calls.filterMap Call.draft? <+: drafts
  /-- The first call with a failure that ends a batch is the last one. -/
  goesOn : ∀ c ∈ calls.dropLast, c.stop? = none
  result_eq : result = Call.outcome calls
  /-- No draft is left out but for such a failure. -/
  complete : result = .ok () → calls.filterMap Call.draft? = drafts
  /-- Each stored record is told once, in the order of storing. -/
  told : ∃ events, after.events = before.events ++ events ∧
    List.Forall₂ (fun v e => IndexEvent.commit? v = some e) (calls.filterMap Call.stored?) events
  counted : after.synchronized = before.synchronized + (calls.filterMap Call.stored?).length
  /-- Each stored record is attached to the component once, and nothing else is. -/
  attached : calls.filterMap Call.attachment?
    = (calls.filterMap Call.stored?).map fun v => (v, component)
  /-- It is attached before the next draft is taken. -/
  atOnce : ∀ front d v rest, calls = front ++ .synchronize d (.ok v) :: rest →
    ∃ answer rest', rest = .attach v component answer :: rest'

namespace WrotePrefix

variable {component : String} {d : Draft} {ds ds' : List Draft} {calls calls' : List Call}
  {v : Vulnerability} {event : IndexEvent} {before between after : Progress}
  {result : Except Failure Unit}

theorem nil (before : Progress) : WrotePrefix component [] [] before before (.ok ()) where
  writing := by simp
  ordered := by simp
  goesOn := by simp
  result_eq := rfl
  complete := by simp
  told := ⟨[], by simp⟩
  counted := rfl
  attached := rfl
  atOnce := by simp

/-- After some drafts without a failure come others. -/
theorem append (h : WrotePrefix component ds calls before between (.ok ()))
    (h' : WrotePrefix component ds' calls' between after result) :
    WrotePrefix component (ds ++ ds') (calls ++ calls') before after result where
  writing := by
    intro c hc
    exact (List.mem_append.mp hc).elim (h.writing c) (h'.writing c)
  ordered := by
    rw [List.filterMap_append, h.complete rfl, List.prefix_append_right_inj]
    exact h'.ordered
  goesOn := by
    have hfirst := Call.stop?_eq_none_of_outcome h.result_eq.symm h.goesOn
    intro c hc
    cases calls' with
    | nil =>
        rw [List.append_nil] at hc
        exact h.goesOn c hc
    | cons c' calls' =>
        rw [List.dropLast_append_cons] at hc
        exact (List.mem_append.mp hc).elim (hfirst c) (h'.goesOn c)
  result_eq := h'.result_eq.trans (Call.outcome_append h.result_eq.symm).symm
  complete := by
    intro hok
    rw [List.filterMap_append, h.complete rfl, h'.complete hok]
  told := by
    obtain ⟨events, heq, htold⟩ := h.told
    obtain ⟨events', heq', htold'⟩ := h'.told
    refine ⟨events ++ events', ?_, ?_⟩
    · rw [heq', heq, List.append_assoc]
    · rw [List.filterMap_append]
      exact List.rel_append htold htold'
  counted := by
    rw [h'.counted, h.counted, List.filterMap_append, List.length_append, Nat.add_assoc]
  attached := by
    rw [List.filterMap_append, List.filterMap_append, List.map_append, h.attached, h'.attached]
  atOnce := by
    intro front d v rest heq
    rcases List.append_eq_append_iff.mp heq with ⟨more, rfl, hrest⟩ | ⟨more, hcalls, hrest⟩
    · exact h'.atOnce more d v rest hrest
    · cases more with
      | nil => exact h'.atOnce [] d v rest hrest.symm
      | cons c more =>
          obtain ⟨rfl, rfl⟩ := List.cons.inj hrest
          obtain ⟨answer, rest', rfl⟩ := h.atOnce front d v more hcalls
          exact ⟨answer, rest' ++ calls', rfl⟩

/-! ### One draft -/

/-- A draft that cannot be stored for what it is. -/
theorem skip (d : Draft) (fault : PayloadFault) (before : Progress) :
    WrotePrefix component [d] [.synchronize d (.error (.payload fault))] before before
      (.ok ()) where
  writing := by simp [Call.isReading]
  ordered := by simp [Call.draft?]
  goesOn := by simp
  result_eq := rfl
  complete := by simp [Call.draft?]
  told := ⟨[], by simp [Call.stored?]⟩
  counted := rfl
  attached := rfl
  atOnce := by simp [List.cons_eq_append_iff]

/-- A draft that could not be written for another reason. -/
theorem refused (d : Draft) {e : Failure} (h : ∀ fault, e ≠ .payload fault)
    (before : Progress) :
    WrotePrefix component [d] [.synchronize d (.error e)] before before (.error e) where
  writing := by simp [Call.isReading]
  ordered := by simp [Call.draft?]
  goesOn := by simp
  result_eq := by
    cases e with
    | payload fault => exact absurd rfl (h fault)
    | _ => rfl
  complete := by simp
  told := ⟨[], by simp [Call.stored?]⟩
  counted := rfl
  attached := rfl
  atOnce := by simp [List.cons_eq_append_iff]

/-- A draft that was stored, whether or not it could be attached then. -/
theorem stored (component : String) (d : Draft) (htold : IndexEvent.commit? v = some event)
    (answer : Except Failure Bool) (before : Progress) :
    WrotePrefix component [d] [.synchronize d (.ok v), .attach v component answer] before
      (before.record v) (answer.map fun _ => ()) where
  writing := by simp [Call.isReading]
  ordered := by simp [Call.draft?]
  goesOn := by simp [Call.stop?]
  result_eq := by cases answer <;> rfl
  complete := by simp [Call.draft?]
  told := ⟨[event], by simp [Progress.record, htold], by simp [Call.stored?, htold]⟩
  counted := rfl
  attached := rfl
  atOnce := by
    intro front d' v' rest heq
    cases front with
    | nil =>
        cases heq
        exact ⟨answer, [], rfl⟩
    | cons c front => simp [List.cons_eq_append_iff] at heq

/-- A failure leaves the later drafts alone. -/
theorem of_error {e : Failure} (h : WrotePrefix component ds calls before after (.error e))
    (ds' : List Draft) : WrotePrefix component (ds ++ ds') calls before after (.error e) :=
  { h with
    ordered := h.ordered.trans (List.prefix_append ds ds')
    complete := nofun }

end WrotePrefix

namespace Session

/-- A session that gives what it stores an identifier. -/
def Identifies (s : Session σ) : Prop :=
  ∀ d state v state', (s.synchronize d).on state = (.ok v, state') → v.vulnId.isSome = true

theorem exists_writeDrafts_logged (s : Session σ) (hid : s.Identifies) (component : String)
    (ds : List Draft) (progress : Progress) (state : σ) (calls : List Call) :
    ∃ result after state' more,
      s.writeDrafts component ds progress state = (result, after, state') ∧
      s.logged.writeDrafts component ds progress (state, calls)
        = (result, after, state', calls ++ more) ∧
      WrotePrefix component ds more progress after result := by
  induction ds generalizing progress state calls with
  | nil => exact ⟨.ok (), progress, state, [], rfl, by rw [List.append_nil]; rfl, .nil progress⟩
  | cons d ds ih =>
      obtain ⟨answer, t, hsync⟩ : ∃ answer t, (s.synchronize d).on state = (answer, t) :=
        ⟨_, _, rfl⟩
      have hsync' : (s.logged.synchronize d).on (state, calls)
          = (answer, t, calls ++ [.synchronize d answer]) := Work.noted_on hsync calls
      cases answer with
      | error e =>
          by_cases hfault : ∃ fault, e = .payload fault
          · obtain ⟨fault, rfl⟩ := hfault
            obtain ⟨result, after, state', more, hrun, hrun', hmore⟩ :=
              ih progress t (calls ++ [.synchronize d (.error (.payload fault))])
            refine ⟨result, after, state', [_] ++ more, ?_, ?_,
              (WrotePrefix.skip d fault _).append hmore⟩
            · rw [writeDrafts_skip hsync, hrun]
            · rw [writeDrafts_skip hsync', hrun', List.append_assoc]
          · have he : ∀ fault, e ≠ .payload fault := fun fault heq => hfault ⟨fault, heq⟩
            exact ⟨.error e, progress, t, _, writeDrafts_refused hsync he,
              writeDrafts_refused hsync' he, (WrotePrefix.refused d he progress).of_error ds⟩
      | ok v =>
          obtain ⟨answer, u, hattach⟩ : ∃ answer u, (s.attach v component).on t = (answer, u) :=
            ⟨_, _, rfl⟩
          have hattach' : (s.logged.attach v component).on (t, calls ++ [.synchronize d (.ok v)])
              = (answer, u, calls ++ [.synchronize d (.ok v)] ++ [.attach v component answer]) :=
            Work.noted_on hattach _
          obtain ⟨vulnId, hvulnId⟩ := Option.isSome_iff_exists.mp (hid d state v t hsync)
          have htold : IndexEvent.commit? v = some ⟨v.source, vulnId⟩ := by
            simp [IndexEvent.commit?, hvulnId]
          have hstored := WrotePrefix.stored component d htold answer progress
          cases answer with
          | error e =>
              refine ⟨.error e, progress.record v, u, _, writeDrafts_unattached hsync hattach, ?_,
                hstored.of_error ds⟩
              rw [writeDrafts_unattached hsync' hattach', List.append_assoc]
              rfl
          | ok known =>
              obtain ⟨result, after, state', more, hrun, hrun', hmore⟩ := ih (progress.record v) u
                (calls ++ [.synchronize d (.ok v)] ++ [.attach v component (.ok known)])
              refine ⟨result, after, state', _ ++ more, ?_, ?_, hstored.append hmore⟩
              · rw [writeDrafts_stored hsync hattach, hrun]
              · rw [writeDrafts_stored hsync' hattach', hrun']
                simp

/-! ### A store that breaks down -/

/-- A session that stores a record under the source and the identifier of its draft. -/
def KeepsKeys (s : Session σ) : Prop :=
  ∀ d state v state', (s.synchronize d).on state = (.ok v, state') →
    ∃ event, IndexEvent.commit? v = some event ∧ IndexEvent.commit? d.record = some event

theorem KeepsKeys.identifies {s : Session σ} (h : s.KeepsKeys) : s.Identifies := by
  intro d state v state' hsync
  obtain ⟨event, hv, -⟩ := h d state v state' hsync
  obtain ⟨vulnId, hvulnId, -⟩ := Option.map_eq_some_iff.mp hv
  rw [hvulnId]
  rfl

theorem keepsKeys_tables (clock : Nat → Instant) : (Ledger.session clock).KeepsKeys := by
  intro d l v l' h
  have hledger : l.synchronize d = (.ok v, l') := h
  unfold Ledger.synchronize at hledger
  split at hledger
  · next v' s hstore =>
    cases hledger
    unfold Store.synchronize at hstore
    split at hstore
    · cases hstore
    · next vulnId hid =>
      obtain ⟨_, -, hstore⟩ := exists_of_bind_eq_ok hstore
      obtain ⟨_, -, hstore⟩ := exists_of_bind_eq_ok hstore
      obtain ⟨_, -, hstore⟩ := exists_of_bind_eq_ok hstore
      obtain ⟨_, -, hstore⟩ := exists_of_bind_eq_ok hstore
      cases hstore
      have hvulnId : d.record.vulnId = some vulnId := (Option.filter_eq_some_iff.mp hid).1
      have hdraft : IndexEvent.commit? d.record = some ⟨d.record.source, vulnId⟩ := by
        rw [IndexEvent.commit?, hvulnId]
        rfl
      exact ⟨_, hdraft, hdraft⟩
  · cases hledger

theorem identifies_tables (clock : Nat → Instant) : (Ledger.session clock).Identifies :=
  (keepsKeys_tables clock).identifies

/-- What a store that breaks down stores before it does, the store stores. -/
theorem synchronize_of_failingAfter {s : Session σ} {operation : SessionOperation} {times : Nat}
    {failure : Failure} {d : Draft} {state t : σ × Nat} {v : Vulnerability}
    (h : ((s.failingAfter operation times failure).synchronize d).on state = (.ok v, t)) :
    ((s.synchronize d).on state.1).1 = .ok v := by
  unfold Session.failingAfter at h
  dsimp only at h
  split at h
  · rw [Work.failingFrom_on] at h
    split at h
    · exact (Prod.mk.inj h).1
    · cases h
  · rw [Work.beside_on] at h
    exact (Prod.mk.inj h).1

/-- A store that breaks down stores nothing without an identifier before it does. -/
theorem Identifies.failingAfter {s : Session σ} (h : s.Identifies)
    (operation : SessionOperation) (times : Nat) (failure : Failure) :
    (s.failingAfter operation times failure).Identifies :=
  fun d _ v _ hsync => h d _ v _ (Prod.ext (synchronize_of_failingAfter hsync) rfl)

/-- A session that stores only what another one stores keeps keys as that one does, whichever
of its calls fail. -/
theorem KeepsKeys.of_answers {τ : Type} {s : Session σ} {s' : Session τ} (h : s.KeepsKeys)
    (hanswers : ∀ d state v state', (s'.synchronize d).on state = (.ok v, state') →
      ∃ t t', (s.synchronize d).on t = (.ok v, t')) : s'.KeepsKeys := by
  intro d state v state' hsync
  obtain ⟨t, t', ht⟩ := hanswers d state v state' hsync
  exact h d t v t' ht

theorem KeepsKeys.failingAfter {s : Session σ} (h : s.KeepsKeys) (operation : SessionOperation)
    (times : Nat) (failure : Failure) : (s.failingAfter operation times failure).KeepsKeys :=
  h.of_answers fun _ _ _ _ hsync => ⟨_, _, Prod.ext (synchronize_of_failingAfter hsync) rfl⟩

/-! ## Whole batches -/

/-- The drafts of a batch are those of its advisories, in their order. -/
theorem forall₂_drafts (s : Session σ) (source : Source) (package : Option Coordinate)
    (b : AdvisoryBatch) {state t : σ} {drafts : List Draft}
    (h : (s.drafts source package b).on state = (.ok drafts, t)) :
    List.Forall₂ (fun a d => ∃ u, d.record = Advisory.vulnerability a source (s.resolve u))
      b.advisories drafts := by
  apply Work.forall₂_of_mapM_on _ h
  intro a u d u' hdraft
  refine ⟨u, ?_⟩
  obtain ⟨_, _, hget, hdraft⟩ := Work.exists_of_on_bind hdraft
  cases hget
  obtain ⟨software, v, -, hdraft⟩ := Work.exists_of_on_bind hdraft
  cases hdraft
  rfl

/-- Whatever the calls of a session answer, a batch writes and tells a prefix of its drafts. -/
theorem writeBatch_prefix (s : Session σ) (hid : s.Identifies) (source : Source)
    (package : Coordinate) (component : String) (b : AdvisoryBatch) (progress : Progress)
    (state : σ) :
    ∃ result after state' calls,
      s.writeBatch source package component b progress state = (result, after, state') ∧
      s.logged.writeBatch source package component b progress (state, [])
        = (result, after, state', calls) ∧
      match (s.acquire >>= fun _ => s.drafts source (some package) b).on state with
      | (.error e, _) =>
        result = .error e ∧ after = progress ∧ ∀ c ∈ calls, c.isReading = true
      | (.ok drafts, _) =>
        List.Forall₂ (fun a d => ∃ t, d.record = Advisory.vulnerability a source (s.resolve t))
          b.advisories drafts ∧
        ∃ reading writing, calls = reading ++ writing ∧ (∀ c ∈ reading, c.isReading = true) ∧
          WrotePrefix component drafts writing progress after result := by
  obtain ⟨reading, hreading, hlogged⟩ :=
    logsReading_drafts s source (some package) b state []
  unfold writeBatch
  dsimp only
  rw [hlogged]
  rcases hdrafts : (s.acquire >>= fun _ => s.drafts source (some package) b).on state
    with ⟨e | drafts, t⟩
  · exact ⟨.error e, progress, t, reading, rfl, rfl, rfl, rfl, hreading⟩
  · obtain ⟨result, after, state', writing, hrun, hrun', hwriting⟩ :=
      exists_writeDrafts_logged s hid component drafts progress t reading
    obtain ⟨_, u, -, hdrafts⟩ := Work.exists_of_on_bind hdrafts
    exact ⟨result, after, state', reading ++ writing, hrun, hrun',
      forall₂_drafts s source (some package) b hdrafts, reading, writing, rfl, hreading, hwriting⟩

/-- Two advisories that only have an identifier. -/
def sampleBatch : AdvisoryBatch :=
  { packageUrl := none
    advisories := ["A", "B"].map fun id =>
      ⟨some id, none, none, none, none, none, [], [], none, []⟩ }

/-- The tables, under a clock that stands still. -/
def stillTables : Session Ledger := Ledger.session fun _ => (Instant.ofEpoch? 0 0).get (by decide)

/-- The same tables, where a second draft cannot be written. -/
def brokenTables : Session (Ledger × Nat) := stillTables.failingAfter .synchronize 1 .store

/-- The advisory before the breakdown is written and told, the one after it is not. -/
theorem writeBatch_prefix_brokenTables :
    ∃ drafts state' reading writing,
      brokenTables.logged.writeBatch .snyk ⟨"npm", none, "left-pad", some "1.0.0"⟩ "c" sampleBatch
          .none ((.empty, 0), [])
        = (.error .store, ⟨[⟨.snyk, "A"⟩], 1⟩, state', reading ++ writing) ∧
      WrotePrefix "c" drafts writing .none ⟨[⟨.snyk, "A"⟩], 1⟩ (.error .store) := by
  have hid : brokenTables.Identifies := (identifies_tables _).failingAfter .synchronize 1 .store
  obtain ⟨result, after, state', calls, hrun, hlogged, hcalls⟩ := writeBatch_prefix brokenTables
    hid .snyk ⟨"npm", none, "left-pad", some "1.0.0"⟩ "c" sampleBatch .none (.empty, 0)
  have hresult : result = .error .store :=
    (congrArg (·.1) hrun).symm.trans (by decide +kernel)
  have hafter : after = ⟨[⟨.snyk, "A"⟩], 1⟩ :=
    (congrArg (·.2.1) hrun).symm.trans (by decide +kernel)
  subst hresult hafter
  split at hcalls
  · cases hcalls.2.1
  · next drafts _ _ =>
    obtain ⟨-, reading, writing, rfl, -, hwriting⟩ := hcalls
    exact ⟨drafts, state', reading, writing, hlogged, hwriting⟩

end Session
end AdvisoryLedger
