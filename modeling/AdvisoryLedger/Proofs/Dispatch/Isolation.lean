import AdvisoryLedger.Proofs.Dispatch.Independence
import AdvisoryLedger.Proofs.Dispatch.Turns

/-!
# One entry does not get in the way of the others

Two runs begin with the same store and have the same entries, except that one entry gets
another reply, which may be none, or one that cannot be read. The other entries take turns in
the same order in both runs.

Then the runs stay alike in what concerns the others: `Alike` says that the same is left to be
done for each of them and that the same was written, told and attached for them, in the same
order. A turn of another entry in both runs keeps that, and so does a turn of the one entry in
either run, however many it takes (`Parallel`). What can be read of the others at the end
follows from what was written for them, apart from the rows of predicates, of which the one
entry may have stored some first.

Orders of turns are all that workers and pages can come to (`EntriesRun.exists_takeTurns`).
-/

namespace AdvisoryLedger

/-! ## Orders that differ in one place -/

section Relation

variable {α β : Type} {R : α → β → Prop} {step : α → Nat → α} {step' : β → Nat → β} {place : Nat}

/-- Turns that are taken on the right only. -/
theorem rel_foldl_right (hright : ∀ a b, R a b → R a (step' b place)) {order : List Nat}
    (horder : ∀ i ∈ order, i = place) {a : α} {b : β} (h : R a b) : R a (order.foldl step' b) := by
  induction order generalizing b with
  | nil => exact h
  | cons i order ih =>
      obtain rfl := horder i (List.mem_cons_self ..)
      exact ih (fun j hj => horder j (List.mem_cons_of_mem _ hj)) (hright a b h)

/-- A relation that common turns keep, and turns of one place on either side, is kept by orders
that differ in the turns of that place only. -/
theorem rel_foldl (hboth : ∀ i a b, i ≠ place → R a b → R (step a i) (step' b i))
    (hleft : ∀ a b, R a b → R (step a place) b) (hright : ∀ a b, R a b → R a (step' b place))
    {order order' : List Nat} (horder : order.filter (· ≠ place) = order'.filter (· ≠ place))
    {a : α} {b : β} (h : R a b) : R (order.foldl step a) (order'.foldl step' b) := by
  induction order generalizing order' a b with
  | nil =>
      refine rel_foldl_right hright ?_ h
      simpa using horder.symm
  | cons i order ih =>
      by_cases hi : i = place
      · subst hi
        exact ih (by simpa using horder) (hleft a b h)
      · rw [List.filter_cons_of_pos (by simpa using hi)] at horder
        obtain ⟨front, rest, rfl, hfront, -, hrest⟩ := List.filter_eq_cons_iff.mp horder.symm
        rw [List.foldl_append]
        refine ih hrest.symm (hboth i _ _ hi (rel_foldl_right hright ?_ h))
        simpa using hfront

end Relation

namespace Dispatcher

variable {π : Type} {d d' : Dispatcher Ledger π} {token : ApiToken} {entries entries' : List Entry}
  {f f' : RunState Ledger π} {t t' : Turns Ledger π} {y y' : Tally} {sh sh' : Share} {place : Nat}
  {component : String}

/-! ## Runs that are alike -/

/-- An entry, and what is left to be done for it. -/
def view (d : Dispatcher Ledger π) (token : ApiToken) (s₀ : Store) (sh : Share) :
    Entry × List Deed :=
  (sh.entry, d.upcoming token s₀ sh)

/-- What was done for other components. -/
def others (component : String) (xs : List (String × Draft)) : List (String × Draft) :=
  xs.filter (·.1 ≠ component)

/-- Two tallies do not differ but for the entry at one place and its component. -/
structure Alike (view view' : Share → Entry × List Deed) (place : Nat) (component : String)
    (y y' : Tally) : Prop where
  views : ∀ i, i ≠ place → y.shares[i]?.map view = y'.shares[i]?.map view'
  written : others component y.written = others component y'.written
  told : others component y.told = others component y'.told
  attached : others component y.attached = others component y'.attached
  owner : ∀ sh ∈ y.shares[place]?, sh.entry.component.id = component
  owner' : ∀ sh ∈ y'.shares[place]?, sh.entry.component.id = component

theorem Alike.symm {view view' : Share → Entry × List Deed}
    (h : Alike view view' place component y y') : Alike view' view place component y' y where
  views := fun i hi => (h.views i hi).symm
  written := h.written.symm
  told := h.told.symm
  attached := h.attached.symm
  owner := h.owner'
  owner' := h.owner

theorem others_append (component : String) (xs ys : List (String × Draft)) :
    others component (xs ++ ys) = others component xs ++ others component ys :=
  List.filter_append ..

/-- The same deed for the same entry keeps tallies alike. -/
theorem Alike.add {view view' : Share → Entry × List Deed}
    (h : Alike view view' place component y y') {i : Nat} (hi : i ≠ place) (deed : Deed)
    (hentry : sh.entry = sh'.entry) (hview : view sh = view' sh') :
    Alike view view' place component (y.add i sh deed) (y'.add i sh' deed) where
  views := by
    intro j hj
    unfold Tally.add
    by_cases hij : i = j
    · subst hij
      have hsame := congrArg (Option.map fun _ => view sh) (h.views i hj)
      rw [List.getElem?_set_self', List.getElem?_set_self']
      rw [Option.map_map, Option.map_map] at hsame
      simpa [Function.comp_def, hview] using hsame
    · rw [List.getElem?_set_ne hij, List.getElem?_set_ne hij]
      exact h.views j hj
  written := by
    rw [Tally.add, Tally.add, others_append, others_append, h.written, hentry]
  told := by
    rw [Tally.add, Tally.add, others_append, others_append, h.told, hentry]
  attached := by
    rw [Tally.add, Tally.add, others_append, others_append, h.attached, hentry]
  owner := by
    rw [Tally.add, List.getElem?_set_ne hi]
    exact h.owner
  owner' := by
    rw [Tally.add, List.getElem?_set_ne hi]
    exact h.owner'

/-- A deed for the one entry keeps them alike. -/
theorem Alike.add_left {view view' : Share → Entry × List Deed}
    (h : Alike view view' place component y y') (deed : Deed)
    (hcomponent : sh.entry.component.id = component) :
    Alike view view' place component (y.add place sh deed) y' where
  views := by
    intro j hj
    unfold Tally.add
    rw [List.getElem?_set_ne hj.symm]
    exact h.views j hj
  written := by
    rw [Tally.add, others_append, h.written, hcomponent]
    cases deed <;> simp [Deed.written, others]
  told := by
    rw [Tally.add, others_append, h.told, hcomponent]
    cases deed <;> simp [Deed.told, others]
  attached := by
    rw [Tally.add, others_append, h.attached, hcomponent]
    cases deed <;> simp [Deed.attached, others]
  owner := by
    intro x hx
    rw [Tally.add, List.getElem?_set_self'] at hx
    obtain ⟨_, -, rfl⟩ := Option.map_eq_some_iff.mp hx
    exact hcomponent
  owner' := h.owner'

/-- What a run needs to be accounted for. -/
structure Sound (d : Dispatcher Ledger π) (token : ApiToken) (entries : List Entry)
    (f : RunState Ledger π) : Prop where
  session : ∃ clock, d.session = Ledger.session clock
  wellFormed : f.ledger.store.WellFormed
  unseparated : ∀ e ∈ entries, d.isUnseparated token e = true

/-- Two runs in turns that do not differ but for the entry at one place. -/
structure Parallel (d d' : Dispatcher Ledger π) (token : ApiToken) (entries entries' : List Entry)
    (f f' : RunState Ledger π) (place : Nat) (component : String) (t t' : Turns Ledger π) :
    Prop where
  tallies : ∃ y y', d.Tracks token entries f y t ∧ d'.Tracks token entries' f' y' t' ∧
    Alike (d.view token f.ledger.store) (d'.view token f'.ledger.store) place component y y'
  counted : t.counted.filter (·.1 ≠ place) = t'.counted.filter (·.1 ≠ place)

theorem Parallel.symm
    (h : Parallel d d' token entries entries' f f' place component t t') :
    Parallel d' d token entries' entries f' f place component t' t where
  tallies := by
    obtain ⟨y, y', h, h', halike⟩ := h.tallies
    exact ⟨y', y, h', h, halike.symm⟩
  counted := h.counted.symm

/-- A turn of the one entry. -/
theorem Parallel.turn_left (hs : Sound d token entries f)
    (h : Parallel d d' token entries entries' f f' place component t t') :
    Parallel d d' token entries entries' f f' place component (d.turn token t place) t' := by
  obtain ⟨⟨y, y', htracks, htracks', halike⟩, hcounted⟩ := h
  obtain ⟨clock, hd⟩ := hs.session
  by_cases hdone : ∀ sh ∈ y.shares[place]?, sh.task = none
  · rw [htracks.turn_of_finished hdone]
    exact ⟨⟨y, y', htracks, htracks', halike⟩, hcounted⟩
  · push Not at hdone
    obtain ⟨sh, hsh, htask⟩ := hdone
    obtain ⟨k, hk⟩ := Option.ne_none_iff_exists'.mp htask
    obtain ⟨deed, next, hentry, -, hnext, hcount⟩ :=
      htracks.turn hd hs.wellFormed hs.unseparated hsh hk
    refine ⟨⟨_, y', hnext, htracks', halike.add_left deed ?_⟩, ?_⟩
    · rw [hentry]
      exact halike.owner sh hsh
    · rw [hcount, List.filter_append, hcounted]
      split <;> simp

/-- A turn of another entry, in both runs. -/
theorem Parallel.turn (hs : Sound d token entries f) (hs' : Sound d' token entries' f')
    (hfound : d'.found? token = d.found? token)
    (h : Parallel d d' token entries entries' f f' place component t t') {i : Nat}
    (hi : i ≠ place) :
    Parallel d d' token entries entries' f f' place component (d.turn token t i)
      (d'.turn token t' i) := by
  obtain ⟨⟨y, y', htracks, htracks', halike⟩, hcounted⟩ := h
  obtain ⟨clock, hd⟩ := hs.session
  obtain ⟨clock', hd'⟩ := hs'.session
  have hview := halike.views i hi
  cases hsh : y.shares[i]? with
  | none =>
      -- there is no entry at this place
      have hsh' : y'.shares[i]? = none := by simpa [hsh] using hview.symm
      rw [htracks.turn_of_finished (by simp [hsh]), htracks'.turn_of_finished (by simp [hsh'])]
      exact ⟨⟨y, y', htracks, htracks', halike⟩, hcounted⟩
  | some sh =>
      rw [hsh, Option.map_some] at hview
      obtain ⟨sh', hsh', hsame⟩ := Option.map_eq_some_iff.mp hview.symm
      obtain ⟨hentry, hdeeds⟩ := Prod.mk.inj hsame
      have htasks : sh'.task.isNone = sh.task.isNone := by
        rw [← isEmpty_upcoming d' token f'.ledger.store, ← isEmpty_upcoming d token f.ledger.store,
          hdeeds]
      cases hk : sh.task with
      | none =>
          have hk' : sh'.task = none := by simpa [hk] using htasks
          rw [htracks.turn_of_finished (by simp [hsh, hk]),
            htracks'.turn_of_finished (by simp [hsh', hk'])]
          exact ⟨⟨y, y', htracks, htracks', halike⟩, hcounted⟩
      | some k =>
          obtain ⟨k', hk'⟩ : ∃ k', sh'.task = some k' := by
            rw [hk] at htasks
            exact Option.isNone_eq_false_iff.mp htasks |> Option.isSome_iff_exists.mp
          obtain ⟨deed, next, hnextEntry, hdeed, hnext, hcount⟩ :=
            htracks.turn hd hs.wellFormed hs.unseparated hsh hk
          obtain ⟨deed', next', hnextEntry', hdeed', hnext', hcount'⟩ :=
            htracks'.turn hd' hs'.wellFormed hs'.unseparated hsh' hk'
          -- what is left to be done begins with the same deed in both runs
          rw [hdeeds, hdeed] at hdeed'
          obtain ⟨rfl, hrest⟩ := List.cons.inj hdeed'
          have hentries : next.entry = next'.entry := by rw [hnextEntry, hnextEntry', hentry]
          have hviews : d.view token f.ledger.store next = d'.view token f'.ledger.store next' :=
            Prod.ext hentries hrest
          refine ⟨⟨_, _, hnext, hnext', halike.add hi deed hentries hviews⟩, ?_⟩
          rw [hcount, hcount', List.filter_append, List.filter_append, hcounted, hrest, hfound,
            hentry]

section Orders

variable {before after : List Entry} {e e' : Entry}

/-- The runs are alike before the first turn. -/
theorem Parallel.start (hs : Sound d token (before ++ e :: after) f)
    (hs' : Sound d' token (before ++ e' :: after) f')
    (hview : d'.view token f'.ledger.store = d.view token f.ledger.store)
    (he : e.component.id = component) (he' : e'.component.id = component) :
    Parallel d d' token (before ++ e :: after) (before ++ e' :: after) f f' before.length component
      (.start (before ++ e :: after) f) (.start (before ++ e' :: after) f') where
  tallies := by
    refine ⟨_, _, .start hs.wellFormed, .start hs'.wellFormed, ?_, rfl, rfl, rfl, ?_, ?_⟩
    · intro i hi
      have hset : before ++ e' :: after = (before ++ e :: after).set before.length e' := by simp
      rw [List.getElem?_map, List.getElem?_map, hset, List.getElem?_set_ne hi.symm, hview]
    · simp [Share.first, he]
    · simp [Share.first, he']
  counted := rfl

/-- Orders that differ in the turns of one entry only keep the runs alike. -/
theorem parallel_takeTurns (hs : Sound d token (before ++ e :: after) f)
    (hs' : Sound d' token (before ++ e' :: after) f') (hfound : d'.found? token = d.found? token)
    (hview : d'.view token f'.ledger.store = d.view token f.ledger.store)
    (he : e.component.id = component) (he' : e'.component.id = component) {order order' : List Nat}
    (horder : order.filter (· ≠ before.length) = order'.filter (· ≠ before.length)) :
    Parallel d d' token (before ++ e :: after) (before ++ e' :: after) f f' before.length component
      (d.takeTurns token (before ++ e :: after) order f)
      (d'.takeTurns token (before ++ e' :: after) order' f') :=
  rel_foldl (fun _ _ _ hi h => h.turn hs hs' hfound hi) (fun _ _ h => h.turn_left hs)
    (fun _ _ h => (h.symm.turn_left hs').symm) horder (.start hs hs' hview he he')

end Orders

/-! ## What is alike can be read -/

theorem fst_of_mem_draftsOf {s : Store} {e : Entry} {x : String × Draft}
    (h : x ∈ d.draftsOf token s e) : x.1 = e.component.id := by
  unfold draftsOf at h
  split at h
  · cases h
  · obtain ⟨draft, -, rfl⟩ := List.mem_map.mp h
    rfl

/-- What was written for a component that only one entry has is a draft of that entry. -/
theorem Tracks.mem_identifiers (h : d.Tracks token entries f y t) {c : Entry}
    (hone : ∀ e ∈ entries, e.component.id = c.component.id → e = c) {x : String × Draft}
    (hx : x ∈ y.written) (howner : x.1 = c.component.id) {key : Source × String}
    (hkey : x.2.key? = some key) : key.2 ∈ d.identifiers token c := by
  obtain ⟨e, he, hdraft⟩ := h.accounts.exists_of_mem hx
  obtain rfl := hone e he ((fst_of_mem_draftsOf hdraft).symm.trans howner)
  exact mem_identifiers_of_key? hdraft hkey

/-- The drafts of a key that the one entry does not have are those of the others. -/
theorem Tracks.filter_key (h : d.Tracks token entries f y t) {c : Entry}
    (hone : ∀ e ∈ entries, e.component.id = c.component.id → e = c) {key : Source × String}
    (hkey : key.2 ∉ d.identifiers token c) :
    y.written.filter (·.2.key? == some key)
      = (others c.component.id y.written).filter (·.2.key? == some key) := by
  unfold others
  rw [List.filter_filter]
  apply List.filter_congr
  intro x hx
  cases hmatch : x.2.key? == some key with
  | false => rfl
  | true =>
      have howner : x.1 ≠ c.component.id := fun howner =>
        hkey (h.mem_identifiers hone hx howner (by simpa using hmatch))
      simp [howner]

/-- The events of others, where those of the one component are not asked for. -/
theorem filter_filterMap_event? {component : String} {p : IndexEvent → Bool}
    (xs : List (String × Draft))
    (h : ∀ x ∈ xs, x.1 = component → ∀ event, x.2.event? = some event → p event = false) :
    ((xs.map (·.2)).filterMap Draft.event?).filter p
      = (((others component xs).map (·.2)).filterMap Draft.event?).filter p := by
  induction xs with
  | nil => rfl
  | cons x xs ih =>
      have hxs := ih fun x' hx' => h x' (List.mem_cons_of_mem _ hx')
      by_cases howner : x.1 = component
      · have hothers : others component (x :: xs) = others component xs := by
          simp [others, howner]
        rw [hothers, ← hxs, List.map_cons]
        cases hevent : x.2.event? with
        | none => rw [List.filterMap_cons_none hevent]
        | some event =>
            have hp := h x (List.mem_cons_self ..) howner event hevent
            rw [List.filterMap_cons_some hevent, List.filter_cons_of_neg (by simp [hp])]
      · have hothers : others component (x :: xs) = x :: others component xs := by
          simp [others, howner]
        rw [hothers, List.map_cons, List.map_cons]
        cases hevent : x.2.event? with
        | none => rw [List.filterMap_cons_none hevent, List.filterMap_cons_none hevent, hxs]
        | some event =>
            rw [List.filterMap_cons_some hevent, List.filterMap_cons_some hevent, List.filter_cons,
              List.filter_cons, hxs]

theorem key?_of_event? {draft : Draft} {event : IndexEvent} (h : draft.event? = some event) :
    draft.key? = some (event.source, event.vulnId) := by
  obtain ⟨vulnId, hid, rfl⟩ := Option.map_eq_some_iff.mp h
  rw [Draft.key?, hid]
  rfl

/-- What is told is a draft that was written. -/
theorem Tracks.mem_written_of_mem_told (h : d.Tracks token entries f y t) {x : String × Draft}
    (hx : x ∈ y.told) : x ∈ y.written :=
  h.accounts.told.mem_iff.mp (List.mem_append_left _ hx)

/-- The events of a run, where those of the one entry are not asked for. -/
theorem Tracks.filter_events (h : d.Tracks token entries f y t) {c : Entry}
    (hone : ∀ e ∈ entries, e.component.id = c.component.id → e = c) {p : IndexEvent → Bool}
    (hp : ∀ event, event.vulnId ∈ d.identifiers token c → p event = false) :
    t.run.progress.events.filter p = f.progress.events.filter p
      ++ (((others c.component.id y.told).map (·.2)).filterMap Draft.event?).filter p := by
  rw [h.accounts.progress, ← filter_filterMap_event? y.told]
  · exact List.filter_append ..
  · intro x hx howner event hevent
    exact hp event
      (h.mem_identifiers hone (h.mem_written_of_mem_told hx) howner (key?_of_event? hevent))

/-- The attributions of other components. -/
theorem Tracks.attributes_iff (h : d.Tracks token entries f y t) {component other : String}
    (hother : other ≠ component) (key : Source × String) :
    t.run.ledger.store.Attributes other key ↔ f.ledger.store.Attributes other key ∨
      (other ∈ f.ledger.store.componentIds ∧
        ∃ x ∈ others component y.attached, x.1 = other ∧ x.2.key? = some key) := by
  have hmem : (∃ x ∈ others component y.attached, x.1 = other ∧ x.2.key? = some key) ↔
      ∃ x ∈ y.attached, x.1 = other ∧ x.2.key? = some key := by
    constructor
    · rintro ⟨x, hx, howner, hkey⟩
      exact ⟨x, List.mem_of_mem_filter hx, howner, hkey⟩
    · rintro ⟨x, hx, rfl, hkey⟩
      exact ⟨x, List.mem_filter.mpr ⟨hx, by simpa using hother⟩, rfl, hkey⟩
  rw [hmem]
  exact h.accounts.reached.attributes other key

/-- A run from tables that any history led to. -/
theorem sound_ofTables (settings : AnalyzerSettings) (source : Source) (clock : Nat → Instant)
    (readings : Nat) (peer : Peer π) (state : π) (token : ApiToken) (ops : List Operation)
    (hsep : ∀ e ∈ entries, (ofTables settings source clock peer).isUnseparated token e = true) :
    Sound (ofTables settings source clock peer) token entries
      (.start ⟨Store.empty.after ops, readings⟩ state) where
  session := ⟨clock, rfl⟩
  wellFormed := Store.wellFormed_empty.after ops
  unseparated := hsep

theorem view_ofTables (settings : AnalyzerSettings) (source : Source)
    (clock clock' : Nat → Instant) (peer : Peer π) (token : ApiToken) (s : Store) :
    (ofTables settings source clock peer).view token s
      = (ofTables settings source clock' peer).view token s := by
  funext sh
  unfold view upcoming
  rw [found?_ofTables settings source clock clock', draftsOf_ofTables settings source clock clock']

/-- A component that no other entry has tells the entry. -/
theorem eq_of_component_eq {before after : List Entry} {c : Component} (reply : Option Reply)
    (hcomponent : ∀ e ∈ before ++ after, e.component.id ≠ c.id) :
    ∀ e ∈ before ++ ⟨c, reply⟩ :: after, e.component.id = c.id → e = ⟨c, reply⟩ := by
  intro e he hid
  rcases List.mem_append.mp he with hbefore | hrest
  · exact absurd hid (hcomponent e (List.mem_append_left _ hbefore))
  · rcases List.mem_cons.mp hrest with rfl | hafter
    · rfl
    · exact absurd hid (hcomponent e (List.mem_append_right _ hafter))

/-- **One entry does not get in the way of the others.** Two runs from one store that any history
led to have the same entries but for the reply of one of them, and the other entries take turns in
the same order. Then whatever came of the two replies, the vulnerabilities that are in neither of
them are read the same, apart from rows, their events are told in the same order, every other
component has the same vulnerabilities, and every other entry is counted in the same way, provided
that no other entry has the component of that one, and that packages and ranges do not have the
separator of keys in them. Identifiers that other replies share with the two replies are no
hindrance, since only what is read under them may differ. -/
theorem takeTurns_isolated (settings : AnalyzerSettings) (source : Source)
    (clock clock' : Nat → Instant) (readings readings' : Nat) (peer : Peer π) (state : π)
    (token : ApiToken) (ops : List Operation) (before after : List Entry) (c : Component)
    (reply reply' : Option Reply) (order order' : List Nat)
    (hcomponent : ∀ e ∈ before ++ after, e.component.id ≠ c.id)
    (hsep : ∀ e ∈ before ++ ⟨c, reply⟩ :: after,
      (ofTables settings source clock peer).isUnseparated token e = true)
    (hsep' : ∀ e ∈ before ++ ⟨c, reply'⟩ :: after,
      (ofTables settings source clock peer).isUnseparated token e = true)
    (horder : order.filter (· ≠ before.length) = order'.filter (· ≠ before.length)) :
    let t := (ofTables settings source clock peer).takeTurns token
      (before ++ ⟨c, reply⟩ :: after) order (.start ⟨Store.empty.after ops, readings⟩ state)
    let t' := (ofTables settings source clock' peer).takeTurns token
      (before ++ ⟨c, reply'⟩ :: after) order' (.start ⟨Store.empty.after ops, readings'⟩ state)
    let isOther (id : String) : Bool :=
      id ∉ (ofTables settings source clock peer).identifiers token ⟨c, reply⟩ ∧
        id ∉ (ofTables settings source clock peer).identifiers token ⟨c, reply'⟩
    (∀ source vulnId, isOther vulnId = true →
      (t.run.ledger.store.get? source vulnId).map Vulnerability.withoutRows
        = (t'.run.ledger.store.get? source vulnId).map Vulnerability.withoutRows) ∧
      t.run.progress.events.filter (fun event => isOther event.vulnId)
        = t'.run.progress.events.filter (fun event => isOther event.vulnId) ∧
      (∀ component, component ≠ c.id → ∀ key, t.run.ledger.store.Attributes component key ↔
        t'.run.ledger.store.Attributes component key) ∧
      t.counted.filter (·.1 ≠ before.length) = t'.counted.filter (·.1 ≠ before.length) := by
  intro t t' isOther
  have hsound : Sound (ofTables settings source clock peer) token (before ++ ⟨c, reply⟩ :: after)
      (.start ⟨Store.empty.after ops, readings⟩ state) :=
    sound_ofTables settings source clock readings peer state token ops hsep
  have hsound' : Sound (ofTables settings source clock' peer) token
      (before ++ ⟨c, reply'⟩ :: after) (.start ⟨Store.empty.after ops, readings'⟩ state) := by
    apply sound_ofTables
    rw [isUnseparated_ofTables settings source clock' clock]
    exact hsep'
  obtain ⟨⟨y, y', h, h', halike⟩, hcounted⟩ := parallel_takeTurns hsound hsound'
    (found?_ofTables settings source clock' clock peer token)
    (view_ofTables settings source clock' clock peer token _) rfl rfl horder
  have hone := eq_of_component_eq reply hcomponent
  have hone' := eq_of_component_eq reply' hcomponent
  have hother {id : String} (hid : isOther id = true) :
      id ∉ (ofTables settings source clock peer).identifiers token ⟨c, reply⟩ ∧
        id ∉ (ofTables settings source clock' peer).identifiers token ⟨c, reply'⟩ := by
    rw [identifiers_ofTables settings source clock' clock]
    simpa [isOther] using hid
  refine ⟨?_, ?_, ?_, hcounted⟩
  · intro source' vulnId hid
    apply h.accounts.reached.get?_eq h'.accounts.reached hsound.wellFormed
      (h.accounts.settled hsound.unseparated) (h'.accounts.settled hsound'.unseparated)
    rw [h.filter_key (c := ⟨c, reply⟩) hone (hother hid).1,
      h'.filter_key (c := ⟨c, reply'⟩) hone' (hother hid).2]
    exact congrArg _ halike.written
  · rw [h.filter_events (c := ⟨c, reply⟩) hone, h'.filter_events (c := ⟨c, reply'⟩) hone']
    · have htold : others (Entry.mk c reply).component.id y.told
          = others (Entry.mk c reply').component.id y'.told := halike.told
      rw [htold]
      rfl
    · intro event hevent
      by_contra hid
      exact (hother (by simpa using hid)).2 hevent
    · intro event hevent
      by_contra hid
      exact (hother (by simpa using hid)).1 hevent
  · intro component hne key
    rw [h.attributes_iff hne key, h'.attributes_iff hne key, halike.attached]
    rfl

/-! ### A reply that does not come

The entry in front describes the predicate that the other one has too, and would store it first. -/

/-- A run of two entries, of which the one in front gets the given reply. -/
def sampleTurns (reply : Option Reply) (order : List Nat) : Turns Ledger Unit :=
  (ofTables .default .snyk sampleClock .unreachable).takeTurns sampleToken
    ([] ++ ⟨(sampleEntry "A").component, reply⟩ :: [sampleEntry "B"]) order
    (.start ⟨Store.empty.after [.upsertComponent (sampleEntry "A").component], 0⟩ ())

/-- The entries have their turns one after the other. -/
def sampleOrder : List Nat := (List.replicate 20 [0, 1]).flatten

/-- The entry in front has one turn only. -/
def sampleOrder' : List Nat := 0 :: List.replicate 20 1

theorem sample_isolated :
    (sampleTurns (sampleEntry "A").reply sampleOrder).counted = [(0, true), (1, true)] ∧
      (sampleTurns none sampleOrder').counted = [(0, false), (1, true)] ∧
      ((sampleTurns none sampleOrder').run.ledger.store.get? .snyk "B").isSome = true ∧
      ((sampleTurns (sampleEntry "A").reply sampleOrder).run.ledger.store.get? .snyk "B").map
          Vulnerability.withoutRows
        = ((sampleTurns none sampleOrder').run.ledger.store.get? .snyk "B").map
          Vulnerability.withoutRows := by
  obtain ⟨hread, -, -, -⟩ := takeTurns_isolated .default .snyk sampleClock sampleClock 0 0
    .unreachable () sampleToken [.upsertComponent (sampleEntry "A").component] [] [sampleEntry "B"]
    (sampleEntry "A").component (sampleEntry "A").reply none sampleOrder sampleOrder'
    (by decide +kernel) (by decide +kernel) (by decide +kernel) (by decide +kernel)
  refine ⟨by decide +kernel, by decide +kernel, by decide +kernel, ?_⟩
  unfold sampleTurns
  exact hread .snyk "B" (by decide +kernel)

end Dispatcher
end AdvisoryLedger
