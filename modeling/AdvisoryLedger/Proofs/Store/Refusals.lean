import AdvisoryLedger.Proofs.Store.Reachable
import AdvisoryLedger.Store.Statements

/-!
# What is refused, and that nothing is left of it

A write is a row of statements, each with the rules of its table to obey, and an attachment asks
two questions before its one statement. `Work.Follows` says that a row of statements comes to
the same as a function from tables to tables, except that it may leave something behind where
it fails. `follows_writing` says it of a write, part by part.

In a store that a history leads to, no part of a write can fail (`synchronize_spec`). So a draft
is refused before its first statement or not at all, and there is nothing to undo.
`attach_cases` is the table of what an attachment comes to.
-/

namespace AdvisoryLedger
namespace Work

variable {σ α β : Type}

/-- The work comes to what a function comes to that goes from state to state, but it may leave
a state behind where it fails. -/
structure Follows (w : Work σ α) (f : σ → Except Failure (α × σ)) : Prop where
  ok : ∀ {s a t}, f s = .ok (a, t) → w.on s = (.ok a, t)
  error : ∀ {s e}, f s = .error e → ∃ t, w.on s = (.error e, t)

theorem follows_pure (a : α) : Follows (pure a : Work σ α) fun s => .ok (a, s) where
  ok h := by cases h; rfl
  error h := by cases h

theorem follows_throw (e : Failure) : Follows (throw e : Work σ α) fun _ => .error e where
  ok h := by cases h
  error {s e'} h := by
    cases h
    exact ⟨s, rfl⟩

theorem statement_on (f : σ → Except Failure (α × σ)) (s : σ) :
    (statement f).on s = match f s with | .ok (a, t) => (.ok a, t) | .error e => (.error e, s) :=
  rfl

theorem follows_statement (f : σ → Except Failure (α × σ)) : Follows (statement f) f where
  ok h := by rw [statement_on, h]
  error {s e} h := ⟨s, by rw [statement_on, h]⟩

theorem follows_change (f : σ → Except Failure σ) :
    Follows (change f) fun s => (f s).map ((), ·) :=
  follows_statement _

theorem Follows.bind {w : Work σ α} {f : σ → Except Failure (α × σ)} {k : α → Work σ β}
    {g : α → σ → Except Failure (β × σ)} (hw : Follows w f) (hk : ∀ a, Follows (k a) (g a)) :
    Follows (w >>= k) fun s => f s >>= fun r => g r.1 r.2 := by
  constructor
  · intro s b u h
    obtain ⟨⟨a, t⟩, hf, hg⟩ := exists_of_bind_eq_ok h
    rw [on_bind, hw.ok hf]
    exact (hk a).ok hg
  · intro s e h
    rw [on_bind]
    cases hf : f s with
    | error e' =>
        obtain ⟨t, ht⟩ := hw.error hf
        rw [hf] at h
        cases h
        exact ⟨t, by rw [ht]⟩
    | ok r =>
        rw [hf] at h
        obtain ⟨u, hu⟩ := (hk r.1).error h
        exact ⟨u, by rw [hw.ok hf, ← hu]⟩

theorem map_unit_bind {ε : Type} (x : Except ε σ) (k : Unit × σ → Except ε β) :
    x.map ((), ·) >>= k = x >>= fun s => k ((), s) := by
  cases x <;> rfl

theorem Follows.congr {w : Work σ α} {f g : σ → Except Failure (α × σ)} (h : Follows w f)
    (hfg : ∀ s, f s = g s) : Follows w g := by
  rw [← funext hfg]
  exact h

end Work

namespace Store

open Work

variable {s : Store}

/-! ## The statements of a write -/

theorem follows_entering (kept : List (Nat × Predicate)) (ps : List Predicate) :
    Follows (entering kept ps) fun s => s.persistAll kept ps := by
  induction ps generalizing kept with
  | nil => exact follows_pure kept
  | cons p ps ih => exact (follows_statement _).bind fun id => ih _

theorem follows_linkingWeaknesses (row : Nat) (ws : List Weakness) :
    Follows (linkingWeaknesses row ws) fun s => (s.linkWeaknesses row ws).map ((), ·) := by
  induction ws with
  | nil => exact follows_pure ()
  | cons w ws ih =>
      refine ((follows_change _).bind fun _ => ih).congr fun s => ?_
      unfold linkWeaknesses
      rw [List.foldlM_cons]
      cases s.linkWeakness ⟨row, w.id⟩ <;> rfl

theorem follows_linkingPredicates (row position : Nat) (ids : List Nat) :
    Follows (linkingPredicates row position ids) fun s =>
      (s.linkPredicates row position ids).map ((), ·) := by
  induction ids generalizing position with
  | nil => exact follows_pure ()
  | cons id ids ih =>
      refine ((follows_change _).bind fun _ => ih (position + 1)).congr fun s => ?_
      rw [linkPredicates]
      cases s.linkPredicate ⟨row, id, position⟩ <;> rfl

/-- The statements of a write come to the write. -/
theorem follows_writing (d : Draft) : Follows (writing d) fun s => s.synchronize d := by
  unfold writing synchronize
  cases storableId? d.record with
  | none => exact follows_throw _
  | some vulnId =>
      have hstatements := (follows_entering [] d.software).bind fun kept =>
        (follows_statement (·.upsertVulnerability vulnId d.record)).bind fun row =>
        (follows_change fun s => .ok (s.unlinkWeaknesses row)).bind fun _ =>
        (follows_linkingWeaknesses row d.record.weaknesses).bind fun _ =>
        (follows_change fun s => .ok (s.unlinkPredicates row)).bind fun _ =>
        (follows_linkingPredicates row 0 (kept.map (·.1))).bind fun _ =>
        follows_pure (answer d row kept)
      refine hstatements.congr fun s => ?_
      refine bind_congr fun (kept, s) => bind_congr fun (row, s) => ?_
      simp only [map_unit_bind]
      rfl

/-- In a well-formed store no statement of a write is refused, and those of a draft that has no
identifier are none. -/
theorem writing_on (h : s.WellFormed) (d : Draft) :
    (writing d).on s = (statement (Store.synchronize · d)).on s := by
  cases hid : storableId? d.record with
  | none =>
      unfold writing
      rw [hid, statement_on, synchronize_of_storableId?_eq_none hid]
      rfl
  | some vulnId =>
      obtain ⟨row, kept, t, heq, -⟩ := synchronize_spec h hid
      rw [(follows_writing d).ok heq, statement_on, heq]

/-- An attachment is one statement that may change something, after two questions. -/
theorem attaching_on (s : Store) (v : Vulnerability) (component : String) (now : Instant) :
    (attaching v component now).on s = (statement (Store.attach · v component now)).on s := by
  rw [statement_on]
  unfold attaching attach
  cases v.row with
  | none => rfl
  | some row =>
      dsimp only
      rw [on_bind, statement_on]
      cases s.component? component with
      | none => rfl
      | some c =>
          show (change (Store.recordAttribution · component row analyzer now.timestamp)
            >>= fun _ => pure true).on s = _
          rw [on_bind, change, statement_on]
          cases s.recordAttribution component row analyzer now.timestamp <;> rfl

/-! ## Attachments -/

/-- The store after a component has got a vulnerability. One that it had stays as it was. -/
def withAttribution (s : Store) (a : Attribution) : Store :=
  if s.attributions.any fun b =>
      b.component == a.component && b.vulnerability == a.vulnerability then s
  else { s with attributions := s.attributions ++ [a] }

section attach

variable {v : Vulnerability} {component : String} {row : Int}

theorem attach_of_row_eq_none (hv : v.row = none) (component : String) (now : Instant) :
    s.attach v component now = .error (.payload .notSynchronized) := by
  unfold attach
  rw [hv]

theorem attach_of_not_mem_componentIds (hv : v.row = some row)
    (hcomponent : component ∉ s.componentIds) (now : Instant) :
    s.attach v component now = .ok (false, s) := by
  unfold attach
  rw [hv]
  exact if_pos (component?_isNone_iff.mpr hcomponent)

theorem attach_of_mem_componentIds (hv : v.row = some row)
    (hcomponent : component ∈ s.componentIds) (now : Instant) :
    s.attach v component now
      = match s.vulnerabilityAt? row with
        | none => .error .store
        | some r => .ok (true, s.withAttribution ⟨component, r.id, analyzer, now.timestamp⟩) := by
  have hknown : ¬ (s.component? component).isNone := fun h =>
    component?_isNone_iff.mp h hcomponent
  obtain ⟨c, hc⟩ : ∃ c, s.component? component = some c := by
    simpa [Option.isNone_iff_eq_none, Option.ne_none_iff_exists'] using hknown
  unfold attach
  rw [hv]
  dsimp only
  rw [if_neg hknown, recordAttribution, hc]
  cases s.vulnerabilityAt? row with
  | none => rfl
  | some r =>
      dsimp only
      unfold withAttribution
      split <;> rfl

end attach

/-! ## Which operations are refused -/

/-- What a store refuses, and what it is like afterwards. -/
structure RefusesExactly (s : Store) : Prop where
  /-- A draft is refused exactly if its identifier is missing or blank. -/
  synchronize : ∀ d e, s.synchronize d = .error e ↔
    e = .payload .missingIdentifier ∧
      ∀ vulnId, d.record.vulnId = some vulnId → Text.trim vulnId.toList = []
  /-- The statements of a write leave what one statement would, which is refused as a whole. -/
  writing : ∀ d, (writing d).on s = (statement (Store.synchronize · d)).on s
  /-- A record that was never written is the first thing to be refused, -/
  notSynchronized : ∀ v component now fault, s.attach v component now = .error (.payload fault) ↔
    fault = .notSynchronized ∧ v.row = none
  /-- a component that is not known the second, -/
  unknown : ∀ v component now t, s.attach v component now = .ok (false, t) ↔
    v.row ≠ none ∧ component ∉ s.componentIds ∧ t = s
  /-- a row that does not exist the third, -/
  noRow : ∀ v component now, s.attach v component now = .error .store ↔
    component ∈ s.componentIds ∧ ∃ row, v.row = some row ∧ ∀ r ∈ s.vulnerabilities, (r.id : Int) ≠ row
  /-- and everything else is attached. -/
  attached : ∀ v component now t, s.attach v component now = .ok (true, t) ↔
    component ∈ s.componentIds ∧ ∃ r ∈ s.vulnerabilities, v.row = some (r.id : Int) ∧
      t = s.withAttribution ⟨component, r.id, analyzer, now.timestamp⟩
  attaching : ∀ v component now,
    (attaching v component now).on s = (statement (Store.attach · v component now)).on s

theorem vulnerabilityAt?_eq_none_iff {row : Int} :
    s.vulnerabilityAt? row = none ↔ ∀ r ∈ s.vulnerabilities, (r.id : Int) ≠ row := by
  simp [vulnerabilityAt?]

/-- An attachment comes to one of four things. -/
theorem attach_cases (s : Store) (v : Vulnerability) (component : String) (now : Instant) :
    (v.row = none ∧ s.attach v component now = .error (.payload .notSynchronized)) ∨
    (v.row ≠ none ∧ component ∉ s.componentIds ∧ s.attach v component now = .ok (false, s)) ∨
    (component ∈ s.componentIds ∧
      (∃ row, v.row = some row ∧ ∀ r ∈ s.vulnerabilities, (r.id : Int) ≠ row) ∧
      s.attach v component now = .error .store) ∨
    (component ∈ s.componentIds ∧ ∃ r ∈ s.vulnerabilities, v.row = some (r.id : Int) ∧
      s.attach v component now
        = .ok (true, s.withAttribution ⟨component, r.id, analyzer, now.timestamp⟩)) := by
  cases hv : v.row with
  | none => exact .inl ⟨rfl, attach_of_row_eq_none hv component now⟩
  | some row =>
      by_cases hcomponent : component ∈ s.componentIds
      · have hattach := attach_of_mem_componentIds hv hcomponent now
        cases hr : s.vulnerabilityAt? row with
        | none =>
            rw [hr] at hattach
            exact .inr (.inr (.inl ⟨hcomponent, ⟨row, rfl, vulnerabilityAt?_eq_none_iff.mp hr⟩,
              hattach⟩))
        | some r =>
            rw [hr] at hattach
            have hid : (r.id : Int) = row := by simpa using List.find?_some hr
            exact .inr (.inr (.inr ⟨hcomponent, r, List.mem_of_find?_eq_some hr, by rw [hid],
              hattach⟩))
      · exact .inr (.inl ⟨by simp, hcomponent, attach_of_not_mem_componentIds hv hcomponent now⟩)

/-- A draft is refused for its identifier and for nothing else. -/
theorem synchronize_eq_error_iff (h : s.WellFormed) {d : Draft} {e : Failure} :
    s.synchronize d = .error e ↔ e = .payload .missingIdentifier ∧
      ∀ vulnId, d.record.vulnId = some vulnId → Text.trim vulnId.toList = [] := by
  cases hid : storableId? d.record with
  | none =>
      have hblank : ∀ vulnId, d.record.vulnId = some vulnId → Text.trim vulnId.toList = [] := by
        intro vulnId hv
        by_contra hne
        rw [storableId?_eq_some_iff.mpr ⟨hv, hne⟩] at hid
        cases hid
      rw [synchronize_of_storableId?_eq_none hid, Except.error.injEq]
      exact ⟨fun heq => ⟨heq.symm, hblank⟩, fun heq => heq.1.symm⟩
  | some vulnId =>
      obtain ⟨hv, hne⟩ := storableId?_eq_some_iff.mp hid
      obtain ⟨row, kept, t, heq, -⟩ := synchronize_spec h hid
      rw [heq]
      constructor
      · intro herror
        cases herror
      · rintro ⟨-, hblank⟩
        exact absurd (hblank vulnId hv) hne

theorem WellFormed.refusesExactly (h : s.WellFormed) : s.RefusesExactly where
  synchronize d e := synchronize_eq_error_iff h
  writing := writing_on h
  notSynchronized v component now fault := by
    rcases attach_cases s v component now with
      ⟨hv, heq⟩ | ⟨hv, -, heq⟩ | ⟨-, ⟨row, hv, -⟩, heq⟩ | ⟨-, r, -, hv, heq⟩ <;>
      simp [heq, hv, eq_comm]
  unknown v component now t := by
    rcases attach_cases s v component now with
      ⟨hv, heq⟩ | ⟨hv, hc, heq⟩ | ⟨hc, -, heq⟩ | ⟨hc, r, -, hv, heq⟩
    · simp [heq, hv]
    · simp [heq, hv, hc, eq_comm]
    · simp [heq, hc]
    · simp [heq, hc]
  noRow v component now := by
    rcases attach_cases s v component now with
      ⟨hv, heq⟩ | ⟨hv, hc, heq⟩ | ⟨hc, ⟨row, hv, hr⟩, heq⟩ | ⟨hc, r, hr, hv, heq⟩
    · simp [heq, hv]
    · simp [heq, hc]
    · simpa [heq, hv, hc] using hr
    · simpa [heq, hv, hc] using ⟨r, hr, rfl⟩
  attached v component now t := by
    rcases attach_cases s v component now with
      ⟨hv, heq⟩ | ⟨hv, hc, heq⟩ | ⟨hc, ⟨row, hv, hr⟩, heq⟩ | ⟨hc, r, hr, hv, heq⟩
    · simp [heq, hv]
    · simp [heq, hc]
    · have hne : ∀ r ∈ s.vulnerabilities, row ≠ r.id := fun r hr' => (hr r hr').symm
      simpa [heq, hv, hc] using fun r hr' hrow => absurd hrow (hne r hr')
    · rw [heq]
      constructor
      · intro hok
        cases hok
        exact ⟨hc, r, hr, hv, rfl⟩
      · rintro ⟨-, r', -, hv', rfl⟩
        rw [Int.ofNat_inj.mp (Option.some.inj (hv.symm.trans hv'))]
  attaching := attaching_on s

/-- **What is refused leaves nothing behind.** Whatever was asked of a store, it refuses exactly
what `RefusesExactly` names. A write that is refused leaves the tables as they were, statement
by statement, and so does an attachment that is refused or finds no component. -/
theorem after_refusesExactly (ops : List Operation) :
    let s := empty.after ops
    s.RefusesExactly ∧
    (∀ d e t, (writing d).on s = (.error e, t) → t = s) ∧
    (∀ v component now r t, (attaching v component now).on s = (r, t) → r ≠ .ok true → t = s) := by
  intro s
  have h : s.RefusesExactly := (wellFormed_empty.after ops).refusesExactly
  refine ⟨h, fun d e t hd => ?_, fun v component now r t ha hr => ?_⟩
  · rw [h.writing, statement_on] at hd
    cases heq : s.synchronize d with
    | error e' =>
        rw [heq] at hd
        exact (Prod.ext_iff.mp hd).2.symm
    | ok r =>
        rw [heq] at hd
        cases hd
  · rw [h.attaching, statement_on] at ha
    rcases attach_cases s v component now with
      ⟨-, heq⟩ | ⟨-, -, heq⟩ | ⟨-, -, heq⟩ | ⟨-, _, -, -, heq⟩ <;> rw [heq] at ha
    · exact (Prod.ext_iff.mp ha).2.symm
    · exact (Prod.ext_iff.mp ha).2.symm
    · exact (Prod.ext_iff.mp ha).2.symm
    · exact absurd (Prod.ext_iff.mp ha).1.symm hr

end Store
end AdvisoryLedger
