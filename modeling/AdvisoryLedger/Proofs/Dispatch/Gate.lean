import AdvisoryLedger.Proofs.Dispatch.Alone
import AdvisoryLedger.Proofs.Dispatch.Prefix
import AdvisoryLedger.Proofs.Dispatch.Recorded
import AdvisoryLedger.Proofs.Package.Display

/-!
# The gate of an analysis

An analysis that is disabled does nothing, and neither does one without a token. Any other one is
a run, over the components whose package URLs can be parsed and have a version: that is what makes
a component capable, since a package that was read has a type and a name (`isCapable_eq`).

The run looks the package up once more. It gets the same one, so no component fails for its
package URL, and each request is for a package that has a type, a name and a version. The case
without any component needs no exception, since a run over none does nothing either.
-/

namespace AdvisoryLedger

/-! ## What can be looked up -/

theorem Coordinate.IsRead.type_ne_empty {package : Coordinate} (h : package.IsRead) :
    package.type ≠ "" := by
  intro htype
  have hword := h.isWord
  rw [htype] at hword
  cases hword

namespace Component

variable {c : Component} {package : Coordinate}

/-- The package of a component was read from its package URL. -/
theorem isRead_of_coordinate? (h : c.coordinate? = some package) : package.IsRead := by
  obtain ⟨purl, -, hpurl⟩ := Option.bind_eq_some_iff.mp h
  unfold Coordinate.ofUrl at hpurl
  split at hpurl
  · next hread =>
    obtain rfl := Option.some.inj hpurl
    exact PackageUrl.exists_isRead hread
  · cases hpurl

/-- Type and name are never missing from what was read, so all that can be is the version. -/
theorem isCapable_eq (c : Component) : c.isCapable = c.isVersioned := by
  unfold isCapable isVersioned
  cases hpackage : c.coordinate? with
  | none => rfl
  | some package =>
    have hread := isRead_of_coordinate? hpackage
    simp [Coordinate.isFullyQualified, hread.type_ne_empty, hread.name_ne_empty]

theorem exists_of_isVersioned (h : c.isVersioned = true) :
    ∃ package, c.coordinate? = some package ∧ package.type ≠ "" ∧ package.name ≠ "" ∧
      ∃ version, package.version = some version ∧ version ≠ "" := by
  obtain ⟨version, hversion⟩ := Option.isSome_iff_exists.mp h
  obtain ⟨package, hpackage, hversion⟩ := Option.bind_eq_some_iff.mp hversion
  have hread := isRead_of_coordinate? hpackage
  exact ⟨package, hpackage, hread.type_ne_empty, hread.name_ne_empty, version, hversion,
    hread.version version hversion⟩

end Component

/-- Without a token the configuration is to blame. -/
theorem CredentialSource.exists_configuration {credentials : CredentialSource} {e : Failure}
    (h : credentials.token = .error e) : ∃ fault, e = .configuration fault := by
  unfold token at h
  split at h <;> split at h
  · cases h
  · exact ⟨_, (Except.error.inj h).symm⟩
  · exact ⟨_, (Except.error.inj h).symm⟩
  · split at h
    · cases h
    · exact ⟨_, (Except.error.inj h).symm⟩

namespace Dispatcher

variable {σ π : Type} {d : Dispatcher σ π} {token : ApiToken}

/-! ## The gate -/

section Gate

variable {credentials : CredentialSource} {components : List Component} {f g : RunState σ π}
  {answer : Except Failure Summary}

theorem informRun_of_disabled (h : d.settings.enabled = false) :
    d.InformRun credentials components f answer g ↔ answer = .ok .zero ∧ g = f := by
  constructor
  · intro hrun
    cases hrun with
    | disabled => exact ⟨rfl, rfl⟩
    | noToken henabled | idle henabled | run henabled => simp [h] at henabled
  · rintro ⟨rfl, rfl⟩
    exact .disabled h

theorem informRun_of_noToken (h : d.settings.enabled = true) {e : Failure}
    (htoken : credentials.token = .error e) :
    d.InformRun credentials components f answer g ↔ answer = .error e ∧ g = f := by
  constructor
  · intro hrun
    cases hrun with
    | disabled hdisabled => simp [h] at hdisabled
    | noToken _ htoken' =>
      obtain rfl := Except.error.inj (htoken.symm.trans htoken')
      exact ⟨rfl, rfl⟩
    | idle _ htoken' | run _ htoken' => cases htoken.symm.trans htoken'
  · rintro ⟨rfl, rfl⟩
    exact .noToken h htoken

theorem dispatchRun_nil : d.DispatchRun token [] f g ↔ g = f := by
  unfold DispatchRun
  rw [pages]
  constructor
  · intro hrun
    cases hrun
    rfl
  · rintro rfl
    exact .nil

/-- Past the gate an analysis is a run over the components that can be looked up. -/
theorem informRun_of_token (h : d.settings.enabled = true) (htoken : credentials.token = .ok token)
    {ledger : σ} {peer : π} :
    d.InformRun credentials components (.start ledger peer) answer g ↔
      d.DispatchRun token (components.filter (·.isCapable)) (.start ledger peer) g ∧
        answer = .ok g.summary := by
  constructor
  · intro hrun
    cases hrun with
    | disabled hdisabled => simp [h] at hdisabled
    | noToken _ htoken' => cases htoken.symm.trans htoken'
    | idle _ _ hnone =>
      rw [hnone, dispatchRun_nil]
      exact ⟨rfl, rfl⟩
    | run _ htoken' _ hrun =>
      obtain rfl := Except.ok.inj (htoken.symm.trans htoken')
      exact ⟨hrun, rfl⟩
  · rintro ⟨hrun, rfl⟩
    by_cases hnone : components.filter (·.isCapable) = []
    · rw [hnone, dispatchRun_nil] at hrun
      subst hrun
      exact .idle h htoken hnone
    · exact .run h htoken hnone hrun

/-- What an analysis that starts anew may come to is the same with requests written down. -/
theorem informRun_unrecorded {ledger : σ} {peer : π} :
    d.InformRun credentials components (.start ledger peer) answer g ↔
      ∃ w, d.recorded.InformRun credentials components (.start ledger (peer, [])) answer w ∧
        g = w.unrecorded := by
  have hstart {p : Prop} : p ∧ g = .start ledger peer ↔
      ∃ w : RunState σ (π × List Request), (p ∧ w = .start ledger (peer, [])) ∧
        g = w.unrecorded := by
    constructor
    · rintro ⟨hp, rfl⟩
      exact ⟨_, ⟨hp, rfl⟩, rfl⟩
    · rintro ⟨_, ⟨hp, rfl⟩, rfl⟩
      exact ⟨hp, rfl⟩
  cases h : d.settings.enabled with
  | false =>
    simp only [informRun_of_disabled h, informRun_of_disabled (d := d.recorded) h]
    exact hstart
  | true =>
    cases htoken : credentials.token with
    | error e =>
      simp only [informRun_of_noToken h htoken, informRun_of_noToken (d := d.recorded) h htoken]
      exact hstart
    | ok token =>
      have hrun : d.DispatchRun token (components.filter (·.isCapable)) (.start ledger peer) g
          ↔ _ := dispatchRun_unrecorded (f := .start ledger (peer, []))
      simp only [informRun_of_token h htoken, informRun_of_token (d := d.recorded) h htoken, hrun]
      constructor
      · rintro ⟨⟨w, hw, rfl⟩, rfl⟩
        exact ⟨w, ⟨hw, rfl⟩, rfl⟩
      · rintro ⟨w, ⟨hw, rfl⟩, rfl⟩
        exact ⟨⟨w, hw, rfl⟩, rfl⟩

/-- The analysis that takes one component after another is one of them. -/
theorem informRun_inform (d : Dispatcher σ π) (credentials : CredentialSource)
    (components : List Component) (f : RunState σ π) :
    d.InformRun credentials components f (d.inform credentials components f).1
      (d.inform credentials components f).2 := by
  unfold inform
  split
  · next h => exact .disabled (by simpa using h)
  · next h =>
    have henabled : d.settings.enabled = true := by simpa using h
    split
    · next htoken => exact .noToken henabled htoken
    · next htoken =>
      dsimp only
      split
      · next hnone => exact .idle henabled htoken (List.isEmpty_iff.mp hnone)
      · next hsome =>
        exact .run henabled htoken (fun hnone => hsome (List.isEmpty_iff.mpr hnone))
          (d.dispatchRun_dispatch ..)

end Gate

/-! ## Past the gate -/

/-- What a run over components that have a version comes to, with the requests that were sent and
the causes for which components failed. -/
structure Passed (d : Dispatcher σ π) (token : ApiToken) (components : List Component)
    (w : RunState σ (π × List Request)) (causes : List Cause) : Prop where
  total : w.processed + w.failed = components.length
  failed : causes.length = w.failed
  usable : ∀ text, .url text ∉ causes
  requests : w.peer.2.Perm (components.flatMap (d.requests token))
  qualified : ∀ r ∈ w.peer.2, ∃ c ∈ components, ∃ package, c.coordinate? = some package ∧
    package.type ≠ "" ∧ package.name ≠ "" ∧
    (∃ version, package.version = some version ∧ version ≠ "") ∧
    r = d.requestFor token package

theorem exists_of_mem_requests {c : Component} {r : Request} (h : r ∈ d.requests token c) :
    ∃ package, c.coordinate? = some package ∧ r = d.requestFor token package := by
  have hr := (List.mem_filter.mp h).1
  obtain ⟨package, hpackage, rfl⟩ := Option.map_eq_some_iff.mp (Option.mem_toList.mp hr)
  exact ⟨package, hpackage, rfl⟩

theorem CausedRun.passed {components : List Component} {ledger : σ} {peer : π}
    {w : RunState σ (π × List Request)} {causes : List Cause}
    (hversioned : ∀ c ∈ components, c.isVersioned = true)
    (h : d.recorded.CausedRun token components (.start ledger (peer, [])) w causes) :
    d.Passed token components w causes := by
  have hrecords := h.records
  have hrequests : w.peer.2.Perm (components.flatMap (d.requests token)) := by
    have hperm := hrecords.requests
    rw [List.flatMap_map] at hperm
    exact hperm
  constructor
  case total =>
    rw [hrecords.total, List.countP_map]
    exact List.countP_eq_length.mpr fun _ _ => rfl
  case failed => exact hrecords.failed.symm
  case usable =>
    intro text htext
    obtain ⟨_, hfirst, hnone⟩ := hrecords.unusable text htext
    obtain ⟨_, hjob, rfl⟩ := List.mem_map.mp hfirst
    obtain ⟨c, hc, rfl⟩ := List.mem_map.mp hjob
    obtain ⟨package, hpackage, -⟩ := Component.exists_of_isVersioned (hversioned c hc)
    cases hnone.symm.trans hpackage
  case requests => exact hrequests
  case qualified =>
    intro r hr
    obtain ⟨c, hc, hrc⟩ := List.mem_flatMap.mp (hrequests.mem_iff.mp hr)
    obtain ⟨package, hpackage, rfl⟩ := exists_of_mem_requests hrc
    obtain ⟨package', hpackage', htype, hname, hversion⟩ :=
      Component.exists_of_isVersioned (hversioned c hc)
    obtain rfl := Option.some.inj (hpackage.symm.trans hpackage')
    exact ⟨c, hc, package, hpackage, htype, hname, hversion, rfl⟩

/-! ## All analyses -/

/-- What an analysis may come to, with the requests that were sent: nothing is done by one that is
disabled or has no token, and any other one is a run over the components whose package URLs have a
version. -/
structure Gated (d : Dispatcher σ π) (credentials : CredentialSource) (components : List Component)
    (ledger : σ) (peer : π) : Prop where
  recorded : ∀ answer g, d.InformRun credentials components (.start ledger peer) answer g ↔
    ∃ w, d.recorded.InformRun credentials components (.start ledger (peer, [])) answer w ∧
      g = w.unrecorded
  inform : d.InformRun credentials components (.start ledger peer)
    (d.inform credentials components (.start ledger peer)).1
    (d.inform credentials components (.start ledger peer)).2
  disabled : d.settings.enabled = false → ∀ answer w,
    d.recorded.InformRun credentials components (.start ledger (peer, [])) answer w ↔
      answer = .ok .zero ∧ w = .start ledger (peer, [])
  noToken : d.settings.enabled = true → ∀ e, credentials.token = .error e →
    (∃ fault, e = .configuration fault) ∧ ∀ answer w,
      d.recorded.InformRun credentials components (.start ledger (peer, [])) answer w ↔
        answer = .error e ∧ w = .start ledger (peer, [])
  run : d.settings.enabled = true → ∀ token, credentials.token = .ok token → ∀ answer w,
    d.recorded.InformRun credentials components (.start ledger (peer, [])) answer w ↔
      d.recorded.DispatchRun token (components.filter (·.isVersioned))
        (.start ledger (peer, [])) w ∧ answer = .ok w.summary
  caused : ∀ token w,
    d.recorded.DispatchRun token (components.filter (·.isVersioned)) (.start ledger (peer, [])) w ↔
      ∃ causes, d.recorded.CausedRun token (components.filter (·.isVersioned))
        (.start ledger (peer, [])) w causes
  passed : ∀ token w causes,
    d.recorded.CausedRun token (components.filter (·.isVersioned)) (.start ledger (peer, [])) w
      causes → d.Passed token (components.filter (·.isVersioned)) w causes

theorem filter_isCapable (components : List Component) :
    components.filter (·.isCapable) = components.filter (·.isVersioned) :=
  List.filter_congr fun c _ => c.isCapable_eq

/-- **The gate.** Whatever the settings, the credentials and the components are, and whoever
replies, an analysis does nothing or is a run over the components that can be looked up. -/
theorem inform_gated (d : Dispatcher σ π) (credentials : CredentialSource)
    (components : List Component) (ledger : σ) (peer : π) :
    d.Gated credentials components ledger peer where
  recorded := fun _ _ => informRun_unrecorded
  inform := d.informRun_inform credentials components _
  disabled := fun h _ _ => informRun_of_disabled (d := d.recorded) h
  noToken := fun h _ htoken =>
    ⟨CredentialSource.exists_configuration htoken, fun _ _ =>
      informRun_of_noToken (d := d.recorded) h htoken⟩
  run := by
    intro h token htoken answer w
    rw [← filter_isCapable]
    exact informRun_of_token (d := d.recorded) h htoken
  caused := fun _ _ => dispatchRun_iff_causedRun
  passed := fun _ _ _ h => h.passed fun _ hc => (List.mem_filter.mp hc).2

/-- A dispatcher over the tables whose requests are all answered with one advisory. -/
def answeredDispatcher : Dispatcher Ledger Unit :=
  { settings := .default
    source := .snyk
    session := Session.stillTables
    peer := .giving (some ⟨200, Text.utf8 ("\x7b\x22data\x22:[\x7b\x22id\x22:\x22A\x22," ++
      "\x22attributes\x22:\x7b\x22type\x22:\x22package_vulnerability\x22\x7d\x7d]\x7d")⟩) }

/-- A component whose package URL has a version. -/
def leftPad : Component := ⟨"c1", "left-pad", some "pkg:npm/left-pad@1.0.0"⟩

/-- It is the only one of these three. -/
def unequalComponents : List Component :=
  [leftPad, ⟨"c2", "right-pad", some "pkg:npm/right-pad"⟩, ⟨"c3", "pad", none⟩]

/-- The tables with these components and nothing else. -/
def unequalLedger : Ledger := ⟨unequalComponents.foldl Store.upsertComponent .empty, 0⟩

/-- The one with a version is asked for. It is the only one that is counted, and it gets the
advisory that comes back. -/
theorem inform_gated_answered : ∃ w,
    answeredDispatcher.recorded.InformRun (.given (some " t ")) unequalComponents
      (.start unequalLedger ((), [])) (.ok ⟨1, 0, 1⟩) w ∧
    w.peer.2 = [answeredDispatcher.requestFor ⟨"t", by decide⟩
      ⟨"npm", none, "left-pad", some "1.0.0"⟩] ∧
    w.progress.events = [⟨.snyk, "A"⟩] ∧
    w.ledger.store.vulnerabilities.map (·.vulnId) = ["A"] ∧
    w.ledger.store.attributions.map (fun a => (a.component, a.vulnerability)) = [("c1", 1)] := by
  have hgated := inform_gated answeredDispatcher (.given (some " t ")) unequalComponents
    unequalLedger ()
  have htoken : (CredentialSource.given (some " t ")).token = .ok ⟨"t", by decide⟩ := by decide
  have hversioned : unequalComponents.filter (·.isVersioned) = [leftPad] := by decide +kernel
  have hrequests : answeredDispatcher.requests ⟨"t", by decide⟩ leftPad
      = [answeredDispatcher.requestFor ⟨"t", by decide⟩
        ⟨"npm", none, "left-pad", some "1.0.0"⟩] := by decide +kernel
  have hsummary : (answeredDispatcher.runPage ⟨"t", by decide⟩ (.start unequalLedger ())
      [leftPad]).summary = ⟨1, 0, 1⟩ := by decide +kernel
  have hinform : answeredDispatcher.inform (.given (some " t ")) unequalComponents
        (.start unequalLedger ())
      = (.ok ⟨1, 0, 1⟩,
        answeredDispatcher.runPage ⟨"t", by decide⟩ (.start unequalLedger ()) [leftPad]) := by
    simp only [inform, htoken, filter_isCapable, hversioned, dispatch_eq_runPage, hsummary]
    rfl
  obtain ⟨w, hw, hunrecorded⟩ := (hgated.recorded _ _).mp hgated.inform
  obtain ⟨hrun, -⟩ := (hgated.run rfl _ htoken _ w).mp hw
  obtain ⟨causes, hcaused⟩ := (hgated.caused _ w).mp hrun
  have hperm := (hgated.passed _ w causes hcaused).requests
  rw [hversioned, List.flatMap_singleton, hrequests] at hperm
  rw [hinform] at hw hunrecorded
  refine ⟨w, hw, List.perm_singleton.mp hperm, ?_, ?_, ?_⟩
  · show w.unrecorded.progress.events = _
    rw [← hunrecorded]
    decide +kernel
  · show w.unrecorded.ledger.store.vulnerabilities.map _ = _
    rw [← hunrecorded]
    decide +kernel
  · show w.unrecorded.ledger.store.attributions.map _ = _
    rw [← hunrecorded]
    decide +kernel

end Dispatcher
end AdvisoryLedger
