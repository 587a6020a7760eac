import AdvisoryLedger.Proofs.Package.Display
import AdvisoryLedger.Settings

/-!
# Which packages can be told apart by their addresses

The address of a package has the text of its coordinate in it, so it tells packages apart as far
as a reader of the texts can.

The text is read as the coordinate only if `Coordinate.ReadsBack`. The signs tell
(`AdvisoryLedger.Proofs.Text.Percent`). Each part has at most as many of them as the piece that it
was read from, and fewer if the piece had an escape, an empty segment or a slash at its end. The
coordinate and its text have the same signs, so there was none of this, and no qualifiers or subpath
either: the parts are the pieces, as their type writes them (`Pieces.Give.matches`). The blanks
are counted next, to see that none was at the end. Then the marks are in their places too.
-/

namespace AdvisoryLedger
namespace PackageUrl

open Text

variable {c : Coordinate}

/-! ## What is lost in reading -/

theorem isCaseless_of_isSign {a : Char} (h : isSign a = true) : isCaseless a = true := by
  have hall : ∀ n < 0x50, isSign (Char.ofNat n) = true → isCaseless (Char.ofNat n) = true := by
    decide +kernel
  have ha := hall a.toNat (toNat_lt_of_isSign h)
  rw [Char.ofNat_toNat] at ha
  exact ha h

theorem signs_canonicalName (type name : String) :
    signs (canonicalName type name).toList = signs name.toList :=
  countP_canonicalName (fun _ => isCaseless_of_isSign) (by decide) (by decide) type name

theorem signs_canonicalScope (type scope : String) :
    signs (canonicalScope type scope).toList = signs scope.toList :=
  countP_canonicalScope (fun _ => isCaseless_of_isSign) type scope

variable {p : Pieces}

/-- The name of a coordinate is the piece, as its type writes it. -/
structure Pieces.HasName (p : Pieces) (c : Coordinate) : Prop where
  plain : decode p.path.2 = .ok (String.ofList p.path.2)
  eq : c.name = canonicalName c.type (String.ofList p.path.2)

/-- The version of a coordinate is the piece. -/
structure Pieces.HasVersion (p : Pieces) (c : Coordinate) : Prop where
  eq : c.version.map String.toList = p.version
  plain : ∀ v ∈ c.version, percentDecode? v = some v

/-- The scope of a coordinate is the piece, as its type writes it. -/
def Pieces.HasScope (p : Pieces) (c : Coordinate) : Prop :=
  c.scope = none ∧ p.rest = p.path.2 ∨
    ∃ scope, c.scope = some scope ∧ p.rest = p.path.1 ++ '/' :: p.path.2 ∧
      scope = canonicalScope c.type (String.ofList p.path.1) ∧
      components p.path.1 = p.path.1.splitOn '/' ∧
      ∀ segment ∈ p.path.1.splitOn '/', scopeComponent segment = .ok (String.ofList segment)

/-- A name has no more signs than what it was read from, and fewer if that was not the name. -/
theorem Pieces.Give.name_signs (h : p.Give c) : signs c.name.toList ≤ signs p.path.2 ∧
    (signs p.path.2 ≤ signs c.name.toList → p.HasName c) := by
  obtain ⟨name, hdecode, hname⟩ := h.name
  have hlost := loses_of_decode hdecode
  have hsigns : signs c.name.toList = signs name.toList := by
    rw [hname, signs_canonicalName]
  rw [hsigns]
  refine ⟨hlost.le, fun hle => ?_⟩
  have heq : name = String.ofList p.path.2 := by
    rw [← hlost.eq hle, String.ofList_toList]
  exact ⟨heq ▸ hdecode, heq ▸ hname⟩

/-- A part has one sign more with its mark in front. -/
theorem signs_tail {mark : Char} (hmark : isSign mark = true) (part : Option (List Char)) :
    signs (tail mark part) = part.elim 0 fun written => signs written + 1 := by
  cases part with
  | none => rfl
  | some written => exact signs_cons hmark written

theorem signs_tail_eq_zero_iff {mark : Char} (hmark : isSign mark = true)
    {part : Option (List Char)} : signs (tail mark part) = 0 ↔ part = none := by
  rw [signs_tail hmark]
  cases part <;> simp

theorem Pieces.Give.version_signs (h : p.Give c) :
    signs (tail '@' (c.version.map String.toList)) ≤ signs (tail '@' p.version) ∧
    (signs (tail '@' p.version) ≤ signs (tail '@' (c.version.map String.toList)) →
      p.HasVersion c) := by
  obtain ⟨version, hread, hversion⟩ := h.version
  rw [signs_tail (by decide), signs_tail (by decide)]
  cases hpiece : p.version with
  | none =>
      rw [hpiece] at hread
      cases hread
      have hnone : c.version = none := hversion
      rw [hnone]
      exact ⟨Nat.le_refl _, fun _ => ⟨by rw [hnone, hpiece]; rfl, by rw [hnone]; nofun⟩⟩
  | some written =>
      rw [hpiece] at hread
      have hdecode : decode written = .ok version := hread
      have hlost := loses_of_decode hdecode
      by_cases hempty : version = ""
      · have hnone : c.version = none := by rw [hversion, hempty]; rfl
        rw [hnone]
        exact ⟨Nat.zero_le _, fun hle => absurd hle (Nat.not_succ_le_zero _)⟩
      · rw [present?_of_ne hempty] at hversion
        rw [hversion]
        refine ⟨Nat.succ_le_succ hlost.le, fun hle => ?_⟩
        have heq := hlost.eq (Nat.le_of_succ_le_succ hle)
        constructor
        case eq => rw [hversion, hpiece, Option.map_some, heq]
        case plain =>
          intro v hv
          obtain rfl := Option.some.inj (hversion.symm.trans hv)
          rw [decode_eq_ok_iff, ← heq, String.ofList_toList] at hdecode
          exact hdecode

/-- A path is a scope with a slash and a name, or a name. -/
theorem Pieces.path_spec (p : Pieces) : '/' ∉ p.path.2 ∧
    (p.path.1 = [] ∧ trimSlashes p.rest = p.path.2 ∨
      trimSlashes p.rest = p.path.1 ++ '/' :: p.path.2) := by
  unfold Pieces.path scopeAndName
  split
  · next hcut => exact ⟨not_mem_of_cutLast? hcut, .inr (eq_append_of_cutLast? hcut)⟩
  · next hcut => exact ⟨cutLast?_eq_none_iff.mp hcut, .inl ⟨rfl, rfl⟩⟩

/-- A scope that is read has no more signs than what it was read from, and as many only if no
segment was left out or decoded. -/
theorem Pieces.Give.scope_signs (h : p.Give c) : c.scope = none ∨ ∃ scope, c.scope = some scope ∧
    signs scope.toList ≤ signs p.path.1 ∧
    (signs p.path.1 ≤ signs scope.toList →
      scope = canonicalScope c.type (String.ofList p.path.1) ∧
      components p.path.1 = p.path.1.splitOn '/' ∧
      ∀ segment ∈ p.path.1.splitOn '/', scopeComponent segment = .ok (String.ofList segment)) := by
  obtain ⟨parts, hparts, hscope⟩ := h.scope
  cases hs : c.scope with
  | none => exact .inl rfl
  | some scope =>
      right
      rw [hs] at hscope
      obtain ⟨rfl, hne⟩ := eq_of_present? hscope.symm
      have hparts_ne : parts ≠ [] := by
        rintro rfl
        exact hne (canonicalScope_empty c.type)
      have hsigns : signs (canonicalScope c.type ("/".intercalate parts)).toList + 1
          = segmentSigns (parts.map String.toList) := by
        rw [signs_canonicalScope, String.toList_intercalate]
        exact signs_intercalate (by simpa using hparts_ne)
      have hkept : Loses segmentSigns (p.path.1.splitOn '/') (components p.path.1) := loses_filter _ _
      have hdecoded := loses_mapM hparts
      have hkept_le := hkept.le
      have hdecoded_le := hdecoded.le
      rw [segmentSigns_splitOn] at hkept_le
      refine ⟨_, rfl, by omega, fun hle => ?_⟩
      have hcomponents := hkept.eq (by rw [segmentSigns_splitOn]; omega)
      have heq : parts = (p.path.1.splitOn '/').map String.ofList := by
        rw [← hcomponents, ← hdecoded.eq (by omega), List.map_map]
        exact (List.map_id' parts).symm.trans
          (List.map_congr_left fun part _ => String.ofList_toList.symm)
      rw [hcomponents, heq, mapM_scopeComponent_eq_iff] at hparts
      have hwhole := intercalate_segments (String.ofList p.path.1)
      rw [String.toList_ofList] at hwhole
      rw [heq, hwhole]
      exact ⟨rfl, hcomponents, hparts⟩

theorem signs_scopeText_some (scope : String) :
    signs (scopeText (some scope)) = signs scope.toList + 1 :=
  signs_append _ _

/-- The same for the scope and the name. -/
theorem Pieces.Give.path_signs (h : p.Give c) : signs c.path ≤ signs p.rest ∧
    (signs p.rest ≤ signs c.path → p.HasScope c ∧ p.HasName c) := by
  obtain ⟨hname_le, hname⟩ := h.name_signs
  have hslashes := loses_trimSlashes p.rest
  have hslashes_le := hslashes.le
  rw [Coordinate.path, signs_append]
  obtain ⟨-, ⟨hpath, hrest⟩ | hrest⟩ := p.path_spec
  · -- no slash is left, so there is no scope
    have hscope : c.scope = none := by
      refine h.scope_signs.resolve_right ?_
      rintro ⟨scope, -, hle, hexact⟩
      rw [hpath] at hexact
      have hsame := (hexact (Nat.zero_le _)).2.1
      cases hsame
    rw [hscope, show signs (scopeText none) = 0 from rfl, Nat.zero_add]
    rw [hrest] at hslashes_le
    refine ⟨by omega, fun hle => ⟨.inl ⟨hscope, ?_⟩, hname (by omega)⟩⟩
    rw [← hrest]
    exact (hslashes.eq (by rw [hrest]; omega)).symm
  · have hsigns : signs (trimSlashes p.rest) = signs p.path.1 + (signs p.path.2 + 1) := by
      rw [hrest, signs_append, signs_cons (by decide)]
    rcases h.scope_signs with hscope | ⟨scope, hscope, hscope_le, hexact⟩
    · rw [hscope, show signs (scopeText none) = 0 from rfl]
      exact ⟨by omega, fun hle => absurd hle (by omega)⟩
    · rw [hscope, signs_scopeText_some]
      refine ⟨by omega, fun hle => ⟨.inr ⟨scope, hscope, ?_, hexact (by omega)⟩, hname (by omega)⟩⟩
      rw [← hrest]
      exact (hslashes.eq (by omega)).symm

/-! ## A coordinate that was read back -/

theorem isSign_eq_false_of_isBlank {a : Char} (h : isBlank a = true) : isSign a = false := by
  have hall : ∀ n < 0x50, isSign (Char.ofNat n) = true → isBlank (Char.ofNat n) = false := by
    decide +kernel
  rw [← Bool.not_eq_true]
  intro hsign
  have ha := hall a.toNat (toNat_lt_of_isSign hsign)
  rw [Char.ofNat_toNat, h] at ha
  cases ha hsign

theorem signs_trimRight (cs : List Char) : signs (trimRight cs) = signs cs := by
  obtain ⟨g, hg, heq⟩ := exists_trimRight cs
  have hnone : signs g = 0 := by
    rw [signs, List.countP_eq_zero]
    intro a ha
    simp [isSign_eq_false_of_isBlank (hg a ha)]
  have hsigns := congrArg signs heq
  rw [signs_append, hnone] at hsigns
  exact hsigns.symm

/-- The parts of the coordinate are the pieces, as its type writes them. -/
structure Pieces.Matches (p : Pieces) (c : Coordinate) : Prop where
  subpath : p.subpath = none
  qualifiers : p.qualifiers = none
  version : p.HasVersion c
  scope : p.HasScope c
  name : p.HasName c

/-- Where the text of a coordinate is read as the coordinate, its pieces match it. -/
theorem Pieces.Give.matches (h : p.Give c) (heq : trimRight c.rest = p.rest ++
    (tail '@' p.version ++ (tail '?' p.qualifiers ++ tail '#' p.subpath))) : p.Matches c := by
  obtain ⟨hpath_le, hpath⟩ := h.path_signs
  obtain ⟨hversion_le, hversion⟩ := h.version_signs
  have hsigns := congrArg signs heq
  rw [signs_trimRight] at hsigns
  simp only [Coordinate.rest, signs_append] at hsigns
  obtain ⟨hscope, hname⟩ := hpath (by omega)
  constructor
  case subpath => exact (signs_tail_eq_zero_iff (show isSign '#' = true by decide)).mp (by omega)
  case qualifiers => exact (signs_tail_eq_zero_iff (show isSign '?' = true by decide)).mp (by omega)
  case version => exact hversion (by omega)
  case scope => exact hscope
  case name => exact hname

/-- Scope and name have as many of any characters that are no letters as their pieces. -/
theorem Pieces.Matches.countP_path (h : p.Matches c) {q : Char → Bool}
    (hq : ∀ a, q a = true → isCaseless a = true) (hunderscore : q '_' = false)
    (hhyphen : q '-' = false) : c.path.countP q = p.rest.countP q := by
  rw [Coordinate.path, List.countP_append, h.name.eq, countP_canonicalName hq hunderscore hhyphen,
    String.toList_ofList]
  rcases h.scope with ⟨hnone, hrest⟩ | ⟨scope, hsome, hrest, rfl, -⟩
  · rw [hnone, hrest]
    exact Nat.zero_add _
  · rw [hsome, hrest, scopeText, List.countP_append, countP_canonicalScope hq, String.toList_ofList,
      ← List.countP_append, ← List.countP_append]
    simp

/-- A text that has as many blanks as it has without those at its end has none there. -/
theorem trimRight_eq_self_of_countP {cs : List Char}
    (h : cs.countP isBlank = (trimRight cs).countP isBlank) : trimRight cs = cs := by
  obtain ⟨g, hg, heq⟩ := exists_trimRight cs
  have hblanks := congrArg (List.countP isBlank) heq
  rw [List.countP_append, h, List.countP_eq_length.mpr hg] at hblanks
  have hnil : g = [] := List.length_eq_zero_iff.mp (by omega)
  rw [hnil, List.append_nil] at heq
  exact heq.symm

/-- So the blanks tell that there is none at the end, and the path is the piece. -/
theorem Pieces.Matches.path_eq (h : p.Matches c)
    (hrest : trimRight c.rest = p.rest ++ tail '@' (c.version.map String.toList)) :
    trimRight c.rest = c.rest ∧ c.path = p.rest := by
  have hblank (a : Char) (ha : isBlank a = true) : isCaseless a = true := by
    simp [isCaseless, ha]
  have htrim : trimRight c.rest = c.rest := by
    apply trimRight_eq_self_of_countP
    rw [hrest, Coordinate.rest, List.countP_append, List.countP_append,
      h.countP_path hblank (by decide) (by decide)]
  refine ⟨htrim, ?_⟩
  rw [htrim, Coordinate.rest] at hrest
  exact List.append_cancel_right hrest

/-- The slash of the path tells the scope from the name. -/
theorem Pieces.Matches.name_eq (h : p.Matches c) (hpath : c.path = p.rest) :
    '/' ∉ c.name.toList ∧ c.name.toList = p.path.2 ∧
      (c.scope = none ∨ c.scope.map String.toList = some p.path.1) := by
  have hslash : '/' ∉ p.path.2 := p.path_spec.1
  have hslash' : '/' ∉ c.name.toList := by
    rw [← List.count_eq_zero, List.count, h.name.eq,
      countP_canonicalName (by simp; decide) (by decide) (by decide), String.toList_ofList]
    exact List.count_eq_zero.mpr hslash
  refine ⟨hslash', ?_⟩
  rw [Coordinate.path] at hpath
  rcases h.scope with ⟨hnone, hrest⟩ | ⟨scope, hsome, hrest, -⟩
  · rw [hnone, hrest] at hpath
    exact ⟨hpath, .inl hnone⟩
  · rw [hsome, hrest, scopeText, List.append_assoc, List.singleton_append] at hpath
    obtain ⟨heq, heq'⟩ := append_inj_of_last hslash' hslash hpath
    exact ⟨heq', .inr (by rw [hsome, ← heq, Option.map_some])⟩

/-- The segments of the scope are those of the piece, which were neither left out nor decoded. -/
theorem Pieces.HasScope.segment (hscope : p.HasScope c)
    (heq : c.scope = none ∨ c.scope.map String.toList = some p.path.1) {segment : List Char}
    (h : segment ∈ c.scopeSegments) : segment ∉ [[], ['.'], ['.', '.']] ∧
      percentDecode? (String.ofList segment) = some (String.ofList segment) := by
  rcases hscope with ⟨hnone, -⟩ | ⟨scope, hsome, -, -, hcomponents, hsegments⟩
  · rw [Coordinate.scopeSegments, hnone] at h
    cases h
  · rw [hsome] at heq
    have hscope : scope.toList = p.path.1 := by simpa using heq
    rw [Coordinate.scopeSegments, hsome] at h
    have hmem : segment ∈ p.path.1.splitOn '/' := hscope ▸ h
    exact ⟨components_eq_iff.mp hcomponents segment hmem,
      decode_eq_ok_iff.mp (scopeComponent_eq_ok_iff.mp (hsegments segment hmem)).1⟩

/-- Pieces that match are read as the coordinate only if each part is. -/
theorem Pieces.Matches.plain (h : p.Matches c) (hname : c.name.toList = p.path.2)
    (hscope : c.scope = none ∨ c.scope.map String.toList = some p.path.1) {part : String}
    (hpart : part ∈ c.parts) : percentDecode? part = some part := by
  rcases List.mem_append.mp hpart with hmem | hmem
  · obtain ⟨segment, hsegment, rfl⟩ := List.mem_map.mp hmem
    exact (h.scope.segment hscope hsegment).2
  · rcases List.mem_cons.mp hmem with rfl | hv
    · have hplain := h.name.plain
      rw [decode_eq_ok_iff, ← hname, String.ofList_toList] at hplain
      exact hplain
    · exact h.version.plain part (Option.mem_toList.mp hv)

theorem readsBack_of_read_display (h : c.IsRead) (hread : read c.display = .ok c) : c.ReadsBack := by
  rw [read_display h] at hread
  obtain ⟨p, htext, hcut, hgive⟩ := exists_pieces hread
  obtain ⟨-, hrest⟩ : c.type.toList = p.type ∧ trimRight c.rest = p.rest ++
      (tail '@' p.version ++ (tail '?' p.qualifiers ++ tail '#' p.subpath)) := by
    apply append_inj_of_first (not_mem_of_isWord h.isWord (by decide)) hcut.type
    rw [← htext]
    simp [Pieces.text, Pieces.qualified, Pieces.versioned, Pieces.main]
  have hmatches := hgive.matches hrest
  have hversion := hmatches.version.eq
  rw [hmatches.subpath, hmatches.qualifiers, ← hversion] at hrest
  obtain ⟨htrim, hpath⟩ := hmatches.path_eq (hrest.trans (by simp [tail]))
  obtain ⟨hslash, hname, hscope⟩ := hmatches.name_eq hpath
  -- the whole text is the type, the path and the version, so the cuts speak of it
  rw [htrim] at htext
  have habsent {mark : Char} (hmark : mark ∉ p.text) (hpkg : mark ∉ "pkg:".toList) :
      mark ∉ c.display.toList := by
    rw [Coordinate.toList_display, ← htext, List.mem_append, not_or]
    exact ⟨hpkg, hmark⟩
  have hqualified : p.qualified = p.text := by
    simp [Pieces.text, hmatches.subpath, tail]
  have hversioned : p.versioned = p.text := by
    simp [← hqualified, Pieces.qualified, hmatches.qualifiers, tail]
  constructor
  case unmarked =>
    refine ⟨habsent (hcut.subpath.absent hmatches.subpath) (by decide), ?_⟩
    exact habsent (hqualified ▸ hcut.qualifiers.absent hmatches.qualifiers) (by decide)
  case version =>
    intro v hv
    exact hcut.version.last v.toList (hversion ▸ Option.mem_map_of_mem String.toList hv)
  case unversioned =>
    intro hnone
    rw [hnone] at hversion
    exact habsent (hversioned ▸ hcut.version.absent hversion.symm) (by decide)
  case name => exact hslash
  case scope => exact fun segment hsegment => (hmatches.scope.segment hscope hsegment).1
  case plain => exact fun part hpart => hmatches.plain hname hscope hpart
  case last =>
    rw [getLast?_display h, ← htrim]
    exact last_trimRight c.rest

theorem read_display_eq_ok_iff (h : c.IsRead) : read c.display = .ok c ↔ c.ReadsBack :=
  ⟨readsBack_of_read_display h, read_display_of_readsBack h⟩

/-! ## Addresses -/

/-- Two packages are looked up at one address if their texts are the same. -/
theorem packageUrl_eq_iff {settings : AnalyzerSettings} {c d : Coordinate} :
    settings.packageUrl c = settings.packageUrl d ↔ c.display = d.display := by
  have hparam : settings.packageUrl c = settings.packageUrl d ↔ c.urlParam = d.urlParam := by
    unfold AnalyzerSettings.packageUrl
    simp [← String.toList_inj]
  exact hparam.trans percentEncode_inj

/-- **A coordinate can be read back if nothing in it reads like a mark.** The text of a coordinate
that was read gives it back exactly under the conditions of `ReadsBack`: the marks in the text
are the ones that it was put together with, no part of it is an escape, and it does not end in a
blank. Coordinates have one address if they have one text, and there is only one among them that
can be read back. -/
theorem read_display_iff {text text' : String} {c d : Coordinate} (hc : read text = .ok c)
    (hd : read text' = .ok d) :
    (read c.display = .ok c ↔ c.ReadsBack) ∧
    ∀ settings : AnalyzerSettings,
      (settings.packageUrl c = settings.packageUrl d ↔ c.display = d.display) ∧
      (c.ReadsBack → d.ReadsBack → settings.packageUrl c = settings.packageUrl d → c = d) := by
  refine ⟨read_display_eq_ok_iff (exists_isRead hc), fun settings => ⟨packageUrl_eq_iff, ?_⟩⟩
  intro hc' hd' h
  have hread := (read_display_eq_ok_iff (exists_isRead hc)).mpr hc'
  rw [packageUrl_eq_iff.mp h, (read_display_eq_ok_iff (exists_isRead hd)).mpr hd'] at hread
  exact (Except.ok.inj hread).symm

/-- The escape hides the `@` of the scope. -/
theorem read_angular :
    read "pkg:npm/%40angular/core" = .ok ⟨"npm", some "@angular", "core", none⟩ := by
  have hwritten : Pieces.Written ⟨"npm".toList, "%40angular/core".toList, none, none, none⟩
      "pkg:npm/%40angular/core" ["@angular"] "core" none := by
    constructor <;> decide +kernel
  exact hwritten.read.trans (by decide +kernel)

/-- A version tells a scope with an `@` from a version. -/
theorem read_display_angular :
    let c : Coordinate := ⟨"npm", some "@angular", "core", some "12.0.0"⟩
    let d : Coordinate := ⟨"npm", some "@angular", "core", none⟩
    c.ReadsBack ∧ ¬ d.ReadsBack ∧
      ∀ settings : AnalyzerSettings, settings.packageUrl c ≠ settings.packageUrl d := by
  intro c d
  have hescaped : Pieces.Written ⟨"npm".toList, "%40angular/core".toList, some "12.0.0".toList,
      none, none⟩ "pkg:npm/%40angular/core@12.0.0" ["@angular"] "core" (some "12.0.0") := by
    constructor <;> decide +kernel
  have hshown : Pieces.Written ⟨"npm".toList, "@angular/core".toList, some "12.0.0".toList,
      none, none⟩ c.display ["@angular"] "core" (some "12.0.0") := by
    constructor <;> decide +kernel
  have hc : read "pkg:npm/%40angular/core@12.0.0" = .ok c := hescaped.read.trans (by decide +kernel)
  have hback : read c.display = .ok c := hshown.read.trans (by decide +kernel)
  have hd : read "pkg:npm/%40angular/core" = .ok d := read_angular
  refine ⟨(read_display_iff hc hd).1.mp hback, ?_, fun settings h => ?_⟩
  · exact fun hreads => hreads.unversioned rfl (by decide +kernel)
  · exact absurd (((read_display_iff hc hd).2 settings).1.mp h) (by decide +kernel)

/-- A scope with an `@` and no version is not read back, and an escaped slash in a name gives two
packages the same address. -/
theorem display_confuses :
    (∃ c, read "pkg:npm/%40angular/core" = .ok c ∧ read c.display ≠ .ok c) ∧
    ∃ c d, read "pkg:npm/a%2Fb@1" = .ok c ∧ read "pkg:npm/a/b@1" = .ok d ∧ c ≠ d ∧
      ∀ settings : AnalyzerSettings, settings.packageUrl c = settings.packageUrl d := by
  constructor
  · refine ⟨_, read_angular, fun hread => ?_⟩
    have hreads := (read_display_eq_ok_iff (exists_isRead read_angular)).mp hread
    exact hreads.unversioned rfl (by decide +kernel)
  · have hescaped : Pieces.Written ⟨"npm".toList, "a%2Fb".toList, some "1".toList, none, none⟩
        "pkg:npm/a%2Fb@1" [] "a/b" (some "1") := by
      constructor <;> decide +kernel
    have hplain : Pieces.Written ⟨"npm".toList, "a/b".toList, some "1".toList, none, none⟩
        "pkg:npm/a/b@1" ["a"] "b" (some "1") := by
      constructor <;> decide +kernel
    refine ⟨_, _, hescaped.read, hplain.read, by decide +kernel, fun settings => ?_⟩
    exact packageUrl_eq_iff.mpr (by decide +kernel)

end PackageUrl
end AdvisoryLedger
