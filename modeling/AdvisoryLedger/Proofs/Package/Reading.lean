import AdvisoryLedger.Proofs.Package.Url
import AdvisoryLedger.Proofs.Text.Casing
import AdvisoryLedger.Proofs.Text.Percent
import AdvisoryLedger.Proofs.Text.Pieces

/-!
# A package URL taken apart

`exists_pieces` takes a URL that is read apart into its pieces, and `readTails_text` reads
pieces that were put together. What a reader takes away from the pieces is counted in signs
(`AdvisoryLedger.Proofs.Text.Percent`): the slashes around the path, the segments of a scope
that say nothing, and the escapes. `Pieces.Written.read` is for texts whose pieces are known.
-/

namespace AdvisoryLedger

/-! ## Cuts -/

namespace Text

variable {mark : Char} {cs before after : List Char}

theorem cut?_append (h : mark ∉ before) (after : List Char) :
    cut? mark (before ++ mark :: after) = some (before, after) := by
  induction before with
  | nil => exact if_pos rfl
  | cons c before ih =>
      rw [List.mem_cons, not_or] at h
      rw [List.cons_append, cut?, if_neg (Ne.symm h.1), ih h.2]
      rfl

theorem not_mem_of_cut? (h : cut? mark cs = some (before, after)) : mark ∉ before := by
  induction cs generalizing before with
  | nil => cases h
  | cons c cs ih =>
      rw [cut?] at h
      split at h
      · cases h
        exact List.not_mem_nil
      · next hne =>
        obtain ⟨p, hp, heq⟩ := Option.map_eq_some_iff.mp h
        cases heq
        rw [List.mem_cons, not_or]
        exact ⟨Ne.symm hne, ih hp⟩

theorem cutLast?_eq_none_iff : cutLast? mark cs = none ↔ mark ∉ cs := by
  induction cs with
  | nil => simp [cutLast?]
  | cons c cs ih =>
      rw [cutLast?, List.mem_cons, not_or, ← ih]
      cases cutLast? mark cs with
      | none => simp [eq_comm]
      | some p => simp

theorem cutLast?_append (before : List Char) (h : mark ∉ after) :
    cutLast? mark (before ++ mark :: after) = some (before, after) := by
  induction before with
  | nil =>
      rw [List.nil_append, cutLast?, cutLast?_eq_none_iff.mpr h]
      exact if_pos rfl
  | cons c before ih => rw [List.cons_append, cutLast?, ih]

theorem not_mem_of_cutLast? (h : cutLast? mark cs = some (before, after)) : mark ∉ after := by
  induction cs generalizing before with
  | nil => cases h
  | cons c cs ih =>
      rw [cutLast?] at h
      split at h
      · next hp =>
        cases h
        exact ih hp
      · next hnone =>
        split at h
        · cases h
          exact cutLast?_eq_none_iff.mp hnone
        · cases h

/-- Where a text is cut first, it is cut at one place. -/
theorem append_inj_of_first {before' after' : List Char} (h : mark ∉ before) (h' : mark ∉ before')
    (heq : before ++ mark :: after = before' ++ mark :: after') :
    before = before' ∧ after = after' := by
  have hcut := cut?_append h after
  rw [heq, cut?_append h' after'] at hcut
  cases hcut
  exact ⟨rfl, rfl⟩

theorem append_inj_of_last {before' after' : List Char} (h : mark ∉ after) (h' : mark ∉ after')
    (heq : before ++ mark :: after = before' ++ mark :: after') :
    before = before' ∧ after = after' := by
  have hcut := cutLast?_append before h
  rw [heq, cutLast?_append before' h'] at hcut
  cases hcut
  exact ⟨rfl, rfl⟩

end Text

namespace PackageUrl

open Text

variable {mark : Char} {cs before : List Char} {after : Option (List Char)}

/-- A part that may be missing, with its mark in front. -/
def tail (mark : Char) : Option (List Char) → List Char
  | some cs => mark :: cs
  | none => []

/-- The text is a first part and, where it has the mark, what follows the last one. -/
structure IsCut (mark : Char) (cs before : List Char) (after : Option (List Char)) : Prop where
  eq : cs = before ++ tail mark after
  last : ∀ part ∈ after, mark ∉ part
  absent : after = none → mark ∉ cs

theorem cutTail_of_none (h : cutLast? mark cs = none) : cutTail mark cs = (cs, none) := by
  rw [cutTail, h]

theorem cutTail_of_some {part : List Char} (h : cutLast? mark cs = some (before, part)) :
    cutTail mark cs = (before, some part) := by
  rw [cutTail, h]

theorem isCut_iff : cutTail mark cs = (before, after) ↔ IsCut mark cs before after := by
  constructor
  · intro h
    cases hcut : cutLast? mark cs with
    | none =>
        rw [cutTail_of_none hcut] at h
        cases h
        exact ⟨(List.append_nil cs).symm, nofun, fun _ => cutLast?_eq_none_iff.mp hcut⟩
    | some parts =>
        rw [cutTail_of_some hcut] at h
        cases h
        refine ⟨eq_append_of_cutLast? hcut, ?_, nofun⟩
        rintro part ⟨⟩
        exact not_mem_of_cutLast? hcut
  · rintro ⟨heq, hlast, habsent⟩
    cases after with
    | none =>
        rw [cutTail_of_none (cutLast?_eq_none_iff.mpr (habsent rfl)), heq, tail, List.append_nil]
    | some part =>
        rw [heq]
        exact cutTail_of_some (cutLast?_append before (hlast part rfl))

/-- Slashes are signs, so signs are lost where slashes are taken away. -/
theorem loses_dropWhile_slash (cs : List Char) : Loses signs cs (cs.dropWhile (· == '/')) := by
  cases cs with
  | nil => exact .inr rfl
  | cons c cs =>
      by_cases hc : c = '/'
      · subst hc
        left
        rw [List.dropWhile_cons_of_pos (by rfl), signs_cons (by rfl)]
        exact Nat.lt_succ_of_le (List.dropWhile_sublist _).countP_le
      · right
        exact List.dropWhile_cons_of_neg (by simpa using hc)

theorem loses_trimSlashes (cs : List Char) : Loses signs cs (trimSlashes cs) := by
  refine (loses_dropWhile_slash cs).trans ?_
  have hback := loses_dropWhile_slash (cs.dropWhile (· == '/')).reverse
  unfold Loses at hback
  rw [signs_reverse] at hback
  unfold Loses trimSlashes
  rw [signs_reverse]
  exact hback.imp_right fun heq => by rw [heq, List.reverse_reverse]

/-! ## Scopes -/

theorem decode_eq_ok_iff {s : String} :
    decode cs = .ok s ↔ percentDecode? (String.ofList cs) = some s := by
  unfold decode
  cases percentDecode? (String.ofList cs) <;> simp

theorem loses_of_decode {s : String} (h : decode cs = .ok s) : Loses signs cs s.toList := by
  have hlost := loses_of_percentDecode? (decode_eq_ok_iff.mp h)
  rwa [String.toList_ofList] at hlost

/-- The signs of segments, with a slash behind each. -/
def segmentSigns : List (List Char) → Nat
  | [] => 0
  | segment :: segments => signs segment + 1 + segmentSigns segments

theorem signs_intercalate {segments : List (List Char)} (h : segments ≠ []) :
    signs (['/'].intercalate segments) + 1 = segmentSigns segments := by
  obtain ⟨first, rest, rfl⟩ := List.exists_cons_of_ne_nil h
  induction rest generalizing first with
  | nil => simp [segmentSigns]
  | cons second rest ih =>
      rw [List.intercalate_cons_cons, signs_append, signs_append]
      have hrest := ih second (List.cons_ne_nil _ _)
      have hslash : signs ['/'] = 1 := rfl
      rw [segmentSigns]
      omega

theorem segmentSigns_splitOn (cs : List Char) : segmentSigns (cs.splitOn '/') = signs cs + 1 := by
  rw [← signs_intercalate (List.splitOn_ne_nil '/' cs), List.intercalate_splitOn]

theorem Loses.cons_segment {segment segment' : List Char} {segments segments' : List (List Char)}
    (h : Loses signs segment segment') (h' : Loses segmentSigns segments segments') :
    Loses segmentSigns (segment :: segments) (segment' :: segments') := by
  have hle := h.le
  have hle' := h'.le
  unfold Loses at *
  rw [segmentSigns, segmentSigns]
  rcases h with hlt | rfl
  · exact .inl (by omega)
  · exact h'.imp (fun hlt => by omega) (fun heq => by rw [heq])

/-- Signs are lost with every segment that is left out. -/
theorem loses_filter (p : List Char → Bool) (segments : List (List Char)) :
    Loses segmentSigns segments (segments.filter p) := by
  induction segments with
  | nil => exact .inr rfl
  | cons segment segments ih =>
      cases hp : p segment with
      | false =>
          left
          rw [List.filter_cons_of_neg (by simp [hp]), segmentSigns]
          have := ih.le
          omega
      | true =>
          rw [List.filter_cons_of_pos hp]
          exact Loses.cons_segment (.inr rfl) ih

theorem scopeComponent_eq_ok_iff {s : String} :
    scopeComponent cs = .ok s ↔ decode cs = .ok s ∧ s ≠ "" ∧ '/' ∉ s.toList := by
  unfold scopeComponent
  constructor
  · intro h
    obtain ⟨t, ht, h⟩ := exists_of_bind_eq_ok h
    split at h
    · cases h
    · next hs =>
      cases h
      rw [Bool.or_eq_true, not_or] at hs
      exact ⟨ht, by simpa using hs.1, by simpa using hs.2⟩
  · rintro ⟨h, hne, hslash⟩
    rw [h]
    exact if_neg (by simp [hne, hslash])

/-- Signs are lost with every segment that is decoded. -/
theorem loses_mapM {segments : List (List Char)} {parts : List String}
    (h : segments.mapM scopeComponent = .ok parts) :
    Loses segmentSigns segments (parts.map String.toList) := by
  induction segments generalizing parts with
  | nil =>
      cases h
      exact .inr rfl
  | cons segment segments ih =>
      rw [List.mapM_cons] at h
      obtain ⟨part, hpart, h⟩ := exists_of_bind_eq_ok h
      obtain ⟨rest, hrest, h⟩ := exists_of_bind_eq_ok h
      cases h
      exact Loses.cons_segment (loses_of_decode (scopeComponent_eq_ok_iff.mp hpart).1) (ih hrest)

/-- A scope is decoded to itself if each of its segments is. -/
theorem mapM_scopeComponent_eq_iff {segments : List (List Char)} :
    segments.mapM scopeComponent = .ok (segments.map String.ofList) ↔
      ∀ segment ∈ segments, scopeComponent segment = .ok (String.ofList segment) := by
  induction segments with
  | nil => exact iff_of_true rfl nofun
  | cons segment segments ih =>
      rw [List.mapM_cons, List.forall_mem_cons, ← ih]
      constructor
      · intro h
        obtain ⟨part, hpart, h⟩ := exists_of_bind_eq_ok h
        obtain ⟨rest, hrest, h⟩ := exists_of_bind_eq_ok h
        obtain ⟨rfl, rfl⟩ := List.cons.inj (Except.ok.inj h)
        exact ⟨hpart, hrest⟩
      · rintro ⟨hpart, hrest⟩
        rw [hpart]
        show segments.mapM scopeComponent >>= _ = _
        rw [hrest]
        rfl

/-! ## The stages of reading -/

/-- The scope and the name of a path, still encoded. -/
def scopeAndName (path : List Char) : List Char × List Char :=
  match cutLast? '/' path with
  | some (before, after) => (before, after)
  | none => ([], path)

theorem scopeAndName_of_not_mem (h : '/' ∉ cs) : scopeAndName cs = ([], cs) := by
  rw [scopeAndName, cutLast?_eq_none_iff.mpr h]

theorem scopeAndName_append (scope : List Char) {name : List Char} (h : '/' ∉ name) :
    scopeAndName (scope ++ '/' :: name) = (scope, name) := by
  rw [scopeAndName, cutLast?_append scope h]

/-- The segments of a subpath. -/
def readSubpath : Option (List Char) → Except UrlFault (Option (List String))
  | some path => some <$> (components path).mapM subpathSegment
  | none => .ok none

def readVersion : Option (List Char) → Except UrlFault String
  | some v => decode v
  | none => .ok ""

/-- What is read from the type on, where the version is known. -/
def readPackage (segments : Option (List String)) (version : String) (cs : List Char) :
    Except UrlFault Coordinate := do
  let (type, rest) ← typeAndRest cs
  let (scope, name) := scopeAndName (trimSlashes rest)
  if name.isEmpty then .error .missingName
  else
    let name ← decode name
    let scope ← (components scope).mapM scopeComponent
    if segments = some [] then .error (.invalidSubpath "")
    else
      .ok {
        type := type
        scope := present? (canonicalScope type ("/".intercalate scope))
        name := canonicalName type name
        version := present? version }

def readTails (cs : List Char) : Except UrlFault Coordinate := do
  let (cs, subpath) := cutTail '#' cs
  let segments ← readSubpath subpath
  let (cs, qualifiers) := cutTail '?' cs
  (qualifiers.elim [] (·.splitOn '&')).forM checkQualifier
  let (cs, version) := cutTail '@' cs
  let version ← readVersion version
  readPackage segments version cs

theorem read_eq (text : String) : read text = afterScheme (trim text.toList) >>= readTails := by
  unfold read
  refine bind_congr fun cs => ?_
  unfold readTails
  obtain ⟨cs, subpath⟩ := cutTail '#' cs
  dsimp only
  obtain ⟨cs, qualifiers⟩ := cutTail '?' cs
  dsimp only
  obtain ⟨cs, version⟩ := cutTail '@' cs
  cases subpath <;> cases version <;> rfl

/-! ## Pieces -/

/-- The pieces of a URL behind its scheme, still encoded. -/
structure Pieces where
  type : List Char
  rest : List Char
  version : Option (List Char)
  qualifiers : Option (List Char)
  subpath : Option (List Char)

namespace Pieces

/-- The pieces up to the version. -/
def main (p : Pieces) : List Char := p.type ++ '/' :: p.rest

/-- The pieces up to the qualifiers. -/
def versioned (p : Pieces) : List Char := p.main ++ tail '@' p.version

/-- The pieces up to the subpath. -/
def qualified (p : Pieces) : List Char := p.versioned ++ tail '?' p.qualifiers

def text (p : Pieces) : List Char := p.qualified ++ tail '#' p.subpath

/-- The pieces are those into which a reader takes their text. -/
structure AreCut (p : Pieces) : Prop where
  subpath : IsCut '#' p.text p.qualified p.subpath
  qualifiers : IsCut '?' p.qualified p.versioned p.qualifiers
  version : IsCut '@' p.versioned p.main p.version
  type : '/' ∉ p.type

/-- The scope and the name among the pieces. -/
def path (p : Pieces) : List Char × List Char := scopeAndName (trimSlashes p.rest)

/-- A coordinate is what the pieces stand for. -/
structure Give (p : Pieces) (c : Coordinate) : Prop where
  isWord : isWord ['.', '-', '+'] p.type = true
  type : c.type = String.ofList (p.type.map Char.toLower)
  scope : ∃ parts, (components p.path.1).mapM scopeComponent = .ok parts ∧
    c.scope = present? (canonicalScope c.type ("/".intercalate parts))
  name_ne_nil : p.path.2 ≠ []
  name : ∃ name, decode p.path.2 = .ok name ∧ c.name = canonicalName c.type name
  version : ∃ version, readVersion p.version = .ok version ∧ c.version = present? version

end Pieces

variable {c : Coordinate}

theorem typeAndRest_eq_ok_iff {type : String} {rest : List Char} :
    typeAndRest cs = .ok (type, rest) ↔ ∃ written, cs = written ++ '/' :: rest ∧ '/' ∉ written ∧
      isWord ['.', '-', '+'] written = true ∧ type = String.ofList (written.map Char.toLower) := by
  unfold typeAndRest
  constructor
  · intro h
    split at h
    · cases h
    · next written rest' hcut =>
      split at h
      · next hword =>
        cases h
        exact ⟨written, eq_append_of_cut? hcut, not_mem_of_cut? hcut, hword, rfl⟩
      · cases h
  · rintro ⟨written, rfl, hslash, hword, rfl⟩
    rw [cut?_append hslash]
    exact if_pos hword

theorem readPackage_eq_ok_iff {segments : Option (List String)} {version : String} :
    readPackage segments version cs = .ok c ↔ segments ≠ some [] ∧ ∃ type rest name parts,
      typeAndRest cs = .ok (type, rest) ∧ (scopeAndName (trimSlashes rest)).2 ≠ [] ∧
      decode (scopeAndName (trimSlashes rest)).2 = .ok name ∧
      (components (scopeAndName (trimSlashes rest)).1).mapM scopeComponent = .ok parts ∧
      c = {
        type := type
        scope := present? (canonicalScope type ("/".intercalate parts))
        name := canonicalName type name
        version := present? version } := by
  unfold readPackage
  constructor
  · intro h
    obtain ⟨⟨type, rest⟩, htype, h⟩ := exists_of_bind_eq_ok h
    dsimp only at h
    split at h
    · cases h
    · next hname =>
      obtain ⟨name, hdecode, h⟩ := exists_of_bind_eq_ok h
      obtain ⟨parts, hparts, h⟩ := exists_of_bind_eq_ok h
      split at h
      · cases h
      · next hsegments =>
        exact ⟨hsegments, type, rest, name, parts, htype, by simpa using hname, hdecode, hparts,
          (Except.ok.inj h).symm⟩
  · rintro ⟨hsegments, type, rest, name, parts, htype, hname, hdecode, hparts, rfl⟩
    rw [htype]
    show (if (scopeAndName (trimSlashes rest)).2.isEmpty then _ else _) = _
    rw [if_neg (by simpa using hname)]
    show (decode (scopeAndName (trimSlashes rest)).2 >>= _) = _
    rw [hdecode]
    show ((components (scopeAndName (trimSlashes rest)).1).mapM scopeComponent >>= _) = _
    rw [hparts]
    exact if_neg hsegments

/-- What is read was given by its pieces. -/
theorem exists_pieces (h : readTails cs = .ok c) : ∃ p : Pieces, p.text = cs ∧ p.AreCut ∧ p.Give c := by
  unfold readTails at h
  generalize hsubpath : cutTail '#' cs = p at h
  obtain ⟨cs₁, subpath⟩ := p
  obtain ⟨segments, -, h⟩ := exists_of_bind_eq_ok h
  dsimp only at h
  generalize hqualifiers : cutTail '?' cs₁ = p at h
  obtain ⟨cs₂, qualifiers⟩ := p
  obtain ⟨-, -, h⟩ := exists_of_bind_eq_ok h
  dsimp only at h
  generalize hversion : cutTail '@' cs₂ = p at h
  obtain ⟨cs₃, version⟩ := p
  obtain ⟨decoded, hdecoded, h⟩ := exists_of_bind_eq_ok h
  obtain ⟨-, type, rest, name, parts, htype, hname, hdecode, hparts, rfl⟩ :=
    readPackage_eq_ok_iff.mp h
  obtain ⟨written, rfl, hslash, hword, rfl⟩ := typeAndRest_eq_ok_iff.mp htype
  rw [isCut_iff] at hsubpath hqualifiers hversion
  obtain rfl := hversion.eq
  obtain rfl := hqualifiers.eq
  obtain rfl := hsubpath.eq
  exact ⟨⟨written, rest, version, qualifiers, subpath⟩, rfl,
    ⟨hsubpath, hqualifiers, hversion, hslash⟩,
    ⟨hword, rfl, ⟨parts, hparts, rfl⟩, hname, ⟨name, hdecode, rfl⟩, ⟨decoded, hdecoded, rfl⟩⟩⟩

/-- Pieces without qualifiers and a subpath are read as what they stand for. -/
theorem readTails_text {p : Pieces} (hcut : p.AreCut) (h : p.Give c) (hqualifiers : p.qualifiers = none)
    (hsubpath : p.subpath = none) : readTails p.text = .ok c := by
  obtain ⟨hword, htype, ⟨parts, hparts, hscope⟩, hname, ⟨name, hdecode, hname'⟩,
    ⟨version, hversion, hversion'⟩⟩ := h
  have htails : readTails p.text = readPackage none version p.main := by
    simp only [readTails, isCut_iff.mpr hcut.subpath, hsubpath, isCut_iff.mpr hcut.qualifiers,
      hqualifiers, isCut_iff.mpr hcut.version, hversion, readSubpath, Option.elim_none]
    rfl
  rw [htails]
  refine readPackage_eq_ok_iff.mpr ⟨nofun, c.type, p.rest, name, parts, ?_, hname, hdecode, hparts, ?_⟩
  · exact typeAndRest_eq_ok_iff.mpr ⟨p.type, rfl, hcut.type, hword, htype⟩
  · rw [← hscope, ← hname', ← hversion']

/-! ## Reading by bytes

Which text some bytes have is not to be computed in a proof, but which bytes a text has is. So a
text with escapes is read by telling its pieces and what they stand for.
-/

/-- The bytes that a piece stands for. -/
def decodedBytes (cs : List Char) : List UInt8 := percentBytes (utf8 (String.ofList cs))

theorem decode_of_bytes {s : String} (h : decodedBytes cs = utf8 s) : decode cs = .ok s :=
  decode_eq_ok_iff.mpr (ofUtf8?_eq_some_iff.mpr h)

theorem mapM_scopeComponent_of_bytes {segments : List (List Char)} {parts : List String}
    (h : segments.map decodedBytes = parts.map utf8)
    (hparts : ∀ part ∈ parts, part ≠ "" ∧ '/' ∉ part.toList) :
    segments.mapM scopeComponent = .ok parts := by
  induction segments generalizing parts with
  | nil =>
      obtain rfl := List.map_eq_nil_iff.mp h.symm
      rfl
  | cons segment segments ih =>
      obtain ⟨part, rest, rfl, hpart, hrest⟩ := List.map_eq_cons_iff.mp h.symm
      rw [List.forall_mem_cons] at hparts
      rw [List.mapM_cons, scopeComponent_eq_ok_iff.mpr ⟨decode_of_bytes hpart.symm, hparts.1⟩]
      show segments.mapM scopeComponent >>= _ = _
      rw [ih hrest.symm hparts.2]
      rfl

namespace Pieces

/-- The text is written with these pieces, without qualifiers and a subpath, and they stand for the
parts of a scope, a name and a version. -/
structure Written (p : Pieces) (text : String) (parts : List String) (name : String)
    (version : Option String) : Prop where
  text : afterScheme (trim text.toList) = .ok p.text
  plain : p.qualifiers = none ∧ p.subpath = none
  unmarked : '#' ∉ p.text ∧ '?' ∉ p.text
  cut : cutTail '@' p.text = (p.main, p.version)
  type : '/' ∉ p.type ∧ isWord ['.', '-', '+'] p.type = true
  scope : (components p.path.1).map decodedBytes = parts.map utf8
  parts : ∀ part ∈ parts, part ≠ "" ∧ '/' ∉ part.toList
  name_ne_nil : p.path.2 ≠ []
  name : decodedBytes p.path.2 = utf8 name
  version : p.version.map decodedBytes = version.map utf8

/-- The coordinate for which they stand then. -/
def coordinate (p : Pieces) (parts : List String) (name : String) (version : Option String) :
    Coordinate :=
  let type := String.ofList (p.type.map Char.toLower)
  { type := type
    scope := present? (canonicalScope type ("/".intercalate parts))
    name := canonicalName type name
    version := present? (version.getD "") }

variable {p : Pieces} {text : String} {parts : List String} {name : String}
  {version : Option String}

theorem Written.areCut (h : p.Written text parts name version) : p.AreCut := by
  obtain ⟨hqualifiers, hsubpath⟩ := h.plain
  have hqualified : p.qualified = p.text := by simp [Pieces.text, hsubpath, tail]
  have hversioned : p.versioned = p.text := by
    simp [← hqualified, Pieces.qualified, hqualifiers, tail]
  constructor
  case subpath =>
    rw [hqualified, hsubpath]
    exact ⟨(List.append_nil _).symm, nofun, fun _ => h.unmarked.1⟩
  case qualifiers =>
    rw [hqualified, hversioned, hqualifiers]
    exact ⟨(List.append_nil _).symm, nofun, fun _ => h.unmarked.2⟩
  case version =>
    rw [hversioned]
    exact isCut_iff.mp h.cut
  case type => exact h.type.1

theorem Written.give (h : p.Written text parts name version) :
    p.Give (p.coordinate parts name version) := by
  constructor
  case isWord => exact h.type.2
  case type => rfl
  case scope => exact ⟨parts, mapM_scopeComponent_of_bytes h.scope h.parts, rfl⟩
  case name_ne_nil => exact h.name_ne_nil
  case name => exact ⟨name, decode_of_bytes h.name, rfl⟩
  case version =>
    refine ⟨version.getD "", ?_, rfl⟩
    have hversion := h.version
    cases version with
    | none =>
        rw [Option.map_eq_none_iff.mp hversion]
        rfl
    | some v =>
        obtain ⟨written, hwritten, hbytes⟩ := Option.map_eq_some_iff.mp hversion
        rw [hwritten]
        exact decode_of_bytes hbytes

/-- A text is read as that for which its pieces stand. -/
theorem Written.read (h : p.Written text parts name version) :
    read text = .ok (p.coordinate parts name version) := by
  rw [read_eq, h.text]
  exact readTails_text h.areCut h.give h.plain.1 h.plain.2

end Pieces

end PackageUrl
end AdvisoryLedger
