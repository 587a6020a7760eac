import AdvisoryLedger.Proofs.Package.Canonical
import AdvisoryLedger.Proofs.Package.Reading

/-!
# The text of a coordinate

The text of a coordinate has its parts as they are, with marks between them. A reader finds the
marks before it decodes the parts. So a part that reads like a mark or like an escape is not
read as what it was written for, and the text stands for another coordinate or for none.

`Coordinate.ReadsBack` says of a coordinate that there is nothing of the kind in it, and
`read_display_of_readsBack` that its text is then read as the coordinate. There is a converse,
in `AdvisoryLedger.Proofs.Package.Addresses`.
-/

namespace AdvisoryLedger

open Text PackageUrl

/-! ## The text of a coordinate -/

/-- A scope with the slash behind it. -/
def scopeText : Option String → List Char
  | some scope => scope.toList ++ ['/']
  | none => []

namespace Coordinate

def path (c : Coordinate) : List Char := scopeText c.scope ++ c.name.toList

/-- The text of a coordinate behind its type. -/
def rest (c : Coordinate) : List Char := c.path ++ tail '@' (c.version.map String.toList)

theorem toList_display (c : Coordinate) :
    c.display.toList = "pkg:".toList ++ (c.type.toList ++ '/' :: c.rest) := by
  obtain ⟨type, scope, name, version⟩ := c
  cases scope <;> cases version <;>
    simp [display, rest, path, scopeText, tail, String.toList_append]

/-- What is true of every coordinate that was read. -/
structure IsRead (c : Coordinate) : Prop where
  isWord : isWord ['.', '-', '+'] c.type.toList = true
  type : c.type.toList.map Char.toLower = c.type.toList
  scope : ∀ s ∈ c.scope, s ≠ "" ∧ canonicalScope c.type s = s
  name_ne_empty : c.name ≠ ""
  name : canonicalName c.type c.name = c.name
  version : ∀ v ∈ c.version, v ≠ ""

/-- The segments of a scope. -/
def scopeSegments (c : Coordinate) : List (List Char) :=
  c.scope.elim [] fun scope => scope.toList.splitOn '/'

/-- The parts that a reader decodes one by one. -/
def parts (c : Coordinate) : List String :=
  c.scopeSegments.map String.ofList ++ c.name :: c.version.toList

/-- Nothing in the text of the coordinate can be mistaken for something else. -/
structure ReadsBack (c : Coordinate) : Prop where
  /-- There are no qualifiers and no subpath. -/
  unmarked : '#' ∉ c.display.toList ∧ '?' ∉ c.display.toList
  /-- The last `@` is the one before the version. -/
  version : ∀ v ∈ c.version, '@' ∉ v.toList
  unversioned : c.version = none → '@' ∉ c.display.toList
  /-- The last slash is the one before the name. -/
  name : '/' ∉ c.name.toList
  /-- No segment is empty or names a directory. -/
  scope : ∀ segment ∈ c.scopeSegments, segment ∉ [[], ['.'], ['.', '.']]
  /-- Nothing is an escape. -/
  plain : ∀ part ∈ c.parts, percentDecode? part = some part
  /-- No blank is behind it. -/
  last : ∀ a ∈ c.display.toList.getLast?, isBlank a = false

end Coordinate

namespace PackageUrl

variable {c : Coordinate}

theorem eq_of_present? {s t : String} (h : present? s = some t) : s = t ∧ t ≠ "" := by
  unfold present? at h
  split at h
  · cases h
  · next hs =>
    obtain rfl := Option.some.inj h
    exact ⟨rfl, by simpa using hs⟩

theorem present?_of_ne {s : String} (h : s ≠ "") : present? s = some s :=
  if_neg (by simpa using h)

theorem Pieces.Give.isRead {p : Pieces} (h : p.Give c) : c.IsRead := by
  obtain ⟨parts, -, hscope⟩ := h.scope
  obtain ⟨name, hdecode, hname⟩ := h.name
  obtain ⟨version, -, hversion⟩ := h.version
  constructor
  case isWord =>
    rw [h.type, String.toList_ofList]
    exact (isWord_map_toLower h.isWord).1
  case type =>
    rw [h.type, String.toList_ofList]
    exact (isWord_map_toLower h.isWord).2
  case scope =>
    intro s hs
    obtain ⟨rfl, hne⟩ := eq_of_present? (hscope.symm.trans hs)
    exact ⟨hne, canonicalScope_canonicalScope _ _⟩
  case name_ne_empty =>
    rw [hname]
    apply canonicalName_ne_empty
    refine ne_empty_of_percentDecode? (decode_eq_ok_iff.mp hdecode) fun hempty => ?_
    exact h.name_ne_nil (String.ofList_eq_empty_iff.mp hempty)
  case name =>
    rw [hname]
    exact canonicalName_canonicalName _ _
  case version =>
    intro v hv
    exact (eq_of_present? (hversion.symm.trans hv)).2

theorem exists_isRead {text : String} (h : read text = .ok c) : c.IsRead := by
  rw [read_eq] at h
  obtain ⟨cs, -, h⟩ := exists_of_bind_eq_ok h
  obtain ⟨p, -, -, hgive⟩ := exists_pieces h
  exact hgive.isRead

/-- Reading the text of a coordinate begins with its type. -/
theorem read_display (h : c.IsRead) :
    read c.display = readTails (c.type.toList ++ '/' :: trimRight c.rest) := by
  have hslash : '/' ∉ c.type.toList := not_mem_of_isWord h.isWord (by decide)
  have htrim : trim c.display.toList
      = "pkg".toList ++ ':' :: (c.type.toList ++ '/' :: trimRight c.rest) := by
    have hsplit : c.display.toList = ("pkg:".toList ++ (c.type.toList ++ ['/'])) ++ c.rest := by
      rw [Coordinate.toList_display]
      simp
    have hlast : ∀ a ∈ ("pkg:".toList ++ (c.type.toList ++ ['/'])).getLast?, isBlank a = false := by
      rw [← List.append_assoc, List.getLast?_append]
      simp
      decide
    have hhead : ∀ a ∈ (("pkg:".toList ++ (c.type.toList ++ ['/'])) ++ c.rest).head?,
        isBlank a = false := by
      intro a ha
      cases ha
      decide
    rw [trim, hsplit, trimLeft_eq_self hhead, trimRight_append_of_last hlast]
    simp
  have hscheme : afterScheme (trim c.display.toList)
      = .ok (c.type.toList ++ '/' :: trimRight c.rest) := by
    rw [htrim, afterScheme, cut?_append (by decide)]
    show Except.ok ((c.type.toList ++ '/' :: trimRight c.rest).dropWhile (· == '/')) = _
    cases htype : c.type.toList with
    | nil =>
        have hword := h.isWord
        rw [htype] at hword
        cases hword
    | cons a as =>
        rw [htype, List.mem_cons, not_or] at hslash
        rw [List.cons_append, List.dropWhile_cons_of_neg (by simpa using Ne.symm hslash.1)]
  rw [read_eq, hscheme]
  rfl

theorem rest_ne_nil (h : c.IsRead) : c.rest ≠ [] := by
  intro hnil
  have hpath := (List.append_eq_nil_iff.mp hnil).1
  exact h.name_ne_empty (String.toList_eq_nil_iff.mp (List.append_eq_nil_iff.mp hpath).2)

/-- The text of a coordinate ends as what is behind its type. -/
theorem getLast?_display (h : c.IsRead) : c.display.toList.getLast? = c.rest.getLast? := by
  rw [Coordinate.toList_display, List.append_cons, ← List.append_assoc, List.getLast?_append,
    List.getLast?_eq_some_getLast (rest_ne_nil h), Option.some_or]

/-! ## A text that reads back -/

theorem trimSlashes_eq_self {cs : List Char} (hhead : cs.head? ≠ some '/')
    (hlast : cs.getLast? ≠ some '/') : trimSlashes cs = cs := by
  have hdrop {ds : List Char} (h : ds.head? ≠ some '/') : ds.dropWhile (· == '/') = ds := by
    cases ds with
    | nil => rfl
    | cons d ds => exact List.dropWhile_cons_of_neg (by simpa using h)
  unfold trimSlashes
  rw [hdrop hhead, hdrop (by rwa [List.head?_reverse]), List.reverse_reverse]

theorem components_eq_iff {cs : List Char} : components cs = cs.splitOn '/' ↔
    ∀ segment ∈ cs.splitOn '/', segment ∉ [[], ['.'], ['.', '.']] := by
  unfold components
  rw [List.filter_eq_self]
  refine forall₂_congr fun segment _ => ?_
  simp [and_assoc]

theorem head_ne_slash {cs : List Char}
    (h : ∀ segment ∈ cs.splitOn '/', segment ∉ [[], ['.'], ['.', '.']]) : cs.head? ≠ some '/' := by
  intro hhead
  obtain ⟨rest, rfl⟩ := List.head?_eq_some_iff.mp hhead
  rw [List.splitOn_cons_eq_if_modifyHead, if_pos (by rfl)] at h
  exact h [] (List.mem_cons_self ..) (by simp)

theorem trimSlashes_path (h : c.IsRead) (hb : c.ReadsBack) : trimSlashes c.path = c.path := by
  have hname : c.name.toList ≠ [] := fun hnil => h.name_ne_empty (String.toList_eq_nil_iff.mp hnil)
  have hmem {a : Char} (ha : a ∈ c.name.toList) : some a ≠ some '/' := by
    intro heq
    exact hb.name (Option.some.inj heq ▸ ha)
  unfold Coordinate.path
  apply trimSlashes_eq_self
  · cases hscope : c.scope with
    | none =>
        rw [scopeText, List.nil_append, List.head?_eq_some_head hname]
        exact hmem (List.head_mem hname)
    | some s =>
        have hs : s.toList ≠ [] := fun hnil =>
          (h.scope s hscope).1 (String.toList_eq_nil_iff.mp hnil)
        have hsegments := hb.scope
        rw [Coordinate.scopeSegments, hscope] at hsegments
        have hhead := head_ne_slash hsegments
        rw [List.head?_eq_some_head hs] at hhead
        rw [scopeText, List.append_assoc, List.head?_append, List.head?_eq_some_head hs,
          Option.some_or]
        exact hhead
  · rw [List.getLast?_append, List.getLast?_eq_some_getLast hname, Option.some_or]
    exact hmem (List.getLast_mem hname)

theorem scopeAndName_path (hb : c.ReadsBack) :
    scopeAndName c.path = ((c.scope.map String.toList).getD [], c.name.toList) := by
  unfold Coordinate.path
  cases c.scope with
  | none => exact scopeAndName_of_not_mem hb.name
  | some s =>
      rw [scopeText, List.append_assoc, List.singleton_append, scopeAndName_append _ hb.name]
      rfl

/-- The pieces of the text of a coordinate. -/
def piecesOf (c : Coordinate) : Pieces :=
  ⟨c.type.toList, c.path, c.version.map String.toList, none, none⟩

theorem text_piecesOf (c : Coordinate) : (piecesOf c).text = c.type.toList ++ '/' :: c.rest := by
  simp [piecesOf, Pieces.text, Pieces.qualified, Pieces.versioned, Pieces.main, Coordinate.rest, tail]

theorem areCut_piecesOf (h : c.IsRead) (hb : c.ReadsBack) : (piecesOf c).AreCut := by
  have htext := text_piecesOf c
  have hsub {mark : Char} (hmark : mark ∉ c.display.toList) : mark ∉ (piecesOf c).text := by
    rw [htext]
    rw [Coordinate.toList_display] at hmark
    exact fun hmem => hmark (List.mem_append_right _ hmem)
  have hqualified : (piecesOf c).qualified = (piecesOf c).text := (List.append_nil _).symm
  have hversioned : (piecesOf c).versioned = (piecesOf c).text := by
    rw [← hqualified]
    exact (List.append_nil _).symm
  refine ⟨⟨rfl, nofun, fun _ => hsub hb.unmarked.1⟩,
    ⟨rfl, nofun, fun _ => hqualified ▸ hsub hb.unmarked.2⟩, ⟨rfl, ?_, ?_⟩,
    not_mem_of_isWord h.isWord (by decide)⟩
  · intro part hpart
    obtain ⟨v, hv, rfl⟩ := Option.map_eq_some_iff.mp hpart
    exact hb.version v hv
  · intro hnone
    rw [hversioned]
    exact hsub (hb.unversioned (Option.map_eq_none_iff.mp hnone))

theorem intercalate_segments (s : String) :
    "/".intercalate ((s.toList.splitOn '/').map String.ofList) = s := by
  apply String.toList_injective
  rw [String.toList_intercalate, List.map_map]
  have hid : String.toList ∘ String.ofList = id := funext fun _ => String.toList_ofList
  rw [hid, List.map_id]
  exact List.intercalate_splitOn '/'

/-- The scope is read as it is. -/
theorem scope_piecesOf (h : c.IsRead) (hb : c.ReadsBack) :
    ∃ parts, (components ((c.scope.map String.toList).getD [])).mapM scopeComponent = .ok parts ∧
      c.scope = present? (canonicalScope c.type ("/".intercalate parts)) := by
  have hsegments := hb.scope
  have hplain := hb.plain
  cases hscope : c.scope with
  | none =>
      refine ⟨[], rfl, ?_⟩
      exact (congrArg present? (canonicalScope_empty c.type)).symm
  | some s =>
      rw [Coordinate.scopeSegments, hscope] at hsegments
      rw [Coordinate.parts, Coordinate.scopeSegments, hscope] at hplain
      refine ⟨(s.toList.splitOn '/').map String.ofList, ?_, ?_⟩
      · show (components s.toList).mapM scopeComponent = _
        rw [components_eq_iff.mpr hsegments, mapM_scopeComponent_eq_iff]
        intro segment hsegment
        rw [scopeComponent_eq_ok_iff, decode_eq_ok_iff, String.toList_ofList]
        refine ⟨hplain _ ?_, ?_, not_mem_of_mem_splitOn hsegment⟩
        · exact List.mem_append_left _ (List.mem_map_of_mem hsegment)
        · intro hempty
          exact hsegments segment hsegment (by simp [String.ofList_eq_empty_iff.mp hempty])
      · obtain ⟨hne, hcanonical⟩ := h.scope s hscope
        rw [intercalate_segments, hcanonical, present?_of_ne hne]

theorem give_piecesOf (h : c.IsRead) (hb : c.ReadsBack) : (piecesOf c).Give c := by
  have hpath : (piecesOf c).path = ((c.scope.map String.toList).getD [], c.name.toList) := by
    show scopeAndName (trimSlashes c.path) = _
    rw [trimSlashes_path h hb, scopeAndName_path hb]
  have hdecode {part : String} (hpart : part ∈ c.parts) : decode part.toList = .ok part := by
    rw [decode_eq_ok_iff, String.ofList_toList]
    exact hb.plain part hpart
  constructor
  case isWord => exact h.isWord
  case type =>
    show c.type = String.ofList (c.type.toList.map Char.toLower)
    rw [h.type, String.ofList_toList]
  case scope =>
    rw [hpath]
    exact scope_piecesOf h hb
  case name_ne_nil =>
    rw [hpath]
    exact fun hnil => h.name_ne_empty (String.toList_eq_nil_iff.mp hnil)
  case name =>
    rw [hpath]
    exact ⟨c.name, hdecode (by simp [Coordinate.parts]), h.name.symm⟩
  case version =>
    show ∃ version, readVersion (c.version.map String.toList) = .ok version ∧ _
    cases hversion : c.version with
    | none => exact ⟨"", rfl, rfl⟩
    | some v =>
        refine ⟨v, hdecode ?_, (present?_of_ne (h.version v hversion)).symm⟩
        simp [Coordinate.parts, hversion]

theorem read_display_of_readsBack (h : c.IsRead) (hb : c.ReadsBack) : read c.display = .ok c := by
  have htrim : trimRight c.rest = c.rest := by
    apply trimRight_eq_self
    intro a ha
    exact hb.last a ((getLast?_display h).symm ▸ ha)
  rw [read_display h, htrim, ← text_piecesOf]
  exact readTails_text (areCut_piecesOf h hb) (give_piecesOf h hb) rfl rfl

end PackageUrl
end AdvisoryLedger
