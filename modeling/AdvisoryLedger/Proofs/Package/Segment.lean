import AdvisoryLedger.Proofs.Package.Addresses
import Mathlib.Data.List.Infix
import Mathlib.Data.Prod.Basic

/-!
# A coordinate is one segment of an address

The address at which a package is looked up has the text of its coordinate in it, encoded so that
it is a segment of the path. Whatever the coordinate has in its parts, only unreserved characters
and escapes come out (`IsEscaped`), and decoding them gives the text back. None of the marks by
which a URL is divided is among them, so the address has the segments, the query and the fragment
that the settings give it, and the coordinate stands alone in its segment.
-/

namespace AdvisoryLedger
namespace Text

/-! ## Escaped texts -/

/-- The digits of an escape. -/
def hexCapitals : List Char :=
  ['0', '1', '2', '3', '4', '5', '6', '7', '8', '9', 'A', 'B', 'C', 'D', 'E', 'F']

/-- The text has only unreserved characters and escapes. -/
inductive IsEscaped : List Char → Prop
  | nil : IsEscaped []
  | unreserved {c : Char} {cs : List Char} :
    c.isAlphanum = true ∨ c ∈ ['-', '.', '_', '~'] → IsEscaped cs → IsEscaped (c :: cs)
  | escape {high low : Char} {cs : List Char} :
    high ∈ hexCapitals → low ∈ hexCapitals → IsEscaped cs → IsEscaped ('%' :: high :: low :: cs)

theorem IsEscaped.append {cs ds : List Char} (hc : IsEscaped cs) (hd : IsEscaped ds) :
    IsEscaped (cs ++ ds) := by
  induction hc with
  | nil => exact hd
  | unreserved h _ ih => exact ih.unreserved h
  | escape hhigh hlow _ ih => exact ih.escape hhigh hlow

/-- No characters but these are left as they are. -/
theorem isAlphanum_or_mem_of_isUnreserved {c : Char} (h : isUnreserved c = true) :
    c.isAlphanum = true ∨ c ∈ ['-', '.', '_', '~'] := by
  simp [isUnreserved, isDigit_eq, Char.le_def] at h
  unfold Char.isAlphanum Char.isAlpha Char.isUpper Char.isLower
  grind

theorem hexDigit_mem_hexCapitals : ∀ n < 16, hexDigit n ∈ hexCapitals := by decide

theorem isEscaped_percentByte (b : UInt8) : IsEscaped (percentByte b) := by
  unfold percentByte
  dsimp only
  split
  · next h => exact .unreserved (isAlphanum_or_mem_of_isUnreserved h) .nil
  · have hb := b.toNat_lt
    exact .escape (hexDigit_mem_hexCapitals _ (by omega)) (hexDigit_mem_hexCapitals _ (by omega)) .nil

theorem isEscaped_percentEncode (s : String) : IsEscaped (percentEncode s).toList := by
  unfold percentEncode
  rw [String.toList_ofList]
  induction utf8 s with
  | nil => exact .nil
  | cons b bytes ih =>
      rw [List.flatMap_cons]
      exact (isEscaped_percentByte b).append ih

/-- The marks by which a URL is divided. -/
def urlMarks : List Char := ['/', '?', '#']

/-- None of them is what a text is escaped with or leaves as it is. -/
theorem of_mem_urlMarks : ∀ mark ∈ urlMarks, mark.isAlphanum = false ∧
    mark ∉ ['-', '.', '_', '~'] ∧ mark ≠ '%' ∧ mark ∉ hexCapitals := by
  simp [urlMarks, hexCapitals]

/-- There is none of them in an escaped text. -/
theorem IsEscaped.not_mem {cs : List Char} (h : IsEscaped cs) {mark : Char}
    (hmark : mark ∈ urlMarks) : mark ∉ cs := by
  obtain ⟨halphanum, hplain, hpercent, hdigit⟩ := of_mem_urlMarks mark hmark
  induction h with
  | nil => exact List.not_mem_nil
  | unreserved hc _ ih =>
      rw [List.mem_cons, not_or]
      refine ⟨?_, ih⟩
      rintro rfl
      exact hc.elim (by simp [halphanum]) hplain
  | escape hhigh hlow _ ih =>
      have hne {c : Char} (hc : c ∈ hexCapitals) : mark ≠ c := (ne_of_mem_of_not_mem hc hdigit).symm
      simp [hpercent, hne hhigh, hne hlow, ih]

end Text

open Text

/-! ## The parts of a URL -/

/-- The text up to the first place of a mark, and what follows the mark. -/
def cutOff (mark : Char) (cs : List Char) : List Char × Option (List Char) :=
  match cut? mark cs with
  | some (before, after) => (before, some after)
  | none => (cs, none)

theorem cut?_filter {mark : Char} {p : Char → Bool} (h : p mark = true) (cs : List Char) :
    cut? mark (cs.filter p) = (cut? mark cs).map (Prod.map (List.filter p) (List.filter p)) := by
  induction cs with
  | nil => rfl
  | cons c cs ih =>
      by_cases hc : c = mark
      · subst hc
        simp [cut?, h]
      · cases hp : p c with
        | false =>
            simp only [cut?, hc, hp, ih, List.filter_cons, Option.map_map, if_false,
              Bool.false_eq_true]
            exact Option.map_congr fun q _ => by simp [Prod.map_def, hp]
        | true => simp [cut?, hc, hp, ih, Function.comp_def]

theorem cutOff_filter (mark : Char) {p : Char → Bool} (h : p mark = true) (cs : List Char) :
    cutOff mark (cs.filter p)
      = ((cutOff mark cs).1.filter p, (cutOff mark cs).2.map (List.filter p)) := by
  unfold cutOff
  rw [cut?_filter h]
  cases cut? mark cs with
  | none => rfl
  | some q => rfl

/-- A mark that is not in the front of a text is looked for in the rest. -/
theorem cutOff_append {mark : Char} {front : List Char} (h : mark ∉ front) (rest : List Char) :
    cutOff mark (front ++ rest) = (front ++ (cutOff mark rest).1, (cutOff mark rest).2) := by
  have hcut : cut? mark (front ++ rest) = (cut? mark rest).map (Prod.map (front ++ ·) id) := by
    induction front with
    | nil => exact (congrFun Option.map_id _).symm
    | cons c front ih =>
        rw [List.mem_cons, not_or] at h
        rw [List.cons_append, cut?, if_neg (Ne.symm h.1), ih h.2, Option.map_map]
        rfl
  unfold cutOff
  rw [hcut]
  cases cut? mark rest with
  | none => rfl
  | some q => rfl

/-- What a URL is divided into: the segments between slashes, its scheme and host among them, the
query behind the first question mark, and the fragment behind the first number sign. -/
structure UrlParts where
  segments : List (List Char)
  query : Option (List Char)
  fragment : Option (List Char)

namespace UrlParts

def ofChars (url : List Char) : UrlParts :=
  let (front, fragment) := cutOff '#' url
  let (path, query) := cutOff '?' front
  ⟨path.splitOn '/', query, fragment⟩

/-- How many segments there are, and whether there are a query and a fragment. -/
def shape (u : UrlParts) : Nat × Bool × Bool :=
  (u.segments.length, u.query.isSome, u.fragment.isSome)

theorem length_splitOn (mark : Char) (cs : List Char) :
    (cs.splitOn mark).length = cs.count mark + 1 := by
  induction cs with
  | nil => rfl
  | cons c cs ih =>
      rw [List.splitOn_cons_eq_if_modifyHead]
      by_cases hc : c = mark
      · simp [hc, ih]
      · simp [hc, ih]

/-- The marks alone decide the shape. -/
theorem shape_filter (cs : List Char) :
    (ofChars (cs.filter (· ∈ urlMarks))).shape = (ofChars cs).shape := by
  unfold ofChars shape
  -- both cuts are at marks, and slashes, which are counted, are marks too
  simp only [cutOff_filter '#' (p := (· ∈ urlMarks)) (by decide),
    cutOff_filter '?' (p := (· ∈ urlMarks)) (by decide), length_splitOn,
    List.count_filter (p := (· ∈ urlMarks)) (a := '/') (by decide), Option.isSome_map]

/-- A path without the marks of a query and a fragment is divided at its slashes. -/
theorem ofChars_query {path : List Char} (hquery : '?' ∉ path) (hfragment : '#' ∉ path)
    (query : List Char) :
    ofChars (path ++ '?' :: query)
      = ⟨path.splitOn '/', some (cutOff '#' query).1, (cutOff '#' query).2⟩ := by
  have hmark : '#' ∉ path ++ ['?'] := by simpa using hfragment
  have hfront := cutOff_append hmark query
  rw [List.append_assoc, List.append_assoc, List.singleton_append, List.singleton_append] at hfront
  unfold ofChars
  rw [hfront]
  simp only [cutOff, cut?_append hquery]

end UrlParts

/-! ## Addresses -/

namespace AnalyzerSettings

/-- The base of every address. -/
def baseUrl (s : AnalyzerSettings) : List Char :=
  (s.apiBaseUrl.toList.reverse.dropWhile (· == '/')).reverse

/-- What comes before the coordinate in the address of a package. -/
def beforeCoordinate (s : AnalyzerSettings) : List Char :=
  s.baseUrl ++ '/' :: ("orgs".toList ++ '/' :: (s.orgId.toList ++ '/' :: "packages".toList))

/-- The query of the address. -/
def query (s : AnalyzerSettings) : List Char := "version=".toList ++ s.apiVersion.toList

theorem toList_packageUrl (s : AnalyzerSettings) (c : Coordinate) :
    (s.packageUrl c).toList
      = s.beforeCoordinate ++ '/' :: (c.urlParam.toList ++ '/' :: "issues".toList)
          ++ '?' :: s.query := by
  unfold packageUrl beforeCoordinate baseUrl query
  simp

theorem baseUrl_subset (s : AnalyzerSettings) : s.baseUrl ⊆ s.apiBaseUrl.toList := by
  intro a ha
  rw [baseUrl, List.mem_reverse] at ha
  exact List.mem_reverse.mp ((List.dropWhile_suffix _).subset ha)

/-- The base and the organisation have no mark of a query or a fragment in them. -/
def HasPlainPath (s : AnalyzerSettings) : Prop :=
  ∀ mark ∈ ['?', '#'], mark ∉ s.apiBaseUrl.toList ∧ mark ∉ s.orgId.toList

theorem splitOn_beforeCoordinate (s : AnalyzerSettings) :
    s.beforeCoordinate.splitOn '/' = s.baseUrl.splitOn '/' ++
      "orgs".toList :: (s.orgId.toList.splitOn '/' ++ ["packages".toList]) := by
  unfold beforeCoordinate
  rw [List.splitOn_append_cons_self, List.splitOn_append_cons_self, List.splitOn_append_cons_self,
    List.splitOn_eq_singleton (show '/' ∉ "orgs".toList by decide),
    List.splitOn_eq_singleton (show '/' ∉ "packages".toList by decide), List.singleton_append]

end AnalyzerSettings

namespace Coordinate

theorem not_mem_urlParam (c : Coordinate) {mark : Char} (hmark : mark ∈ urlMarks) :
    mark ∉ c.urlParam.toList :=
  (isEscaped_percentEncode c.display).not_mem hmark

/-- The marks of an address are those of the settings. -/
theorem filter_packageUrl (s : AnalyzerSettings) (c : Coordinate) :
    (s.packageUrl c).toList.filter (· ∈ urlMarks)
      = (s.beforeCoordinate ++ '/' :: '/' :: "issues".toList ++ '?' :: s.query).filter
          (· ∈ urlMarks) := by
  have hparam : c.urlParam.toList.filter (· ∈ urlMarks) = [] := by
    rw [List.filter_eq_nil_iff]
    intro a ha hmark
    exact c.not_mem_urlParam (of_decide_eq_true hmark) ha
  rw [s.toList_packageUrl]
  simp only [List.filter_append, List.filter_cons, hparam, List.nil_append]

/-- The mark of a query or a fragment is not found in front of the query. -/
theorem not_mem_path {s : AnalyzerSettings} (hs : s.HasPlainPath) (c : Coordinate) {mark : Char}
    (hmark : mark ∈ ['?', '#']) :
    mark ∉ s.beforeCoordinate ++ '/' :: (c.urlParam.toList ++ '/' :: "issues".toList) := by
  obtain ⟨hbase, horg⟩ := hs mark hmark
  have hparam := c.not_mem_urlParam (List.mem_cons_of_mem '/' hmark)
  have hbase' : mark ∉ s.baseUrl := fun hmem => hbase (s.baseUrl_subset hmem)
  obtain ⟨hslash, horgs, hpackages, hissues⟩ : mark ≠ '/' ∧ mark ∉ "orgs".toList ∧
      mark ∉ "packages".toList ∧ mark ∉ "issues".toList := by
    rcases List.mem_pair.mp hmark with rfl | rfl <;> decide
  unfold AnalyzerSettings.beforeCoordinate
  simp only [List.mem_append, List.mem_cons, not_or]
  exact ⟨⟨hbase', hslash, horgs, hslash, horg, hslash, hpackages⟩, hslash, hparam, hslash, hissues⟩

/-- The parts of the address of a package, under settings whose path is plain. -/
theorem ofChars_packageUrl {s : AnalyzerSettings} (hs : s.HasPlainPath) (c : Coordinate) :
    UrlParts.ofChars (s.packageUrl c).toList
      = ⟨s.baseUrl.splitOn '/' ++ "orgs".toList :: (s.orgId.toList.splitOn '/' ++
            ["packages".toList, c.urlParam.toList, "issues".toList]),
          some (cutOff '#' s.query).1, (cutOff '#' s.query).2⟩ := by
  rw [s.toList_packageUrl, UrlParts.ofChars_query (c.not_mem_path hs (by decide))
    (c.not_mem_path hs (by decide)), List.splitOn_append_cons_self, s.splitOn_beforeCoordinate,
    List.splitOn_append_cons_self, List.splitOn_eq_singleton (c.not_mem_urlParam (by decide)),
    List.splitOn_eq_singleton (show '/' ∉ "issues".toList by decide)]
  simp

/-- The text of a coordinate is neither of the segments `.` and `..`, which are not kept. -/
theorem prefix_urlParam (c : Coordinate) : "pkg%3A".toList <+: c.urlParam.toList := by
  have hbytes : utf8 "pkg:" <+: utf8 c.display := by
    rw [utf8_eq, utf8_eq]
    refine List.IsPrefix.flatMap ?_ _
    unfold display
    simp only [String.toList_append, List.append_assoc]
    exact List.prefix_append _ _
  have hwritten : "pkg%3A".toList = (utf8 "pkg:").flatMap percentByte := by decide +kernel
  rw [hwritten, urlParam, percentEncode, String.toList_ofList]
  exact hbytes.flatMap _

/-- **A coordinate is one segment of an address, and can be read from it.** Its text has only
unreserved characters and escapes when it is encoded, and decoding them gives the text back. So
packages have one address only if they have one text, and what is in it changes neither the
number of segments, nor whether there are a query and a fragment. Where the settings give a path
and nothing else, the segments are those of the settings around the coordinate, and the query is
the version of the interface. -/
theorem urlParam_segment (c : Coordinate) :
    IsEscaped c.urlParam.toList ∧
    percentDecode? c.urlParam = some c.display ∧
    "pkg%3A".toList <+: c.urlParam.toList ∧
    ∀ s : AnalyzerSettings,
      (∀ d : Coordinate, (s.packageUrl c = s.packageUrl d ↔ c.display = d.display) ∧
        (UrlParts.ofChars (s.packageUrl c).toList).shape
          = (UrlParts.ofChars (s.packageUrl d).toList).shape) ∧
      (s.HasPlainPath → UrlParts.ofChars (s.packageUrl c).toList
        = ⟨s.baseUrl.splitOn '/' ++ "orgs".toList :: (s.orgId.toList.splitOn '/' ++
              ["packages".toList, c.urlParam.toList, "issues".toList]),
            some (cutOff '#' s.query).1, (cutOff '#' s.query).2⟩) := by
  refine ⟨isEscaped_percentEncode c.display, percentDecode?_percentEncode c.display,
    c.prefix_urlParam, fun s => ⟨fun d => ⟨PackageUrl.packageUrl_eq_iff, ?_⟩, ?_⟩⟩
  · rw [← UrlParts.shape_filter, filter_packageUrl, ← filter_packageUrl s d, UrlParts.shape_filter]
  · exact fun hs => c.ofChars_packageUrl hs

/-- A name that reads like a path with a query and a fragment is one segment. -/
theorem urlParam_segment_marks :
    let s : AnalyzerSettings := { AnalyzerSettings.default with orgId := "acme" }
    let c : Coordinate := ⟨"npm", some "@angular", "../core?a#b", some "12.0.0"⟩
    c.urlParam = "pkg%3Anpm%2F%40angular%2F..%2Fcore%3Fa%23b%4012.0.0" ∧
      (UrlParts.ofChars (s.packageUrl c).toList).segments.map String.ofList
        = ["https:", "", "api.snyk.io", "rest", "orgs", "acme", "packages", c.urlParam, "issues"] ∧
      (UrlParts.ofChars (s.packageUrl c).toList).fragment = none := by
  intro s c
  have hs : s.HasPlainPath := by
    simp [AnalyzerSettings.HasPlainPath, s, AnalyzerSettings.default]
  rw [((urlParam_segment c).2.2.2 s).2 hs]
  decide +kernel

end Coordinate
end AdvisoryLedger
