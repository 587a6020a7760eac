/-!
# Text

Every rule of this library that looks inside a text looks at its characters, so a rule is
a function on `List Char` and the functions on `String` only go there and back. This
module holds the operations that all rules share:

* `trim` drops the blanks at both ends. A *blank* is a character of Unicode's White_Space
  property, which is more than the four characters that core's `Char.isWhitespace` knows.
* `dropFirst?` and `dropLast?` take a known word off an end of a text.
* `cut?` and `cutLast?` split a text at the first or the last place of a mark.

The lemmas say what is lost: `trim` removes blanks only and leaves none at the ends, and a cut
removes one mark only.
-/

namespace AdvisoryLedger
namespace Text

/-- A character of Unicode's White_Space property. -/
def isBlank (c : Char) : Bool :=
  let n := c.toNat
  (9 ≤ n && n ≤ 13) || n == 0x20 || n == 0x85 || n == 0xA0 || n == 0x1680
    || (0x2000 ≤ n && n ≤ 0x200A) || n == 0x2028 || n == 0x2029 || n == 0x202F
    || n == 0x205F || n == 0x3000

/-! ### Trimming -/

/-- The text from its first character that is not a blank. -/
def trimLeft (cs : List Char) : List Char := cs.dropWhile isBlank

/-- The text up to its last character that is not a blank. -/
def trimRight (cs : List Char) : List Char := (cs.reverse.dropWhile isBlank).reverse

/-- The text without the blanks at its ends. -/
def trim (cs : List Char) : List Char := trimRight (trimLeft cs)

def trimmed (s : String) : String := String.ofList (trim s.toList)

def isBlankText (s : String) : Bool := s.toList.all isBlank

theorem length_trimLeft_le (cs : List Char) : (trimLeft cs).length ≤ cs.length :=
  (List.dropWhile_sublist _).length_le

theorem length_trimRight_le (cs : List Char) : (trimRight cs).length ≤ cs.length := by
  have h : (cs.reverse.dropWhile isBlank).Sublist cs.reverse := List.dropWhile_sublist _
  simpa [trimRight] using h.length_le

theorem length_trim_le (cs : List Char) : (trim cs).length ≤ cs.length :=
  Nat.le_trans (length_trimRight_le _) (length_trimLeft_le _)

/-- What `trimLeft` takes away is blank and stood in front. -/
theorem exists_trimLeft (cs : List Char) :
    ∃ g, (∀ c ∈ g, isBlank c = true) ∧ cs = g ++ trimLeft cs := by
  refine ⟨cs.takeWhile isBlank, ?_, List.takeWhile_append_dropWhile.symm⟩
  intro c hc
  exact List.all_eq_true.1 List.all_takeWhile c hc

/-- What `trimRight` takes away is blank and stood behind. -/
theorem exists_trimRight (cs : List Char) :
    ∃ g, (∀ c ∈ g, isBlank c = true) ∧ cs = trimRight cs ++ g := by
  obtain ⟨g, hg, h⟩ := exists_trimLeft cs.reverse
  refine ⟨g.reverse, fun c hc => hg c (List.mem_reverse.1 hc), ?_⟩
  have := congrArg List.reverse h
  simpa [trimRight, trimLeft] using this

/-- Nothing is left of a text exactly where there were only blanks. -/
theorem trim_eq_nil_iff {cs : List Char} : trim cs = [] ↔ cs.all isBlank = true := by
  rw [List.all_eq_true]
  constructor
  · intro h c hc
    obtain ⟨g, hg, hcs⟩ := exists_trimLeft cs
    obtain ⟨g', hg', hrest⟩ := exists_trimRight (trimLeft cs)
    have h' : trimRight (trimLeft cs) = [] := h
    rw [hcs, hrest, h', List.nil_append] at hc
    exact (List.mem_append.mp hc).elim (hg c) (hg' c)
  · intro h
    have hleft : (cs ++ []).dropWhile isBlank = ([] : List Char).dropWhile isBlank :=
      List.dropWhile_append_of_pos h
    rw [List.append_nil] at hleft
    unfold trim trimLeft
    rw [hleft]
    rfl

/-! ### Texts without blanks at their ends -/

/-- The text has no blank at either end. -/
structure IsTrimmed (cs : List Char) : Prop where
  head : ∀ c ∈ cs.head?, isBlank c = false
  last : ∀ c ∈ cs.getLast?, isBlank c = false

theorem trimRight_eq (cs : List Char) : trimRight cs = (trimLeft cs.reverse).reverse := rfl

theorem head_trimLeft (cs : List Char) : ∀ c ∈ (trimLeft cs).head?, isBlank c = false := by
  intro c hc
  have hstop := List.head?_dropWhile_not isBlank cs
  rw [show (cs.dropWhile isBlank).head? = some c from hc] at hstop
  exact hstop

theorem last_trimRight (cs : List Char) : ∀ c ∈ (trimRight cs).getLast?, isBlank c = false := by
  rw [trimRight_eq, List.getLast?_reverse]
  exact head_trimLeft cs.reverse

theorem trimLeft_eq_self {cs : List Char} (h : ∀ c ∈ cs.head?, isBlank c = false) :
    trimLeft cs = cs := by
  cases cs with
  | nil => rfl
  | cons c cs => simp [trimLeft, h c rfl]

theorem trimRight_eq_self {cs : List Char} (h : ∀ c ∈ cs.getLast?, isBlank c = false) :
    trimRight cs = cs := by
  rw [List.getLast?_eq_head?_reverse] at h
  rw [trimRight_eq, trimLeft_eq_self h, List.reverse_reverse]

theorem IsTrimmed.trim_eq {cs : List Char} (h : IsTrimmed cs) : trim cs = cs := by
  rw [trim, trimLeft_eq_self h.head, trimRight_eq_self h.last]

theorem isTrimmed_trim (cs : List Char) : IsTrimmed (trim cs) where
  head := by
    intro c hc
    -- the end of the text that is trimmed first does not matter for its beginning
    obtain ⟨g, -, hg⟩ := exists_trimRight (trimLeft cs)
    apply head_trimLeft cs
    have hfirst : (trimRight (trimLeft cs)).head? = some c := hc
    rw [hg, List.head?_append, hfirst]
    rfl
  last := last_trimRight _

/-- What `trim` takes away is blank and stood at the ends. -/
theorem exists_trim (cs : List Char) :
    ∃ g g', (∀ c ∈ g, isBlank c = true) ∧ (∀ c ∈ g', isBlank c = true) ∧
      cs = g ++ trim cs ++ g' := by
  obtain ⟨g, hg, hleft⟩ := exists_trimLeft cs
  obtain ⟨g', hg', hright⟩ := exists_trimRight (trimLeft cs)
  refine ⟨g, g', hg, hg', ?_⟩
  rw [List.append_assoc, trim, ← hright, ← hleft]

theorem trim_append_left {g : List Char} (hg : ∀ c ∈ g, isBlank c = true) (cs : List Char) :
    trim (g ++ cs) = trim cs := by
  have hleft : trimLeft (g ++ cs) = trimLeft cs := List.dropWhile_append_of_pos hg
  rw [trim, hleft, trim]

theorem trimRight_append {g : List Char} (hg : ∀ c ∈ g, isBlank c = true) (cs : List Char) :
    trimRight (cs ++ g) = trimRight cs := by
  have hright : trimLeft (cs ++ g).reverse = trimLeft cs.reverse := by
    rw [List.reverse_append]
    apply List.dropWhile_append_of_pos
    intro c hc
    exact hg c (List.mem_reverse.mp hc)
  rw [trimRight_eq, hright, trimRight_eq]

theorem trim_append_right {g : List Char} (hg : ∀ c ∈ g, isBlank c = true) (cs : List Char) :
    trim (cs ++ g) = trim cs := by
  rw [trim, trim, trimLeft, trimLeft, List.dropWhile_append]
  cases hcs : cs.dropWhile isBlank with
  | nil =>
    have hblank : trim g = [] := trim_eq_nil_iff.mpr (List.all_eq_true.mpr hg)
    exact hblank
  | cons c left => exact trimRight_append hg (c :: left)

/-- What comes after a text that ends without a blank is trimmed on its own. -/
theorem trimRight_append_of_last {cs : List Char} (h : ∀ c ∈ cs.getLast?, isBlank c = false)
    (rest : List Char) : trimRight (cs ++ rest) = cs ++ trimRight rest := by
  rw [trimRight_eq, trimRight_eq, trimLeft, trimLeft, List.reverse_append, List.dropWhile_append]
  cases hrest : rest.reverse.dropWhile isBlank with
  | nil =>
    rw [List.isEmpty_nil, if_pos rfl, List.reverse_nil, List.append_nil]
    exact trimRight_eq_self h
  | cons c left => simp

theorem trimLeft_append_of_head {cs : List Char} (h : ∀ c ∈ cs.head?, isBlank c = false)
    (rest : List Char) : trimLeft (rest ++ cs) = trimLeft rest ++ cs := by
  rw [trimLeft, trimLeft, List.dropWhile_append]
  cases hrest : rest.dropWhile isBlank with
  | nil => exact trimLeft_eq_self h
  | cons c left => simp

/-! ### Words at the ends -/

/-- The text without the word in front of it, where it begins with that word. -/
def dropFirst? (word cs : List Char) : Option (List Char) :=
  if word.isPrefixOf cs then some (cs.drop word.length) else none

/-- The text without the word behind it, where it ends with that word. -/
def dropLast? (word cs : List Char) : Option (List Char) :=
  if word.isSuffixOf cs then some (cs.take (cs.length - word.length)) else none

def begins (word cs : List Char) : Bool := word.isPrefixOf cs

def ends (word cs : List Char) : Bool := word.isSuffixOf cs

theorem eq_append_of_dropFirst? {word cs rest : List Char} (h : dropFirst? word cs = some rest) :
    cs = word ++ rest := by
  unfold dropFirst? at h
  split at h
  · next hp =>
    obtain ⟨t, ht⟩ := List.isPrefixOf_iff_prefix.1 hp
    simp only [Option.some.injEq] at h
    subst h
    simp [← ht]
  · simp at h

theorem eq_append_of_dropLast? {word cs rest : List Char} (h : dropLast? word cs = some rest) :
    cs = rest ++ word := by
  unfold dropLast? at h
  split at h
  · next hp =>
    obtain ⟨t, ht⟩ := List.isSuffixOf_iff_suffix.1 hp
    simp only [Option.some.injEq] at h
    subst h
    simp [← ht]
  · simp at h

theorem begins_append (word rest : List Char) : begins word (word ++ rest) = true :=
  List.isPrefixOf_iff_prefix.2 (List.prefix_append word rest)

theorem exists_of_begins {word cs : List Char} (h : begins word cs = true) :
    ∃ rest, cs = word ++ rest := by
  obtain ⟨rest, hrest⟩ := List.isPrefixOf_iff_prefix.1 h
  exact ⟨rest, hrest.symm⟩

theorem ends_append (word rest : List Char) : ends word (rest ++ word) = true :=
  List.isSuffixOf_iff_suffix.2 (List.suffix_append rest word)

theorem exists_of_ends {word cs : List Char} (h : ends word cs = true) :
    ∃ rest, cs = rest ++ word := by
  obtain ⟨rest, hrest⟩ := List.isSuffixOf_iff_suffix.1 h
  exact ⟨rest, hrest.symm⟩

theorem dropFirst?_append (word rest : List Char) : dropFirst? word (word ++ rest) = some rest := by
  have h : word.isPrefixOf (word ++ rest) = true := begins_append word rest
  simp [dropFirst?, h]

theorem dropLast?_append (word rest : List Char) : dropLast? word (rest ++ word) = some rest := by
  have h : word.isSuffixOf (rest ++ word) = true := ends_append word rest
  simp [dropLast?, h]

theorem dropFirst?_eq_none {word cs : List Char} (h : begins word cs = false) :
    dropFirst? word cs = none := by
  have h' : word.isPrefixOf cs = false := h
  simp [dropFirst?, h']

/-- Trimming leaves a word in front, when it has no blanks at its ends. -/
theorem begins_trim {word : List Char} (h : IsTrimmed word) (hne : word ≠ []) (rest : List Char) :
    begins word (trim (word ++ rest)) = true := by
  have hleft : trimLeft (word ++ rest) = word ++ rest := by
    obtain ⟨c, cs, rfl⟩ := List.exists_cons_of_ne_nil hne
    exact trimLeft_eq_self h.head
  rw [trim, hleft, trimRight_append_of_last h.last]
  exact begins_append word _

/-- And one behind. -/
theorem ends_trim {word : List Char} (h : IsTrimmed word) (hne : word ≠ []) (rest : List Char) :
    ends word (trim (rest ++ word)) = true := by
  have hright : trimRight (trimLeft rest ++ word) = trimLeft rest ++ word := by
    have hlast := h.last
    rw [List.getLast?_eq_some_getLast hne] at hlast
    apply trimRight_eq_self
    rw [List.getLast?_append, List.getLast?_eq_some_getLast hne, Option.some_or]
    exact hlast
  rw [trim, trimLeft_append_of_head h.head, hright]
  exact ends_append word _

/-! ### Cutting at a mark -/

/-- The parts of a text before and after the first place of a mark. -/
def cut? (mark : Char) : List Char → Option (List Char × List Char)
  | [] => none
  | c :: cs => if c = mark then some ([], cs) else (cut? mark cs).map fun p => (c :: p.1, p.2)

/-- The parts of a text before and after the last place of a mark. -/
def cutLast? (mark : Char) : List Char → Option (List Char × List Char)
  | [] => none
  | c :: cs =>
    match cutLast? mark cs with
    | some (before, after) => some (c :: before, after)
    | none => if c = mark then some ([], cs) else none

/-- A cut removes one mark and nothing else. -/
theorem eq_append_of_cut? {mark : Char} {cs before after : List Char}
    (h : cut? mark cs = some (before, after)) : cs = before ++ mark :: after := by
  induction cs generalizing before with
  | nil => simp [cut?] at h
  | cons c cs ih =>
    unfold cut? at h
    split at h
    · next hc => simp_all
    · simp only [Option.map_eq_some_iff, Prod.mk.injEq] at h
      obtain ⟨⟨b, a⟩, hp, rfl, rfl⟩ := h
      simp [ih hp]

/-- A cut at the last place removes one mark and nothing else. -/
theorem eq_append_of_cutLast? {mark : Char} {cs before after : List Char}
    (h : cutLast? mark cs = some (before, after)) : cs = before ++ mark :: after := by
  induction cs generalizing before with
  | nil => simp [cutLast?] at h
  | cons c cs ih =>
    unfold cutLast? at h
    split at h
    · next b a hp =>
      simp only [Option.some.injEq, Prod.mk.injEq] at h
      obtain ⟨rfl, rfl⟩ := h
      simp [ih hp]
    · split at h <;> simp_all

def isDigit (c : Char) : Bool := '0' ≤ c && c ≤ '9'

def digitValue (c : Char) : Nat := c.toNat - '0'.toNat

/-- The number that a row of digits writes in base ten. -/
def decimal (digits : List Char) : Nat := digits.foldl (fun n c => 10 * n + digitValue c) 0

/-- The value of a hexadecimal digit in either case. -/
def hexDigit? (c : Char) : Option Nat :=
  if isDigit c then some (digitValue c)
  else if 'a' ≤ c && c ≤ 'f' then some (c.toNat - 'a'.toNat + 10)
  else if 'A' ≤ c && c ≤ 'F' then some (c.toNat - 'A'.toNat + 10)
  else none

def ofNat (n : Nat) : String := String.ofList (Nat.toDigits 10 n)

/-- The digits of a number in base ten, filled with zeros in front up to a width. -/
def padded (width n : Nat) : String :=
  let digits := Nat.toDigits 10 n
  String.ofList (List.replicate (width - digits.length) '0' ++ digits)

end Text
end AdvisoryLedger
