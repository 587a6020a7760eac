import AdvisoryLedger.Proofs.Text.Percent

/-!
# Slices of texts

Rules of this library look at characters, while a text in memory is bytes, and a slice of it is
taken at a number of bytes. There is none where that number falls inside a character: the byte
there must be one that a character begins with, or there must be none left. So there are slices
exactly where the characters of a text are divided in two, and they are the two parts. Where the
characters of a text begin is found by adding up their bytes (`charIndices`).
-/

namespace AdvisoryLedger
namespace Text

/-- The text before so many bytes, where a character or nothing follows them. -/
def sliceTo? (count : Nat) (s : String) : Option String :=
  if (String.Pos.Raw.mk count).isValid s then ofUtf8? ((utf8 s).take count) else none

/-- The text after so many bytes, where a character or nothing follows them. -/
def sliceFrom? (count : Nat) (s : String) : Option String :=
  if (String.Pos.Raw.mk count).isValid s then ofUtf8? ((utf8 s).drop count) else none

theorem utf8_append (s t : String) : utf8 (s ++ t) = utf8 s ++ utf8 t := by
  rw [utf8_eq, utf8_eq, utf8_eq, String.toList_append, List.flatMap_append]

/-- Bytes can be sliced at where the characters are divided. -/
theorem isValid_iff {count : Nat} {s : String} : (String.Pos.Raw.mk count).isValid s = true ↔
    ∃ before after, s = before ++ after ∧ (utf8 before).length = count := by
  rw [String.Pos.Raw.isValid_eq_true_iff, String.Pos.Raw.isValid_iff_exists_append]
  refine exists_congr fun before => exists_congr fun after => and_congr_right fun _ => ?_
  rw [String.Pos.Raw.ext_iff, eq_comm]
  rfl

section

variable (before after : String)

theorem sliceTo?_append : sliceTo? (utf8 before).length (before ++ after) = some before := by
  unfold sliceTo?
  rw [if_pos (isValid_iff.mpr ⟨before, after, rfl, rfl⟩), utf8_append, List.take_left, ofUtf8?_utf8]

theorem sliceFrom?_append : sliceFrom? (utf8 before).length (before ++ after) = some after := by
  unfold sliceFrom?
  rw [if_pos (isValid_iff.mpr ⟨before, after, rfl, rfl⟩), utf8_append, List.drop_left, ofUtf8?_utf8]

end

theorem exists_of_sliceTo? {count : Nat} {s before : String} (h : sliceTo? count s = some before) :
    ∃ after, s = before ++ after ∧ (utf8 before).length = count := by
  have hslice := h
  unfold sliceTo? at h
  split at h
  · next hvalid =>
    obtain ⟨front, after, rfl, rfl⟩ := isValid_iff.mp hvalid
    obtain rfl := Option.some.inj ((sliceTo?_append front after).symm.trans hslice)
    exact ⟨after, rfl, rfl⟩
  · cases h

/-! ## Where characters begin -/

/-- The characters of a text that begins at a byte, each with the byte that it begins at. -/
def charIndices (start : Nat) : List Char → List (Nat × Char)
  | [] => []
  | c :: cs => (start, c) :: charIndices (start + c.utf8Size) cs

theorem length_utf8_ofList_cons (c : Char) (cs : List Char) :
    (utf8 (String.ofList (c :: cs))).length = c.utf8Size + (utf8 (String.ofList cs)).length := by
  rw [utf8_eq, utf8_eq, String.toList_ofList, String.toList_ofList, List.flatMap_cons,
    List.length_append, String.length_utf8EncodeChar]

/-- A character begins after the bytes of those before it. -/
theorem getElem?_charIndices (start : Nat) (cs : List Char) (place : Nat) :
    (charIndices start cs)[place]?
      = cs[place]?.map fun c => (start + (utf8 (String.ofList (cs.take place))).length, c) := by
  induction cs generalizing start place with
  | nil => rfl
  | cons c cs ih =>
    cases place with
    | zero => rfl
    | succ place =>
      rw [List.take_succ_cons, length_utf8_ofList_cons, ← Nat.add_assoc]
      exact ih (start + c.utf8Size) place

/-- A text of ASCII characters has as many bytes as characters. -/
theorem length_utf8_of_ascii {s : String} (h : ∀ c ∈ s.toList, c.toNat < 0x80) :
    (utf8 s).length = s.toList.length := by
  have hbytes := utf8_ofList_of_ascii h
  rw [String.ofList_toList] at hbytes
  rw [hbytes, List.length_map]

end Text
end AdvisoryLedger
