import AdvisoryLedger.Proofs.Text.Digits
import AdvisoryLedger.Text.Percent

/-!
# Percent-encoding and back

Decoding undoes encoding (`percentDecode?_percentEncode`), so no two texts are encoded alike.

The other way round decoding takes something away wherever it changes a text. What it takes
away is counted in signs: the marks of a URL, the sign of an escape and the digits. An escape
has more of them than the byte that it writes, because the bytes that are signs themselves are
written with a digit after the percent sign. So a text that is decoded has fewer signs, or it
is the same text (`loses_of_percentDecode?`).
-/

namespace AdvisoryLedger
namespace Text

/-! ## Bytes of characters -/

theorem utf8_eq (s : String) : utf8 s = s.toList.flatMap String.utf8EncodeChar := by
  unfold utf8
  rw [show s.toUTF8 = s.toByteArray from rfl, ← String.utf8Encode_toList, List.utf8Encode]
  simp

theorem utf8_of_ofUtf8? {bytes : List UInt8} {s : String} (h : ofUtf8? bytes = some s) :
    utf8 s = bytes := by
  unfold ofUtf8? String.fromUTF8? at h
  split at h
  · obtain rfl := Option.some.inj h
    rfl
  · cases h

theorem ofUtf8?_eq_some_iff {bytes : List UInt8} {s : String} :
    ofUtf8? bytes = some s ↔ bytes = utf8 s := by
  constructor
  · exact fun h => (utf8_of_ofUtf8? h).symm
  · rintro rfl
    exact ofUtf8?_utf8 s

theorem utf8EncodeChar_of_ascii {c : Char} (h : c.toNat < 0x80) :
    String.utf8EncodeChar c = [UInt8.ofNat c.toNat] := by
  unfold String.utf8EncodeChar
  exact if_pos (Nat.le_of_lt_succ h)

theorem le_of_mem_utf8EncodeChar {c : Char} (h : ¬ c.toNat < 0x80) {b : UInt8}
    (hb : b ∈ String.utf8EncodeChar c) : 0x80 ≤ b.toNat := by
  have hn : ¬ c.val.toNat ≤ 0x7f := fun hle => h (Nat.lt_succ_of_le hle)
  have hbyte {n : Nat} (hlow : 0x80 ≤ n) (hhigh : n < 0x100) : 0x80 ≤ (UInt8.ofNat n).toNat := by
    rw [UInt8.toNat_ofNat_of_lt' hhigh]
    exact hlow
  unfold String.utf8EncodeChar at hb
  dsimp only at hb
  rw [if_neg hn] at hb
  split at hb
  · simp only [List.mem_cons, List.not_mem_nil, or_false] at hb
    rcases hb with rfl | rfl <;> exact hbyte (by omega) (by omega)
  · split at hb
    · simp only [List.mem_cons, List.not_mem_nil, or_false] at hb
      rcases hb with rfl | rfl | rfl <;> exact hbyte (by omega) (by omega)
    · simp only [List.mem_cons, List.not_mem_nil, or_false] at hb
      rcases hb with rfl | rfl | rfl | rfl <;> exact hbyte (by omega) (by omega)

/-- The character with the number of a byte. -/
def charOfByte (b : UInt8) : Char := Char.ofNat b.toNat

theorem toNat_charOfByte (b : UInt8) : (charOfByte b).toNat = b.toNat := by
  have hvalid : b.toNat.isValidChar := .inl (Nat.lt_trans b.toNat_lt (by decide))
  unfold charOfByte Char.ofNat
  rw [dif_pos hvalid]
  rfl

theorem charOfByte_ofNat {c : Char} (h : c.toNat < 0x80) :
    charOfByte (UInt8.ofNat c.toNat) = c := by
  apply Char.toNat_inj.mp
  rw [toNat_charOfByte, UInt8.toNat_ofNat_of_lt' (Nat.lt_trans h (by decide))]

/-! ## Signs -/

/-- What a URL or an escape in it is marked by, and digits. -/
def isSign (c : Char) : Bool := c ∈ ['%', '#', '?', '@', '/'] || isDigit c

/-- How many signs a text has. -/
def signs (cs : List Char) : Nat := cs.countP isSign

theorem signs_append (cs ds : List Char) : signs (cs ++ ds) = signs cs + signs ds :=
  List.countP_append

theorem signs_cons {c : Char} (h : isSign c = true) (cs : List Char) :
    signs (c :: cs) = signs cs + 1 :=
  List.countP_cons_of_pos h

theorem signs_reverse (cs : List Char) : signs cs.reverse = signs cs := List.countP_reverse

/-- What comes out has less of what is counted, or it is the same. -/
def Loses {α : Type} (count : α → Nat) (a b : α) : Prop := count b < count a ∨ b = a

section Loses

variable {α : Type} {count : α → Nat} {a b c : α}

theorem Loses.trans (h : Loses count a b) (h' : Loses count b c) : Loses count a c := by
  rcases h with hlt | rfl
  · rcases h' with hlt' | rfl
    · exact .inl (Nat.lt_trans hlt' hlt)
    · exact .inl hlt
  · exact h'

theorem Loses.le (h : Loses count a b) : count b ≤ count a := by
  rcases h with hlt | rfl
  · exact Nat.le_of_lt hlt
  · exact Nat.le_refl _

/-- Where nothing that is counted was lost, nothing was. -/
theorem Loses.eq (h : Loses count a b) (hle : count a ≤ count b) : b = a :=
  h.resolve_left (Nat.not_lt_of_le hle)

end Loses

theorem toNat_lt_of_isSign {c : Char} (h : isSign c = true) : c.toNat < 0x50 := by
  rw [isSign, Bool.or_eq_true] at h
  rcases h with h | h
  · simp only [decide_eq_true_eq, List.mem_cons, List.not_mem_nil, or_false] at h
    rcases h with rfl | rfl | rfl | rfl | rfl <;> decide
  · have := (isDigit_iff.mp h).2
    omega

/-- How many of some bytes are signs. -/
def signBytes (bytes : List UInt8) : Nat := bytes.countP fun b => isSign (charOfByte b)

theorem signBytes_append (bytes rest : List UInt8) :
    signBytes (bytes ++ rest) = signBytes bytes + signBytes rest :=
  List.countP_append

theorem signBytes_utf8EncodeChar (c : Char) : signBytes (String.utf8EncodeChar c) = signs [c] := by
  by_cases hascii : c.toNat < 0x80
  · rw [utf8EncodeChar_of_ascii hascii, signBytes, List.countP_singleton, charOfByte_ofNat hascii,
      signs, List.countP_singleton]
  · have hsign : isSign c = false := by
      rw [← Bool.not_eq_true]
      exact fun h => hascii (Nat.lt_trans (toNat_lt_of_isSign h) (by decide))
    rw [signs, List.countP_singleton, if_neg (by simp [hsign]), signBytes, List.countP_eq_zero]
    intro b hb h
    have hlow := toNat_lt_of_isSign h
    rw [toNat_charOfByte] at hlow
    have hhigh := le_of_mem_utf8EncodeChar hascii hb
    omega

/-- Signs are single bytes, so they can be counted among the bytes. -/
theorem signs_eq (s : String) : signs s.toList = signBytes (utf8 s) := by
  rw [utf8_eq]
  induction s.toList with
  | nil => rfl
  | cons c cs ih =>
      rw [List.flatMap_cons, signBytes_append, signBytes_utf8EncodeChar, ← ih, ← signs_append,
        List.singleton_append]

/-! ## Decoding -/

theorem hexDigit?_spec {c : Char} {n : Nat} (h : hexDigit? c = some n) :
    n < 16 ∧ (n < 10 → isDigit c = true) := by
  unfold hexDigit? at h
  split at h
  · next hdigit =>
    obtain rfl := Option.some.inj h
    have := digitValue_le hdigit
    exact ⟨by omega, fun _ => hdigit⟩
  · split at h
    · next hletter =>
      rw [Bool.and_eq_true, decide_eq_true_eq, decide_eq_true_eq] at hletter
      obtain rfl := Option.some.inj h
      have hhigh : c.toNat ≤ 'a'.toNat + 5 := Char.le_def.mp hletter.2
      omega
    · split at h
      · next hletter =>
        rw [Bool.and_eq_true, decide_eq_true_eq, decide_eq_true_eq] at hletter
        obtain rfl := Option.some.inj h
        have hhigh : c.toNat ≤ 'A'.toNat + 5 := Char.le_def.mp hletter.2
        omega
      · cases h

/-- An escape has more signs than what it writes: a sign is written with a digit in front. -/
theorem signBytes_escape {high low : UInt8} {h l : Nat} (hh : hexByte? high = some h)
    (hl : hexByte? low = some l) :
    signBytes [UInt8.ofNat (16 * h + l)] < signBytes [0x25, high, low] := by
  have hpercent : isSign (charOfByte 0x25) = true := by decide
  obtain ⟨hsixteen, hdigit⟩ := hexDigit?_spec hh
  obtain ⟨lsixteen, -⟩ := hexDigit?_spec hl
  have hone : signBytes [UInt8.ofNat (16 * h + l)] ≤ 1 := List.countP_le_length
  have hpos : signBytes [0x25, high, low] = signBytes [high, low] + 1 :=
    List.countP_cons_of_pos hpercent
  cases hsign : isSign (charOfByte (UInt8.ofNat (16 * h + l))) with
  | false =>
      have hzero : signBytes [UInt8.ofNat (16 * h + l)] = 0 :=
        List.countP_cons_of_neg (by rw [hsign]; exact Bool.false_ne_true)
      omega
  | true =>
      have hlt := toNat_lt_of_isSign hsign
      rw [toNat_charOfByte, UInt8.toNat_ofNat_of_lt' (show 16 * h + l < 256 by omega)] at hlt
      have hhigh : isSign (charOfByte high) = true := by
        rw [isSign, Bool.or_eq_true]
        exact .inr (hdigit (by omega))
      have : signBytes [high, low] = signBytes [low] + 1 := List.countP_cons_of_pos hhigh
      omega

theorem signBytes_cons (b : UInt8) (bytes : List UInt8) :
    signBytes (b :: bytes) = signBytes [b] + signBytes bytes :=
  signBytes_append [b] bytes

theorem Loses.cons_byte {rest decoded : List UInt8} (h : Loses signBytes rest decoded) (b : UInt8) :
    Loses signBytes (b :: rest) (b :: decoded) := by
  unfold Loses
  rw [signBytes_cons, signBytes_cons b rest]
  exact h.imp (fun hlt => Nat.add_lt_add_left hlt _) (fun heq => by rw [heq])

theorem loses_percentBytes (bytes : List UInt8) : Loses signBytes bytes (percentBytes bytes) := by
  fun_induction percentBytes bytes with
  | case1 => exact .inr rfl
  | case2 high low rest h l hl hh ih =>
      left
      have hescape := signBytes_escape hh hl
      have hsplit : signBytes (0x25 :: high :: low :: rest)
          = signBytes [0x25, high, low] + signBytes rest :=
        signBytes_append [_, _, _] rest
      rw [signBytes_cons, hsplit]
      exact Nat.add_lt_add_of_lt_of_le hescape ih.le
  | case3 high low rest hnone ih => exact ih.cons_byte 0x25
  | case4 b high low rest hb ih => exact ih.cons_byte b
  | case5 b rest hrest ih => exact ih.cons_byte b

/-- A text that is decoded loses signs or is the same. -/
theorem loses_of_percentDecode? {s t : String} (h : percentDecode? s = some t) :
    Loses signs s.toList t.toList := by
  have hbytes := utf8_of_ofUtf8? h
  rcases loses_percentBytes (utf8 s) with hlt | heq
  · left
    rwa [signs_eq, signs_eq, hbytes]
  · right
    rw [percentDecode?, heq, ofUtf8?_utf8] at h
    rw [Option.some.inj h]

/-- Something is left of a text that is decoded. -/
theorem ne_empty_of_percentDecode? {s t : String} (h : percentDecode? s = some t) (hs : s ≠ "") :
    t ≠ "" := by
  have hbytes := utf8_of_ofUtf8? h
  rintro rfl
  have hnil : utf8 s = [] := by
    have hempty : percentBytes (utf8 s) = [] := hbytes.symm
    revert hempty
    fun_cases percentBytes (utf8 s) <;> simp_all
  have hsome := ofUtf8?_utf8 s
  rw [hnil, ← show utf8 "" = [] from rfl, ofUtf8?_utf8] at hsome
  exact hs (Option.some.inj hsome).symm

/-! ## Encoding -/

theorem utf8_ofList_of_ascii {cs : List Char} (h : ∀ c ∈ cs, c.toNat < 0x80) :
    utf8 (String.ofList cs) = cs.map fun c => UInt8.ofNat c.toNat := by
  rw [utf8_eq, String.toList_ofList]
  induction cs with
  | nil => rfl
  | cons c cs ih =>
      rw [List.flatMap_cons, utf8EncodeChar_of_ascii (h c (List.mem_cons_self ..)),
        ih fun d hd => h d (List.mem_cons_of_mem c hd)]
      rfl

theorem hexDigit_spec : ∀ n < 16, (hexDigit n).toNat < 0x80 ∧
    hexByte? (UInt8.ofNat (hexDigit n).toNat) = some n := by
  decide

theorem toNat_lt_of_isUnreserved {c : Char} (h : isUnreserved c = true) :
    c.toNat < 0x80 ∧ c ≠ '%' := by
  refine ⟨?_, fun heq => absurd (heq ▸ h) (by decide)⟩
  have hle {last : Char} (hc : c ≤ last) (hlast : last.toNat < 0x80) : c.toNat < 0x80 :=
    Nat.lt_of_le_of_lt (Char.le_def.mp hc) hlast
  simp only [isUnreserved, Bool.or_eq_true, Bool.and_eq_true, decide_eq_true_eq, beq_iff_eq] at h
  rcases h with (((((⟨-, hc⟩ | ⟨-, hc⟩) | hdigit) | rfl) | rfl) | rfl) | rfl
  · exact hle hc (by decide)
  · exact hle hc (by decide)
  · have := (isDigit_iff.mp hdigit).2
    omega
  all_goals decide

/-- What encoding makes of a byte: characters of ASCII, which are the byte or an escape for it. -/
theorem percentByte_spec (b : UInt8) :
    (∀ c ∈ percentByte b, c.toNat < 0x80) ∧
      ((percentByte b).map (fun c => UInt8.ofNat c.toNat) = [b] ∧ b ≠ 0x25 ∨
        ∃ high low, (percentByte b).map (fun c => UInt8.ofNat c.toNat) = [0x25, high, low] ∧
          hexByte? high = some (b.toNat / 16) ∧ hexByte? low = some (b.toNat % 16)) := by
  unfold percentByte
  dsimp only
  split
  · next hunreserved =>
    obtain ⟨hascii, hne⟩ := toNat_lt_of_isUnreserved hunreserved
    refine ⟨fun c hc => by rwa [List.mem_singleton.mp hc], .inl ⟨?_, ?_⟩⟩
    · show [UInt8.ofNat (charOfByte b).toNat] = [b]
      rw [toNat_charOfByte, UInt8.ofNat_toNat]
    · rintro rfl
      exact hne rfl
  · obtain ⟨hhigh, hhigh'⟩ := hexDigit_spec (b.toNat / 16) (by have := b.toNat_lt; omega)
    obtain ⟨hlow, hlow'⟩ := hexDigit_spec (b.toNat % 16) (Nat.mod_lt _ (by decide))
    refine ⟨fun c hc => ?_, .inr ⟨_, _, rfl, hhigh', hlow'⟩⟩
    simp only [List.mem_cons, List.not_mem_nil, or_false] at hc
    rcases hc with rfl | rfl | rfl
    · decide
    · exact hhigh
    · exact hlow

theorem percentBytes_cons_of_ne {b : UInt8} (h : b ≠ 0x25) (rest : List UInt8) :
    percentBytes (b :: rest) = b :: percentBytes rest := by
  match rest with
  | [] => rfl
  | [_] => rfl
  | _ :: _ :: _ => rw [percentBytes, if_neg h]

theorem percentBytes_percentByte (b : UInt8) (rest : List UInt8) :
    percentBytes ((percentByte b).map (fun c => UInt8.ofNat c.toNat) ++ rest)
      = b :: percentBytes rest := by
  obtain ⟨-, ⟨hbyte, hne⟩ | ⟨high, low, hescape, hhigh, hlow⟩⟩ := percentByte_spec b
  · rw [hbyte, List.singleton_append, percentBytes_cons_of_ne hne]
  · rw [hescape]
    show percentBytes (0x25 :: high :: low :: rest) = _
    rw [percentBytes, if_pos rfl, hhigh, hlow]
    dsimp only
    rw [Nat.div_add_mod, UInt8.ofNat_toNat]

theorem percentBytes_flatMap_percentByte (bytes : List UInt8) :
    percentBytes ((bytes.flatMap percentByte).map fun c => UInt8.ofNat c.toNat) = bytes := by
  induction bytes with
  | nil => rfl
  | cons b bytes ih =>
      rw [List.flatMap_cons, List.map_append, percentBytes_percentByte, ih]

/-- Decoding undoes encoding. -/
theorem percentDecode?_percentEncode (s : String) : percentDecode? (percentEncode s) = some s := by
  have hascii : ∀ c ∈ (utf8 s).flatMap percentByte, c.toNat < 0x80 := by
    intro c hc
    obtain ⟨b, -, hb⟩ := List.mem_flatMap.mp hc
    exact (percentByte_spec b).1 c hb
  rw [percentDecode?, percentEncode, utf8_ofList_of_ascii hascii, percentBytes_flatMap_percentByte,
    ofUtf8?_utf8]

theorem percentEncode_inj {s t : String} : percentEncode s = percentEncode t ↔ s = t := by
  refine ⟨fun h => Option.some.inj ?_, congrArg _⟩
  rw [← percentDecode?_percentEncode s, ← percentDecode?_percentEncode t, h]

end Text
end AdvisoryLedger
