import AdvisoryLedger.Credential
import AdvisoryLedger.Proofs.Text.Quoted
import AdvisoryLedger.Proofs.Text.Slices

/-!
# What a redacted secret tells

A token is shown without its secret, and the same holds of two runs: whoever sees what is shown of
two tokens cannot tell secrets with the same head apart (`SameHead`), whatever follows their first
four characters and however long they are. This is all that cannot be told, since tokens that are
shown alike have secrets with the same head.

Four characters are cut off at a byte, the one that the fifth of them begins at. `redactSlicing?`
does it so, and there always is such a slice.
-/

namespace AdvisoryLedger

open Text

/-! ## Two secrets -/

/-- Secrets of which neither has more than four characters, or both have and begin with the same
four. -/
def SameHead (s t : List Char) : Prop :=
  s.length ≤ 4 ∧ t.length ≤ 4 ∨ 4 < s.length ∧ 4 < t.length ∧ s.take 4 = t.take 4

instance (s t : List Char) : Decidable (SameHead s t) := inferInstanceAs (Decidable (_ ∨ _))

theorem redact_of_le {secret : String} (h : secret.toList.length ≤ 4) : redact secret = "****" :=
  if_pos h

theorem redact_of_lt {secret : String} (h : 4 < secret.toList.length) :
    redact secret = String.ofList (secret.toList.take 4) ++ "..." :=
  if_neg (Nat.not_le_of_lt h)

/-- A secret with more characters is not taken for one without. -/
theorem redact_ne_of_lt {secret : String} (h : 4 < secret.toList.length) :
    redact secret ≠ "****" := by
  intro heq
  have hlen := congrArg (·.toList.length) heq
  simp [redact_of_lt h] at hlen
  omega

/-- Redacted secrets tell which ones have the same head and nothing else. -/
theorem redact_eq_iff {s t : String} : redact s = redact t ↔ SameHead s.toList t.toList := by
  unfold SameHead
  rcases Nat.lt_or_ge 4 s.toList.length with hs | hs
  · rcases Nat.lt_or_ge 4 t.toList.length with ht | ht
    · rw [redact_of_lt hs, redact_of_lt ht]
      constructor
      · intro h
        have hchars := congrArg String.toList h
        simp only [String.toList_append, String.toList_ofList] at hchars
        exact .inr ⟨hs, ht, List.append_cancel_right hchars⟩
      · rintro (⟨hle, -⟩ | ⟨-, -, heads⟩)
        · omega
        · rw [heads]
    · rw [redact_of_le ht]
      exact iff_of_false (redact_ne_of_lt hs) (by omega)
  · rw [redact_of_le hs]
    rcases Nat.lt_or_ge 4 t.toList.length with ht | ht
    · exact iff_of_false (redact_ne_of_lt ht).symm (by omega)
    · rw [redact_of_le ht]
      exact iff_of_true rfl (.inl ⟨hs, ht⟩)

/-! ## The slice -/

/-- At most the first four characters of a secret, cut off at the byte that the fifth begins at.
There is nothing if that byte is inside a character. -/
def redactSlicing? (secret : String) : Option String :=
  match (charIndices 0 secret.toList)[4]? with
  | some (start, _) => (sliceTo? start secret).map (· ++ "...")
  | none => some "****"

theorem redactSlicing?_eq (secret : String) : redactSlicing? secret = some (redact secret) := by
  unfold redactSlicing?
  rw [getElem?_charIndices, Nat.zero_add]
  rcases Nat.lt_or_ge 4 secret.toList.length with h | h
  · have hsecret : String.ofList (secret.toList.take 4) ++ String.ofList (secret.toList.drop 4)
        = secret := by
      rw [← String.ofList_append, List.take_append_drop, String.ofList_toList]
    have hslice := sliceTo?_append (String.ofList (secret.toList.take 4))
      (String.ofList (secret.toList.drop 4))
    rw [hsecret] at hslice
    rw [List.getElem?_eq_getElem h, Option.map_some, redact_of_lt h]
    dsimp only
    rw [hslice, Option.map_some]
  · rw [List.getElem?_eq_none h, redact_of_le h]
    rfl

namespace ApiToken

theorem toList_secret_of_ofSecret? {secret : String} {a : ApiToken}
    (h : ofSecret? secret = some a) : a.secret.toList = trim secret.toList := by
  unfold ofSecret? at h
  split at h
  · obtain rfl := Option.some.inj h
    exact String.toList_ofList
  · cases h

theorem shown_eq_iff {a b : ApiToken} : a.shown = b.shown ↔ a.redacted = b.redacted := by
  refine Iff.trans ?_ quoted_inj
  unfold shown
  rw [String.append_left_inj, String.append_right_inj]

/-- What is shown of two tokens, redacted or in a text of the whole, tells whether their secrets
have the same head and nothing else, and redacting by bytes comes to the same. -/
theorem shown_eq_iff_sameHead {s t : String} {a b : ApiToken} (ha : ofSecret? s = some a)
    (hb : ofSecret? t = some b) :
    (a.redacted = b.redacted ↔ SameHead (trim s.toList) (trim t.toList)) ∧
      (a.shown = b.shown ↔ SameHead (trim s.toList) (trim t.toList)) ∧
      redactSlicing? a.secret = some a.redacted ∧ redactSlicing? b.secret = some b.redacted := by
  have hredacted : a.redacted = b.redacted ↔ SameHead (trim s.toList) (trim t.toList) := by
    rw [← toList_secret_of_ofSecret? ha, ← toList_secret_of_ofSecret? hb]
    exact redact_eq_iff
  exact ⟨hredacted, shown_eq_iff.trans hredacted, redactSlicing?_eq _, redactSlicing?_eq _⟩

/-- Letters of two bytes each, and secrets of different lengths. -/
theorem shown_eq_of_umlauts : ∃ a b : ApiToken, a ≠ b ∧ ofSecret? " äöüß-eins\n" = some a ∧
    ofSecret? "äöüßzwei und mehr" = some b ∧ a.redacted = b.redacted ∧ a.shown = b.shown := by
  have ha : ofSecret? " äöüß-eins\n" = some ⟨"äöüß-eins", by decide⟩ := by decide
  have hb : ofSecret? "äöüßzwei und mehr" = some ⟨"äöüßzwei und mehr", by decide⟩ := by decide
  have hhead : SameHead (trim " äöüß-eins\n".toList) (trim "äöüßzwei und mehr".toList) := by decide
  obtain ⟨hredacted, hshown, -⟩ := shown_eq_iff_sameHead ha hb
  exact ⟨_, _, by decide, ha, hb, hredacted.mpr hhead, hshown.mpr hhead⟩

end ApiToken
end AdvisoryLedger
