import AdvisoryLedger.Proofs.Version.Range
import AdvisoryLedger.Vulnerability.Predicate

/-!
# Keys that tell predicates apart

The key of a predicate joins its parts with a separator. As long as no part has the
separator in it, the parts can be read off the key again, and two predicates that were made
for packages with the same key are the same. The parts come from a coordinate and from a
range expression, so it is enough that those do not have the separator.
-/

namespace AdvisoryLedger

/-- The text does not have the separator of keys in it. -/
def Text.isUnseparated (s : String) : Bool := !s.toList.contains '\x1f'

theorem Text.isUnseparated_iff {s : String} : isUnseparated s = true ↔ '\x1f' ∉ s.toList := by
  simp [isUnseparated]

/-- The parts of the coordinate that a key has are without separators. -/
def Coordinate.isUnseparated (c : Coordinate) : Bool :=
  Text.isUnseparated c.type && c.scope.all Text.isUnseparated && Text.isUnseparated c.name

namespace Predicate

/-- A part that may be missing keeps what it is. -/
theorem keyPart_injective {a b : Option String} (h : keyPart a = keyPart b) : a = b := by
  have hchars := congrArg String.toList h
  cases a with
  | none =>
      cases b with
      | none => rfl
      | some t => simp [keyPart] at hchars
  | some s =>
      cases b with
      | none => simp [keyPart] at hchars
      | some t =>
          have hst : s.toList = t.toList := by simpa [keyPart] using hchars
          rw [String.toList_inj.mp hst]

theorem isUnseparated_keyPart {a : Option String} (h : ∀ s ∈ a, Text.isUnseparated s = true) :
    Text.isUnseparated (keyPart a) = true := by
  cases a with
  | none => rfl
  | some s =>
      have hs := Text.isUnseparated_iff.mp (h s rfl)
      rw [Text.isUnseparated_iff, keyPart, String.toList_append, List.mem_append, not_or]
      exact ⟨by decide, hs⟩

/-- A key has its parts in it. -/
theorem keyParts_eq_of_identity_eq {p q : Predicate} (h : p.identity = q.identity)
    (hp : ∀ part ∈ p.keyParts, Text.isUnseparated part = true)
    (hq : ∀ part ∈ q.keyParts, Text.isUnseparated part = true) : p.keyParts = q.keyParts := by
  have hsplit {r : Predicate} (hr : ∀ part ∈ r.keyParts, Text.isUnseparated part = true) :
      r.identity.toList.splitOn '\x1f' = r.keyParts.map String.toList := by
    unfold identity
    rw [String.toList_intercalate]
    apply List.splitOn_intercalate
    · intro l hl
      obtain ⟨part, hpart, rfl⟩ := List.mem_map.mp hl
      exact Text.isUnseparated_iff.mp (hr part hpart)
    · simp [keyParts]
  have hlists : p.keyParts.map String.toList = q.keyParts.map String.toList := by
    rw [← hsplit hp, h, hsplit hq]
  exact (List.map_inj_right (fun _ _ => String.toList_inj.mp)).mp hlists

/-- The parts of a key say what they came from. -/
theorem parts_eq_of_keyParts_eq {p q : Predicate} (h : p.keyParts = q.keyParts) :
    p.type = q.type ∧ p.scope = q.scope ∧ p.name = q.name ∧ p.bounds = q.bounds := by
  simp only [keyParts, List.cons.injEq, and_true] at h
  obtain ⟨htype, hscope, hname, h₁, h₂, h₃, h₄⟩ := h
  refine ⟨htype, keyPart_injective hscope, hname, ?_⟩
  calc p.bounds
    _ = ⟨p.bounds.startIncluding, p.bounds.startExcluding, p.bounds.endIncluding,
          p.bounds.endExcluding⟩ := rfl
    _ = q.bounds := by
        rw [keyPart_injective h₁, keyPart_injective h₂, keyPart_injective h₃, keyPart_injective h₄]

/-- The same key means the same package and the same bounds. -/
theorem ofCoordinate_eq_of_keyParts_eq {c c' : Coordinate} {b b' : VersionBounds}
    (h : (ofCoordinate c b).keyParts = (ofCoordinate c' b').keyParts) :
    ofCoordinate c b = ofCoordinate c' b' := by
  obtain ⟨htype, hscope, hname, hbounds⟩ : c.type = c'.type ∧ c.scope = c'.scope
      ∧ c.name = c'.name ∧ b = b' := parts_eq_of_keyParts_eq h
  unfold ofCoordinate
  rw [htype, hscope, hname, hbounds]

theorem isUnseparated_of_mem_keyParts {c : Coordinate} {b : VersionBounds}
    (hc : c.isUnseparated = true) (hb : ∀ v ∈ b.versions, Text.isUnseparated v = true) {part : String}
    (h : part ∈ (ofCoordinate c b).keyParts) : Text.isUnseparated part = true := by
  simp only [Coordinate.isUnseparated, Bool.and_eq_true, Option.all_eq_true] at hc
  have hbound {v : Option String} (hv : v ∈ [b.startIncluding, b.startExcluding, b.endIncluding,
      b.endExcluding]) : Text.isUnseparated (keyPart v) = true := by
    apply isUnseparated_keyPart
    intro s hs
    exact hb s (List.mem_filterMap.mpr ⟨v, hv, hs⟩)
  simp only [keyParts, ofCoordinate, ofParts, List.mem_cons, List.not_mem_nil, or_false] at h
  rcases h with rfl | rfl | rfl | rfl | rfl | rfl | rfl
  · exact hc.1.1
  · exact isUnseparated_keyPart (fun s hs => hc.1.2 s hs)
  · exact hc.2
  all_goals exact hbound (by simp)

theorem isUnseparated_of_mem_versions {range : String} (hr : Text.isUnseparated range = true) :
    ∀ v ∈ (VersionBounds.ofExpression range).versions, Text.isUnseparated v = true := by
  intro v hv
  rw [Text.isUnseparated_iff] at hr ⊢
  exact fun hmem => hr (VersionBounds.subset_of_mem_ofExpression hv hmem)

/-- Predicates for packages and ranges without separators have the same key only if they are
the same. -/
theorem ofCoordinate_inj {c c' : Coordinate} {range range' : String}
    (hc : c.isUnseparated = true) (hc' : c'.isUnseparated = true)
    (hr : Text.isUnseparated range = true) (hr' : Text.isUnseparated range' = true)
    (h : (ofCoordinate c (.ofExpression range)).identity
      = (ofCoordinate c' (.ofExpression range')).identity) :
    ofCoordinate c (.ofExpression range) = ofCoordinate c' (.ofExpression range') := by
  apply ofCoordinate_eq_of_keyParts_eq
  apply keyParts_eq_of_identity_eq h
  · exact fun _ => isUnseparated_of_mem_keyParts hc (isUnseparated_of_mem_versions hr)
  · exact fun _ => isUnseparated_of_mem_keyParts hc' (isUnseparated_of_mem_versions hr')

end Predicate
end AdvisoryLedger
