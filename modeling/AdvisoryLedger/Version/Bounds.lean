/-!
# Version bounds

The versions that a vulnerability affects are given by up to four bounds: a lower one and
an upper one, each with or without the bound itself. A version is a text and is never
compared with another one by order, only by equality: two equal inclusive bounds and
nothing else pin one version.
-/

namespace AdvisoryLedger

/-- Bounds on a version, each of which may be missing. -/
structure VersionBounds where
  startIncluding : Option String
  startExcluding : Option String
  endIncluding : Option String
  endExcluding : Option String
  deriving DecidableEq, Repr

namespace VersionBounds

def empty : VersionBounds := ⟨none, none, none, none⟩

def isEmpty (b : VersionBounds) : Bool :=
  b.startIncluding.isNone && b.startExcluding.isNone && b.endIncluding.isNone
    && b.endExcluding.isNone

/-- The one version that the bounds pin. -/
def exactVersion? (b : VersionBounds) : Option String :=
  match b with
  | ⟨some first, none, some last, none⟩ => if first = last then some first else none
  | _ => none

/-- The bounds pin a version exactly when both inclusive bounds are that version and there
are no other bounds. -/
theorem exactVersion?_eq_some_iff {b : VersionBounds} {v : String} :
    b.exactVersion? = some v ↔ b = ⟨some v, none, some v, none⟩ := by
  rcases b with ⟨_ | a, _ | _, _ | d, _ | _⟩ <;> simp [exactVersion?]
  constructor
  · rintro ⟨rfl, rfl⟩; simp
  · rintro ⟨rfl, rfl⟩; simp

theorem isEmpty_iff {b : VersionBounds} : b.isEmpty = true ↔ b = empty := by
  rcases b with ⟨_ | _, _ | _, _ | _, _ | _⟩ <;> simp [isEmpty, empty]

end VersionBounds
end AdvisoryLedger
