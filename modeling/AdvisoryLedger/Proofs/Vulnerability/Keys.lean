import AdvisoryLedger.Proofs.Package.Reading
import AdvisoryLedger.Proofs.Package.Url
import AdvisoryLedger.Proofs.Vulnerability.Identity

/-!
# When two predicates have one key

A key joins its parts as they are, so a part with the separator in it reads like two parts.
Counting the separators tells when that did not happen: a key with no more of them than its
joints has no part with a separator. So it is enough to know that of one of two predicates
with the same key, which is what `identity_eq_iff` needs it for.

The condition cannot be left out. Nothing keeps an escaped separator out of a package URL, and
`identity_confuses` has two packages of one type that share a key.
-/

namespace AdvisoryLedger

namespace Predicate

/-- The separators of a joined text are its joints and those of its parts. -/
theorem count_intercalate (mark : Char) (l : List Char) (ls : List (List Char)) :
    ([mark].intercalate (l :: ls)).count mark = ls.length + (l :: ls).flatten.count mark := by
  induction ls generalizing l with
  | nil => simp
  | cons l' ls ih =>
      rw [List.intercalate_cons_cons, List.count_append, List.count_append, ih,
        List.count_singleton_self, List.flatten_cons (l := l), List.count_append, List.length_cons]
      omega

theorem count_identity (p : Predicate) :
    p.identity.toList.count '\x1f' = 6 + (p.keyParts.map String.toList).flatten.count '\x1f' := by
  unfold identity
  rw [String.toList_intercalate]
  exact count_intercalate '\x1f' _ _

/-- One key has room for the separators of one predicate only. -/
theorem isUnseparated_of_identity_eq {p q : Predicate} (h : p.identity = q.identity)
    (hp : ∀ part ∈ p.keyParts, Text.isUnseparated part = true) :
    ∀ part ∈ q.keyParts, Text.isUnseparated part = true := by
  have hcounts : p.identity.toList.count '\x1f' = q.identity.toList.count '\x1f' := by rw [h]
  rw [count_identity, count_identity] at hcounts
  have hnone : (p.keyParts.map String.toList).flatten.count '\x1f' = 0 := by
    rw [List.count_eq_zero]
    intro hmem
    obtain ⟨cs, hcs, hc⟩ := List.mem_flatten.mp hmem
    obtain ⟨part, hpart, rfl⟩ := List.mem_map.mp hcs
    exact Text.isUnseparated_iff.mp (hp part hpart) hc
  have hnone' : (q.keyParts.map String.toList).flatten.count '\x1f' = 0 := by omega
  intro part hpart
  rw [Text.isUnseparated_iff]
  intro hmem
  exact List.count_eq_zero.mp hnone'
    (List.mem_flatten.mpr ⟨_, List.mem_map_of_mem hpart, hmem⟩)

/-- The key of a predicate is the key of no other package and no other bounds, if scope, name
and range have no separator in them. -/
theorem identity_eq_iff {text range range' : String} {c c' : Coordinate}
    (hread : PackageUrl.read text = .ok c) (hscope : ∀ s ∈ c.scope, Text.isUnseparated s = true)
    (hname : Text.isUnseparated c.name = true) (hrange : Text.isUnseparated range = true) :
    (ofCoordinate c (.ofExpression range)).identity
        = (ofCoordinate c' (.ofExpression range')).identity
      ↔ c.type = c'.type ∧ c.scope = c'.scope ∧ c.name = c'.name
        ∧ VersionBounds.ofExpression range = VersionBounds.ofExpression range' := by
  constructor
  · intro h
    have htype : Text.isUnseparated c.type = true := by
      rw [Text.isUnseparated_iff]
      intro hmem
      exact absurd (PackageUrl.mem_type_of_read hread hmem) (by decide)
    have hc : c.isUnseparated = true := by
      simp only [Coordinate.isUnseparated, Bool.and_eq_true, Option.all_eq_true]
      exact ⟨⟨htype, hscope⟩, hname⟩
    have hp : ∀ part ∈ (ofCoordinate c (.ofExpression range)).keyParts,
        Text.isUnseparated part = true :=
      fun _ => isUnseparated_of_mem_keyParts hc (isUnseparated_of_mem_versions hrange)
    have hparts := keyParts_eq_of_identity_eq h hp (isUnseparated_of_identity_eq h hp)
    have hsame := ofCoordinate_eq_of_keyParts_eq hparts
    exact ⟨congrArg type hsame, congrArg scope hsame, congrArg name hsame, congrArg bounds hsame⟩
  · rintro ⟨htype, hscope, hname, hbounds⟩
    unfold ofCoordinate
    rw [htype, hscope, hname, hbounds]

/-- Another spelling of a range keeps the key, another scope does not. -/
theorem identity_of_spelling :
    (ofCoordinate ⟨"npm", some "@babel", "core", none⟩ (.ofExpression ">= 7, < 8")).identity
        = (ofCoordinate ⟨"npm", some "@babel", "core", none⟩ (.ofExpression "[7,8)")).identity
      ∧ (ofCoordinate ⟨"npm", some "@babel", "core", none⟩ (.ofExpression ">= 7, < 8")).identity
        ≠ (ofCoordinate ⟨"npm", none, "core", none⟩ (.ofExpression "[7,8)")).identity := by
  have hwritten : PackageUrl.Pieces.Written ⟨"npm".toList, "%40babel/core".toList, none, none, none⟩
      "pkg:npm/%40babel/core" ["@babel"] "core" none := by
    constructor <;> decide +kernel
  have hread : PackageUrl.read "pkg:npm/%40babel/core" = .ok ⟨"npm", some "@babel", "core", none⟩ :=
    hwritten.read.trans (by decide +kernel)
  constructor
  · exact (identity_eq_iff hread (by decide) (by decide) (by decide)).mpr
      ⟨rfl, rfl, rfl, by decide +kernel⟩
  · intro h
    have hsame := (identity_eq_iff hread (by decide) (by decide) (by decide)).mp h
    exact absurd hsame.2.1 (by decide)

/-- An escaped separator in a scope and one in a name give two packages the same key. -/
theorem identity_confuses :
    ∃ c c' : Coordinate, PackageUrl.read "pkg:cargo/a%1Fb/c" = .ok c
      ∧ PackageUrl.read "pkg:cargo/a/b%1Fc" = .ok c'
      ∧ (ofCoordinate c (.ofExpression "<2")).identity
        = (ofCoordinate c' (.ofExpression "<2")).identity
      ∧ c.scope ≠ c'.scope ∧ c.name ≠ c'.name := by
  have hscope : PackageUrl.Pieces.Written ⟨"cargo".toList, "a%1Fb/c".toList, none, none, none⟩
      "pkg:cargo/a%1Fb/c" ["a\x1fb"] "c" none := by
    constructor <;> decide +kernel
  have hname : PackageUrl.Pieces.Written ⟨"cargo".toList, "a/b%1Fc".toList, none, none, none⟩
      "pkg:cargo/a/b%1Fc" ["a"] "b\x1fc" none := by
    constructor <;> decide +kernel
  refine ⟨_, _, hscope.read, hname.read, ?_, ?_, ?_⟩ <;> decide +kernel

end Predicate
end AdvisoryLedger
