import AdvisoryLedger.Json.Members
import AdvisoryLedger.Json.Record
import Mathlib.Data.List.Forall2
import Mathlib.Data.List.Nodup

/-!
# Reading a record straight from a document

A record is read from a document without making a value of the document first. Where a value
can be made of the whole document, nothing depends on that: the fields that are found in the
document are those that the value has, and each of them can be read and reads as its part of
the value. `Reads` is this relation between the parts, `fields?_of_reads` is the statement for
one record, and the lemmas on fields and on lists take it from there.
-/

namespace AdvisoryLedger
namespace Json

/-- The document reads as the value, with room for so many arrays and objects. -/
def Reads (room : Nat) (t : Tree) (v : Value) : Prop := Value.ofTree? room t = some v

/-! ## Lists of results -/

theorem mapM_eq_some_iff_forall₂ {α β : Type} {f : α → Option β} {xs : List α} {ys : List β} :
    xs.mapM f = some ys ↔ List.Forall₂ (fun x y => f x = some y) xs ys := by
  induction xs generalizing ys with
  | nil => cases ys <;> simp
  | cons x xs ih =>
      rw [List.mapM_cons]
      cases hx : f x with
      | none => cases ys <;> simp [hx]
      | some y =>
          cases hxs : xs.mapM f with
          | none => cases ys <;> simp [hx, ← ih, hxs]
          | some rest => cases ys <;> simp [hx, ← ih, hxs]

theorem rel_find? {α β : Type} {R : α → β → Prop} {p : α → Bool} {q : β → Bool} {as : List α}
    {bs : List β} (h : List.Forall₂ R as bs) (hpq : ∀ a b, R a b → p a = q b) :
    Option.Rel R (as.find? p) (bs.find? q) := by
  induction h with
  | nil => exact .none
  | @cons a b as bs hab _ ih =>
      cases ha : p a with
      | true =>
          rw [List.find?_cons_of_pos ha, List.find?_cons_of_pos (hpq a b hab ▸ ha)]
          exact .some hab
      | false =>
          have hb : ¬ q b = true := by simp [← hpq a b hab, ha]
          rw [List.find?_cons_of_neg (by simp [ha]), List.find?_cons_of_neg hb]
          exact ih

/-- Two lists of members with the same keys in the same order give related answers. -/
theorem rel_lookupLast {α β : Type} {R : α → β → Prop} {as : List (String × α)}
    {bs : List (String × β)} (h : List.Forall₂ (fun a b => a.1 = b.1 ∧ R a.2 b.2) as bs)
    (key : String) : Option.Rel R (lookupLast key as) (lookupLast key bs) := by
  have hrel := rel_find? (p := (·.1 == key)) (q := (·.1 == key)) (List.forall₂_reverse_iff.mpr h)
    (fun a b hab => by rw [hab.1])
  unfold lookupLast
  generalize as.reverse.find? (·.1 == key) = a at hrel ⊢
  generalize bs.reverse.find? (·.1 == key) = b at hrel ⊢
  cases hrel with
  | none => exact .none
  | some hab => exact .some hab.2

/-! ## Parts of a value -/

variable {room : Nat} {t : Tree} {v : Value}

/-- Members whose keys can be decoded, with their contents still as they are in the document. -/
theorem exists_decodeKeys? {raw : List (List UInt8 × Tree)} {members : List (String × Value)}
    (h : List.Forall₂ (fun r m => decodeString? r.1 = some m.1 ∧ Reads room r.2 m.2) raw members) :
    ∃ keyed, decodeKeys? raw = some keyed ∧
      List.Forall₂ (fun k m => k.1 = m.1 ∧ Reads room k.2 m.2) keyed members := by
  unfold decodeKeys?
  simp only [mapM_eq_some_iff_forall₂]
  induction h with
  | nil => exact ⟨[], .nil, .nil⟩
  | @cons r m raw members hrm _ ih =>
      obtain ⟨keyed, hdecode, hreads⟩ := ih
      obtain ⟨hkey, hvalue⟩ := hrm
      exact ⟨(m.1, r.2) :: keyed, .cons (by simp [hkey]) hdecode, .cons ⟨rfl, hvalue⟩ hreads⟩

/-- A document that reads as an object is an object whose members read as those of the value. -/
theorem exists_members_of_reads {members : List (String × Value)}
    (h : Reads (room + 1) t (.object members)) :
    ∃ raw keyed, t = .object raw ∧ decodeKeys? raw = some keyed ∧
      List.Forall₂ (fun k m => k.1 = m.1 ∧ Reads room k.2 m.2) keyed members := by
  unfold Reads at h
  cases t with
  | object raw =>
      simp only [Value.ofTree?, Option.map_eq_some_iff, Value.object.injEq, exists_eq_right,
        mapM_eq_some_iff_forall₂] at h
      have hparts : List.Forall₂
          (fun r m => decodeString? r.1 = some m.1 ∧ Reads room r.2 m.2) raw members := by
        refine h.imp fun r m hrm => ?_
        obtain ⟨key, hkey, hrest⟩ := Option.bind_eq_some_iff.mp hrm
        obtain ⟨value, hvalue, hpair⟩ := Option.bind_eq_some_iff.mp hrest
        obtain rfl := Option.some.inj hpair
        exact ⟨hkey, hvalue⟩
      obtain ⟨keyed, hdecode, hreads⟩ := exists_decodeKeys? hparts
      exact ⟨raw, keyed, rfl, hdecode, hreads⟩
  | _ => simp [Value.ofTree?] at h

/-! ## Fields of a record -/

/-- Where the value has no key twice, the fields of the record are found, and each of them is
there exactly if the value has it and reads as what the value has. -/
theorem fields?_of_reads (room : Nat) {t : Tree} {members : List (String × Value)}
    (h : Reads (room + 1) t (.object members)) (hkeys : (members.map Prod.fst).Nodup)
    (names : List String) (least : Nat) :
    ∃ field : String → Option Tree, t.fields? names least = some (names.map field) ∧
      ∀ name, Option.Rel (Reads room) (field name) (lookupLast name members) := by
  obtain ⟨raw, keyed, rfl, hdecode, hreads⟩ := exists_members_of_reads h
  refine ⟨(lookupLast · keyed), ?_, rel_lookupLast hreads⟩
  have hsame : keyed.map Prod.fst = members.map Prod.fst := by
    rw [← List.forall₂_eq_eq_eq, List.forall₂_map_left_iff, List.forall₂_map_right_iff]
    exact hreads.imp fun k m hkm => hkm.1
  have honce : ∀ name, (keyed.filter fun m => m.1 == name).length ≤ 1 := by
    intro name
    have hcount : (keyed.map Prod.fst).count name ≤ 1 :=
      List.nodup_iff_count_le_one.mp (hsame ▸ hkeys) name
    rw [List.count, List.countP_map, List.countP_eq_length_filter] at hcount
    exact hcount
  simp only [Tree.fields?, hdecode, Option.bind_eq_bind, Option.bind_some]
  rw [if_pos]
  rw [List.all_eq_true]
  intro name _
  exact decide_eq_true (honce name)

/-- A field that holds a value can be read as it is, and a null in it counts as nothing. -/
theorem exists_optionalTree? {field : Option Tree} {value : Option Value}
    (h : Option.Rel (Reads room) field value) :
    ∃ found, optionalTree? (Value.ofTree? room) field = some found ∧
      (found = value ∨ found = none ∧ value = some .null) := by
  cases h with
  | none => exact ⟨none, rfl, .inl rfl⟩
  | @some t v hread =>
      by_cases hnull : t = .null
      · subst hnull
        obtain rfl : v = .null := by simpa [Reads, Value.ofTree?] using hread.symm
        exact ⟨none, rfl, .inr ⟨rfl, rfl⟩⟩
      · refine ⟨some v, ?_, .inl rfl⟩
        unfold Reads at hread
        cases t <;> simp_all [optionalTree?]

/-- The items of a list that may be missing or null. -/
def listedItems? : Option Value → Option (List Value)
  | none => some []
  | some .null => some []
  | some (.array items) => some items
  | some _ => none

/-- A list in a field of the document has the items that the value has there, and can be read
exactly if the value has a list there, or nothing. -/
theorem treesOf?_of_rel (room : Nat) {field : Option Tree} {value : Option Value}
    (h : Option.Rel (Reads (room + 1)) field value) :
    (optionalTree? (treesOf? (Value.ofTree? room)) field).map (·.getD []) = listedItems? value := by
  cases h with
  | none => rfl
  | @some t v hread =>
      unfold Reads at hread
      cases t with
      | array trees =>
          rw [Value.ofTree?, Option.map_eq_some_iff] at hread
          obtain ⟨items, hitems, rfl⟩ := hread
          simp [optionalTree?, treesOf?, hitems, listedItems?]
      | object raw =>
          rw [Value.ofTree?, Option.map_eq_some_iff] at hread
          obtain ⟨members, -, rfl⟩ := hread
          rfl
      | number text =>
          rw [Value.ofTree?, Option.map_eq_some_iff] at hread
          obtain ⟨n, -, rfl⟩ := hread
          rfl
      | string raw =>
          rw [Value.ofTree?, Option.map_eq_some_iff] at hread
          obtain ⟨s, -, rfl⟩ := hread
          rfl
      | null =>
          obtain rfl : Value.null = v := by simpa [Value.ofTree?] using hread
          rfl
      | bool b =>
          obtain rfl : Value.bool b = v := by simpa [Value.ofTree?] using hread
          rfl

end Json
end AdvisoryLedger
