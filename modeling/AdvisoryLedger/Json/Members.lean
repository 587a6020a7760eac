import AdvisoryLedger.Json.Value

/-!
# Members of objects

An object keeps its members as they were written, also where a key is repeated; whoever looks
a key up gets the last member that has it. A value without repetitions is the usual case, and
`Value.HasDistinctKeys` says that of a value and of everything inside it.

`Value.mapMember` changes what a key holds and leaves the rest of the object alone, and
`present` lists the members of an object that leaves out what there is nothing to say about.
-/

namespace AdvisoryLedger
namespace Json

/-- No object in the value has a key twice. -/
inductive Value.HasDistinctKeys : Value → Prop
  | null : HasDistinctKeys .null
  | bool (value : Bool) : HasDistinctKeys (.bool value)
  | number (n : Number) : HasDistinctKeys (.number n)
  | string (s : String) : HasDistinctKeys (.string s)
  | array {items : List Value} :
    (∀ v ∈ items, HasDistinctKeys v) → HasDistinctKeys (.array items)
  | object {members : List (String × Value)} :
    (members.map Prod.fst).Nodup → (∀ m ∈ members, HasDistinctKeys m.2) →
    HasDistinctKeys (.object members)

/-- The members of a value that is an object. -/
def Value.members? : Value → Option (List (String × Value))
  | .object members => some members
  | _ => none

theorem Value.members?_eq_some_iff {v : Value} {members : List (String × Value)} :
    v.members? = some members ↔ v = .object members := by
  cases v <;> simp [members?]

/-- What has a member is an object. -/
theorem Value.exists_of_member?_eq_some {key : String} {v w : Value} (h : v.member? key = some w) :
    ∃ members, v = .object members ∧ lookupLast key members = some w := by
  cases v with
  | object members => exact ⟨members, rfl, h⟩
  | _ => cases h

/-- The keys of a value that is an object. -/
def Value.keys (v : Value) : List String := (v.members?.getD []).map Prod.fst

/-- A member after what its key holds was changed, if it has that key. -/
def updateMember {α : Type} (key : String) (f : α → α) (m : String × α) : String × α :=
  if m.1 = key then (m.1, f m.2) else m

def Value.mapMember (key : String) (f : Value → Value) : Value → Value
  | .object members => .object (members.map (updateMember key f))
  | v => v

@[simp] theorem fst_updateMember {α : Type} (key : String) (f : α → α) (m : String × α) :
    (updateMember key f m).1 = m.1 := by
  unfold updateMember
  split <;> rfl

theorem map_fst_updateMember {α : Type} (key : String) (f : α → α) (members : List (String × α)) :
    (members.map (updateMember key f)).map Prod.fst = members.map Prod.fst := by
  rw [List.map_map]
  exact List.map_congr_left fun m _ => fst_updateMember key f m

theorem mem_of_lookupLast_eq_some {α : Type} {key : String} {members : List (String × α)} {a : α}
    (h : lookupLast key members = some a) : (key, a) ∈ members := by
  obtain ⟨m, hm, rfl⟩ := Option.map_eq_some_iff.mp h
  obtain rfl : m.1 = key := by simpa using List.find?_some hm
  exact List.mem_reverse.mp (List.mem_of_find?_eq_some hm)

/-- The key that was changed holds the new content, any other one what it held. -/
theorem lookupLast_map_updateMember {α : Type} (key name : String) (f : α → α)
    (members : List (String × α)) :
    lookupLast name (members.map (updateMember key f))
      = if name = key then (lookupLast name members).map f else lookupLast name members := by
  have hfind : (members.map (updateMember key f)).reverse.find? (·.1 == name)
      = (members.reverse.find? (·.1 == name)).map (updateMember key f) := by
    rw [← List.map_reverse, List.find?_map]
    congr 2
    funext m
    rw [Function.comp_apply, fst_updateMember]
  unfold lookupLast
  rw [hfind]
  cases hm : members.reverse.find? (·.1 == name) with
  | none => simp
  | some m =>
      obtain rfl : m.1 = name := by simpa using List.find?_some hm
      by_cases hkey : m.1 = key <;> simp [updateMember, hkey]

theorem keys_mapMember (key : String) (f : Value → Value) (v : Value) :
    (v.mapMember key f).keys = v.keys := by
  cases v with
  | object members => exact map_fst_updateMember key f members
  | _ => rfl

theorem member?_mapMember (key name : String) (f : Value → Value) (v : Value) :
    (v.mapMember key f).member? name
      = if name = key then (v.member? name).map f else v.member? name := by
  cases v with
  | object members => exact lookupLast_map_updateMember key name f members
  | _ => simp [Value.mapMember, Value.member?]

/-! ### Members that may be left out -/

/-- The members that have a content. -/
def present {α : Type} (members : List (String × Option α)) : List (String × α) :=
  members.filterMap fun m => m.2.map (m.1, ·)

@[simp] theorem lookupLast_nil {α : Type} (key : String) :
    lookupLast key ([] : List (String × α)) = none := rfl

@[simp] theorem present_nil {α : Type} : present ([] : List (String × Option α)) = [] := rfl

/-- A later member goes before the first one. -/
@[simp] theorem lookupLast_present_cons {α : Type} (key name : String) (content : Option α)
    (members : List (String × Option α)) :
    lookupLast key (present ((name, content) :: members))
      = (lookupLast key (present members)).or (if name = key then content else none) := by
  unfold lookupLast present
  cases content with
  | none => simp
  | some a =>
      simp only [List.filterMap_cons, Option.map_some, List.reverse_cons, List.find?_append,
        Option.map_or]
      by_cases hkey : name = key <;> simp [hkey]

end Json
end AdvisoryLedger
