import AdvisoryLedger.Session

/-!
# Writing statement by statement

`Store.synchronize` goes from tables to tables, so it has no tables to show for a write that
fails half-way. A database takes a write as a row of statements. Each of them may be refused
for a rule of its table, and what the earlier ones did is there until it is undone.

`Store.writing` is the same write as such a row of statements, and `Store.attaching` is
`Store.attach` as one. Nothing is undone in them, so what they leave behind shows whether there
is ever anything to undo.
-/

namespace AdvisoryLedger
namespace Work

variable {σ α : Type}

/-- One statement. The state is left alone by one that is refused. -/
def statement (f : σ → Except Failure (α × σ)) : Work σ α :=
  Work.of fun s =>
    match f s with
    | .ok (a, t) => (.ok a, t)
    | .error e => (.error e, s)

/-- A statement that answers nothing. -/
def change (f : σ → Except Failure σ) : Work σ Unit := statement fun s => (f s).map ((), ·)

end Work

namespace Store

open Work

/-- Enter predicates one by one and keep each with its row number, as `persistAll` does. -/
def entering (kept : List (Nat × Predicate)) : List Predicate → Work Store (List (Nat × Predicate))
  | [] => pure kept
  | p :: ps => do
    let id ← statement (·.persistPredicate p)
    entering (if kept.any (·.1 == id) then kept else kept ++ [(id, p)]) ps

def linkingWeaknesses (row : Nat) : List Weakness → Work Store Unit
  | [] => pure ()
  | w :: ws => do
    change (·.linkWeakness ⟨row, w.id⟩)
    linkingWeaknesses row ws

def linkingPredicates (row position : Nat) : List Nat → Work Store Unit
  | [] => pure ()
  | id :: ids => do
    change (·.linkPredicate ⟨row, id, position⟩)
    linkingPredicates row (position + 1) ids

/-- The statements that write a draft. -/
def writing (d : Draft) : Work Store Vulnerability :=
  match storableId? d.record with
  | none => throw (.payload .missingIdentifier)
  | some vulnId => do
    let kept ← entering [] d.software
    let row ← statement (·.upsertVulnerability vulnId d.record)
    change fun s => .ok (s.unlinkWeaknesses row)
    linkingWeaknesses row d.record.weaknesses
    change fun s => .ok (s.unlinkPredicates row)
    linkingPredicates row 0 (kept.map (·.1))
    let software := kept.map fun (id, p) => { p with row := some (id : Int) }
    return { d.record with row := some (row : Int), software := software }

/-- The statements that give a component a vulnerability. -/
def attaching (v : Vulnerability) (component : String) (now : Instant) : Work Store Bool :=
  match v.row with
  | none => throw (.payload .notSynchronized)
  | some row => do
    if ← statement fun s => .ok ((s.component? component).isSome, s) then
      change (·.recordAttribution component row analyzer now.timestamp)
      return true
    else return false

end Store
end AdvisoryLedger
