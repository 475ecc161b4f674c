import ProxyInjector.Value

/-!
# Tables

A table holds values under keys, in the order in which the keys first came.  `Table.put` replaces
the value of a key that is there and keeps the key in its place, or appends a new entry.  Keys
compare as `Value.same` says; on texts that is equality (`get?_put_self_text`).
-/

namespace ProxyInjector

abbrev Table := List (Value × Value)

namespace Table

def get? (t : Table) (key : Value) : Option Value :=
  (t.find? fun e => e.1.same key).map (·.2)

def put : Table → Value → Value → Table
  | [], key, value => [(key, value)]
  | e :: t, key, value => if e.1.same key then (e.1, value) :: t else e :: put t key value

/-- the table of an object's fields; of two fields of one name the later counts -/
def ofFields (fields : List (String × Value)) : Table :=
  fields.foldl (fun t f => put t (.text f.1) f.2) []

theorem get?_cons (e : Value × Value) (t : Table) (key : Value) :
    get? (e :: t) key = if e.1.same key then some e.2 else get? t key := by
  unfold get?
  rw [List.find?_cons]
  cases e.1.same key <;> rfl

theorem get?_put_self_text (t : Table) (k : String) (value : Value) :
    get? (put t (.text k) value) (.text k) = some value := by
  induction t with
  | nil => simp [put, get?_cons]
  | cons e t ih =>
    unfold put
    split
    · next h => simp [get?_cons, h]
    · next h => simp [get?_cons, h, ih]

end Table

end ProxyInjector
