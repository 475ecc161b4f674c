import ProxyInjector.CommandLine.Effect

/-!
# The values of a command line

What a command line sets stands in slots under the targets of flags.  One target stands for the
whole table of slots: an object that is set there becomes the table, and what is set afterwards is
written into it.  If it is an object of a flag, the flag has the changed object from then on.

* `Slots.put`      a slot set, or added at the end (`get?_put`);
* `Slots.adopt`    an object made the table;
* `Slots.set`      a target set to a value, where the target takes it;
* `Slots.objects`  what has become of the objects of flags.
-/

namespace ProxyInjector.CommandLine

/-- a value that is set, and the place of the flag whose default it is -/
structure Slot where
  value : Value
  origin : Option Nat := none

abbrev Entries := List (String × Slot)

namespace Entries

def get? (t : Entries) (target : String) : Option Slot :=
  (t.find? fun e => e.1 == target).map (·.2)

def put : Entries → String → Slot → Entries
  | [], target, slot => [(target, slot)]
  | e :: t, target, slot => if e.1 == target then (e.1, slot) :: t else e :: put t target slot

def ofFields (fields : List (String × Value)) : Entries :=
  fields.map fun f => (f.1, { value := f.2 })

def fields (t : Entries) : List (String × Value) := t.map fun e => (e.1, e.2.value)

theorem get?_put (t : Entries) (a b : String) (slot : Slot) :
    get? (put t a slot) b = if a = b then some slot else get? t b := by
  induction t with
  | nil => by_cases h : a = b <;> simp [put, get?, h]
  | cons e t ih =>
    unfold put
    by_cases hea : e.1 = a
    · by_cases hab : a = b <;> simp [get?, hea, hab]
    · by_cases heb : e.1 = b
      · have hab : a ≠ b := fun h => hea (heb.trans h.symm)
        simp [get?, heb, hab, Ne.symm hab]
      · simpa [get?, hea, heb] using ih

end Entries

/-- an object of the flag at a place -/
structure Owner where
  place : Nat
  own : Flag.Own
deriving DecidableEq, Repr

structure Slots where
  entries : Entries := []
  /-- the object that is the table, if it is a flag's -/
  owner : Option Owner := none
  /-- objects of flags that have been the table before -/
  left : List (Owner × Entries) := []

namespace Slots

def get? (s : Slots) (target : String) : Option Slot := s.entries.get? target

def put (s : Slots) (target : String) (slot : Slot) : Slots :=
  { s with entries := s.entries.put target slot }

/-- the objects of flags that are or have been the table, as they are now -/
def objects (s : Slots) : List (Owner × Entries) :=
  match s.owner with
  | some o => (o, s.entries) :: s.left.filter fun p => p.1 != o
  | none => s.left

/-- an object in the place of the table; an object of a flag may have been there before -/
def adopt (s : Slots) (owner : Option Owner) (fields : List (String × Value)) : Slots :=
  let known := owner.bind fun o => s.objects.lookup o
  { entries := known.getD (Entries.ofFields fields), owner, left := s.objects }

/-- what stands under a target: the value that is set, or else the collection's own answer -/
def held? (s : Slots) (target : String) : Option Held :=
  if ownFirst.contains target then Held.own? target
  else match s.get? target with
  | some slot => some (.value slot.value)
  | none => Held.own? target

/-- the target set to a value, which may be an object of a flag -/
def set (s : Slots) (target : String) (v : Value) (owner : Option Owner) :
    Except Unsuited Slots :=
  match target == tableTarget, v with
  | true, .object fields => .ok (s.adopt owner fields)
  | _, v => (checkTarget target v).map fun _ => s.put target { value := v }

theorem get?_put (s : Slots) (a b : String) (slot : Slot) :
    (s.put a slot).get? b = if a = b then some slot else s.get? b :=
  Entries.get?_put s.entries a b slot

end Slots

end ProxyInjector.CommandLine
