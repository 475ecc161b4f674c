import ProxyInjector.Store.Basic

/-!
# Stores overlaid with entries

`Store.put` may refuse an entry.  Here its two outcomes are taken apart for entries of texts:

* `Store.refusal?`   the fault with which a store refuses an entry, if it does.  It depends on the
                     kind of the store and on whether it is frozen, and not on what it holds;
* `Store.write`      the store with the entry in it, whatever it thinks of it;
* `Store.overlay`    the same for a list of entries, in order.

`get?_overlay_of_mem` and `get?_overlay_of_ne` say what an overlaid store holds: the entries of
the list, and under every other key, text or not, what it held before.  Of two lists under the
same keys the second counts (`overlay_overlay`): the store is the same as if the first had never
been there, down to the order of its entries.
-/

namespace ProxyInjector

/-! ## keys -/

theorem Value.same_text_iff {v : Value} {a : String} : v.same (.text a) = true ↔ v = .text a := by
  cases v with
  | text s => simp
  | double d => cases h : d.whole? <;> simp [Value.same, Value.sameNumber, Value.integer?, h]
  | _ => simp [Value.same, Value.sameNumber, Value.integer?]

theorem Value.text_same_iff {v : Value} {a : String} :
    (Value.text a).same v = true ↔ v = .text a := by
  cases v with
  | text s => rw [Value.same_text, beq_iff_eq, Value.text.injEq, eq_comm]
  | double d => cases h : d.whole? <;> simp [Value.same, Value.sameNumber, Value.integer?, h]
  | _ => simp [Value.same, Value.sameNumber, Value.integer?]

theorem Table.get?_put_text (t : Table) (a : String) (value key : Value) :
    (t.put (.text a) value).get? key
      = if (Value.text a).same key then some value else t.get? key := by
  induction t with
  | nil => rw [Table.put, Table.get?_cons]
  | cons e t ih =>
    unfold Table.put
    by_cases h : e.1.same (.text a) = true
    · rw [if_pos h, Table.get?_cons, Table.get?_cons, Value.same_text_iff.mp h]
      split <;> rfl
    · rw [if_neg h, Table.get?_cons, Table.get?_cons, ih]
      by_cases hk : (Value.text a).same key = true
      · rw [if_pos hk, if_pos hk, if_neg (by rwa [Value.text_same_iff.mp hk])]
      · rw [if_neg hk, if_neg hk]

/-! ## writing over what was written -/

namespace Table

theorem put_put (t : Table) (a : String) (v w : Value) :
    (t.put (.text a) v).put (.text a) w = t.put (.text a) w := by
  induction t with
  | nil => simp [put]
  | cons e t ih =>
    by_cases h : e.1.same (.text a) = true
    · simp [put, h]
    · simp [put, h, ih]

/-- a key that is there keeps its place, so that another key may be written before or after it -/
theorem put_comm {t : Table} {a b : String} (hab : a ≠ b) (ha : (t.get? (.text a)).isSome)
    (v w : Value) : (t.put (.text b) v).put (.text a) w = (t.put (.text a) w).put (.text b) v := by
  induction t with
  | nil => cases ha
  | cons e t ih =>
    by_cases h : e.1.same (.text a) = true
    · have hb : e.1.same (.text b) = false := by
        rw [Value.same_text_iff.mp h, Value.same_text, beq_eq_false_iff_ne]
        exact hab
      simp [put, h, hb]
    · rw [get?_cons, if_neg h] at ha
      by_cases hb : e.1.same (.text b) = true
      · simp [put, h, hb]
      · simp [put, h, hb, ih ha]

def overlay (t : Table) (es : List (String × String)) : Table :=
  es.foldl (fun t e => t.put (.text e.1) (.text e.2)) t

theorem overlay_cons (t : Table) (e : String × String) (es : List (String × String)) :
    t.overlay (e :: es) = (t.put (.text e.1) (.text e.2)).overlay es := rfl

theorem overlay_append (t : Table) (es ds : List (String × String)) :
    t.overlay (es ++ ds) = (t.overlay es).overlay ds := List.foldl_append

theorem put_overlay {t : Table} {a : String} (ha : (t.get? (.text a)).isSome)
    {es : List (String × String)} (hes : a ∉ es.map (·.1)) (w : Value) :
    (t.overlay es).put (.text a) w = (t.put (.text a) w).overlay es := by
  induction es generalizing t with
  | nil => rfl
  | cons e es ih =>
    rw [List.map_cons] at hes
    have hae : a ≠ e.1 := List.ne_of_not_mem_cons hes
    have hthere : ((t.put (.text e.1) (.text e.2)).get? (.text a)).isSome := by
      rw [get?_put_text]
      split
      · rfl
      · exact ha
    rw [overlay_cons, ih hthere (List.not_mem_of_not_mem_cons hes), put_comm hae ha, overlay_cons]

/-- of two lists of entries under the same keys the second counts -/
theorem overlay_overlay {es ds : List (String × String)} (hkeys : es.map (·.1) = ds.map (·.1))
    (hn : (ds.map (·.1)).Nodup) (t : Table) : (t.overlay es).overlay ds = t.overlay ds := by
  induction ds generalizing es t with
  | nil => rw [List.map_eq_nil_iff.mp hkeys]; rfl
  | cons d ds ih =>
    obtain ⟨e, es, rfl, hed, hes⟩ := List.map_eq_cons_iff.mp hkeys
    rw [List.map_cons, List.nodup_cons] at hn
    have hthere : ((t.put (.text d.1) (.text e.2)).get? (.text d.1)).isSome := by
      rw [get?_put_self_text]
      rfl
    have hnot : d.1 ∉ es.map (·.1) := by
      rw [hes]
      exact hn.1
    rw [overlay_cons, overlay_cons, overlay_cons, hed, put_overlay hthere hnot, put_put,
      ih hes hn.2]

end Table

namespace Environment

/-- the variables as entries of a table -/
def table (e : Environment) : Table := e.map fun v => (.text v.1, .text v.2)

theorem get?_table (e : Environment) (name : String) :
    e.table.get? (.text name) = (e.get? name).map .text := by
  induction e with
  | nil => rfl
  | cons v e ih =>
    show Table.get? ((.text v.1, .text v.2) :: table e) (.text name) = _
    rw [Table.get?_cons, get?_cons, ih, Value.same_text]
    split <;> rfl

theorem table_put (e : Environment) (name value : String) :
    (e.put name value).table = e.table.put (.text name) (.text value) := by
  induction e with
  | nil => rfl
  | cons v e ih =>
    show table (put (v :: e) name value)
      = Table.put ((.text v.1, .text v.2) :: table e) (.text name) (.text value)
    rw [put, Table.put, Value.same_text]
    split
    · rfl
    · rw [← ih]; rfl

end Environment

namespace Store

/-! ## entries of texts -/

/-- the entry in the store, whatever the store thinks of it -/
def write : Store → String × String → Store
  | .properties t frozen, e => .properties (t.put (.text e.1) (.text e.2)) frozen
  | .mapping t, e => .mapping (t.put (.text e.1) (.text e.2))
  | .environment v, e => .environment (v.put e.1 e.2)

/-- the fault with which the store refuses an entry -/
def refusal? : Store → String × String → Option Fault
  | .properties _ frozen, e =>
    if frozen then some (.rejected (.text e.1) (.text frozenReason)) else none
  | .mapping _, _ => none
  | .environment _, e =>
    match Environment.check (.text e.1) (.text e.2) with
    | .ok _ => none
    | .error f => some (rejection (.text e.1) (.variable f))

theorem check_text_ok {name value : String} {v : String × String}
    (h : Environment.check (.text name) (.text value) = .ok v) : v = (name, value) := by
  simp only [Environment.check] at h
  split at h
  · cases h
  · split at h
    · cases h
    · split at h
      · cases h
      · exact (Except.ok.inj h).symm

theorem put_of_refusal {s : Store} {e : String × String} {f : Fault} (h : s.refusal? e = some f)
    (c : Console) : s.put (.text e.1) (.text e.2) c = (.error f, c) := by
  cases s with
  | properties t frozen =>
    obtain ⟨hf, he⟩ := Option.ite_none_right_eq_some.mp h
    simp [put, hf, ← Option.some.inj he]
  | mapping t => cases h
  | environment v =>
    simp only [refusal?] at h
    cases hc : Environment.check (.text e.1) (.text e.2) with
    | ok p => rw [hc] at h; cases h
    | error x =>
      rw [hc] at h
      simp only [put, hc, Option.some.inj h]

theorem put_of_refusal_none {s : Store} {e : String × String} (h : s.refusal? e = none)
    (c : Console) : s.put (.text e.1) (.text e.2) c
      = (.ok (s.write e), c.emit (writeRecord (.text e.1) (.text e.2)) s.site) := by
  cases s with
  | properties t frozen =>
    have hf : frozen = false := by simpa [refusal?] using h
    subst hf
    rfl
  | mapping t => rfl
  | environment v =>
    simp only [refusal?] at h
    cases hc : Environment.check (.text e.1) (.text e.2) with
    | ok p =>
      have hp := check_text_ok hc
      simp only [put, hc, hp]
      rfl
    | error x => rw [hc] at h; cases h

theorem refusal?_write (s : Store) (e e' : String × String) :
    (s.write e).refusal? e' = s.refusal? e' := by
  cases s <;> rfl

theorem hostFault_write (s : Store) (e : String × String) (key : Value) (f : Fault) :
    (s.write e).hostFault key f = s.hostFault key f := by
  cases s <;> rfl

theorem entries_write (s : Store) (e : String × String) :
    (s.write e).entries = s.entries.put (.text e.1) (.text e.2) := by
  cases s with
  | properties t frozen => rfl
  | mapping t => rfl
  | environment v => exact Environment.table_put v e.1 e.2

/-- reading a key given as text is reading the entries -/
theorem lookup_eq (s : Store) (key : String) :
    s.lookup key = (s.entries.get? (.text key)).getD .null := by
  cases s with
  | properties t frozen => rfl
  | mapping t => rfl
  | environment v =>
    show ((v.get? key).map .text).getD .null = (Table.get? v.table (.text key)).getD .null
    rw [Environment.get?_table]

/-! ## lists of entries -/

def overlay (s : Store) (es : List (String × String)) : Store := es.foldl write s

theorem overlay_cons (s : Store) (e : String × String) (es : List (String × String)) :
    s.overlay (e :: es) = (s.write e).overlay es := rfl

theorem overlay_append (s : Store) (es ds : List (String × String)) :
    s.overlay (es ++ ds) = (s.overlay es).overlay ds := List.foldl_append

theorem overlay_properties (t : Table) (frozen : Bool) (es : List (String × String)) :
    (properties t frozen).overlay es = .properties (t.overlay es) frozen := by
  induction es generalizing t with
  | nil => rfl
  | cons e es ih =>
    rw [overlay_cons, write, ih]
    rfl

/-- a key that no entry names keeps what it has -/
theorem get?_overlay_of_ne {es : List (String × String)} {key : Value}
    (h : ∀ e ∈ es, key ≠ .text e.1) (s : Store) :
    (s.overlay es).entries.get? key = s.entries.get? key := by
  induction es generalizing s with
  | nil => rfl
  | cons e es ih =>
    rw [overlay_cons, ih (fun e' he => h e' (List.mem_cons_of_mem _ he)), entries_write,
      Table.get?_put_text, if_neg]
    exact fun hk => h e List.mem_cons_self (Value.text_same_iff.mp hk)

/-- of entries under different keys each is there afterwards -/
theorem get?_overlay_of_mem {es : List (String × String)} (hn : (es.map (·.1)).Nodup)
    {e : String × String} (he : e ∈ es) (s : Store) :
    (s.overlay es).entries.get? (.text e.1) = some (.text e.2) := by
  induction es generalizing s with
  | nil => cases he
  | cons e' es ih =>
    rw [List.map_cons, List.nodup_cons] at hn
    rw [overlay_cons]
    rcases List.mem_cons.mp he with rfl | he
    · rw [get?_overlay_of_ne, entries_write, Table.get?_put_text, if_pos (by simp)]
      intro e' he' hk
      exact hn.1 (List.mem_map.mpr ⟨e', he', (Value.text.inj hk).symm⟩)
    · exact ih hn.2 he _

end Store

end ProxyInjector
