import RamUsb.Go.Str
import Mathlib.Data.List.Nodup

/-!
# Go maps with string keys

A `map[string]V` is `GoMap V`: its entries in the order a `range` loop visits them, with
the distinctness of the keys as a field, so a map with a repeated key cannot be built. Go
does not fix the order of a `range` over a map; a theorem over every `GoMap` covers every
order, and the operations below never depend on it except through the order of the
entries they return.

`update` is the assignment `m[k] = v`: in place when `k` is present, appended otherwise.
`incr` is `m[k]++`, which starts from the zero value of an absent key.
-/

namespace RamUsb.Go

/-- A `map[string]V`, as the entries a `range` loop visits, keys distinct. -/
structure GoMap (V : Type) where
  entries : List (Str × V)
  nodup : (entries.map Prod.fst).Nodup
  deriving DecidableEq

namespace GoMap

variable {V : Type}

/-- The keys of the map. -/
def keys (m : GoMap V) : List Str := m.entries.map Prod.fst

/-- The values of the map. -/
def values (m : GoMap V) : List V := m.entries.map Prod.snd

/-- `len(m)`. -/
def size (m : GoMap V) : Nat := m.entries.length

/-- `make(map[string]V)`, or the literal `map[string]V{}`. -/
def empty : GoMap V := ⟨[], List.nodup_nil⟩

/-- A map literal with one entry. -/
def single (k : Str) (v : V) : GoMap V :=
  ⟨[(k, v)], List.nodup_cons.mpr ⟨List.not_mem_nil k, List.nodup_nil⟩⟩

/-- `v, ok := m[k]`. -/
def get? (m : GoMap V) (k : Str) : Option V := m.entries.lookup k

/-- The entries with the value at `k` replaced; keys are distinct, so the first match is
the only one. -/
def replace : List (Str × V) → Str → V → List (Str × V)
  | [], _, _ => []
  | (k', v') :: es, k, v => if k' = k then (k, v) :: es else (k', v') :: replace es k v

theorem map_fst_replace (entries : List (Str × V)) (k : Str) (v : V) :
    (replace entries k v).map Prod.fst = entries.map Prod.fst := by
  induction entries with
  | nil => rfl
  | cons e es ih =>
    by_cases he : e.1 = k
    · simp [replace, he]
    · simp [replace, he, ih]

/-- `m[k] = v`. -/
def update (m : GoMap V) (k : Str) (v : V) : GoMap V :=
  if h : k ∈ m.keys then ⟨replace m.entries k v, (map_fst_replace m.entries k v).symm ▸ m.nodup⟩
  else ⟨m.entries ++ [(k, v)], by
    simpa [List.nodup_middle, keys] using And.intro h m.nodup⟩

/-- `m[k]++` on a map of counters. -/
def incr (m : GoMap Int) (k : Str) : GoMap Int := m.update k ((m.get? k).getD 0 + 1)

@[simp] theorem keys_single (k : Str) (v : V) : (single k v).keys = [k] := rfl
@[simp] theorem values_single (k : Str) (v : V) : (single k v).values = [v] := rfl
@[simp] theorem entries_single (k : Str) (v : V) : (single k v).entries = [(k, v)] := rfl
@[simp] theorem entries_empty : (empty : GoMap V).entries = [] := rfl

theorem lookup_cons_ne (es : List (Str × V)) {k k' : Str} (v : V) (h : k ≠ k') :
    ((k', v) :: es).lookup k = es.lookup k := by
  simp [List.lookup_cons, beq_false_of_ne h]

theorem lookup_of_not_mem {entries : List (Str × V)} {k : Str}
    (hk : k ∉ entries.map Prod.fst) : entries.lookup k = none := by
  induction entries with
  | nil => rfl
  | cons e es ih =>
    have hne : k ≠ e.1 := fun h => hk (by simp [h])
    rw [lookup_cons_ne es e.2 hne]
    exact ih fun h => hk (List.mem_cons_of_mem _ h)

theorem get?_eq_none_iff (m : GoMap V) (k : Str) : m.get? k = none ↔ k ∉ m.keys := by
  simp only [get?, keys, List.lookup_eq_none_iff, bne_iff_ne, List.mem_map, not_exists, not_and]
  exact ⟨fun h p hp hk => h p hp hk.symm, fun h p hp hk => h p hp hk.symm⟩

theorem lookup_replace_self {entries : List (Str × V)} {k : Str} (v : V)
    (hk : k ∈ entries.map Prod.fst) : (replace entries k v).lookup k = some v := by
  induction entries with
  | nil => simp at hk
  | cons e es ih =>
    obtain ⟨k', v'⟩ := e
    by_cases he : k' = k
    · simp [replace, he]
    · have hk' : k ∈ es.map Prod.fst := by simpa [Ne.symm he] using hk
      simp only [replace, he, if_false, lookup_cons_ne _ _ (Ne.symm he), ih hk']

theorem lookup_replace_ne (entries : List (Str × V)) {k k' : Str} (v : V) (hk : k' ≠ k) :
    (replace entries k v).lookup k' = entries.lookup k' := by
  induction entries with
  | nil => rfl
  | cons e es ih =>
    obtain ⟨k'', v'⟩ := e
    by_cases he : k'' = k
    · subst he; simp only [replace, if_true, lookup_cons_ne _ _ hk]
    · simp only [replace, he, if_false]
      by_cases hk' : k' = k''
      · subst hk'; simp
      · simp only [lookup_cons_ne _ _ hk', ih]

@[simp] theorem get?_update_self (m : GoMap V) (k : Str) (v : V) : (m.update k v).get? k = some v := by
  unfold update get?
  split
  · exact lookup_replace_self v ‹k ∈ m.keys›
  · simp [List.lookup_append, lookup_of_not_mem ‹_›]

theorem get?_update_ne (m : GoMap V) {k k' : Str} (v : V) (hk : k' ≠ k) :
    (m.update k v).get? k' = m.get? k' := by
  unfold update get?
  split
  · exact lookup_replace_ne _ v hk
  · cases h : m.entries.lookup k' <;> simp [List.lookup_append, h, beq_false_of_ne hk, hk]

theorem get?_single (k k' : Str) (v : V) :
    (single k v).get? k' = if k' = k then some v else none := by
  by_cases h : k' = k
  · subst h; simp [get?, single]
  · simp [get?, single, lookup_cons_ne _ _ h, h]

theorem mem_of_lookup_eq_some {entries : List (Str × V)} {k : Str} {v : V}
    (h : entries.lookup k = some v) : (k, v) ∈ entries := by
  induction entries with
  | nil => cases h
  | cons e es ih =>
    obtain ⟨k', v'⟩ := e
    by_cases hk : k = k'
    · subst hk
      rw [List.lookup_cons_self] at h
      cases h
      exact List.mem_cons_self _ _
    · rw [lookup_cons_ne _ _ hk] at h
      exact List.mem_cons_of_mem _ (ih h)

theorem mem_entries_of_get? {m : GoMap V} {k : Str} {v : V} (h : m.get? k = some v) :
    (k, v) ∈ m.entries :=
  mem_of_lookup_eq_some h

/-- The entries under one key are the value `get?` finds: keys are distinct. -/
theorem filter_key_eq (m : GoMap V) (k : Str) :
    (m.entries.filter fun e => e.1 = k).map Prod.snd = (m.get? k).toList := by
  obtain ⟨entries, hnd⟩ := m
  simp only [get?]
  induction entries with
  | nil => rfl
  | cons e es ih =>
    obtain ⟨k', v'⟩ := e
    rw [List.map_cons, List.nodup_cons] at hnd
    by_cases hk : k' = k
    · subst hk
      have hnone : es.filter (fun e => e.1 = k') = [] :=
        List.filter_eq_nil_iff.mpr fun e he h => by
          have hm : e.1 ∈ es.map Prod.fst := List.mem_map_of_mem Prod.fst he
          rw [of_decide_eq_true h] at hm
          exact hnd.1 hm
      rw [List.filter_cons_of_pos (by simp), List.map_cons, hnone, List.lookup_cons_self]
      rfl
    · rw [List.filter_cons_of_neg (by simpa using hk), lookup_cons_ne _ _ (Ne.symm hk)]
      exact ih hnd.2

@[simp] theorem get?_incr_self (m : GoMap Int) (k : Str) :
    (m.incr k).get? k = some ((m.get? k).getD 0 + 1) :=
  get?_update_self m k _

end GoMap

end RamUsb.Go
