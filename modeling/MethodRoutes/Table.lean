/-!
# Tables

A table maps each of its keys to one value. It keeps its entries in the order in which the
keys first came in, so that a walk over a table is a list, and two tables that differ only in
the order of their entries can be told apart where that matters.

## Main definitions

* `Table` — entries without a repeated key
* `Table.get?`, `Table.insert`, `Table.erase`, `Table.ofList`, `Table.keys`, `Table.size`

## Main results

* `Table.get?_insert`, `Table.get?_insertAll` — a lookup after an insertion, and after many of them
* `Table.get?_erase` — a lookup when an entry has been left out
* `Table.get?_mapValues`, `Table.mapValues_insert` — lookups and insertions do not look at values
* `Table.mem_keys_iff`, `Table.mem_entries_iff` — a key is present exactly when its lookup
  succeeds, and an entry exactly when it is found
* `Table.keys_insert_of_not_mem`, `Table.entries_insertAll` — new keys go to the end
* `Table.ofList_entries` — a table is made again from its entries
-/

namespace MethodRoutes

/-- Of several items that give something, the last one decides; without any, what was there at the
start stays. -/
theorem getLast?_filterMap_cons {α β : Type} (f : α → Option β) (a : α) (items : List α)
    (start : Option β) :
    ((a :: items).filterMap f).getLast?.or start =
      (items.filterMap f).getLast?.or ((f a).or start) := by
  rw [List.filterMap_cons]
  cases f a with
  | none => rfl
  | some b => cases hlast : (items.filterMap f).getLast? <;> simp [List.getLast?_cons, hlast]

/-- A finite map: a list of entries in which no key occurs twice. -/
structure Table (κ α : Type) where
  /-- The entries, in the order in which their keys first came in. -/
  entries : List (κ × α)
  /-- No key occurs twice. -/
  nodup_keys : (entries.map Prod.fst).Nodup

namespace Table

variable {κ α β : Type}

/-- The table without entries. -/
def empty : Table κ α := ⟨[], by simp⟩

instance : EmptyCollection (Table κ α) := ⟨empty⟩

instance : Inhabited (Table κ α) := ⟨empty⟩

/-- The keys, in the order of the entries. -/
def keys (t : Table κ α) : List κ := t.entries.map Prod.fst

/-- The number of entries. -/
def size (t : Table κ α) : Nat := t.entries.length

/-- Whether the table has no entry. -/
def isEmpty (t : Table κ α) : Bool := t.entries.isEmpty

/-- The entries after the value of `k` became `v`: an entry of the key is replaced where it
stands, a new key goes to the end. -/
def put [DecidableEq κ] (k : κ) (v : α) : List (κ × α) → List (κ × α)
  | [] => [(k, v)]
  | e :: rest => if e.1 = k then (k, v) :: rest else e :: put k v rest

theorem map_fst_put [DecidableEq κ] (k : κ) (v : α) (entries : List (κ × α)) :
    (put k v entries).map Prod.fst =
      if k ∈ entries.map Prod.fst then entries.map Prod.fst else entries.map Prod.fst ++ [k] := by
  induction entries with
  | nil => simp [put]
  | cons e rest ih =>
    by_cases h : e.1 = k
    · simp [put, h]
    · have h' : ¬ k = e.1 := fun he => h he.symm
      simp only [put, h, if_false, List.map_cons, ih, List.mem_cons, h', false_or]
      split <;> simp

theorem nodup_put [DecidableEq κ] (k : κ) (v : α) {entries : List (κ × α)}
    (h : (entries.map Prod.fst).Nodup) : ((put k v entries).map Prod.fst).Nodup := by
  rw [map_fst_put]
  split
  · exact h
  · next hk =>
    rw [List.nodup_append]
    refine ⟨h, by simp, ?_⟩
    intro a ha b hb hab
    simp only [List.mem_singleton] at hb
    exact hk (hb ▸ hab ▸ ha)

/-- Give the key `k` the value `v`, whatever it had before. -/
def insert [DecidableEq κ] (t : Table κ α) (k : κ) (v : α) : Table κ α :=
  ⟨put k v t.entries, nodup_put k v t.nodup_keys⟩

/-- Leave out the entry of the key `k`, if there is one. -/
def erase [DecidableEq κ] (t : Table κ α) (k : κ) : Table κ α :=
  ⟨t.entries.filter fun e => e.1 ≠ k, t.nodup_keys.sublist (List.filter_sublist.map Prod.fst)⟩

/-- Insert every entry of a list, in order. -/
def insertAll [DecidableEq κ] (t : Table κ α) (entries : List (κ × α)) : Table κ α :=
  entries.foldl (fun t e => t.insert e.1 e.2) t

/-- The table of a list of entries; of two entries with one key the later value stays. -/
def ofList [DecidableEq κ] (entries : List (κ × α)) : Table κ α :=
  empty.insertAll entries

/-- The value of a key. -/
def get? [DecidableEq κ] (t : Table κ α) (k : κ) : Option α :=
  (t.entries.find? fun e => e.1 = k).map Prod.snd

/-- Whether a key has a value. -/
def contains [DecidableEq κ] (t : Table κ α) (k : κ) : Bool := (t.get? k).isSome

/-- The same keys with other values. -/
def mapValues (f : α → β) (t : Table κ α) : Table κ β :=
  ⟨t.entries.map fun e => (e.1, f e.2), by
    simpa [Function.comp_def] using t.nodup_keys⟩

/-- Tables are told apart by their entries. -/
@[ext] theorem ext {s t : Table κ α} (h : s.entries = t.entries) : s = t := by
  cases s
  cases t
  cases h
  rfl

instance [DecidableEq κ] [DecidableEq α] : DecidableEq (Table κ α) := fun s t =>
  if h : s.entries = t.entries then
    isTrue (Table.ext h)
  else isFalse fun he => h (he ▸ rfl)

instance [Repr κ] [Repr α] : Repr (Table κ α) := ⟨fun t n => reprPrec t.entries n⟩

variable [DecidableEq κ]

@[simp] theorem get?_empty (k : κ) : (empty : Table κ α).get? k = none := rfl

theorem find?_put (k : κ) (v : α) (k' : κ) (entries : List (κ × α)) :
    ((put k v entries).find? fun e => e.1 = k').map Prod.snd =
      if k = k' then some v else (entries.find? fun e => e.1 = k').map Prod.snd := by
  induction entries with
  | nil => by_cases h : k = k' <;> simp [put, h]
  | cons e rest ih =>
    by_cases he : e.1 = k
    · by_cases h : k = k' <;> simp [put, he, h]
    · by_cases h' : e.1 = k'
      · have hk : ¬ k = k' := fun hk => he (h'.trans hk.symm)
        simp only [put, he, if_false, if_neg hk]
        rw [List.find?_cons_of_pos (by simpa using h'), List.find?_cons_of_pos (by simpa using h')]
      · simp only [put, he, if_false]
        rw [List.find?_cons_of_neg (by simpa using h'), ih,
          List.find?_cons_of_neg (by simpa using h')]

/-- After an insertion the key has the new value and every other key keeps its own. -/
@[simp] theorem get?_insert (t : Table κ α) (k k' : κ) (v : α) :
    (t.insert k v).get? k' = if k = k' then some v else t.get? k' :=
  find?_put k v k' t.entries

/-- After many insertions a key has the value that came last, or else the one from before. -/
theorem get?_insertAll (t : Table κ α) (entries : List (κ × α)) (k : κ) :
    (t.insertAll entries).get? k =
      (entries.filterMap fun e => if e.1 = k then some e.2 else none).getLast?.or (t.get? k) := by
  induction entries generalizing t with
  | nil => rfl
  | cons e entries ih =>
    rw [insertAll, List.foldl_cons, ← insertAll, ih, getLast?_filterMap_cons, get?_insert]
    by_cases h : e.1 = k
    · simp [h]
    · simp [h]

theorem get?_erase (t : Table κ α) (k k' : κ) :
    (t.erase k).get? k' = if k' = k then none else t.get? k' := by
  rw [get?, erase, List.find?_filter]
  by_cases hk : k' = k
  · -- No entry that is left has the key.
    simp [hk]
  · have hkept : (t.entries.find? fun e => decide (e.1 ≠ k) && decide (e.1 = k')) =
        t.entries.find? fun e => e.1 = k' := by
      congr 1
      funext e
      by_cases he : e.1 = k'
      · simp [he, hk]
      · simp [he]
    rw [if_neg hk, get?, ← hkept]
    simp

/-- The insertions do not look at the values. -/
theorem put_map_snd (f : α → β) (k : κ) (v : α) (entries : List (κ × α)) :
    put k (f v) (entries.map fun e => (e.1, f e.2)) =
      (put k v entries).map fun e => (e.1, f e.2) := by
  induction entries with
  | nil => rfl
  | cons e rest ih => by_cases h : e.1 = k <;> simp [put, h, ih]

theorem mapValues_insert (f : α → β) (t : Table κ α) (k : κ) (v : α) :
    (t.insert k v).mapValues f = (t.mapValues f).insert k (f v) := by
  simp only [mapValues, insert, put_map_snd]

@[simp] theorem get?_mapValues (f : α → β) (t : Table κ α) (k : κ) :
    (t.mapValues f).get? k = (t.get? k).map f := by
  simp only [get?, mapValues, List.find?_map, Option.map_map]
  rfl

theorem mem_keys_iff (t : Table κ α) (k : κ) : k ∈ t.keys ↔ (t.get? k).isSome := by
  simp [keys, get?, List.find?_isSome]

theorem get?_eq_none_iff (t : Table κ α) (k : κ) : t.get? k = none ↔ k ∉ t.keys := by
  rw [mem_keys_iff, Option.not_isSome_iff_eq_none]

/-- There is at most one entry with a key. -/
theorem filter_entries (t : Table κ α) (k : κ) :
    t.entries.filter (fun e => e.1 = k) = (t.get? k).toList.map fun v => (k, v) := by
  obtain ⟨entries, hnodup⟩ := t
  change entries.filter (fun e => e.1 = k) =
    ((entries.find? fun e => e.1 = k).map Prod.snd).toList.map fun v => (k, v)
  induction entries with
  | nil => rfl
  | cons e rest ih =>
    rw [List.map_cons, List.nodup_cons] at hnodup
    by_cases h : e.1 = k
    · -- The key does not occur again.
      have hrest : rest.filter (fun e => e.1 = k) = [] := by
        rw [List.filter_eq_nil_iff]
        intro e' he' hkey
        exact hnodup.1 (List.mem_map.mpr ⟨e', he', (of_decide_eq_true hkey).trans h.symm⟩)
      subst h
      simp [hrest]
    · rw [List.filter_cons_of_neg (by simpa using h), List.find?_cons_of_neg (by simpa using h)]
      exact ih hnodup.2

/-- Looking for the value of a key among all entries finds it, if there is one, and nothing else. -/
theorem filterMap_entries (t : Table κ α) (k : κ) :
    (t.entries.filterMap fun e => if e.1 = k then some e.2 else none) = (t.get? k).toList := by
  have hfilter : (t.entries.filterMap fun e => if e.1 = k then some e.2 else none) =
      (t.entries.filter fun e => e.1 = k).map Prod.snd := by
    rw [← List.filterMap_eq_map, List.filterMap_filter]
    congr 1
    funext e
    by_cases h : e.1 = k
    · simp [h]
    · simp [h]
  rw [hfilter, filter_entries, List.map_map]
  exact List.map_id _

theorem mem_entries_iff (t : Table κ α) (k : κ) (v : α) :
    (k, v) ∈ t.entries ↔ t.get? k = some v := by
  have hkey : (k, v) ∈ t.entries ↔ (k, v) ∈ t.entries.filter (fun e => e.1 = k) := by simp
  rw [hkey, filter_entries]
  simp

theorem keys_insert_of_not_mem {t : Table κ α} {k : κ} (h : k ∉ t.keys) (v : α) :
    (t.insert k v).keys = t.keys ++ [k] := by
  rw [keys, insert, map_fst_put]
  exact if_neg h

theorem put_of_not_mem {k : κ} {entries : List (κ × α)} (h : k ∉ entries.map Prod.fst) (v : α) :
    put k v entries = entries ++ [(k, v)] := by
  induction entries with
  | nil => rfl
  | cons e rest ih =>
    rw [List.map_cons, List.mem_cons, not_or] at h
    rw [put, if_neg (Ne.symm h.1), ih h.2, List.cons_append]

/-- Entries whose keys are all new and different go to the end, in their order. -/
theorem entries_insertAll {t : Table κ α} {entries : List (κ × α)}
    (h : ((t.entries ++ entries).map Prod.fst).Nodup) :
    (t.insertAll entries).entries = t.entries ++ entries := by
  induction entries generalizing t with
  | nil => exact (List.append_nil _).symm
  | cons e entries ih =>
    have hnew : e.1 ∉ t.entries.map Prod.fst := by
      rw [List.map_append, List.map_cons] at h
      intro hmem
      exact (List.nodup_append.mp h).2.2 e.1 hmem e.1 List.mem_cons_self rfl
    have hinsert : (t.insert e.1 e.2).entries = t.entries ++ [e] := put_of_not_mem hnew e.2
    rw [List.append_cons, ← hinsert] at h ⊢
    exact ih h

/-- A table is made again from its entries. -/
theorem ofList_entries (t : Table κ α) : ofList t.entries = t :=
  Table.ext (entries_insertAll t.nodup_keys)

end Table

end MethodRoutes
