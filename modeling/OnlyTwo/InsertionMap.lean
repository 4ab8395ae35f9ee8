import Mathlib.Data.List.Nodup
import Mathlib.Data.List.Perm.Subperm

/-!
Insertion-ordered maps with the update rules of the ECMAScript `Map`. A key
that is set again keeps its place, a new key goes to the end, and iteration
runs from the oldest entry to the newest. Keys are distinct by construction,
so no lookup lemma carries a distinctness premise.
-/

namespace OnlyTwo

universe u v

structure InsertionMap (Key : Type u) (Value : Type v) where
  entries : List (Key × Value)
  distinct : (entries.map Prod.fst).Nodup
  deriving DecidableEq

namespace InsertionMap

variable {Key : Type u} {Value : Type v}

@[ext] theorem ext {left right : InsertionMap Key Value}
    (same : left.entries = right.entries) : left = right := by
  cases left; cases right; cases same; rfl

def empty : InsertionMap Key Value := ⟨[], List.nodup_nil⟩

instance : Inhabited (InsertionMap Key Value) := ⟨empty⟩

def keys (map : InsertionMap Key Value) : List Key := map.entries.map Prod.fst

def values (map : InsertionMap Key Value) : List Value := map.entries.map Prod.snd

def size (map : InsertionMap Key Value) : Nat := map.entries.length

@[simp] theorem keys_empty : (empty : InsertionMap Key Value).keys = [] := rfl

@[simp] theorem size_empty : (empty : InsertionMap Key Value).size = 0 := rfl

theorem keys_nodup (map : InsertionMap Key Value) : map.keys.Nodup := map.distinct

theorem length_keys (map : InsertionMap Key Value) : map.keys.length = map.size := by
  simp [keys, size]

/-- Keys below a bound that are as many as the bound are all of them. -/
theorem mem_keys_of_full {map : InsertionMap Nat Value} {count index : Nat}
    (inside : ∀ key ∈ map.keys, key < count) (full : count ≤ map.size) (small : index < count) :
    index ∈ map.keys := by
  have within : map.keys ⊆ List.range count := by
    intro key member
    exact List.mem_range.mpr (inside key member)
  have long : (List.range count).length ≤ map.keys.length := by
    rw [List.length_range, length_keys]
    exact full
  have same := (map.keys_nodup.subperm within).perm_of_length_le long
  exact same.mem_iff.mpr (List.mem_range.mpr small)

section Lookup
variable [DecidableEq Key]

def lookup (key : Key) : List (Key × Value) → Option Value
  | [] => none
  | entry :: rest => if entry.1 = key then some entry.2 else lookup key rest

def get? (map : InsertionMap Key Value) (key : Key) : Option Value := lookup key map.entries

def has (map : InsertionMap Key Value) (key : Key) : Bool := (map.get? key).isSome

@[simp] theorem get?_empty (key : Key) : (empty : InsertionMap Key Value).get? key = none := rfl

theorem lookup_isSome_iff (key : Key) (entries : List (Key × Value)) :
    (lookup key entries).isSome = true ↔ key ∈ entries.map Prod.fst := by
  induction entries with
  | nil => simp [lookup]
  | cons entry rest ih =>
      by_cases same : entry.1 = key
      · simp [lookup, same]
      · simp [lookup, same, ih, Ne.symm same]

theorem has_iff (map : InsertionMap Key Value) (key : Key) :
    map.has key = true ↔ key ∈ map.keys := lookup_isSome_iff key map.entries

theorem get?_eq_none_iff (map : InsertionMap Key Value) (key : Key) :
    map.get? key = none ↔ key ∉ map.keys := by
  rw [← map.has_iff, has]
  cases map.get? key <;> simp

theorem mem_of_lookup (key : Key) (value : Value) (entries : List (Key × Value))
    (found : lookup key entries = some value) : (key, value) ∈ entries := by
  induction entries with
  | nil => simp [lookup] at found
  | cons entry rest ih =>
      by_cases same : entry.1 = key
      · simp only [lookup, same, ↓reduceIte, Option.some.injEq] at found
        subst found same
        exact List.mem_cons_self
      · simp only [lookup, same, ↓reduceIte] at found
        exact List.mem_cons_of_mem entry (ih found)

theorem lookup_of_mem (key : Key) (value : Value) (entries : List (Key × Value))
    (distinct : (entries.map Prod.fst).Nodup) (member : (key, value) ∈ entries) :
    lookup key entries = some value := by
  induction entries with
  | nil => simp at member
  | cons entry rest ih =>
      rw [List.map_cons, List.nodup_cons] at distinct
      rcases List.mem_cons.mp member with first | later
      · subst first; simp [lookup]
      · have different : entry.1 ≠ key := by
          intro same
          exact distinct.1 (same ▸ List.mem_map_of_mem (f := Prod.fst) later)
        simpa [lookup, different] using ih distinct.2 later

theorem get?_eq_some_iff (map : InsertionMap Key Value) (key : Key) (value : Value) :
    map.get? key = some value ↔ (key, value) ∈ map.entries :=
  ⟨mem_of_lookup key value map.entries, lookup_of_mem key value map.entries map.distinct⟩

theorem mem_values_of_get? {map : InsertionMap Key Value} {key : Key} {value : Value}
    (found : map.get? key = some value) : value ∈ map.values :=
  List.mem_map.mpr ⟨_, (get?_eq_some_iff _ _ _).mp found, rfl⟩

theorem mem_keys_of_get? {map : InsertionMap Key Value} {key : Key} {value : Value}
    (found : map.get? key = some value) : key ∈ map.keys := by
  apply Classical.byContradiction
  intro absent
  rw [(map.get?_eq_none_iff key).mpr absent] at found
  cases found

end Lookup

section Update
variable [DecidableEq Key]

def setEntries (key : Key) (value : Value) : List (Key × Value) → List (Key × Value)
  | [] => [(key, value)]
  | entry :: rest =>
      if entry.1 = key then (key, value) :: rest else entry :: setEntries key value rest

theorem setEntries_keys (key : Key) (value : Value) (entries : List (Key × Value)) :
    (setEntries key value entries).map Prod.fst =
      if key ∈ entries.map Prod.fst then entries.map Prod.fst
      else entries.map Prod.fst ++ [key] := by
  induction entries with
  | nil => simp [setEntries]
  | cons entry rest ih =>
      by_cases same : entry.1 = key
      · simp [setEntries, same]
      · simp only [setEntries, same, ↓reduceIte, List.map_cons, ih, List.mem_cons,
          Ne.symm same, false_or]
        split <;> simp

def set (map : InsertionMap Key Value) (key : Key) (value : Value) : InsertionMap Key Value :=
  ⟨setEntries key value map.entries, by
    rw [setEntries_keys]
    split
    · exact map.distinct
    · rename_i absent
      exact List.nodup_append.mpr ⟨map.distinct, List.nodup_singleton key,
        fun a am b bm same => absent (by simpa [same, List.mem_singleton.mp bm] using am)⟩⟩

theorem keys_set (map : InsertionMap Key Value) (key : Key) (value : Value) :
    (map.set key value).keys = if key ∈ map.keys then map.keys else map.keys ++ [key] :=
  setEntries_keys key value map.entries

theorem mem_keys_set (map : InsertionMap Key Value) (key other : Key) (value : Value) :
    other ∈ (map.set key value).keys ↔ other = key ∨ other ∈ map.keys := by
  rw [keys_set]
  split
  · rename_i present
    exact ⟨Or.inr, fun either => either.elim (fun same => same ▸ present) id⟩
  · simp [or_comm]

theorem lookup_setEntries (key other : Key) (value : Value) (entries : List (Key × Value)) :
    lookup other (setEntries key value entries) =
      if other = key then some value else lookup other entries := by
  induction entries with
  | nil => simp [setEntries, lookup, eq_comm]
  | cons entry rest ih =>
      by_cases same : entry.1 = key
      · by_cases hit : other = key
        · simp [setEntries, lookup, same, hit]
        · simp [setEntries, lookup, same, hit, Ne.symm hit]
      · by_cases hit : entry.1 = other
        · have different : other ≠ key := fun equal => same (hit.trans equal)
          simp [setEntries, lookup, hit, different]
        · simp [setEntries, lookup, same, hit, ih]

theorem get?_set (map : InsertionMap Key Value) (key other : Key) (value : Value) :
    (map.set key value).get? other = if other = key then some value else map.get? other :=
  lookup_setEntries key other value map.entries

@[simp] theorem get?_set_self (map : InsertionMap Key Value) (key : Key) (value : Value) :
    (map.set key value).get? key = some value := by simp [get?_set]

theorem get?_set_ne (map : InsertionMap Key Value) {key other : Key} (value : Value)
    (different : other ≠ key) : (map.set key value).get? other = map.get? other := by
  simp [get?_set, different]

theorem size_set (map : InsertionMap Key Value) (key : Key) (value : Value) :
    (map.set key value).size = if key ∈ map.keys then map.size else map.size + 1 := by
  rw [← length_keys, keys_set]
  split <;> simp [length_keys]

/-- Writing back the value a key already has changes nothing, order included. -/
theorem set_same (map : InsertionMap Key Value) (key : Key) (value : Value)
    (found : map.get? key = some value) : map.set key value = map := by
  apply ext
  change setEntries key value map.entries = map.entries
  have stored : lookup key map.entries = some value := found
  generalize map.entries = entries at stored
  induction entries with
  | nil => simp [lookup] at stored
  | cons entry rest ih =>
      by_cases same : entry.1 = key
      · simp only [lookup, same, ↓reduceIte, Option.some.injEq] at stored
        subst stored same
        simp [setEntries]
      · simp only [lookup, same, ↓reduceIte] at stored
        simp [setEntries, same, ih stored]

def delete (map : InsertionMap Key Value) (key : Key) : InsertionMap Key Value :=
  ⟨map.entries.filter (fun entry => entry.1 ≠ key), by
    exact map.distinct.sublist ((List.filter_sublist).map Prod.fst)⟩

theorem mem_keys_delete (map : InsertionMap Key Value) (key other : Key) :
    other ∈ (map.delete key).keys ↔ other ≠ key ∧ other ∈ map.keys := by
  simp only [keys, delete, List.mem_map, List.mem_filter, decide_eq_true_eq]
  constructor
  · rintro ⟨entry, ⟨member, different⟩, rfl⟩
    exact ⟨different, entry, member, rfl⟩
  · rintro ⟨different, entry, member, rfl⟩
    exact ⟨entry, ⟨member, different⟩, rfl⟩

theorem mem_entries_delete (map : InsertionMap Key Value) (key : Key) (entry : Key × Value) :
    entry ∈ (map.delete key).entries ↔ entry ∈ map.entries ∧ entry.1 ≠ key := by
  simp [delete]

theorem get?_delete (map : InsertionMap Key Value) (key other : Key) :
    (map.delete key).get? other = if other = key then none else map.get? other := by
  by_cases same : other = key
  · subst same
    simp only [↓reduceIte, get?_eq_none_iff, mem_keys_delete]
    exact fun present => present.1 rfl
  · rw [if_neg same]
    cases found : map.get? other with
    | none =>
        rw [get?_eq_none_iff] at found ⊢
        exact fun present => found ((map.mem_keys_delete key other).mp present).2
    | some value =>
        rw [get?_eq_some_iff] at found ⊢
        exact (map.mem_entries_delete key _).mpr ⟨found, same⟩

theorem has_delete_self (map : InsertionMap Key Value) (key : Key) :
    (map.delete key).has key = false := by
  rw [has, get?_delete, if_pos rfl]
  rfl

theorem keys_delete (map : InsertionMap Key Value) (key : Key) :
    (map.delete key).keys = map.keys.filter (· ≠ key) := by
  simp [keys, delete, List.filter_map, Function.comp_def]

theorem size_delete_le (map : InsertionMap Key Value) (key : Key) :
    (map.delete key).size ≤ map.size := List.length_filter_le _ _

/-- Replacement of every value in place. -/
def mapValues (change : Value → Value) (map : InsertionMap Key Value) : InsertionMap Key Value :=
  ⟨map.entries.map (fun entry => (entry.1, change entry.2)), by
    rw [List.map_map]
    exact map.distinct⟩

omit [DecidableEq Key] in
theorem keys_mapValues (change : Value → Value) (map : InsertionMap Key Value) :
    (map.mapValues change).keys = map.keys := by
  rw [keys, mapValues, List.map_map]
  rfl

omit [DecidableEq Key] in
theorem size_mapValues (change : Value → Value) (map : InsertionMap Key Value) :
    (map.mapValues change).size = map.size := by
  rw [← length_keys, ← length_keys, keys_mapValues]

theorem of_get?_mapValues {change : Value → Value} {map : InsertionMap Key Value}
    {key : Key} {value : Value} (found : (map.mapValues change).get? key = some value) :
    ∃ was, map.get? key = some was ∧ change was = value := by
  have member := (get?_eq_some_iff _ _ _).mp found
  obtain ⟨⟨_, was⟩, early, same⟩ := List.mem_map.mp member
  cases same
  exact ⟨was, (get?_eq_some_iff _ _ _).mpr early, rfl⟩

/-- Deletion of every entry that fails a test, as a loop over the map does it. -/
def filter (keep : Key → Value → Bool) (map : InsertionMap Key Value) : InsertionMap Key Value :=
  ⟨map.entries.filter (fun entry => keep entry.1 entry.2), by
    exact map.distinct.sublist ((List.filter_sublist).map Prod.fst)⟩

theorem get?_filter_eq_some_iff (keep : Key → Value → Bool) (map : InsertionMap Key Value)
    (key : Key) (value : Value) :
    (map.filter keep).get? key = some value ↔ map.get? key = some value ∧ keep key value = true := by
  simp only [get?_eq_some_iff, filter, List.mem_filter]

end Update

/-! The bounded-cache discipline: while the map is over its limit, remove the
entry that iteration reaches first. -/
section Eviction

def evictEntries (limit : Nat) : List (Key × Value) → List (Key × Value)
  | [] => []
  | entry :: rest =>
      if limit < (entry :: rest).length then evictEntries limit rest else entry :: rest

theorem evictEntries_suffix (limit : Nat) (entries : List (Key × Value)) :
    evictEntries limit entries <:+ entries := by
  induction entries with
  | nil => exact List.suffix_refl _
  | cons entry rest ih =>
      simp only [evictEntries]
      split
      · exact ih.trans (List.suffix_cons entry rest)
      · exact List.suffix_refl _

def evict (limit : Nat) (map : InsertionMap Key Value) : InsertionMap Key Value :=
  ⟨evictEntries limit map.entries,
    map.distinct.sublist ((evictEntries_suffix limit map.entries).sublist.map Prod.fst)⟩

theorem evict_of_size_le (limit : Nat) (map : InsertionMap Key Value)
    (room : map.size ≤ limit) : map.evict limit = map := by
  apply ext
  change evictEntries limit map.entries = map.entries
  have bound : map.entries.length ≤ limit := room
  cases listed : map.entries with
  | nil => rfl
  | cons entry rest =>
      rw [listed] at bound
      simp only [evictEntries, Nat.not_lt.mpr bound, ↓reduceIte]

theorem size_evict (limit : Nat) (map : InsertionMap Key Value) :
    (map.evict limit).size = min limit map.size := by
  change (evictEntries limit map.entries).length = min limit map.entries.length
  induction map.entries with
  | nil => simp [evictEntries]
  | cons entry rest ih =>
      simp only [evictEntries]
      split
      · rename_i excess
        simp only [List.length_cons] at excess ⊢
        omega
      · rename_i fits
        omega

theorem entries_evict_suffix (limit : Nat) (map : InsertionMap Key Value) :
    (map.evict limit).entries <:+ map.entries := evictEntries_suffix limit map.entries

theorem mem_of_mem_evict {limit : Nat} {map : InsertionMap Key Value} {entry : Key × Value}
    (member : entry ∈ (map.evict limit).entries) : entry ∈ map.entries :=
  (entries_evict_suffix limit map).subset member

theorem keys_evict_suffix (limit : Nat) (map : InsertionMap Key Value) :
    (map.evict limit).keys <:+ map.keys := (entries_evict_suffix limit map).map Prod.fst

theorem keys_evict (limit : Nat) (map : InsertionMap Key Value) :
    (map.evict limit).keys = map.keys.drop (map.size - limit) := by
  obtain ⟨older, same⟩ := keys_evict_suffix limit map
  have length := congrArg List.length same
  rw [List.length_append, length_keys, length_keys, size_evict] at length
  rw [← same, List.drop_append_of_le_length (by omega), List.drop_of_length_le (by omega),
    List.nil_append]

theorem get?_evict [DecidableEq Key] (limit : Nat) (map : InsertionMap Key Value) (key : Key) :
    (map.evict limit).get? key = if key ∈ (map.evict limit).keys then map.get? key else none := by
  split
  · rename_i kept
    rw [← has_iff, has, Option.isSome_iff_exists] at kept
    obtain ⟨value, found⟩ := kept
    rw [found, eq_comm, get?_eq_some_iff]
    exact mem_of_mem_evict ((get?_eq_some_iff _ _ _).mp found)
  · rename_i gone
    exact (get?_eq_none_iff _ _).mpr gone

/-- The key is among the `count` newest ones. -/
def Recent (map : InsertionMap Key Value) (count : Nat) (key : Key) : Prop :=
  ∃ newest, newest <:+ map.keys ∧ key ∈ newest ∧ newest.length ≤ count

theorem Recent.mem {map : InsertionMap Key Value} {count : Nat} {key : Key}
    (recent : map.Recent count key) : key ∈ map.keys := by
  obtain ⟨newest, suffix, member, _⟩ := recent
  exact suffix.subset member

theorem Recent.evict {map : InsertionMap Key Value} {count limit : Nat} {key : Key}
    (recent : map.Recent count key) (room : count ≤ limit) :
    (map.evict limit).Recent count key := by
  obtain ⟨newest, suffix, member, short⟩ := recent
  have fits : newest.length ≤ (map.evict limit).keys.length := by
    rw [length_keys, size_evict, ← length_keys]
    have whole := suffix.length_le
    omega
  exact ⟨newest, List.suffix_of_suffix_length_le suffix (keys_evict_suffix limit map) fits,
    member, short⟩

theorem recent_set_new [DecidableEq Key] (map : InsertionMap Key Value) (key : Key)
    (value : Value) (absent : key ∉ map.keys) : (map.set key value).Recent 1 key := by
  refine ⟨[key], ?_, List.mem_singleton.mpr rfl, Nat.le_refl _⟩
  rw [keys_set, if_neg absent]
  exact List.suffix_append _ _

theorem Recent.set [DecidableEq Key] {map : InsertionMap Key Value} {count : Nat} {key : Key}
    (recent : map.Recent count key) (other : Key) (value : Value) :
    (map.set other value).Recent (count + 1) key := by
  obtain ⟨newest, ⟨older, same⟩, member, short⟩ := recent
  by_cases present : other ∈ map.keys
  · refine ⟨newest, ⟨older, ?_⟩, member, Nat.le_succ_of_le short⟩
    rw [keys_set, if_pos present, same]
  · refine ⟨newest ++ [other], ⟨older, ?_⟩, List.mem_append_left _ member, ?_⟩
    · rw [keys_set, if_neg present, ← same, List.append_assoc]
    · simpa using short

end Eviction

end InsertionMap

end OnlyTwo
