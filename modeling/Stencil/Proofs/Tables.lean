import Stencil.Engine.ShardedTable

/-!
# Tables as dictionaries

What `find?` and `insertIfAbsent` say of a table, whatever the hash is and whichever keys share a
shard:

* `find?_insertIfAbsent`: after an insertion the key has the value it had before or else the new
  one, and every other key has what it had;
* `mem_entries_insertIfAbsent`: the entries are those from before and, where the key had no value,
  the new one;
* `mem_entries_of_find?`: what is found is an entry;
* `size_insertIfAbsent`: the number of entries grows by one just where the key had no value.
-/

namespace Stencil.ShardedTable

variable {κ ν : Type}

/-- All entries of a table, shard after shard. -/
def entries (t : ShardedTable κ ν) : List (κ × ν) := t.shards.toList.flatten

/-! ## 1. Entries -/

theorem mem_entries {t : ShardedTable κ ν} {x : κ × ν} :
    x ∈ t.entries ↔ ∃ i, x ∈ t.shard i := by
  simp only [entries, List.mem_flatten, Vector.mem_toList_iff, Vector.mem_iff_getElem]
  constructor
  · rintro ⟨_, ⟨i, hi, rfl⟩, hx⟩
    exact ⟨⟨i, hi⟩, hx⟩
  · rintro ⟨i, hx⟩
    exact ⟨_, ⟨i, i.isLt, rfl⟩, hx⟩

theorem shard_empty (i : Fin shardCount) : (empty : ShardedTable κ ν).shard i = [] := by
  simp [shard, empty]

@[simp] theorem entries_empty : (empty : ShardedTable κ ν).entries = [] := by
  rw [List.eq_nil_iff_forall_not_mem]
  intro x hx
  obtain ⟨i, hi⟩ := mem_entries.mp hx
  rw [shard_empty] at hi
  exact List.not_mem_nil hi

/-- A table counts its entries. -/
theorem size_eq (t : ShardedTable κ ν) : t.size = t.entries.length := by
  have total : ∀ (shards : List (List (κ × ν))) (n : Nat),
      shards.foldl (fun n shard => n + shard.length) n = n + shards.flatten.length := by
    intro shards
    induction shards with
    | nil => exact fun n => rfl
    | cons shard shards ih =>
      intro n
      rw [List.foldl_cons, ih, List.flatten_cons, List.length_append, Nat.add_assoc]
  rw [size, ← Vector.foldl_toList, total, Nat.zero_add, entries]

@[simp] theorem size_empty : (empty : ShardedTable κ ν).size = 0 := by
  rw [size_eq, entries_empty, List.length_nil]

/-- One more entry in one shard is one more entry. -/
theorem length_flatten_set {α : Type} {shards : List (List α)} {i : Nat} (h : i < shards.length)
    (x : α) : (shards.set i (x :: shards[i])).flatten.length = shards.flatten.length + 1 := by
  induction shards generalizing i with
  | nil => cases h
  | cons shard shards ih =>
    cases i with
    | zero =>
      simp only [List.set_cons_zero, List.getElem_cons_zero, List.flatten_cons, List.cons_append,
        List.length_cons]
    | succ i =>
      have rest := ih (Nat.lt_of_succ_lt_succ h)
      simp only [List.set_cons_succ, List.getElem_cons_succ, List.flatten_cons, List.length_append]
      omega

/-! ## 2. Finding -/

variable [DecidableEq κ] [Hashable κ]

theorem find?_eq (t : ShardedTable κ ν) (key : κ) :
    t.find? key = ((t.shard (shardOf (hash key))).find? (·.1 = key)).map (·.2) := rfl

@[simp] theorem find?_empty (key : κ) : (empty : ShardedTable κ ν).find? key = none := by
  rw [find?_eq, shard_empty]
  rfl

theorem mem_entries_of_find? {t : ShardedTable κ ν} {key : κ} {value : ν}
    (h : t.find? key = some value) : (key, value) ∈ t.entries := by
  rw [find?_eq] at h
  obtain ⟨⟨k, v⟩, hf, rfl⟩ := Option.map_eq_some_iff.mp h
  have hk : k = key := by simpa using List.find?_some hf
  subst hk
  exact mem_entries.mpr ⟨_, List.mem_of_find?_eq_some hf⟩

/-! ## 3. Storing -/

theorem insertIfAbsent_of_some {t : ShardedTable κ ν} {key : κ} {old : ν}
    (h : t.find? key = some old) (value : ν) : t.insertIfAbsent key value = (false, t) := by
  rw [insertIfAbsent, h]

theorem insertIfAbsent_snd_of_false {t : ShardedTable κ ν} {key : κ} {value : ν}
    (h : (t.insertIfAbsent key value).1 = false) : (t.insertIfAbsent key value).2 = t := by
  unfold insertIfAbsent at h ⊢
  cases hf : t.find? key with
  | some old => rfl
  | none =>
    rw [hf] at h
    cases h

/-- The shards after a key that had no value was stored. -/
theorem shard_insertIfAbsent {t : ShardedTable κ ν} {key : κ} (h : t.find? key = none) (value : ν)
    (i : Fin shardCount) : (t.insertIfAbsent key value).2.shard i =
      if i = shardOf (hash key) then (key, value) :: t.shard i else t.shard i := by
  rw [insertIfAbsent, h]
  simp only [shard]
  by_cases hi : i = shardOf (hash key)
  · subst hi
    rw [if_pos rfl]
    exact Vector.getElem_set_self _
  · rw [if_neg hi]
    exact Vector.getElem_set_ne _ _ fun e => hi (Fin.ext e.symm)

/-- **The first value stored under a key stays, and no other key is touched.** -/
theorem find?_insertIfAbsent (t : ShardedTable κ ν) (key x : κ) (value : ν) :
    (t.insertIfAbsent key value).2.find? x =
      if x = key then some ((t.find? key).getD value) else t.find? x := by
  cases h : t.find? key with
  | some old =>
      rw [insertIfAbsent_of_some h]
      by_cases hx : x = key
      · rw [if_pos hx, hx, h]
        rfl
      · rw [if_neg hx]
  | none =>
      rw [find?_eq, shard_insertIfAbsent h]
      by_cases hx : x = key
      · subst hx
        simp
      · rw [if_neg hx, find?_eq]
        split
        · rw [List.find?_cons_of_neg]
          simpa using fun e => hx e.symm
        · rfl

theorem mem_entries_insertIfAbsent {t : ShardedTable κ ν} {key : κ} {value : ν} {x : κ × ν} :
    x ∈ (t.insertIfAbsent key value).2.entries ↔
      x ∈ t.entries ∨ (t.find? key = none ∧ x = (key, value)) := by
  cases h : t.find? key with
  | some old =>
      rw [insertIfAbsent_of_some h]
      simp
  | none =>
      simp only [mem_entries, shard_insertIfAbsent h, true_and]
      constructor
      · rintro ⟨i, hi⟩
        split at hi
        · rcases List.mem_cons.mp hi with e | hi
          · exact Or.inr e
          · exact Or.inl ⟨i, hi⟩
        · exact Or.inl ⟨i, hi⟩
      · rintro (⟨i, hi⟩ | rfl)
        · refine ⟨i, ?_⟩
          split
          · exact List.mem_cons_of_mem _ hi
          · exact hi
        · exact ⟨shardOf (hash key), by rw [if_pos rfl]; exact List.mem_cons_self⟩

/-- **A table grows by one entry where a key has none, and not at all where it has one.** -/
theorem size_insertIfAbsent (t : ShardedTable κ ν) (key : κ) (value : ν) :
    (t.insertIfAbsent key value).2.size =
      if (t.find? key).isSome then t.size else t.size + 1 := by
  cases h : t.find? key with
  | some old =>
    rw [insertIfAbsent_of_some h]
    rfl
  | none =>
    rw [insertIfAbsent, h]
    simp only [size_eq, entries, Vector.toList_set]
    exact length_flatten_set (by rw [Vector.length_toList]; exact Fin.isLt _) _

end Stencil.ShardedTable
