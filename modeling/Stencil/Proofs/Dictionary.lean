import Mathlib.Data.Finset.Card
import Mathlib.Data.Finset.Insert
import Stencil.Engine.State
import Stencil.Proofs.Tables

/-!
# Tables behind any calls

A table answers each call from the calls before it, as a dictionary would that only takes entries in.
How many shards there are, and which keys share one, shows nowhere.

* `inserted`, `first?`: the insertions among calls, and the first value under a key;
* `findView?_view`: a key is found by a form of it, if no other key has that form and the form hashes as
  the key does;
* `Remembers`: a table holds what the first insertions say. Every call keeps it (`Remembers.perform`);
* `replies_eq`: so every call of a run is answered from the calls before it;
* `table_is_dictionary`: all of it, for a table that began empty.
-/

namespace Stencil.ShardedTable

variable {κ ν β : Type}

/-! ## 1. Calls -/

/-- A call on a table whose keys have forms in `β`. -/
inductive TableCall (κ ν β : Type) where
  | find (key : κ)
  /-- Finds a key by its form. -/
  | findView (form : β)
  | insert (key : κ) (value : ν)
  | size

/-- What a call on a table gives. -/
inductive TableReply (ν : Type) where
  | found (value? : Option ν)
  /-- Whether the value was stored. -/
  | stored (new : Bool)
  | size (n : ℕ)

section Calls

variable [DecidableEq κ] [Hashable κ] [DecidableEq β] [Hashable β] (view : κ → β)

/-- The reply to a call, and the table behind it. -/
def TableCall.perform : TableCall κ ν β → ShardedTable κ ν → TableReply ν × ShardedTable κ ν
  | find key, t => (.found (t.find? key), t)
  | findView form, t => (.found (t.findView? view form), t)
  | insert key value, t =>
    (.stored (t.insertIfAbsent key value).1, (t.insertIfAbsent key value).2)
  | size, t => (.size t.size, t)

/-- The replies to calls that come one after the other, from whichever callers. -/
def replies : List (TableCall κ ν β) → ShardedTable κ ν → List (TableReply ν)
  | [], _ => []
  | c :: calls, t => (c.perform view t).1 :: replies calls (c.perform view t).2

/-- The table behind calls. -/
def performAll (calls : List (TableCall κ ν β)) (t : ShardedTable κ ν) : ShardedTable κ ν :=
  calls.foldl (fun t c => (c.perform view t).2) t

end Calls

/-! ## 2. What calls say -/

/-- The insertion that a call is. -/
def TableCall.inserted? : TableCall κ ν β → Option (κ × ν)
  | insert key value => some (key, value)
  | _ => none

/-- The insertions among calls. -/
def inserted (past : List (TableCall κ ν β)) : List (κ × ν) := past.filterMap TableCall.inserted?

/-- The value of the first insertion of a key that passes a test. -/
def first? (test : κ → Bool) (past : List (TableCall κ ν β)) : Option ν :=
  ((inserted past).find? fun entry => test entry.1).map (·.2)

theorem first?_append (test : κ → Bool) (past : List (TableCall κ ν β)) (c : TableCall κ ν β) :
    first? test (past ++ [c]) = (first? test past).or (first? test [c]) := by
  rw [first?, inserted, List.filterMap_append, List.find?_append, Option.map_or]
  rfl

section Keys

variable [DecidableEq κ]

/-- The keys that were inserted. -/
def insertedKeys (past : List (TableCall κ ν β)) : Finset κ := ((inserted past).map (·.1)).toFinset

theorem insertedKeys_append (past : List (TableCall κ ν β)) (c : TableCall κ ν β) :
    insertedKeys (past ++ [c]) = insertedKeys past ∪ insertedKeys [c] := by
  simp [insertedKeys, inserted, List.filterMap_append]

/-- A key has a first value if it was inserted. -/
theorem isSome_first?_iff {past : List (TableCall κ ν β)} {key : κ} :
    (first? (· = key) past).isSome = true ↔ key ∈ insertedKeys past := by
  simp [first?, insertedKeys]

/-- What a dictionary replies that has taken in the insertions of the past. -/
def replyBehind [DecidableEq β] (view : κ → β) (past : List (TableCall κ ν β)) :
    TableCall κ ν β → TableReply ν
  | .find key => .found (first? (· = key) past)
  | .findView form => .found (first? (view · = form) past)
  | .insert key _ => .stored (key ∉ insertedKeys past)
  | .size => .size (insertedKeys past).card

end Keys

/-! ## 3. What a table holds -/

section Tables

variable [DecidableEq κ] [Hashable κ]

theorem insertIfAbsent_fst (t : ShardedTable κ ν) (key : κ) (value : ν) :
    (t.insertIfAbsent key value).1 = (t.find? key).isNone := by
  rw [insertIfAbsent]
  cases t.find? key <;> rfl

/-- The table holds under each key the first value that was inserted, and as many entries as there are
such keys. -/
structure Remembers (past : List (TableCall κ ν β)) (t : ShardedTable κ ν) : Prop where
  found : ∀ key, t.find? key = first? (· = key) past
  counted : t.size = (insertedKeys past).card

namespace Remembers

variable {past : List (TableCall κ ν β)} {t : ShardedTable κ ν}

theorem start : Remembers ([] : List (TableCall κ ν β)) (empty : ShardedTable κ ν) :=
  ⟨fun key => find?_empty key, size_empty⟩

/-- A call that inserts nothing says nothing new. -/
theorem pass (h : Remembers past t) {c : TableCall κ ν β} (none : c.inserted? = none) :
    Remembers (past ++ [c]) t := by
  have same : inserted (past ++ [c]) = inserted past := by
    rw [inserted, List.filterMap_append, List.filterMap_cons_none none]
    simp [inserted]
  constructor
  · intro key
    rw [h.found, first?, first?, same]
  · rw [h.counted, insertedKeys, insertedKeys, same]

/-- **An insertion stores the value where the key is new**, and the key is one more then. -/
theorem insert (h : Remembers past t) (key : κ) (value : ν) :
    Remembers (past ++ [.insert key value]) (t.insertIfAbsent key value).2 := by
  constructor
  · intro x
    rw [find?_insertIfAbsent, first?_append, h.found, h.found]
    by_cases same : x = key
    · subst same
      rw [if_pos rfl]
      cases first? (· = x) past <;> simp [first?, inserted, TableCall.inserted?]
    · have other : ¬ key = x := fun h => same h.symm
      simp [same, other, first?, inserted, TableCall.inserted?]
  · have one : insertedKeys [(.insert key value : TableCall κ ν β)] = {key} := by
      simp [insertedKeys, inserted, TableCall.inserted?]
    rw [size_insertIfAbsent, h.found, insertedKeys_append, one, Finset.union_singleton, h.counted]
    by_cases known : key ∈ insertedKeys past
    · rw [if_pos (isSome_first?_iff.mpr known), Finset.insert_eq_of_mem known]
    · rw [if_neg fun some => known (isSome_first?_iff.mp some), Finset.card_insert_of_notMem known]

end Remembers

end Tables

/-! ## 4. Forms -/

section Forms

variable [DecidableEq β] [Hashable β] {view : κ → β}

/-- A form that no key has finds nothing. -/
theorem findView?_of_no_key {form : β} (none : ∀ key, view key ≠ form) (t : ShardedTable κ ν) :
    t.findView? view form = .none := by
  simp [findView?, none]

/-- **A key is found by its form**, if it is the only one with it and the form hashes as it does. -/
theorem findView?_view [DecidableEq κ] [Hashable κ] (injective : Function.Injective view)
    (hashed : ∀ key, hash (view key) = hash key) (t : ShardedTable κ ν) (key : κ) :
    t.findView? view (view key) = t.find? key := by
  rw [find?_eq, findView?, hashed]
  simp only [injective.eq_iff]

end Forms

/-! ## 5. Runs -/

variable [DecidableEq κ] [Hashable κ] [DecidableEq β] [Hashable β] {view : κ → β}

namespace Remembers

variable {past : List (TableCall κ ν β)} {t : ShardedTable κ ν}

/-- Every call keeps that the table holds what the calls say. -/
theorem perform (h : Remembers past t) (c : TableCall κ ν β) :
    Remembers (past ++ [c]) (c.perform view t).2 := by
  cases c with
  | find key => exact h.pass rfl
  | findView form => exact h.pass rfl
  | insert key value => exact h.insert key value
  | size => exact h.pass rfl

/-- **A call is answered from the calls before it.** -/
theorem reply (injective : Function.Injective view) (hashed : ∀ key, hash (view key) = hash key)
    (h : Remembers past t) (c : TableCall κ ν β) : (c.perform view t).1 = replyBehind view past c := by
  cases c with
  | find key => exact congrArg TableReply.found (h.found key)
  | findView form =>
    refine congrArg TableReply.found ?_
    by_cases known : ∃ key, view key = form
    · obtain ⟨key, rfl⟩ := known
      rw [findView?_view injective hashed, h.found]
      simp only [injective.eq_iff]
    · have none : ∀ key, ¬ view key = form := fun key same => known ⟨key, same⟩
      rw [findView?_of_no_key none]
      simp [first?, none]
  | insert key value =>
    refine congrArg TableReply.stored ?_
    rw [insertIfAbsent_fst, h.found, Bool.eq_iff_iff, decide_eq_true_iff, ← isSome_first?_iff]
    cases first? (· = key) past <;> simp
  | size => exact congrArg TableReply.size h.counted

/-- **Each call of a run is answered from the calls before it**, by induction over the run behind any
past. -/
theorem replies_eq (injective : Function.Injective view) (hashed : ∀ key, hash (view key) = hash key)
    (h : Remembers past t) (calls : List (TableCall κ ν β)) (i : ℕ) :
    (replies view calls t)[i]? = calls[i]?.map (replyBehind view (past ++ calls.take i)) := by
  induction calls generalizing past t i with
  | nil => rfl
  | cons c calls ih =>
    rw [replies]
    cases i with
    | zero =>
      rw [List.getElem?_cons_zero, List.getElem?_cons_zero, List.take_zero, List.append_nil,
        h.reply injective hashed, Option.map_some]
    | succ i =>
      rw [List.getElem?_cons_succ, List.getElem?_cons_succ, List.take_succ_cons, List.append_cons]
      exact ih (h.perform c) i

end Remembers

theorem performAll_append (calls : List (TableCall κ ν β)) (c : TableCall κ ν β)
    (t : ShardedTable κ ν) :
    performAll view (calls ++ [c]) t = (c.perform view (performAll view calls t)).2 :=
  List.foldl_concat ..

/-- **A table is a dictionary that only takes entries in.** Whatever the keys, their hashes and the values
are, and whatever calls are put to a table that began empty, each is answered from the calls before it: a
key gives the value of its first insertion, an insertion says whether it is the first one of its key, and
the size is the number of distinct keys that were inserted. An insertion does not touch what any other
key gives. A form that only one key has, and that hashes as the key, finds what the key finds. -/
theorem table_is_dictionary (injective : Function.Injective view)
    (hashed : ∀ key, hash (view key) = hash key) :
    (∀ (calls : List (TableCall κ ν β)) (i : ℕ),
      (replies view calls .empty)[i]? = calls[i]?.map (replyBehind view (calls.take i))) ∧
    (∀ (calls : List (TableCall κ ν β)) (key : κ) (value : ν) (other : κ), other ≠ key →
      (performAll view (calls ++ [.insert key value]) .empty).find? other =
        (performAll view calls .empty).find? other) ∧
    ∀ (calls : List (TableCall κ ν β)) (key : κ),
      (performAll view calls .empty).findView? view (view key) =
        (performAll view calls .empty).find? key := by
  refine ⟨fun calls i => ?_, fun calls key value other apart => ?_, fun calls key => ?_⟩
  · have replied := Remembers.start.replies_eq injective hashed calls i
    rwa [List.nil_append] at replied
  · rw [performAll_append]
    show find? (insertIfAbsent _ key value).2 other = _
    rw [find?_insertIfAbsent, if_neg apart]
  · exact findView?_view injective hashed _ key

/-- A text as a form of the key of a template. -/
structure TemplateText where
  text : String
  deriving DecidableEq

instance : Hashable TemplateText := ⟨fun t => Text.hashText t.text⟩

/-- Two insertions of one key, a call for its form, another key and the size. -/
def memoCalls : List (TableCall TemplateKey ℕ TemplateText) :=
  [.insert ⟨"a"⟩ 1, .insert ⟨"a"⟩ 2, .findView ⟨"a"⟩, .insert ⟨"b"⟩ 3, .size]

theorem table_is_dictionary_memo :
    Function.Injective (fun key : TemplateKey => TemplateText.mk key.template) ∧
    (∀ key : TemplateKey, hash (TemplateText.mk key.template) = hash key) ∧
    (replies (fun key => ⟨key.template⟩) memoCalls .empty)[2]? = some (.found (some 1)) ∧
    (replies (fun key => ⟨key.template⟩) memoCalls .empty)[4]? = some (.size 2) := by
  have injective : Function.Injective (fun key : TemplateKey => TemplateText.mk key.template) := by
    intro key other same
    cases key
    cases other
    cases same
    rfl
  have hashed : ∀ key : TemplateKey, hash (TemplateText.mk key.template) = hash key := fun key => rfl
  obtain ⟨replied, -, -⟩ := table_is_dictionary (ν := ℕ) injective hashed
  refine ⟨injective, hashed, (replied memoCalls 2).trans rfl, (replied memoCalls 4).trans rfl⟩

end Stencil.ShardedTable
