/-!
# Insert-only tables

A table spreads its entries over a fixed number of shards; a key's hash selects its shard. Entries
are only ever added: the first value stored under a key stays, and storing under it again does
nothing and says so. Nothing is evicted.

Seen from outside a table is a dictionary: `find?` and `insertIfAbsent` never show the shards. The
hash may be any function of the key.
-/

namespace Stencil

/-- The number of shards of every table. -/
def shardCount : Nat := 16

/-- The shard that a hash selects. -/
def shardOf (h : UInt64) : Fin shardCount := ⟨h.toNat % shardCount, Nat.mod_lt _ (by decide)⟩

/-- An insert-only table. -/
structure ShardedTable (κ ν : Type) where
  /-- The entries of each shard, the newest first. -/
  shards : Vector (List (κ × ν)) shardCount

namespace ShardedTable

variable {κ ν : Type}

/-- A table without entries. -/
def empty : ShardedTable κ ν := ⟨Vector.replicate shardCount []⟩

instance : Inhabited (ShardedTable κ ν) := ⟨empty⟩

/-- The entries of one shard. -/
def shard (t : ShardedTable κ ν) (i : Fin shardCount) : List (κ × ν) := t.shards[i]

/-- The value under a key given in another form: `view` is the form a stored key has, and the hash
of the form selects the shard. -/
def findView? {β : Type} [DecidableEq β] [Hashable β] (t : ShardedTable κ ν) (view : κ → β)
    (key : β) : Option ν :=
  ((t.shard (shardOf (hash key))).find? fun entry => view entry.1 = key).map (·.2)

variable [DecidableEq κ] [Hashable κ]

/-- The value under a key. -/
def find? (t : ShardedTable κ ν) (key : κ) : Option ν := t.findView? id key

/-- Stores a value under a key that has none; says whether it did. -/
def insertIfAbsent (t : ShardedTable κ ν) (key : κ) (value : ν) : Bool × ShardedTable κ ν :=
  match t.find? key with
  | some _ => (false, t)
  | none =>
    let i := shardOf (hash key)
    (true, ⟨t.shards.set i ((key, value) :: t.shard i)⟩)

omit [DecidableEq κ] [Hashable κ] in
/-- The number of entries: the shards' numbers together. -/
def size (t : ShardedTable κ ν) : Nat := t.shards.foldl (fun n shard => n + shard.length) 0

end ShardedTable

end Stencil
