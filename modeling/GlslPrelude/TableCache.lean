import GlslPrelude.SymbolTable.Query
import GlslPrelude.SymbolTable.Source

/-!
# Caching tables

A cache keeps the tables of the environments that were asked for last. Each environment has a slot,
which is created when the environment is asked for, so it is empty until its table is built. The
slots stand in the order of their last use; when there are too many, the least recently used ones
go.
-/

namespace GlslPrelude

/-- What a cache has counted. The counters are machine words and start again at zero behind the
largest one. -/
structure CacheStats where
  /-- Requests answered with a table that was there. -/
  hits : UInt64
  /-- Requests for which a table had to be built, with or without success. -/
  misses : UInt64
  /-- Tables that were built. -/
  builds : UInt64
deriving DecidableEq

/-- A table that a cache gives out. Requests that are answered with the same table get the same
serial number. -/
structure PublishedTable where
  /-- Number of tables that the cache had built before this one. -/
  serial : Nat
  /-- The table. -/
  table : SymbolTable

/-- The tables kept for a text. -/
structure TableCache where
  /-- The text. -/
  source : String
  /-- Number of slots that are kept; zero means all of them. -/
  capacity : UInt64
  /-- The environments and their tables, the least recently used one first. A slot has no table
  before one is built. -/
  slots : List (Environment × Option PublishedTable)
  /-- Counters. -/
  stats : CacheStats
  /-- Serial number of the next table that is built. It is no counter and does not start again. -/
  nextSerial : Nat

/-- The slots that are left when the least recently used ones are dropped until the others fit. -/
def makeRoom {α : Type} (capacity : UInt64) : List α → List α
  | [] => []
  | slot :: slots =>
    if capacity ≠ 0 ∧ capacity.toNat < (slot :: slots).length then makeRoom capacity slots
    else slot :: slots

namespace TableCache

/-- A cache without tables. -/
def empty (capacity : UInt64) (source : String) : TableCache :=
  { source, capacity
    slots := []
    stats := { hits := 0, misses := 0, builds := 0 }
    nextSerial := 0 }

/-- The slots of the environments other than `env`. -/
def others (cache : TableCache) (env : Environment) : List (Environment × Option PublishedTable) :=
  cache.slots.filter fun slot => slot.1 ≠ env

/-- The table in the slot of an environment, with that slot now the one used last. If there is no
slot, an empty one is created and room is made for it. -/
def touch (cache : TableCache) (env : Environment) : Option PublishedTable × TableCache :=
  match cache.slots.lookup env with
  | some published? => (published?, { cache with slots := cache.others env ++ [(env, published?)] })
  | none => (none, { cache with slots := makeRoom cache.capacity (cache.slots ++ [(env, none)]) })

/-- Put a table into the slot of an environment. -/
def publish (cache : TableCache) (env : Environment) (published : PublishedTable) : TableCache :=
  { cache with
    slots := cache.slots.map fun slot => if slot.1 = env then (env, some published) else slot }

/-- The table of an environment, which is built unless it is there. A failed build leaves no slot
behind. -/
def get (cache : TableCache) (env : Environment) :
    Except BuildError PublishedTable × TableCache :=
  match cache.touch env with
  | (some published, cache) =>
    (.ok published, { cache with stats := { cache.stats with hits := cache.stats.hits + 1 } })
  | (none, cache) =>
    -- the miss is counted before the outcome of the build is known
    let stats := { cache.stats with misses := cache.stats.misses + 1 }
    match SymbolTable.ofSource cache.source env with
    | .ok table =>
      let published := { serial := cache.nextSerial, table }
      (.ok published,
        { cache.publish env published with
          stats := { stats with builds := stats.builds + 1 }
          nextSerial := cache.nextSerial + 1 })
    | .error e => (.error e, { cache with slots := cache.others env, stats })

/-- Drop the slot of an environment; whether there was one. -/
def evict (cache : TableCache) (env : Environment) : Bool × TableCache :=
  ((cache.slots.lookup env).isSome, { cache with slots := cache.others env })

/-- Drop all the slots. -/
def clear (cache : TableCache) : TableCache :=
  { cache with slots := [] }

/-- Number of slots. -/
def size (cache : TableCache) : Nat :=
  cache.slots.length

/-- Description for people. -/
def describe (cache : TableCache) : String :=
  "BuiltinCache \x7b config: CacheConfig \x7b capacity: " ++ toString cache.capacity.toNat ++
    " \x7d, len: " ++ toString cache.size ++
    ", stats: CacheStats \x7b hits: " ++ toString cache.stats.hits.toNat ++
    ", misses: " ++ toString cache.stats.misses.toNat ++
    ", builds: " ++ toString cache.stats.builds.toNat ++ " \x7d \x7d"

end TableCache

end GlslPrelude
