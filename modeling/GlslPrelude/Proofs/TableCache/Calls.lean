import GlslPrelude.TableCache
import Mathlib.Data.List.Basic
import Mathlib.Data.List.Nodup

/-!
# Calls on a cache

A cache is changed by requests, by dropping the table of one environment and by dropping all tables.
Between calls every slot has a table, and it is the one that a fresh build makes; each environment
has one slot, and there are no more slots than there is room for (`isSound_run`). `Serves` lists
what a request can do to such a cache, so that an invariant of the cache is one case analysis and
never unfolds a request again. A request that fails costs the least recently used table if the cache
is full, and no table otherwise (`IsSound.retained_eq`). The counters are machine words: they are
the numbers of hits, misses and builds modulo `2 ^ 64` (`IsSound.stats_run`).
-/

namespace GlslPrelude

namespace TableCache

/-- A call on a cache. -/
inductive Call where
  /-- Request the table of an environment. -/
  | get (env : Environment)
  /-- Drop the table of an environment. -/
  | evict (env : Environment)
  /-- Drop all the tables. -/
  | clear
deriving DecidableEq

/-- Whether the call is a request. -/
def Call.isGet : Call → Bool
  | .get _ => true
  | .evict _ | .clear => false

/-- The cache behind a call. -/
def step (cache : TableCache) : Call → TableCache
  | .get env => (cache.get env).2
  | .evict env => (cache.evict env).2
  | .clear => cache.clear

/-- The cache behind calls that are made one after the other. -/
def run (cache : TableCache) (calls : List Call) : TableCache :=
  calls.foldl step cache

/-- The calls, each with the cache that it is made on. -/
def trace (cache : TableCache) : List Call → List (TableCache × Call)
  | [] => []
  | call :: calls => (cache, call) :: (cache.step call).trace calls

/-- The environments that have slots, the least recently used one first. -/
def environments (cache : TableCache) : List Environment :=
  cache.slots.map Prod.fst

/-- The slots that stay when room is made for one more. -/
def retained (cache : TableCache) : List (Environment × Option PublishedTable) :=
  if cache.capacity = 0 then cache.slots
  else cache.slots.drop (cache.slots.length + 1 - cache.capacity.toNat)

/-- The next request, if it is for this environment, is counted as a hit. -/
def Hits (cache : TableCache) (env : Environment) : Prop :=
  (cache.get env).2.stats.hits = cache.stats.hits + 1

instance (cache : TableCache) (env : Environment) : Decidable (cache.Hits env) :=
  inferInstanceAs (Decidable (_ = _))

/-- Whether the call is a request that is counted as a hit. -/
def isHit (cache : TableCache) : Call → Bool
  | .get env => cache.Hits env
  | .evict _ | .clear => false

/-- Whether the call is a request that is not counted as a hit. -/
def isMiss (cache : TableCache) (call : Call) : Bool :=
  call.isGet && !cache.isHit call

/-- Whether the call is a request that misses and returns a table. -/
def builds (cache : TableCache) : Call → Bool
  | .get env => env ∉ cache.environments && (cache.get env).1.isOk
  | .evict _ | .clear => false

/-- There is no room for one more table. -/
def IsFull (cache : TableCache) : Prop :=
  cache.capacity ≠ 0 ∧ cache.size = cache.capacity.toNat

instance (cache : TableCache) : Decidable cache.IsFull :=
  inferInstanceAs (Decidable (_ ∧ _))

variable {cache : TableCache} {env : Environment}

/-- Nothing was called. -/
@[simp]
theorem run_nil (cache : TableCache) : cache.run [] = cache :=
  rfl

/-- Calls go on behind others. -/
@[simp]
theorem run_append (cache : TableCache) (calls more : List Call) :
    cache.run (calls ++ more) = (cache.run calls).run more :=
  List.foldl_append

/-- One call. -/
@[simp]
theorem run_cons (cache : TableCache) (call : Call) (calls : List Call) :
    cache.run (call :: calls) = (cache.step call).run calls :=
  rfl

/-- The calls are traced in their order. -/
theorem trace_concat (cache : TableCache) (calls : List Call) (call : Call) :
    cache.trace (calls ++ [call]) = cache.trace calls ++ [(cache.run calls, call)] := by
  induction calls generalizing cache with
  | nil => rfl
  | cons first calls ih => rw [List.cons_append, trace, ih, trace, run_cons, List.cons_append]

/-! ## Slots -/

/-- With the capacity zero there is room for everything. -/
theorem makeRoom_zero {α : Type} (slots : List α) : makeRoom 0 slots = slots := by
  cases slots <;> simp [makeRoom]

/-- With any other capacity, only that many slots at the end stay. -/
theorem makeRoom_eq_drop {α : Type} {capacity : UInt64} (h : capacity ≠ 0) (slots : List α) :
    makeRoom capacity slots = slots.drop (slots.length - capacity.toNat) := by
  induction slots with
  | nil => rw [makeRoom, List.drop_nil]
  | cons slot slots ih =>
      rw [makeRoom, List.length_cons]
      by_cases hlt : capacity.toNat < slots.length + 1
      · rw [if_pos ⟨h, hlt⟩, ih, Nat.succ_sub (Nat.le_of_lt_succ hlt), List.drop_succ_cons]
      · rw [if_neg fun hand => hlt hand.2, Nat.sub_eq_zero_of_le (Nat.le_of_not_lt hlt)]
        rfl

/-- The new slot stays when room is made for it. -/
theorem makeRoom_concat (cache : TableCache) (slot : Environment × Option PublishedTable) :
    makeRoom cache.capacity (cache.slots ++ [slot]) = cache.retained ++ [slot] := by
  rw [retained]
  by_cases hzero : cache.capacity = 0
  · rw [if_pos hzero, hzero, makeRoom_zero]
  · have hpos : 0 < cache.capacity.toNat := UInt64.pos_iff_ne_zero.2 hzero
    rw [if_neg hzero, makeRoom_eq_drop hzero, List.length_append, List.length_singleton]
    apply List.drop_append_of_le_length
    omega

/-- Some of the slots stay, in their order. -/
theorem others_sublist (cache : TableCache) (env : Environment) :
    (cache.others env).Sublist cache.slots :=
  List.filter_sublist

/-- Some of the slots stay when room is made, in their order. -/
theorem retained_sublist (cache : TableCache) : cache.retained.Sublist cache.slots := by
  unfold retained
  split
  · exact .refl _
  · exact List.drop_sublist _ _

/-- An environment that has a slot is cached. -/
theorem mem_environments_of_mem_slots {slot : Environment × Option PublishedTable}
    (h : slot ∈ cache.slots) : slot.1 ∈ cache.environments :=
  List.mem_map_of_mem h

/-- The slots of other environments are not that of the environment. -/
theorem not_mem_map_others (cache : TableCache) (env : Environment) :
    env ∉ (cache.others env).map Prod.fst := by
  simp [others]

/-- Room was made for one more slot. -/
theorem length_retained_lt (cache : TableCache) (h : cache.capacity ≠ 0) :
    cache.retained.length < cache.capacity.toNat := by
  have hpos : 0 < cache.capacity.toNat := UInt64.pos_iff_ne_zero.2 h
  rw [retained, if_neg h, List.length_drop]
  omega

/-- If the environment has a slot, there are fewer other ones. -/
theorem length_others_lt {slot : Environment × Option PublishedTable} (h : slot ∈ cache.slots) :
    (cache.others slot.1).length < cache.size :=
  List.length_filter_lt_length_iff_exists.2 ⟨slot, h, by simp⟩

/-- A slot that is looked up is there. -/
theorem mem_slots_of_lookup {published? : Option PublishedTable}
    (h : cache.slots.lookup env = some published?) : (env, published?) ∈ cache.slots := by
  obtain ⟨front, back, heq, -⟩ := List.lookup_eq_some_iff.1 h
  rw [heq]
  simp

/-- What is not looked up is not there. -/
theorem lookup_eq_none_iff : cache.slots.lookup env = none ↔ env ∉ cache.environments := by
  rw [List.lookup_eq_none_iff, environments, List.mem_map]
  grind

/-! ## What a request does -/

/-- The answer to a request and the cache behind it, if every slot has a table. -/
inductive Serves (cache : TableCache) (env : Environment) :
    Except BuildError PublishedTable × TableCache → Prop
  /-- The table is there. It is now the one used last. -/
  | hit {published : PublishedTable} : (env, some published) ∈ cache.slots →
    Serves cache env (.ok published,
      { cache with
        slots := cache.others env ++ [(env, some published)]
        stats := { cache.stats with hits := cache.stats.hits + 1 } })
  /-- The table is built. Room was made for it. -/
  | build {table : SymbolTable} : env ∉ cache.environments →
    SymbolTable.ofSource cache.source env = .ok table →
    Serves cache env (.ok { serial := cache.nextSerial, table },
      { cache with
        slots := cache.retained ++ [(env, some { serial := cache.nextSerial, table })]
        stats :=
          { cache.stats with
            misses := cache.stats.misses + 1
            builds := cache.stats.builds + 1 }
        nextSerial := cache.nextSerial + 1 })
  /-- The table cannot be built. Room was made for it all the same. -/
  | failure {e : BuildError} : env ∉ cache.environments →
    SymbolTable.ofSource cache.source env = .error e →
    Serves cache env (.error e,
      { cache with
        slots := cache.retained
        stats := { cache.stats with misses := cache.stats.misses + 1 } })

/-- Between calls every slot has the table of a fresh build, each environment has one slot, and
there are no more slots than there is room for. -/
structure IsSound (cache : TableCache) : Prop where
  /-- No environment has two slots. -/
  nodup : cache.environments.Nodup
  /-- All slots fit. -/
  fits : cache.capacity ≠ 0 → cache.size ≤ cache.capacity.toNat
  /-- Each slot has a table, and it is the one of its environment. -/
  fresh : ∀ slot ∈ cache.slots, ∃ published, slot.2 = some published ∧
    SymbolTable.ofSource cache.source slot.1 = .ok published.table

/-- The table in a slot is that of a fresh build. -/
theorem IsSound.ofSource_eq_of_mem (h : cache.IsSound) {published : PublishedTable}
    (hslot : (env, some published) ∈ cache.slots) :
    SymbolTable.ofSource cache.source env = .ok published.table := by
  obtain ⟨_, hpublished, htable⟩ := h.fresh _ hslot
  cases hpublished
  exact htable

/-- A request for an environment without a slot adds a slot that is empty. -/
theorem touch_of_notMem (h : env ∉ cache.environments) :
    cache.touch env = (none, { cache with slots := cache.retained ++ [(env, none)] }) := by
  rw [touch, lookup_eq_none_iff.2 h]
  simp only [makeRoom_concat]

/-- The slots that stay are not that of an environment without a slot. -/
theorem ne_of_mem_retained (h : env ∉ cache.environments)
    {slot : Environment × Option PublishedTable} (hslot : slot ∈ cache.retained) :
    slot.1 ≠ env := by
  rintro rfl
  exact h (mem_environments_of_mem_slots (cache.retained_sublist.subset hslot))

/-- A table that is published goes to the slot that was added for it. -/
theorem map_publish_retained (h : env ∉ cache.environments) (published : PublishedTable) :
    List.map (fun slot : Environment × Option PublishedTable =>
        if slot.1 = env then (env, some published) else slot) (cache.retained ++ [(env, none)]) =
      cache.retained ++ [(env, some published)] := by
  rw [List.map_append, List.map_singleton, if_pos rfl]
  congr 1
  -- the table goes to no other slot
  have hother : ∀ slot ∈ cache.retained,
      (if slot.1 = env then (env, some published) else slot) = id slot :=
    fun slot hslot => if_neg (ne_of_mem_retained h hslot)
  rw [List.map_congr_left hother, List.map_id]

/-- The slot that was added is the one that goes when its table cannot be built. -/
theorem filter_retained (h : env ∉ cache.environments) :
    List.filter (fun slot : Environment × Option PublishedTable => slot.1 ≠ env)
      (cache.retained ++ [(env, none)]) = cache.retained := by
  rw [List.filter_append, List.filter_eq_self.2]
  · simp
  · exact fun slot hslot => decide_eq_true (ne_of_mem_retained h hslot)

/-- Every request on a sound cache does one of these. -/
theorem IsSound.serves_get (h : cache.IsSound) (env : Environment) :
    cache.Serves env (cache.get env) := by
  cases hlookup : cache.slots.lookup env with
  | some published? =>
      -- the slot of a sound cache has its table, so nothing is built
      have hslot := mem_slots_of_lookup hlookup
      obtain ⟨published, hpublished, -⟩ := h.fresh _ hslot
      dsimp only at hpublished
      subst hpublished
      have htouch : cache.touch env = (some published,
          { cache with slots := cache.others env ++ [(env, some published)] }) := by
        rw [touch, hlookup]
      rw [TableCache.get, htouch]
      exact .hit hslot
  | none =>
      -- the slot that is added gets the table that is built, or goes again
      have hnot := lookup_eq_none_iff.1 hlookup
      rw [TableCache.get, touch_of_notMem hnot]
      dsimp only
      split
      · rename_i table htable
        have hslots := map_publish_retained hnot { serial := cache.nextSerial, table }
        simp only [publish]
        rw [hslots]
        exact .build hnot htable
      · rename_i e herror
        simp only [others, filter_retained hnot]
        exact .failure hnot herror

/-! ## What calls preserve -/

/-- A sound cache without some of its slots is sound. -/
theorem IsSound.of_sublist (h : cache.IsSound)
    {slots : List (Environment × Option PublishedTable)} (hslots : slots.Sublist cache.slots)
    (stats : CacheStats) (nextSerial : Nat) :
    { cache with slots, stats, nextSerial : TableCache }.IsSound where
  nodup := h.nodup.sublist (hslots.map Prod.fst)
  fits hcapacity := Nat.le_trans hslots.length_le (h.fits hcapacity)
  fresh slot hslot := h.fresh slot (hslots.subset hslot)

/-- A sound cache with a table for one more environment is sound if there is room. -/
theorem IsSound.concat (h : cache.IsSound) {published : PublishedTable}
    (hnot : env ∉ cache.environments)
    (htable : SymbolTable.ofSource cache.source env = .ok published.table)
    (hroom : cache.capacity ≠ 0 → cache.size < cache.capacity.toNat) :
    { cache with slots := cache.slots ++ [(env, some published)] : TableCache }.IsSound where
  nodup := by
    rw [environments, List.map_append]
    refine List.nodup_append'.2 ⟨h.nodup, List.nodup_singleton _, ?_⟩
    exact List.disjoint_singleton.2 hnot
  fits hcapacity := by
    rw [size, List.length_append]
    exact hroom hcapacity
  fresh := by
    rw [List.forall_mem_append]
    refine ⟨h.fresh, fun slot hslot => ?_⟩
    obtain rfl := List.mem_singleton.1 hslot
    exact ⟨published, rfl, htable⟩

/-- A request keeps the cache sound. -/
theorem IsSound.get (h : cache.IsSound) (env : Environment) : (cache.get env).2.IsSound := by
  have hserves := h.serves_get env
  generalize cache.get env = result at hserves
  cases hserves with
  | hit hslot =>
      -- the slot moves behind the others
      have hothers := h.of_sublist (cache.others_sublist env)
      apply (hothers _ _).concat (cache.not_mem_map_others env) (h.ofSource_eq_of_mem hslot)
      intro hcapacity
      exact Nat.lt_of_lt_of_le (length_others_lt hslot) (h.fits hcapacity)
  | @build table hnot htable =>
      apply (h.of_sublist cache.retained_sublist _ _).concat _ htable
      · exact fun hcapacity => cache.length_retained_lt hcapacity
      · intro hmem
        exact hnot ((cache.retained_sublist.map Prod.fst).subset hmem)
  | failure => exact h.of_sublist cache.retained_sublist _ _

/-- Every call keeps the cache sound. -/
theorem IsSound.step (h : cache.IsSound) (call : Call) : (cache.step call).IsSound := by
  cases call with
  | get env => exact h.get env
  | evict env => exact h.of_sublist (cache.others_sublist env) _ _
  | clear => exact h.of_sublist (List.nil_sublist _) _ _

/-- A cache without tables is sound. -/
theorem isSound_empty (capacity : UInt64) (source : String) : (empty capacity source).IsSound where
  nodup := .nil
  fits _ := Nat.zero_le _
  fresh := by simp [empty]

/-- Calls keep the cache sound. -/
theorem IsSound.run (h : cache.IsSound) (calls : List Call) : (cache.run calls).IsSound := by
  induction calls generalizing cache with
  | nil => exact h
  | cons call calls ih => exact ih (h.step call)

/-- Behind any calls, a cache that was empty is sound. -/
theorem isSound_run (capacity : UInt64) (source : String) (calls : List Call) :
    ((empty capacity source).run calls).IsSound :=
  (isSound_empty capacity source).run calls

/-- No call changes the text or the capacity. -/
theorem IsSound.source_capacity_step (h : cache.IsSound) (call : Call) :
    (cache.step call).source = cache.source ∧ (cache.step call).capacity = cache.capacity := by
  cases call with
  | get env =>
      have hserves := h.serves_get env
      rw [TableCache.step]
      generalize cache.get env = result at hserves
      cases hserves <;> exact ⟨rfl, rfl⟩
  | evict env => exact ⟨rfl, rfl⟩
  | clear => exact ⟨rfl, rfl⟩

/-- Calls leave the text and the capacity as they are. -/
theorem IsSound.source_capacity_run (h : cache.IsSound) (calls : List Call) :
    (cache.run calls).source = cache.source ∧ (cache.run calls).capacity = cache.capacity := by
  induction calls generalizing cache with
  | nil => exact ⟨rfl, rfl⟩
  | cons call calls ih =>
      obtain ⟨hsource, hcapacity⟩ := ih (h.step call)
      obtain ⟨hsource', hcapacity'⟩ := h.source_capacity_step call
      exact ⟨hsource.trans hsource', hcapacity.trans hcapacity'⟩

/-! ## Answers -/

/-- A sound cache answers a request with the table of a fresh build. -/
theorem IsSound.get_eq_ofSource (h : cache.IsSound) (env : Environment) :
    (cache.get env).1.map PublishedTable.table = SymbolTable.ofSource cache.source env := by
  have hserves := h.serves_get env
  generalize cache.get env = result at hserves
  cases hserves with
  | hit hslot => exact (h.ofSource_eq_of_mem hslot).symm
  | build _ htable => exact htable.symm
  | failure _ herror => exact herror.symm

/-- A request is counted as a hit if the environment has a slot, and else as a miss. -/
theorem IsSound.hits_misses_get (h : cache.IsSound) (env : Environment) :
    (cache.get env).2.stats.hits = cache.stats.hits + (if env ∈ cache.environments then 1 else 0) ∧
      (cache.get env).2.stats.misses =
        cache.stats.misses + (if env ∈ cache.environments then 0 else 1) := by
  have hserves := h.serves_get env
  generalize cache.get env = result at hserves
  cases hserves with
  | hit hslot => simp [mem_environments_of_mem_slots hslot]
  | build hnot | failure hnot => simp [hnot]

/-- A request hits if its environment has a slot. -/
theorem IsSound.hits_iff (h : cache.IsSound) (env : Environment) :
    cache.Hits env ↔ env ∈ cache.environments := by
  rw [Hits, (h.hits_misses_get env).1]
  by_cases hmem : env ∈ cache.environments <;> simp [hmem]

/-! ## Counters -/

/-- What a call counts. -/
theorem IsSound.stats_step (h : cache.IsSound) (call : Call) :
    (cache.step call).stats =
      { hits := cache.stats.hits + .ofNat (cache.isHit call).toNat
        misses := cache.stats.misses + .ofNat (cache.isMiss call).toNat
        builds := cache.stats.builds + .ofNat (cache.builds call).toNat } := by
  cases call with
  | get env =>
      have hhits := h.hits_iff env
      have hserves := h.serves_get env
      rw [TableCache.step, isMiss, isHit, TableCache.builds]
      generalize cache.get env = result at hserves
      cases hserves with
      | hit hslot =>
          have hmem := mem_environments_of_mem_slots hslot
          simp [hhits.2 hmem, hmem]
      | build hnot => simp [mt hhits.1 hnot, hnot, Call.isGet, Except.isOk, Except.toBool]
      | failure hnot => simp [mt hhits.1 hnot, Call.isGet, Except.isOk, Except.toBool]
  | evict env | clear =>
      simp [TableCache.step, evict, clear, isMiss, isHit, TableCache.builds, Call.isGet]

/-- A counter behind one more event and then some others. -/
theorem add_ofNat_add_ofNat (counter : UInt64) (event : Bool) (count : Nat) :
    counter + .ofNat event.toNat + .ofNat count =
      counter + .ofNat (count + if event then 1 else 0) := by
  rw [UInt64.ofNat_add, UInt64.add_assoc, UInt64.add_comm (.ofNat count)]
  cases event <;> rfl

/-- The counters behind calls: the hits, misses and builds are counted modulo `2 ^ 64`. -/
theorem IsSound.stats_run (h : cache.IsSound) (calls : List Call) :
    (cache.run calls).stats =
      { hits := cache.stats.hits +
          .ofNat ((cache.trace calls).countP fun made => made.1.isHit made.2)
        misses := cache.stats.misses +
          .ofNat ((cache.trace calls).countP fun made => made.1.isMiss made.2)
        builds := cache.stats.builds +
          .ofNat ((cache.trace calls).countP fun made => made.1.builds made.2) } := by
  induction calls generalizing cache with
  | nil => simp [trace]
  | cons call calls ih =>
      -- the first call counts one event, and the others are counted behind it
      rw [run_cons, ih (h.step call), h.stats_step call]
      simp only [trace, List.countP_cons, add_ofNat_add_ofNat]

/-- The counters of a cache that was empty. -/
theorem stats_run_empty (capacity : UInt64) (source : String) (calls : List Call) :
    let trace := (empty capacity source).trace calls
    ((empty capacity source).run calls).stats =
      { hits := .ofNat (trace.countP fun made => made.1.isHit made.2)
        misses := .ofNat (trace.countP fun made => made.1.isMiss made.2)
        builds := .ofNat (trace.countP fun made => made.1.builds made.2) } := by
  have hzero : (empty capacity source).stats = { hits := 0, misses := 0, builds := 0 } := rfl
  rw [(isSound_empty capacity source).stats_run, hzero]
  simp only [UInt64.zero_add]

/-- Each request is a hit or a miss. -/
theorem countP_isHit_add_isMiss (cache : TableCache) (calls : List Call) :
    (cache.trace calls).countP (fun made => made.1.isHit made.2) +
        (cache.trace calls).countP (fun made => made.1.isMiss made.2) =
      calls.countP Call.isGet := by
  induction calls generalizing cache with
  | nil => rfl
  | cons call calls ih =>
      -- the first call is one of the two, or no request
      have hone : (if cache.isHit call then 1 else 0) + (if cache.isMiss call then 1 else 0) =
          if call.isGet then 1 else 0 := by
        cases call with
        | get env => cases hhit : cache.isHit (.get env) <;> simp [isMiss, hhit, Call.isGet]
        | evict env | clear => rfl
      have hrest := ih (cache.step call)
      simp only [trace, List.countP_cons]
      omega

/-- Only requests build tables. -/
theorem countP_builds_le (cache : TableCache) (calls : List Call) :
    (cache.trace calls).countP (fun made => made.1.builds made.2) ≤ calls.countP Call.isGet := by
  induction calls generalizing cache with
  | nil => exact Nat.le_refl _
  | cons call calls ih =>
      have hone : cache.builds call → call.isGet := by
        cases call with
        | get env => exact fun _ => rfl
        | evict env | clear => exact id
      have hrest := ih (cache.step call)
      rw [trace, List.countP_cons, List.countP_cons]
      by_cases hbuilds : cache.builds call
      · rw [if_pos hbuilds, if_pos (hone hbuilds)]
        exact Nat.succ_le_succ hrest
      · rw [if_neg hbuilds]
        exact Nat.le_trans hrest (Nat.le_add_right _ _)

/-- The cache is transparent. Behind any calls on an empty cache, each request is answered with the
table or error of a fresh build; the environments that have slots are distinct and not more than
the capacity, unless that is zero, and each slot has a table, which is that of a fresh build; a
request is counted as a hit exactly if its environment has a slot; hits and misses together count
the requests, and builds count the misses that returned a table. The counters are words, so they do
that modulo `2 ^ 64`, and exactly if there are fewer requests. -/
theorem run_is_transparent (capacity : UInt64) (source : String) (calls : List Call) :
    let cache := (empty capacity source).run calls
    let requests := calls.countP Call.isGet
    let builds := ((empty capacity source).trace calls).countP fun made => made.1.builds made.2
    (∀ env, (cache.get env).1.map PublishedTable.table = SymbolTable.ofSource source env) ∧
      cache.environments.Nodup ∧ (capacity ≠ 0 → cache.size ≤ capacity.toNat) ∧
      (∀ slot ∈ cache.slots, ∃ published, slot.2 = some published ∧
        SymbolTable.ofSource source slot.1 = .ok published.table) ∧
      (∀ env, (cache.get env).2.stats.hits =
          cache.stats.hits + (if env ∈ cache.environments then 1 else 0) ∧
        (cache.get env).2.stats.misses =
          cache.stats.misses + (if env ∈ cache.environments then 0 else 1)) ∧
      cache.stats.hits + cache.stats.misses = .ofNat requests ∧
      cache.stats.builds = .ofNat builds ∧
      (requests < UInt64.size →
        cache.stats.hits.toNat + cache.stats.misses.toNat = requests ∧
          cache.stats.builds.toNat = builds) := by
  intro cache requests builds
  have hsound : cache.IsSound := isSound_run capacity source calls
  obtain ⟨hsource, hcapacity⟩ : cache.source = source ∧ cache.capacity = capacity :=
    (isSound_empty capacity source).source_capacity_run calls
  have hcounted := countP_isHit_add_isMiss (empty capacity source) calls
  obtain ⟨hhits, hmisses, hbuilds⟩ := CacheStats.mk.inj (stats_run_empty capacity source calls)
  refine ⟨fun env => ?_, hsound.nodup, ?_, ?_, hsound.hits_misses_get, ?_, hbuilds, fun hfew => ?_⟩
  · rw [hsound.get_eq_ofSource, hsource]
  · exact hcapacity ▸ hsound.fits
  · exact hsource ▸ hsound.fresh
  · rw [hhits, hmisses, ← UInt64.ofNat_add, hcounted]
  · -- no counter has been through all numbers yet
    have hle := countP_builds_le (empty capacity source) calls
    rw [hhits, hmisses, hbuilds, UInt64.toNat_ofNat_of_lt', UInt64.toNat_ofNat_of_lt',
      UInt64.toNat_ofNat_of_lt']
    · exact ⟨hcounted, rfl⟩
    · exact Nat.lt_of_le_of_lt hle hfew
    · exact Nat.lt_of_le_of_lt (Nat.le.intro ((Nat.add_comm _ _).trans hcounted)) hfew
    · exact Nat.lt_of_le_of_lt (Nat.le.intro hcounted) hfew

/-- Of two requests for one environment, one builds its table. -/
theorem run_is_transparent_of_repeated_request :
    let env : Environment := { api := .vulkan, stage := .vertex, features := ∅ }
    let stats := ((empty 2 "").run [.get env, .get env]).stats
    2 < UInt64.size ∧ stats.hits.toNat + stats.misses.toNat = 2 ∧ stats.builds.toNat = 1 := by
  intro env stats
  have hfew : [Call.get env, .get env].countP Call.isGet < UInt64.size := by decide
  obtain ⟨hrequests, hbuilds⟩ :=
    (run_is_transparent 2 "" [.get env, .get env]).2.2.2.2.2.2.2 hfew
  refine ⟨by decide, hrequests, hbuilds.trans ?_⟩
  with_unfolding_all exact rfl

/-! ## Requests that fail -/

/-- Room is made by dropping the least recently used table of a full cache. -/
theorem IsSound.retained_eq (h : cache.IsSound) :
    cache.retained = if cache.IsFull then cache.slots.tail else cache.slots := by
  by_cases hzero : cache.capacity = 0
  · rw [retained, if_pos hzero, if_neg fun hfull : cache.IsFull => hfull.1 hzero]
  · have hle : cache.slots.length ≤ cache.capacity.toNat := h.fits hzero
    rw [retained, if_neg hzero]
    split
    · rename_i hfull
      have hsize : cache.slots.length = cache.capacity.toNat := hfull.2
      rw [hsize, Nat.add_sub_cancel_left, List.drop_one]
    · rename_i hfull
      have hne : cache.slots.length ≠ cache.capacity.toNat := fun hsize => hfull ⟨hzero, hsize⟩
      rw [Nat.sub_eq_zero_of_le (by omega), List.drop_zero]

/-- A full cache has a table. -/
theorem IsFull.slots_ne_nil (h : cache.IsFull) : cache.slots ≠ [] := by
  intro hnil
  have hsize : cache.slots.length = cache.capacity.toNat := h.2
  rw [hnil] at hsize
  exact h.1 (UInt64.toNat_inj.1 hsize.symm)

/-- A request that fails leaves the tables as they were, in their order, unless the cache is full;
then it drops the least recently used table and leaves the others. Nothing else changes but the
count of the misses. -/
theorem get_of_failure {capacity : UInt64} {source : String} {calls : List Call}
    {e : BuildError} (h : (((empty capacity source).run calls).get env).1 = .error e) :
    let cache := (empty capacity source).run calls
    (cache.get env).2 =
        { cache with
          slots := if cache.IsFull then cache.slots.tail else cache.slots
          stats := { cache.stats with misses := cache.stats.misses + 1 } } ∧
      ((cache.get env).2.slots = cache.slots ↔ ¬cache.IsFull) := by
  intro cache
  have hsound : cache.IsSound := isSound_run capacity source calls
  have hget : (cache.get env).2 =
      { cache with
        slots := if cache.IsFull then cache.slots.tail else cache.slots
        stats := { cache.stats with misses := cache.stats.misses + 1 } } := by
    change (cache.get env).1 = .error e at h
    have hserves := hsound.serves_get env
    generalize cache.get env = result at h hserves
    cases hserves with
    | hit | build => cases h
    | failure => rw [hsound.retained_eq]
  refine ⟨hget, ?_⟩
  rw [hget]
  by_cases hfull : cache.IsFull
  · -- a list is not its own tail
    have hne : cache.slots.tail ≠ cache.slots := by
      intro heq
      have hlength := congrArg List.length heq
      have hpos := List.length_pos_iff.2 hfull.slots_ne_nil
      rw [List.length_tail] at hlength
      omega
    simp [hfull, hne]
  · simp [hfull]

/-- A cache that is not full keeps its table when the text cannot be read for another stage. -/
theorem get_of_failure_not_full :
    (((empty 2 "#ifdef __GLSLD_SHADER_STAGE_VERTEX\n@\n#endif\n").run
        [.get { api := .vulkan, stage := .fragment, features := ∅ }]).get
          { api := .vulkan, stage := .vertex, features := ∅ }).2.slots =
      ((empty 2 "#ifdef __GLSLD_SHADER_STAGE_VERTEX\n@\n#endif\n").run
        [.get { api := .vulkan, stage := .fragment, features := ∅ }]).slots := by
  have hfailure : (((empty 2 "#ifdef __GLSLD_SHADER_STAGE_VERTEX\n@\n#endif\n").run
      [.get { api := .vulkan, stage := .fragment, features := ∅ }]).get
        { api := .vulkan, stage := .vertex, features := ∅ }).1 =
      .error (.parse { line := 2, text := "@", fault := .lexical .unexpectedCharacter }) := by
    rw [run_cons, run_nil, step]
    with_unfolding_all exact rfl
  have hsize : ((empty 2 "#ifdef __GLSLD_SHADER_STAGE_VERTEX\n@\n#endif\n").run
      [.get { api := .vulkan, stage := .fragment, features := ∅ }]).size = 1 := by
    rw [run_cons, run_nil, step]
    with_unfolding_all exact rfl
  refine (get_of_failure hfailure).2.2 ?_
  rintro ⟨-, hfull⟩
  rw [hsize, ((isSound_empty _ _).source_capacity_run _).2] at hfull
  exact absurd hfull (by decide)

/-- A failed request does not always leave the tables as they were: a full cache loses one. -/
theorem not_forall_slots_get_of_failure :
    ¬∀ (capacity : UInt64) (source : String) (calls : List Call) (env : Environment)
      (e : BuildError), (((empty capacity source).run calls).get env).1 = .error e →
      (((empty capacity source).run calls).get env).2.slots =
        ((empty capacity source).run calls).slots := by
  intro h
  have hfailure : (((empty 1 "#ifdef __GLSLD_SHADER_STAGE_VERTEX\n@\n#endif\n").get
      { api := .vulkan, stage := .fragment, features := ∅ }).2.get
        { api := .vulkan, stage := .vertex, features := ∅ }).1 =
      .error (.parse { line := 2, text := "@", fault := .lexical .unexpectedCharacter }) := by
    with_unfolding_all exact rfl
  have hbefore : ((empty 1 "#ifdef __GLSLD_SHADER_STAGE_VERTEX\n@\n#endif\n").get
      { api := .vulkan, stage := .fragment, features := ∅ }).2.slots.length = 1 := by
    with_unfolding_all exact rfl
  have hbehind : (((empty 1 "#ifdef __GLSLD_SHADER_STAGE_VERTEX\n@\n#endif\n").get
      { api := .vulkan, stage := .fragment, features := ∅ }).2.get
        { api := .vulkan, stage := .vertex, features := ∅ }).2.slots.length = 0 := by
    with_unfolding_all exact rfl
  have hsame := h _ _ [.get { api := .vulkan, stage := .fragment, features := ∅ }] _ _ hfailure
  exact absurd ((hbefore.symm.trans (congrArg List.length hsame.symm)).trans hbehind) (by decide)

end TableCache

end GlslPrelude
