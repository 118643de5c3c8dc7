import GlslPrelude.Proofs.TableCache.Calls
import Mathlib.Data.Finset.Card
import Mathlib.Data.List.Dedup
import Mathlib.Data.List.DropRight
import Mathlib.Data.List.Induction

/-!
# Which tables a cache keeps

While all the tables that are requested can be built, a cache keeps those of the environments that
were requested last. `List.dedup` keeps the last occurrence of each environment in a list of
requests, so it lists the environments in the order of their latest requests; by
`environments_run_requests` the cached environments are the end of that list. An end of a list lies
in every longer end of it, so a cache with more room answers more requests.
-/

namespace GlslPrelude

namespace TableCache

variable {cache : TableCache} {capacity capacity' : UInt64} {env : Environment}
  {envs requests : List Environment}

/-! ## The latest of some environments -/

/-- The environments at the end of a list that a cache of a given capacity has room for. -/
def newest (capacity : UInt64) (envs : List Environment) : List Environment :=
  if capacity = 0 then envs else envs.rtake capacity.toNat

/-- One more request puts its environment behind the others. -/
theorem dedup_concat (requests : List Environment) (env : Environment) :
    (requests ++ [env]).dedup = requests.dedup.filter (· ≠ env) ++ [env] := by
  induction requests with
  | nil => rfl
  | cons first requests ih =>
      rw [List.cons_append]
      by_cases hmem : first ∈ requests
      · rw [List.dedup_cons_of_mem hmem, List.dedup_cons_of_mem (List.mem_append_left _ hmem), ih]
      · rw [List.dedup_cons_of_notMem hmem]
        by_cases henv : first = env
        · rw [List.dedup_cons_of_mem (by simp [henv]), ih, List.filter_cons_of_neg (by simp [henv])]
        · rw [List.dedup_cons_of_notMem (by simp [hmem, henv]), ih,
            List.filter_cons_of_pos (by simp [henv]), List.cons_append]

/-- The end of a list reaches no further than a long enough end. -/
theorem rtake_append_of_le {front back : List Environment} {k : Nat} (h : k ≤ back.length) :
    (front ++ back).rtake k = back.rtake k := by
  rw [List.rtake, List.rtake, List.length_append, Nat.add_sub_assoc h, List.drop_length_add_append]

/-- What there is room for is an end of the list. -/
theorem newest_suffix (capacity : UInt64) (envs : List Environment) :
    newest capacity envs <:+ envs := by
  rw [newest]
  split
  · exact List.suffix_rfl
  · exact List.drop_suffix _ _

/-- All environments of a list stay if they are not too many. -/
theorem newest_eq_self (h : capacity ≠ 0 → envs.length ≤ capacity.toNat) :
    newest capacity envs = envs := by
  rw [newest]
  split
  · rfl
  · rename_i hcapacity
    rw [List.rtake, Nat.sub_eq_zero_of_le (h hcapacity), List.drop_zero]

/-- A capacity other than zero has room for one more than some number of environments. -/
theorem exists_toNat_eq_succ (h : capacity ≠ 0) : ∃ m, capacity.toNat = m + 1 := by
  have hpos : 0 < capacity.toNat := UInt64.pos_iff_ne_zero.2 h
  exact ⟨capacity.toNat - 1, by omega⟩

/-- Dropping the oldest environments before one of them moves to the end or a new one comes there
does not change which ones are the latest. -/
theorem newest_filter_newest (h : envs.Nodup) (env : Environment) :
    newest capacity ((newest capacity envs).filter (· ≠ env) ++ [env]) =
      newest capacity (envs.filter (· ≠ env) ++ [env]) := by
  by_cases hzero : capacity = 0
  · simp [newest, hzero]
  obtain ⟨m, hm⟩ := exists_toNat_eq_succ hzero
  simp only [newest, if_neg hzero, hm, List.rtake_concat_succ]
  congr 1
  -- without the environment, at least `m` of the latest `m + 1` are left
  generalize hback : envs.rtake (m + 1) = back
  obtain ⟨front, rfl⟩ : ∃ front, front ++ back = envs := by
    rw [← hback]
    exact List.drop_suffix _ _
  rw [List.filter_append]
  cases front with
  | nil => rfl
  | cons first front =>
      refine (rtake_append_of_le ?_).symm
      have hnodup : back.Nodup := (List.nodup_append'.1 h).2.1
      have hlength : back.length = m + 1 := by
        have htake := congrArg List.length hback
        rw [List.rtake, List.length_drop, List.length_append, List.length_cons] at htake
        omega
      have herase : back.filter (· ≠ env) = back.erase env := by
        rw [hnodup.erase_eq_filter]
        exact List.filter_congr fun e _ => decide_not
      rw [herase, List.length_erase]
      split <;> omega

/-- A larger capacity has room for the same environments and more. -/
theorem newest_subset (h : capacity' = 0 ∨ capacity ≠ 0 ∧ capacity ≤ capacity')
    (envs : List Environment) : newest capacity envs ⊆ newest capacity' envs := by
  by_cases hzero : capacity' = 0
  · rw [newest, newest, if_pos hzero]
    exact (newest_suffix capacity envs).subset
  obtain ⟨hne, hle⟩ := h.resolve_left hzero
  rw [newest, newest, if_neg hne, if_neg hzero]
  have hnat : capacity.toNat ≤ capacity'.toNat := UInt64.le_iff_toNat_le.1 hle
  exact (List.drop_suffix_drop_left envs (Nat.sub_le_sub_left hnat envs.length)).subset

/-- In a list without duplicates, an element belongs to an end of the list if what follows it is
shorter than the end. -/
theorem mem_rtake_iff {front back : List Environment} (h : (front ++ env :: back).Nodup) (k : Nat) :
    env ∈ (front ++ env :: back).rtake k ↔ back.length < k := by
  have hback : env ∉ back := (List.nodup_cons.1 (List.nodup_append'.1 h).2.1).1
  constructor
  · intro hmem
    by_contra hle
    rw [List.append_cons, rtake_append_of_le (Nat.le_of_not_lt hle)] at hmem
    exact hback ((List.drop_suffix _ _).subset hmem)
  · intro hlt
    obtain ⟨more, hmore⟩ : ∃ more, (front ++ env :: back).rtake k = more ++ env :: back := by
      have hsuffix := List.drop_suffix_drop_left (front ++ env :: back)
        (show (front ++ env :: back).length - k ≤ front.length by
          rw [List.length_append, List.length_cons]
          omega)
      rw [List.drop_left] at hsuffix
      obtain ⟨more, hmore⟩ := hsuffix
      exact ⟨more, hmore.symm⟩
    rw [hmore]
    simp

/-- The latest request of an environment: it is requested and not requested again. -/
theorem exists_latest (h : env ∈ requests) :
    ∃ before since, requests = before ++ env :: since ∧ env ∉ since := by
  induction requests with
  | nil => cases h
  | cons first requests ih =>
      by_cases hmem : env ∈ requests
      · obtain ⟨before, since, rfl, hsince⟩ := ih hmem
        exact ⟨first :: before, since, rfl, hsince⟩
      · obtain rfl := (List.mem_cons.1 h).resolve_right hmem
        exact ⟨[], requests, rfl, hmem⟩

/-- Behind the latest request of an environment, the environments requested since are listed. -/
theorem exists_dedup_eq (before : List Environment) {since : List Environment}
    (hsince : env ∉ since) :
    ∃ front, (before ++ env :: since).dedup = front ++ env :: since.dedup := by
  rw [List.dedup_append, List.dedup_cons_of_notMem hsince]
  obtain ⟨front, hfront⟩ := List.suffix_union_right before (env :: since.dedup)
  exact ⟨front, hfront.symm⟩

/-- An environment is one of the latest exactly if it was requested and fewer than that many others
were requested since. -/
theorem mem_rtake_dedup_iff (k : Nat) :
    env ∈ requests.dedup.rtake k ↔
      ∃ before since, requests = before ++ env :: since ∧ env ∉ since ∧
        since.toFinset.card < k := by
  constructor
  · intro hmem
    have hrequested : env ∈ requests := List.mem_dedup.1 ((List.drop_suffix _ _).subset hmem)
    obtain ⟨before, since, rfl, hsince⟩ := exists_latest hrequested
    obtain ⟨front, hfront⟩ := exists_dedup_eq before hsince
    refine ⟨before, since, rfl, hsince, ?_⟩
    rw [hfront, mem_rtake_iff (hfront ▸ List.nodup_dedup _)] at hmem
    rwa [List.card_toFinset]
  · rintro ⟨before, since, rfl, hsince, hcard⟩
    obtain ⟨front, hfront⟩ := exists_dedup_eq before hsince
    rw [hfront, mem_rtake_iff (hfront ▸ List.nodup_dedup _)]
    rwa [List.card_toFinset] at hcard

/-! ## Requests that succeed -/

/-- The environments with other tables. -/
theorem map_others (cache : TableCache) (env : Environment) :
    (cache.others env).map Prod.fst = cache.environments.filter (· ≠ env) := by
  rw [environments, List.filter_map]
  rfl

/-- A request for a table that can be built moves its environment behind the others, and the oldest
ones go that there is no room for. -/
theorem IsSound.environments_get (h : cache.IsSound)
    (hbuilds : ∃ table, SymbolTable.ofSource cache.source env = .ok table) :
    (cache.get env).2.environments =
      newest cache.capacity (cache.environments.filter (· ≠ env) ++ [env]) := by
  have hserves := h.serves_get env
  generalize cache.get env = result at hserves
  cases hserves with
  | @hit published hslot =>
      rw [newest_eq_self, ← map_others, environments, List.map_append]
      · rfl
      · intro hcapacity
        rw [← map_others, List.length_append, List.length_map]
        exact Nat.lt_of_lt_of_le (length_others_lt hslot) (h.fits hcapacity)
  | build hnot =>
      have hfilter : cache.environments.filter (· ≠ env) = cache.environments := by
        refine List.filter_eq_self.2 fun e he => ?_
        rw [decide_eq_true_eq]
        rintro rfl
        exact hnot he
      rw [hfilter, environments, List.map_append]
      change cache.retained.map Prod.fst ++ [env] = _
      rw [retained, newest]
      split
      · rfl
      · obtain ⟨m, hm⟩ := exists_toNat_eq_succ ‹_›
        rw [hm, List.rtake_concat_succ, List.map_drop, Nat.add_sub_add_right, List.rtake,
          environments, List.length_map]
  | failure _ herror =>
      obtain ⟨table, htable⟩ := hbuilds
      cases herror.symm.trans htable

/-- Behind requests on a cache without tables that all succeed, the cached environments are those
requested last, in the order of their latest requests. -/
theorem IsSound.environments_run_requests (h : cache.IsSound) (hempty : cache.environments = [])
    (hbuilds : ∀ env ∈ requests, ∃ table, SymbolTable.ofSource cache.source env = .ok table) :
    (cache.run (requests.map .get)).environments = newest cache.capacity requests.dedup := by
  induction requests using List.reverseRecOn with
  | nil =>
      rw [List.map_nil, run_nil, hempty, newest_eq_self (by simp)]
      rfl
  | append_singleton requests env ih =>
      rw [List.forall_mem_append] at hbuilds
      obtain ⟨hsource, hcapacity⟩ := h.source_capacity_run (requests.map .get)
      have hbuild : ∃ table,
          SymbolTable.ofSource (cache.run (requests.map .get)).source env = .ok table := by
        rw [hsource]
        exact hbuilds.2 env (List.mem_singleton_self env)
      have hlast := (h.run (requests.map .get)).environments_get hbuild
      rw [List.map_append, List.map_singleton, run_append, run_cons, run_nil, TableCache.step,
        hlast, ih hbuilds.1, hcapacity, newest_filter_newest (List.nodup_dedup _), dedup_concat]

/-! ## Hits -/

/-- Number of the requests that are counted as hits. -/
def hitsDuring (cache : TableCache) (requests : List Environment) : Nat :=
  (cache.trace (requests.map .get)).countP fun made => made.1.isHit made.2

/-- One more request adds a hit if its environment has a table by then. -/
theorem IsSound.hitsDuring_concat (h : cache.IsSound) (requests : List Environment)
    (env : Environment) :
    cache.hitsDuring (requests ++ [env]) = cache.hitsDuring requests +
      if env ∈ (cache.run (requests.map .get)).environments then 1 else 0 := by
  have hlast := (h.run (requests.map .get)).hits_iff env
  rw [hitsDuring, List.map_append, List.map_singleton, trace_concat, List.countP_append,
    List.countP_singleton]
  simp only [isHit, hlast, decide_eq_true_eq]
  rfl

/-- If at every request one cache has the tables of another, it has no fewer hits. -/
theorem IsSound.hitsDuring_le (hcache : cache.IsSound) {other : TableCache}
    (hother : other.IsSound)
    (h : ∀ front, front <+: requests → (cache.run (front.map .get)).environments ⊆
      (other.run (front.map .get)).environments) :
    cache.hitsDuring requests ≤ other.hitsDuring requests := by
  induction requests using List.reverseRecOn with
  | nil => exact Nat.le_refl 0
  | append_singleton requests env ih =>
      have hprefix := ih fun front hfront => h front (hfront.trans (List.prefix_append _ _))
      have hsubset := h requests (List.prefix_append _ _)
      rw [hcache.hitsDuring_concat, hother.hitsDuring_concat]
      split
      · rw [if_pos (hsubset ‹_›)]
        exact Nat.succ_le_succ hprefix
      · exact Nat.le_trans hprefix (Nat.le_add_right _ _)

/-! ## Since the cache was empty -/

/-- Behind the calls, the cache has no tables: there are none, or all tables were dropped by the
last of them. -/
def LeaveEmpty (calls : List Call) : Prop :=
  calls = [] ∨ ∃ earlier, calls = earlier ++ [.clear]

/-- Behind such calls there are no tables. -/
theorem LeaveEmpty.environments_eq {calls : List Call} (h : LeaveEmpty calls) (capacity : UInt64)
    (source : String) : ((empty capacity source).run calls).environments = [] := by
  rcases h with rfl | ⟨earlier, rfl⟩
  · rfl
  · rw [run_append, run_cons, run_nil]
    rfl

/-- The least recently used table goes first. Since a cache was empty, let only requests be made,
all of which succeed. Then the cached environments are the `capacity` ones requested last, in the
order of their latest requests. So a request hits exactly if its environment was requested before
and fewer than `capacity` others were requested since; with the capacity zero, exactly if it was
requested before. No cache with the capacity zero or a larger one has fewer hits. -/
theorem environments_are_most_recent (capacity : UInt64) {source : String} {calls : List Call}
    (hcalls : LeaveEmpty calls)
    (hbuilds : ∀ env ∈ requests, ∃ table, SymbolTable.ofSource source env = .ok table) :
    let start := (empty capacity source).run calls
    let cache := start.run (requests.map .get)
    (capacity ≠ 0 → cache.environments = requests.dedup.rtake capacity.toNat) ∧
      (capacity ≠ 0 → ∀ env, cache.Hits env ↔ ∃ before since, requests = before ++ env :: since ∧
        env ∉ since ∧ since.toFinset.card < capacity.toNat) ∧
      (capacity = 0 → ∀ env, cache.Hits env ↔ env ∈ requests) ∧
      ∀ capacity' calls', LeaveEmpty calls' → capacity' = 0 ∨ capacity ≠ 0 ∧ capacity ≤ capacity' →
        start.hitsDuring requests ≤
          ((empty capacity' source).run calls').hitsDuring requests := by
  intro start cache
  have hsound : cache.IsSound := (isSound_run capacity source calls).run _
  have hnewest : ∀ capacity calls front, LeaveEmpty calls → front <+: requests →
      (((empty capacity source).run calls).run (front.map .get)).environments =
        newest capacity front.dedup := by
    intro capacity calls front hcalls hfront
    obtain ⟨hsource, hcapacity⟩ := (isSound_empty capacity source).source_capacity_run calls
    rw [(isSound_run capacity source calls).environments_run_requests
      (hcalls.environments_eq capacity source), hcapacity]
    · rfl
    · intro env henv
      rw [hsource]
      exact hbuilds env (hfront.subset henv)
  have hcache : cache.environments = newest capacity requests.dedup :=
    hnewest capacity calls requests hcalls List.prefix_rfl
  refine ⟨fun hcapacity => ?_, fun hcapacity env => ?_, fun hcapacity env => ?_, ?_⟩
  · rw [hcache, newest, if_neg hcapacity]
  · rw [hsound.hits_iff, hcache, newest, if_neg hcapacity, mem_rtake_dedup_iff]
  · rw [hsound.hits_iff, hcache, newest, if_pos hcapacity, List.mem_dedup]
  · intro capacity' calls' hcalls' hle
    apply (isSound_run capacity source calls).hitsDuring_le (isSound_run capacity' source calls')
    intro front hfront
    rw [hnewest capacity calls front hcalls hfront, hnewest capacity' calls' front hcalls' hfront]
    exact newest_subset hle front.dedup

/-- With room for two tables, the first of three environments is no longer cached, and a cache with
room for all has at least as many hits. -/
theorem environments_are_most_recent_of_three :
    let requests : List Environment :=
      [{ api := .vulkan, stage := .vertex, features := ∅ },
        { api := .vulkan, stage := .fragment, features := ∅ },
        { api := .vulkan, stage := .compute, features := ∅ }]
    ((empty 2 "").run (requests.map .get)).environments = requests.tail ∧
      (empty 2 "").hitsDuring requests ≤ (empty 0 "").hitsDuring requests := by
  intro requests
  have hbuilds : ∀ env ∈ requests, ∃ table, SymbolTable.ofSource "" env = .ok table := by
    intro env _
    exact ⟨_, by with_unfolding_all exact rfl⟩
  have hrecent := environments_are_most_recent 2 (.inl rfl) hbuilds
  exact ⟨hrecent.1 (by decide), hrecent.2.2.2 0 [] (.inl rfl) (.inl rfl)⟩

end TableCache

end GlslPrelude
