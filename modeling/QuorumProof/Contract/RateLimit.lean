import Mathlib.Data.List.Chain
import QuorumProof.Contract.Control
import QuorumProof.Lib.Machine
import QuorumProof.Lib.RingBuffer
import QuorumProof.Lib.SlidingWindow

/-!
# Contract/RateLimit — how many calls a window admits

`check_rate_limit` keeps the times of admitted calls in a ring that grows until it has a slot for
every call of the limit.  Once it has, the ring holds the admitted calls of the window, and a call
is admitted exactly when the window has room for it.

While the ring grows, a call that finds every entry expired moves the head to the first slot and
appends its own time at the end, where the count does not reach.  So the theorem asks that the calls
that fill the ring come less than a window apart.
-/

namespace QuorumProof

open SlidingWindow RateLimitState

namespace RateLimitState

variable {st : RateLimitState} {capacity start now : Nat}

/-- The times a ring holds, oldest first. -/
def contents (st : RateLimitState) : List Nat :=
  RingBuffer.contents 0 st.timestamps st.head st.count

@[simp] theorem length_contents (st : RateLimitState) : st.contents.length = st.count :=
  RingBuffer.length_contents ..

@[simp] theorem evict_timestamps (st : RateLimitState) (start : Nat) :
    (st.evict start).timestamps = st.timestamps := rfl

/-- **The ring**: it has at most a slot for every call of the limit, and while it has fewer the
entries reach up to the last slot. -/
structure Ring (capacity : Nat) (st : RateLimitState) : Prop where
  head_lt : st.head < st.timestamps.length
  count_le : st.count ≤ st.timestamps.length
  length_le : st.timestamps.length ≤ capacity
  fits : st.timestamps.length ≤ 2 ^ 31
  growing : st.timestamps.length < capacity → st.head + st.count = st.timestamps.length

/-! ## Step by step -/

/-- The walk counts the entries from slot `i` on that have left the window. -/
theorem evictable_eq (hpos : 0 < st.timestamps.length) (n i : Nat)
    (hfits : st.head + (i + n) ≤ u32Max) :
    st.evictable start n i =
      ((RingBuffer.contents 0 st.timestamps (st.head + i) n).takeWhile (· ≤ start)).length := by
  induction n generalizing i with
  | zero => rfl
  | succ n ih =>
    have hidx : saturatingAdd u32Max st.head i % max st.timestamps.length 1 =
        (st.head + i) % st.timestamps.length := by
      rw [saturatingAdd, Nat.min_eq_left (by omega), Nat.max_eq_left hpos]
    rw [evictable, hidx, RingBuffer.contents_cons]
    split
    next hgone =>
      rw [List.takeWhile_cons_of_pos (by simpa using hgone), List.length_cons,
        ih (i + 1) (by omega), Nat.add_assoc, Nat.add_comm 1]
    next hstays => rw [List.takeWhile_cons_of_neg (by simpa using hstays), List.length_nil]

theorem Ring.evictable_eq (h : st.Ring capacity) (start : Nat) :
    st.evictable start st.count 0 = (st.contents.takeWhile (· ≤ start)).length := by
  have hmax : u32Max = 2 ^ 32 - 1 := rfl
  have ⟨hhead, hcount, _, hfits, _⟩ := h
  exact RateLimitState.evictable_eq (by omega) _ _ (by omega)

/-- The count of `get_rate_limit_usage` is over the contents. -/
theorem Ring.usage_eq (h : st.Ring capacity) (start : Nat) :
    st.usage start = (st.contents.filter (start < ·)).length := by
  have hmax : u32Max = 2 ^ 32 - 1 := rfl
  have ⟨hhead, hcount, _, hfits, _⟩ := h
  rw [usage, contents, RingBuffer.contents, List.filter_map, List.length_map]
  congr 1
  refine List.filter_congr fun i hi => ?_
  have hi' := List.mem_range.mp hi
  simp only [Function.comp_apply]
  rw [saturatingAdd, Nat.min_eq_left (by omega), Nat.max_eq_left (by omega)]

/-- The head after the walk, before it is taken around the end. -/
theorem Ring.evict_head (h : st.Ring capacity) (start : Nat) :
    (st.evict start).head =
      (st.head + (st.contents.takeWhile (· ≤ start)).length) % st.timestamps.length := by
  have hmax : u32Max = 2 ^ 32 - 1 := rfl
  have ⟨hhead, hcount, _, hfits, _⟩ := h
  have htaken : (st.contents.takeWhile (· ≤ start)).length ≤ st.count := by
    simpa using (List.takeWhile_sublist (l := st.contents) (· ≤ start)).length_le
  rw [evict, h.evictable_eq, saturatingAdd, Nat.min_eq_left (by omega), Nat.max_eq_left (by omega)]

theorem Ring.evict_count (h : st.Ring capacity) (start : Nat) :
    (st.evict start).count = st.count - (st.contents.takeWhile (· ≤ start)).length := by
  rw [evict, h.evictable_eq]

/-- **Evicting forgets what has left the window.** -/
theorem Ring.contents_evict (h : st.Ring capacity) (start : Nat) :
    (st.evict start).contents = st.contents.dropWhile (· ≤ start) := by
  rw [contents, h.evict_head, h.evict_count, evict_timestamps, RingBuffer.contents_mod,
    RingBuffer.contents_drop, ← contents, drop_length_takeWhile]

/-- Evicting keeps the ring, if it leaves an entry while the ring grows. -/
theorem Ring.evict (h : st.Ring capacity)
    (hkeeps : st.timestamps.length < capacity → ∃ t ∈ st.contents, start < t) :
    (st.evict start).Ring capacity where
  head_lt := by
    rw [h.evict_head]
    exact Nat.mod_lt _ (Nat.zero_lt_of_lt h.head_lt)
  count_le := (Nat.sub_le _ _).trans h.count_le
  length_le := h.length_le
  fits := h.fits
  growing := by
    intro hlt
    obtain ⟨t, ht, hlate⟩ := hkeeps hlt
    have hend := h.growing hlt
    have htaken : (st.contents.takeWhile (· ≤ start)).length < st.count := by
      have hsplit := congrArg List.length
        (List.takeWhile_append_dropWhile (p := (· ≤ start)) (l := st.contents))
      have hne : st.contents.dropWhile (· ≤ start) ≠ [] := fun hnil => by
        have hall := List.dropWhile_eq_nil_iff.mp hnil t ht
        exact absurd (of_decide_eq_true hall) (Nat.not_le_of_lt hlate)
      have hpos := List.length_pos_iff.mpr hne
      rw [List.length_append, length_contents] at hsplit
      omega
    rw [h.evict_head, h.evict_count, evict_timestamps, Nat.mod_eq_of_lt (by omega)]
    omega

theorem length_record (st : RateLimitState) (capacity now : Nat) :
    (st.record capacity now).timestamps.length =
      if st.timestamps.length < capacity then st.timestamps.length + 1
      else st.timestamps.length := by
  unfold record
  split <;> simp

/-- **Recording appends**, while there is room. -/
theorem Ring.contents_record (h : st.Ring capacity) (hroom : st.count < capacity) :
    (st.record capacity now).contents = st.contents ++ [now] := by
  have hmax : u32Max = 2 ^ 32 - 1 := rfl
  have ⟨hhead, hcount, hlength, hfits, _⟩ := h
  have hsucc : saturatingAdd u32Max st.count 1 = st.count + 1 := Nat.min_eq_left (by omega)
  simp only [contents, record, hsucc]
  split
  next hlt => exact RingBuffer.contents_append 0 now (h.growing hlt)
  next hfull =>
    rw [saturatingAdd, Nat.min_eq_left (by omega)]
    exact RingBuffer.contents_set 0 now (by omega)

theorem Ring.record (h : st.Ring capacity) (hroom : st.count < capacity)
    (hfits : st.timestamps.length < capacity → st.timestamps.length < 2 ^ 31) (now : Nat) :
    (st.record capacity now).Ring capacity := by
  have hmax : u32Max = 2 ^ 32 - 1 := rfl
  have ⟨hhead, hcount, hlength, hfits', hgrowing⟩ := h
  have hsucc : saturatingAdd u32Max st.count 1 = st.count + 1 := Nat.min_eq_left (by omega)
  by_cases hlt : st.timestamps.length < capacity
  · have := hfits hlt
    constructor <;> simp only [RateLimitState.record, if_pos hlt, List.length_append,
      List.length_singleton, hsucc] <;> omega
  · constructor <;> simp only [RateLimitState.record, if_neg hlt, List.length_set, hsucc] <;> omega

theorem ring_first (hcapacity : 1 ≤ capacity) (now : Nat) :
    Ring capacity { timestamps := [now], head := 0, count := 1 } :=
  ⟨by simp, by simp, by simpa using hcapacity, by simp, by simp⟩

end RateLimitState

/-! ## Sequences of calls -/

namespace Control

/-- One call of `check_rate_limit`: the storage it leaves, and the times admitted so far. -/
def check (env : Env) (address : Address) (r : Control × List Nat) (now : Nat) :
    Control × List Nat :=
  let (admitted, c) := r.1.checkRateLimit { env with now := now } address
  (c, if admitted then r.2 ++ [now] else r.2)

/-- The calls at a list of times. -/
def checks (env : Env) (address : Address) (c : Control) (times : List Nat) : Control × List Nat :=
  Machine.run (check env address) (c, []) times

/-- **A sliding-window limit**: a call is admitted exactly when fewer than `max_calls` admitted
calls lie in the window that ends with it, and no window holds more than `max_calls`. -/
structure LimitsWindow (env : Env) (address : Address) (c : Control) (config : RateLimitConfig)
    (times : List Nat) : Prop where
  admits : ∀ before now rest, times = before ++ now :: rest →
    (((c.checks env address before).1.checkRateLimit { env with now := now } address).1 = true ↔
      within (c.checks env address before).2 (now - config.windowSeconds) now < config.maxCalls)
  bounded : Bounded config.maxCalls config.windowSeconds (c.checks env address times).2

/-- An address that is not exempt and has made no call yet, and the times of its calls. -/
structure RateLimited (address : Address) (c : Control) (config : RateLimitConfig)
    (times : List Nat) : Prop where
  listed : (c.rateLimitWhitelist address).getD false = false
  configured : c.rateLimitConfigFor address = config
  fresh : c.rateLimitState address = none
  positive : 1 ≤ config.maxCalls
  sorted : times.Pairwise (· ≤ ·)
  past : ∀ t ∈ times, config.windowSeconds < t

/-- **What is remembered of the calls at `before`**, of which those at `events` were admitted: the
ring has a slot for every call until it is full, and nothing recent is forgotten. -/
structure Remembers (config : RateLimitConfig) (before events : List Nat) (st : RateLimitState) :
    Prop where
  ring : st.Ring config.maxCalls
  length_eq : st.timestamps.length = min before.length config.maxCalls
  sublist : events.Sublist before
  all : st.timestamps.length < config.maxCalls → events = before
  recalls : ∀ start, (∀ t ∈ before, t - config.windowSeconds ≤ start) →
    Recalls start events st.contents

/-- A call comes after the ones before it, at a time past the first window, less than a window after
the last one if there is a slot left, and is not one more than a `u32` can number. -/
structure Follows (config : RateLimitConfig) (before : List Nat) (now : Nat) : Prop where
  sorted : (before ++ [now]).Pairwise (· ≤ ·)
  past : ∀ t ∈ before ++ [now], config.windowSeconds < t
  busy : before.length < config.maxCalls →
    ∀ last ∈ before.getLast?, now < last + config.windowSeconds
  fits : min config.maxCalls (before.length + 1) ≤ 2 ^ 31

variable {env : Env} {address : Address} {c : Control} {config : RateLimitConfig}
  {before events times : List Nat} {r : Control × List Nat} {now : Nat} {st : RateLimitState}

namespace Follows

theorem le (h : Follows config before now) : ∀ t ∈ before, t ≤ now := fun t ht =>
  (List.pairwise_append.mp h.sorted).2.2 t ht now (by simp)

theorem sorted_before (h : Follows config before now) : before.Pairwise (· ≤ ·) :=
  (List.pairwise_append.mp h.sorted).1

end Follows

namespace Remembers

section

variable (h : Remembers config before events st) (hnow : Follows config before now)

include h hnow

theorem recalls_now : Recalls (now - config.windowSeconds) events st.contents :=
  h.recalls _ fun t ht => Nat.sub_le_sub_right (hnow.le t ht) _

/-- **What is left after evicting is what the window holds.** -/
theorem count_evict :
    (st.evict (now - config.windowSeconds)).count =
      within events (now - config.windowSeconds) now := by
  have hsorted := hnow.sorted_before.sublist h.sublist
  rw [← RateLimitState.length_contents, h.ring.contents_evict,
    (h.recalls_now hnow).dropWhile_eq hsorted, within, List.countP_eq_length_filter]
  congr 1
  refine List.filter_congr fun t ht => ?_
  simp [hnow.le t (h.sublist.subset ht)]

/-- While the ring grows, the last call is too recent to have been forgotten. -/
theorem keeps (hlt : st.timestamps.length < config.maxCalls) :
    ∃ t ∈ st.contents, now - config.windowSeconds < t := by
  have hlength := h.length_eq
  have hne : before ≠ [] := by
    rintro rfl
    have hhead := h.ring.head_lt
    simp [hlength] at hhead
  have hmem := List.getLast_mem hne
  have hrecent := hnow.busy (by omega) _ (List.getLast?_eq_some_getLast hne)
  have hle := hnow.le _ hmem
  have hpast := hnow.past now (by simp)
  refine ⟨before.getLast hne, ?_, by omega⟩
  have hrecalls := h.recalls (before.getLast hne - config.windowSeconds) fun t ht =>
    Nat.sub_le_sub_right (hnow.sorted_before.rel_getLast ht) _
  exact hrecalls.mem (h.all hlt ▸ hmem) (by omega)

/-- The ring after evicting. -/
theorem ring_evict : (st.evict (now - config.windowSeconds)).Ring config.maxCalls :=
  h.ring.evict (h.keeps hnow)

theorem recalls_evict :
    Recalls (now - config.windowSeconds) events
      (st.evict (now - config.windowSeconds)).contents := by
  rw [h.ring.contents_evict]
  exact (h.recalls_now hnow).forget

/-- A call that is refused. -/
theorem refused (hfull : config.maxCalls ≤ (st.evict (now - config.windowSeconds)).count) :
    Remembers config (before ++ [now]) events (st.evict (now - config.windowSeconds)) := by
  have hslots : st.timestamps.length = config.maxCalls :=
    le_antisymm h.ring.length_le (hfull.trans (h.ring_evict hnow).count_le)
  have hlength := h.length_eq
  refine ⟨h.ring_evict hnow, ?_, h.sublist.trans (List.sublist_append_left ..),
    fun hlt => absurd hslots hlt.ne, fun start hstart => ?_⟩
  · rw [evict_timestamps, List.length_append, List.length_singleton]
    omega
  · exact (h.recalls_evict hnow).mono (hstart now (by simp))

/-- A call that is admitted. -/
theorem admitted (hroom : (st.evict (now - config.windowSeconds)).count < config.maxCalls) :
    Remembers config (before ++ [now]) (events ++ [now])
      ((st.evict (now - config.windowSeconds)).record config.maxCalls now) := by
  have hlength := h.length_eq
  have hfits := hnow.fits
  refine ⟨(h.ring_evict hnow).record hroom ?_ now, ?_, h.sublist.append_right _, ?_, ?_⟩
  · rw [evict_timestamps]
    omega
  · rw [length_record, evict_timestamps, List.length_append, List.length_singleton]
    split <;> omega
  · rw [length_record, evict_timestamps]
    intro hlt
    rw [h.all (by split at hlt <;> omega)]
  · intro start hstart
    rw [(h.ring_evict hnow).contents_record hroom]
    exact ((h.recalls_evict hnow).push now).mono (hstart now (by simp))

end

/-- The first call. -/
theorem first (hpositive : 1 ≤ config.maxCalls) (now : Nat) :
    Remembers config [now] [now] { timestamps := [now], head := 0, count := 1 } :=
  ⟨RateLimitState.ring_first hpositive now, by simp [hpositive], List.Sublist.refl _, fun _ => rfl,
    fun _ _ => .refl _ _⟩

end Remembers

/-! ## The storage -/

/-- Store what is remembered of an address. -/
def putRateLimitState (c : Control) (address : Address) (st : RateLimitState) : Control :=
  { c with rateLimitState := c.rateLimitState.set address st }

@[simp] theorem putRateLimitState_rateLimitState (c : Control) (address : Address)
    (st : RateLimitState) : (c.putRateLimitState address st).rateLimitState address = some st :=
  Store.set_self _ _ _

/-- **What holds after the calls at `before`**: the storage remembers them, and every window is
bounded. -/
structure Tallied (address : Address) (config : RateLimitConfig) (before : List Nat)
    (r : Control × List Nat) : Prop where
  listed : (r.1.rateLimitWhitelist address).getD false = false
  configured : r.1.rateLimitConfigFor address = config
  bounded : Bounded config.maxCalls config.windowSeconds r.2
  fresh : r.1.rateLimitState address = none → before = [] ∧ r.2 = []
  remembers : ∀ st, r.1.rateLimitState address = some st → Remembers config before r.2 st

/-- Remembering a call. -/
theorem Tallied.put (h : Tallied address config before r)
    (hbounded : Bounded config.maxCalls config.windowSeconds events)
    (hremembers : Remembers config (before ++ [now]) events st) :
    Tallied address config (before ++ [now]) (r.1.putRateLimitState address st, events) where
  listed := h.listed
  configured := h.configured
  bounded := hbounded
  fresh hnone := by simp at hnone
  remembers st' hst' := by
    rw [putRateLimitState_rateLimitState] at hst'
    exact Option.some.inj hst' ▸ hremembers

/-- **One call**: it is admitted exactly when the window has room for it. -/
theorem Tallied.step (h : Tallied address config before r) (hpositive : 1 ≤ config.maxCalls)
    (hnow : Follows config before now) :
    ((r.1.checkRateLimit { env with now := now } address).1 = true ↔
      within r.2 (now - config.windowSeconds) now < config.maxCalls) ∧
    Tallied address config (before ++ [now]) (check env address r now) := by
  cases hstate : r.1.rateLimitState address with
  | none =>
    obtain ⟨rfl, hevents⟩ := h.fresh hstate
    simp only [check, checkRateLimit, h.listed, hstate, Bool.false_eq_true, if_false, hevents]
    refine ⟨iff_of_true trivial hpositive, h.put ?_ (.first hpositive now)⟩
    exact Bounded.push (.nil _ _) (by simp) hpositive
  | some st =>
    have hremembers := h.remembers st hstate
    simp only [check, checkRateLimit, h.listed, h.configured, hstate, Bool.false_eq_true, if_false]
    rw [← hremembers.count_evict hnow]
    split
    next hfull =>
      exact ⟨iff_of_false (by simp) (Nat.not_lt.mpr hfull),
        h.put h.bounded (hremembers.refused hnow hfull)⟩
    next hroom =>
      have hlt := Nat.lt_of_not_le hroom
      refine ⟨iff_of_true rfl hlt, h.put ?_ (hremembers.admitted hnow hlt)⟩
      exact h.bounded.push (fun t ht => hnow.le t (hremembers.sublist.subset ht))
        (hremembers.count_evict hnow ▸ hlt)

/-- `get_rate_limit_usage` reports what the window holds. -/
theorem Tallied.usage_eq (h : Tallied address config before r) (hle : ∀ t ∈ before, t ≤ env.now) :
    r.1.getRateLimitUsage env address = within r.2 (env.now - config.windowSeconds) env.now := by
  cases hstate : r.1.rateLimitState address with
  | none =>
    obtain ⟨-, hevents⟩ := h.fresh hstate
    simp [getRateLimitUsage, hstate, hevents, within]
  | some st =>
    have hremembers := h.remembers st hstate
    have hrecalls := hremembers.recalls (env.now - config.windowSeconds) fun t ht =>
      Nat.sub_le_sub_right (hle t ht) _
    simp only [getRateLimitUsage, hstate, h.configured]
    rw [hremembers.ring.usage_eq, hrecalls.filter_eq, within, List.countP_eq_length_filter]
    congr 1
    refine List.filter_congr fun t ht => ?_
    simp [hle t (hremembers.sublist.subset ht)]

/-- **The calls that fill the ring come less than a window apart**, and no more than a `u32` can
number twice. -/
structure FillsSteadily (config : RateLimitConfig) (times : List Nat) : Prop where
  busy : (times.take config.maxCalls).IsChain fun t t' => t' < t + config.windowSeconds
  fits : min config.maxCalls times.length ≤ 2 ^ 31

theorem FillsSteadily.follows (h : FillsSteadily config times)
    (hlimited : RateLimited address c config times) {rest : List Nat}
    (hsplit : times = before ++ now :: rest) : Follows config before now := by
  have hfront : times = (before ++ [now]) ++ rest := by simp [hsplit]
  refine ⟨?_, fun t ht => ?_, fun hlt last hlast => ?_, ?_⟩
  · exact (List.pairwise_append.mp (hfront ▸ hlimited.sorted)).1
  · exact hlimited.past t (hfront ▸ List.mem_append_left rest ht)
  · have hchain := h.busy
    rw [hsplit, List.take_append, List.take_of_length_le hlt.le,
      List.take_cons (by omega)] at hchain
    exact (List.isChain_append.mp hchain).2.2 last hlast now rfl
  · have hfits := h.fits
    have hlength := congrArg List.length hfront
    simp only [List.length_append, List.length_singleton] at hlength
    omega

/-- **Every sequence of calls.** -/
theorem tallied_checks (h : FillsSteadily config times)
    (hlimited : RateLimited address c config times) (before rest : List Nat)
    (hsplit : times = before ++ rest) :
    Tallied address config before (c.checks env address before) := by
  induction before using List.reverseRecOn generalizing rest with
  | nil =>
    exact ⟨hlimited.listed, hlimited.configured, .nil _ _, fun _ => ⟨rfl, rfl⟩,
      fun st hst => absurd (hlimited.fresh.symm.trans hst) (by simp)⟩
  | append_singleton before now ih =>
    have hsplit' : times = before ++ now :: rest := by simp [hsplit]
    rw [checks, Machine.run_append, Machine.run_cons, Machine.run_nil]
    exact ((ih _ hsplit').step hlimited.positive (h.follows hlimited hsplit')).2

/-- **The rate limit is a sliding window**, if the calls that fill the ring come less than a window
apart. -/
theorem rate_limit_exact (env : Env) (address : Address) (c : Control) (config : RateLimitConfig)
    (times : List Nat) (hlimited : RateLimited address c config times)
    (h : FillsSteadily config times) : LimitsWindow env address c config times where
  admits before now rest hsplit :=
    ((tallied_checks h hlimited before _ hsplit).step hlimited.positive
      (h.follows hlimited hsplit)).1
  bounded := (tallied_checks h hlimited times [] (by simp)).bounded

/-- A limit of three calls in five seconds. -/
def threeInFive : Control :=
  { Control.empty with rateLimitConfig := some { maxCalls := 3, windowSeconds := 5 } }

/-- Three calls fill the ring, and the fourth of a window is refused. -/
theorem rate_limit_exact_four :
    (threeInFive.checks ⟨⟨⟨99⟩, fun _ => []⟩, 0, []⟩ ⟨1⟩ [10, 11, 12, 13, 16]).2 =
      [10, 11, 12, 16] ∧
    LimitsWindow ⟨⟨⟨99⟩, fun _ => []⟩, 0, []⟩ ⟨1⟩ threeInFive
      { maxCalls := 3, windowSeconds := 5 } [10, 11, 12, 13, 16] :=
  ⟨by decide, rate_limit_exact _ _ _ _ _
    ⟨rfl, rfl, rfl, by decide, by decide, by decide⟩ ⟨by decide, by decide⟩⟩

/-- **The usage that is reported is what the window holds**, after any of the calls. -/
theorem usage_exact (env : Env) (address : Address) (c : Control) (config : RateLimitConfig)
    (before rest : List Nat) (hlimited : RateLimited address c config (before ++ rest))
    (h : FillsSteadily config (before ++ rest)) (now : Nat) (hnow : ∀ t ∈ before, t ≤ now) :
    (c.checks env address before).1.getRateLimitUsage { env with now := now } address =
      within (c.checks env address before).2 (now - config.windowSeconds) now :=
  (tallied_checks h hlimited before rest rfl).usage_eq hnow

theorem usage_exact_three :
    (threeInFive.checks ⟨⟨⟨99⟩, fun _ => []⟩, 0, []⟩ ⟨1⟩ [10, 11, 12]).1.getRateLimitUsage
      ⟨⟨⟨99⟩, fun _ => []⟩, 16, []⟩ ⟨1⟩ = 1 :=
  (usage_exact ⟨⟨⟨99⟩, fun _ => []⟩, 0, []⟩ ⟨1⟩ threeInFive ⟨3, 5⟩ [10, 11, 12] []
    ⟨rfl, rfl, rfl, by decide, by decide, by decide⟩ ⟨by decide, by decide⟩ 16
    (by decide)).trans (by decide)

/-- **A pause while the ring grows lets more calls through**: after one at 10 and none until 20,
four are admitted in four seconds. -/
theorem not_rate_limit_exact :
    ¬ ∀ (env : Env) (address : Address) (c : Control) (config : RateLimitConfig)
      (times : List Nat), RateLimited address c config times →
        LimitsWindow env address c config times := by
  intro h
  have hlimits := h ⟨⟨⟨99⟩, fun _ => []⟩, 0, []⟩ ⟨1⟩ threeInFive
    { maxCalls := 3, windowSeconds := 5 } [10, 20, 21, 22, 23]
    ⟨rfl, rfl, rfl, by decide, by decide, by decide⟩
  exact absurd (hlimits.bounded 18) (by decide)

end Control

end QuorumProof
