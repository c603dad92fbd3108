import Mathlib.Data.List.Pairwise
import Mathlib.Data.List.TakeWhile
import Mathlib.Order.Lattice

/-!
# Lib/SlidingWindow — a limit on how many events any window holds

Events come at times that do not decrease.  A limiter keeps the recent ones and forgets a front of
the list that has left the window; `Recalls` says that it forgets nothing else, so what it keeps
after forgetting is what the window holds.

A limiter that takes an event in only when the window that ends with it has room bounds every
window, not only those that end with an event.
-/

namespace SlidingWindow

/-- How many of the events lie in `(start, stop]`. -/
def within (events : List Nat) (start stop : Nat) : Nat :=
  events.countP fun t => start < t ∧ t ≤ stop

/-! ## What a limiter keeps -/

/-- Forgetting by number. -/
theorem drop_length_takeWhile {α : Type*} (p : α → Bool) (l : List α) :
    l.drop (l.takeWhile p).length = l.dropWhile p := by
  have hsplit := congrArg (List.drop (l.takeWhile p).length)
    (List.takeWhile_append_dropWhile (p := p) (l := l))
  rw [List.drop_left] at hsplit
  exact hsplit.symm

section Kept

variable {α : Type*} [LinearOrder α] {start start' : α} {events kept : List α}

/-- The limiter has kept the events but for a front of them, all no later than `start`. -/
def Recalls (start : α) (events kept : List α) : Prop :=
  ∃ forgotten, events = forgotten ++ kept ∧ ∀ t ∈ forgotten, t ≤ start

theorem Recalls.refl (start : α) (events : List α) : Recalls start events events :=
  ⟨[], rfl, by simp⟩

theorem Recalls.mono (h : Recalls start events kept) (hle : start ≤ start') :
    Recalls start' events kept := by
  obtain ⟨forgotten, heq, hold⟩ := h
  exact ⟨forgotten, heq, fun t ht => (hold t ht).trans hle⟩

theorem Recalls.push (h : Recalls start events kept) (t : α) :
    Recalls start (events ++ [t]) (kept ++ [t]) := by
  obtain ⟨forgotten, rfl, hold⟩ := h
  exact ⟨forgotten, List.append_assoc .., hold⟩

/-- Forgetting what has left the window. -/
theorem Recalls.forget (h : Recalls start events kept) :
    Recalls start events (kept.dropWhile (· ≤ start)) := by
  obtain ⟨forgotten, rfl, hold⟩ := h
  refine ⟨forgotten ++ kept.takeWhile (· ≤ start), ?_, fun t ht => ?_⟩
  · rw [List.append_assoc, List.takeWhile_append_dropWhile]
  · rcases List.mem_append.mp ht with hforgotten | htaken
    · exact hold t hforgotten
    · simpa using List.mem_takeWhile_imp htaken

/-- The part of an ordered list after the first late entry is late. -/
theorem dropWhile_eq_filter (h : kept.Pairwise (· ≤ ·)) :
    kept.dropWhile (· ≤ start) = kept.filter (start < ·) := by
  induction kept with
  | nil => rfl
  | cons t kept ih =>
    obtain ⟨hfirst, hrest⟩ := List.pairwise_cons.mp h
    by_cases ht : t ≤ start
    · rw [List.dropWhile_cons_of_pos (by simpa using ht), ih hrest,
        List.filter_cons_of_neg (by simpa using ht)]
    · have hlate : ∀ u ∈ t :: kept, start < u := by
        intro u hu
        rcases List.mem_cons.mp hu with rfl | hu
        · exact not_le.mp ht
        · exact (not_le.mp ht).trans_le (hfirst u hu)
      rw [List.dropWhile_cons_of_neg (by simpa using ht),
        List.filter_eq_self.mpr fun u hu => by simpa using hlate u hu]

/-- What lies in the window is not forgotten. -/
theorem Recalls.filter_eq (h : Recalls start events kept) :
    kept.filter (start < ·) = events.filter (start < ·) := by
  obtain ⟨forgotten, rfl, hold⟩ := h
  have hgone : forgotten.filter (start < ·) = [] := by
    refine List.filter_eq_nil_iff.mpr fun t ht => ?_
    simpa using hold t ht
  rw [List.filter_append, hgone, List.nil_append]

/-- **After forgetting, the limiter keeps what the window holds.** -/
theorem Recalls.dropWhile_eq (h : Recalls start events kept) (hsorted : events.Pairwise (· ≤ ·)) :
    kept.dropWhile (· ≤ start) = events.filter (start < ·) := by
  rw [← h.filter_eq]
  obtain ⟨forgotten, rfl, -⟩ := h
  exact dropWhile_eq_filter (List.pairwise_append.mp hsorted).2.1

/-- An event later than what may be forgotten is kept. -/
theorem Recalls.mem (h : Recalls start events kept) {t : α} (ht : t ∈ events) (hlate : start < t) :
    t ∈ kept := by
  obtain ⟨forgotten, rfl, hold⟩ := h
  rcases List.mem_append.mp ht with hforgotten | hkept
  · exact absurd (hold t hforgotten) (not_le.mpr hlate)
  · exact hkept

end Kept

/-! ## Every window -/

variable {events : List Nat} {limit width : Nat}

theorem within_snoc (events : List Nat) (t start stop : Nat) :
    within (events ++ [t]) start stop =
      within events start stop + if start < t ∧ t ≤ stop then 1 else 0 := by
  simp [within, List.countP_append, List.countP_cons]

/-- Every window of a width holds at most `limit` events. -/
def Bounded (limit width : Nat) (events : List Nat) : Prop :=
  ∀ start, within events start (start + width) ≤ limit

theorem Bounded.nil (limit width : Nat) : Bounded limit width [] := fun _ => Nat.zero_le _

/-- **An event the window before it has room for leaves every window bounded.** -/
theorem Bounded.push (h : Bounded limit width events) {t : Nat} (hlast : ∀ u ∈ events, u ≤ t)
    (hroom : within events (t - width) t < limit) : Bounded limit width (events ++ [t]) := by
  intro start
  rw [within_snoc]
  split
  next hin =>
    -- the window ends no earlier than `t`, so what it holds lies in the window that ends with `t`
    have hle : within events start (start + width) ≤ within events (t - width) t := by
      refine List.countP_mono_left fun u hu hwithin => ?_
      simp only [decide_eq_true_eq] at hwithin ⊢
      have := hlast u hu
      omega
    omega
  next => exact h start

end SlidingWindow
