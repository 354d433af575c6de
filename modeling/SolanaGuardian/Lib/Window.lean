import Mathlib.Data.List.Sort
import Mathlib.Data.List.TakeWhile
import Mathlib.Order.Basic

/-!
# Sliding windows

A queue of stamped entries that is pruned from its head. The log is everything that was ever
appended, in order of the stamps; the queue is meant to be the part of the log that a cutoff has
not expired.

* `Window.prune`: pops the expired entries at the head of the queue.
* `Window.prune_prune_append`: pruning once at the end is pruning all along.
* `Window.prune_append_stamped`: entries of one stamp are kept together.
* `Window.live`: the entries of a log that a cutoff has not expired.
* `Window.Covers`: the queue is the log without some expired entries at its front. Every operation
  keeps it, also those that do not prune.
* `Window.Covers.prune_eq`: when the stamps are sorted, pruning a queue that covers the log leaves
  the live entries, exactly.
-/

namespace Window

variable {α τ : Type*} [LinearOrder τ] (stamp : α → τ)

/-- Pops the entries at the head that are older than the cutoff. -/
def prune (cutoff : τ) (queue : List α) : List α := queue.dropWhile (stamp · < cutoff)

/-- The entries that are not older than the cutoff. -/
def live (cutoff : τ) (log : List α) : List α := log.filter (cutoff ≤ stamp ·)

/-- The queue is the log without some entries at its front, all older than the cutoff. -/
def Covers (cutoff : τ) (log queue : List α) : Prop :=
  ∃ expired, log = expired ++ queue ∧ ∀ x ∈ expired, stamp x < cutoff

/-- The stamps of a log never decrease. -/
def Sorted (log : List α) : Prop := log.Pairwise fun x y => stamp x ≤ stamp y

variable {stamp} {cutoff cutoff' : τ} {log queue : List α}

theorem sorted_concat {x : α} (h : Sorted stamp log) (hx : ∀ y ∈ log, stamp y ≤ stamp x) :
    Sorted stamp (log ++ [x]) := by
  unfold Sorted
  rw [List.pairwise_append]
  refine ⟨h, List.pairwise_singleton _ x, fun y hy z hz => ?_⟩
  rw [List.mem_singleton.mp hz]
  exact hx y hy

/-- On sorted entries, popping the head and filtering are the same. -/
theorem prune_sorted (h : Sorted stamp queue) : prune stamp cutoff queue = live stamp cutoff queue := by
  induction queue with
  | nil => rfl
  | cons x queue ih =>
    obtain ⟨hx, hrest⟩ := List.pairwise_cons.mp h
    by_cases hlt : stamp x < cutoff
    · have hnot : ¬ cutoff ≤ stamp x := not_le.mpr hlt
      rw [prune, List.dropWhile_cons_of_pos (by simpa using hlt), live,
        List.filter_cons_of_neg (by simpa using hlt)]
      exact ih hrest
    · have hall : ∀ y ∈ x :: queue, cutoff ≤ stamp y := by
        intro y hy
        rcases List.mem_cons.mp hy with rfl | hy
        · exact not_lt.mp hlt
        · exact le_trans (not_lt.mp hlt) (hx y hy)
      rw [prune, List.dropWhile_cons_of_neg (by simpa using hlt), live,
        List.filter_eq_self.mpr (by simpa using hall)]

/-- The head decides: what follows is pruned only when all before it has expired. -/
theorem prune_append (xs ys : List α) :
    prune stamp cutoff (xs ++ ys) =
      if (prune stamp cutoff xs).isEmpty then prune stamp cutoff ys
      else prune stamp cutoff xs ++ ys := List.dropWhile_append

theorem prune_prune (xs : List α) :
    prune stamp cutoff (prune stamp cutoff xs) = prune stamp cutoff xs := by
  induction xs with
  | nil => rfl
  | cons x xs ih =>
    by_cases hlt : stamp x < cutoff
    · have hpop : prune stamp cutoff (x :: xs) = prune stamp cutoff xs :=
        List.dropWhile_cons_of_pos (by simpa using hlt)
      rw [hpop, ih]
    · have hkeep : prune stamp cutoff (x :: xs) = x :: xs :=
        List.dropWhile_cons_of_neg (by simpa using hlt)
      rw [hkeep, hkeep]

/-- Pruning early does not matter. -/
theorem prune_prune_append (xs ys : List α) :
    prune stamp cutoff (prune stamp cutoff xs ++ ys) = prune stamp cutoff (xs ++ ys) := by
  rw [prune_append, prune_append, prune_prune]

/-- Entries of one stamp expire together. -/
theorem prune_stamped {t : τ} {xs : List α} (h : ∀ x ∈ xs, stamp x = t) :
    prune stamp cutoff xs = if t < cutoff then [] else xs := by
  induction xs with
  | nil => simp [prune]
  | cons x xs ih =>
    have hx : stamp x = t := h x (by simp)
    have hrest := ih fun y hy => h y (List.mem_cons_of_mem _ hy)
    by_cases hlt : t < cutoff
    · rw [if_pos hlt] at hrest ⊢
      rw [prune, List.dropWhile_cons_of_pos (by simpa [hx] using hlt)]
      exact hrest
    · rw [if_neg hlt, prune, List.dropWhile_cons_of_neg (by simpa [hx] using hlt)]

/-- What is left of a queue to which entries of one stamp were appended: all of these, or none if they
have expired and nothing is in front of them. -/
theorem prune_append_stamped {t : τ} {ys : List α} (h : ∀ y ∈ ys, stamp y = t) (xs : List α) :
    prune stamp cutoff (xs ++ ys) = prune stamp cutoff xs ++
      if (prune stamp cutoff xs).isEmpty && decide (t < cutoff) then [] else ys := by
  rw [prune_append, prune_stamped h]
  by_cases hempty : prune stamp cutoff xs = []
  · simp [hempty]
  · simp [hempty]

/-- Nothing is live of entries that are all older than the cutoff. -/
theorem live_expired {expired : List α} (h : ∀ x ∈ expired, stamp x < cutoff) :
    live stamp cutoff expired = [] := by
  rw [live, List.filter_eq_nil_iff]
  intro x hx
  simpa using h x hx

namespace Covers

theorem refl (cutoff : τ) (log : List α) : Covers stamp cutoff log log :=
  ⟨[], rfl, by simp⟩

/-- A later cutoff expires more. -/
theorem mono (h : Covers stamp cutoff log queue) (hle : cutoff ≤ cutoff') :
    Covers stamp cutoff' log queue := by
  obtain ⟨expired, hlog, hall⟩ := h
  exact ⟨expired, hlog, fun x hx => lt_of_lt_of_le (hall x hx) hle⟩

/-- Appending keeps the queue covering. -/
theorem append (h : Covers stamp cutoff log queue) (xs : List α) :
    Covers stamp cutoff (log ++ xs) (queue ++ xs) := by
  obtain ⟨expired, hlog, hall⟩ := h
  exact ⟨expired, by rw [hlog, List.append_assoc], hall⟩

/-- Pruning keeps the queue covering. -/
theorem prune (h : Covers stamp cutoff log queue) :
    Covers stamp cutoff log (prune stamp cutoff queue) := by
  obtain ⟨expired, hlog, hall⟩ := h
  refine ⟨expired ++ queue.takeWhile (stamp · < cutoff), ?_, ?_⟩
  · rw [List.append_assoc, Window.prune, List.takeWhile_append_dropWhile, hlog]
  · intro x hx
    rcases List.mem_append.mp hx with hx | hx
    · exact hall x hx
    · simpa using List.mem_takeWhile_imp hx

/-- The live entries of a log are those of a queue that covers it. -/
theorem live_eq (h : Covers stamp cutoff log queue) :
    live stamp cutoff log = live stamp cutoff queue := by
  obtain ⟨expired, hlog, hall⟩ := h
  have hnil := live_expired hall
  rw [hlog, live, List.filter_append]
  rw [live] at hnil
  rw [hnil, List.nil_append, live]

/-- The live entries of a sorted log cover it. -/
theorem live (cutoff : τ) (h : Sorted stamp log) : Covers stamp cutoff log (live stamp cutoff log) := by
  rw [← prune_sorted h]
  exact (refl cutoff log).prune

/-- **Exactness.** Pruning a queue that covers a sorted log leaves the live entries of the log. -/
theorem prune_eq (h : Covers stamp cutoff log queue) (hs : Sorted stamp log) :
    Window.prune stamp cutoff queue = Window.live stamp cutoff log := by
  have hqueue : Sorted stamp queue := by
    obtain ⟨expired, hlog, -⟩ := h
    rw [hlog] at hs
    exact (List.pairwise_append.mp hs).2.1
  rw [prune_sorted hqueue, h.live_eq]

end Covers

end Window
