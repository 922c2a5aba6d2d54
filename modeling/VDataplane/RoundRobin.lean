import Mathlib

namespace VDataplane.RoundRobin

/-!
# Serving queues by visits

A server visits queues one after the other; a visit takes one item from a queue
that is not empty.  A queue that is visited `v` times and holds `q` items
therefore gives up `min v q` of them, whatever the order of the visits.
-/

variable {Key : Type*} [DecidableEq Key]

/-- How many items a list of visits takes from the queues of some keys, given their lengths. -/
def served
    (keys : Finset Key)
    (visits : List Key)
    (lengths : Key → Nat) :
    Nat :=
  ∑ key ∈ keys, min (visits.count key) (lengths key)

@[simp] theorem served_nil
    (keys : Finset Key)
    (lengths : Key → Nat) :
    served keys [] lengths = 0 := by
  simp [served]

/-- A visit to an empty queue takes nothing. -/
theorem served_cons_empty
    (keys : Finset Key)
    {key : Key}
    (visits : List Key)
    {lengths : Key → Nat}
    (isEmpty : lengths key = 0) :
    served keys (key :: visits) lengths = served keys visits lengths := by
  apply Finset.sum_congr rfl
  intro other _
  by_cases same : other = key
  · subst other
    rw [isEmpty, Nat.min_zero, Nat.min_zero]
  · rw [List.count_cons_of_ne (Ne.symm same)]

/-- A visit to a queue with items takes one of them. -/
theorem served_cons_pos
    {keys : Finset Key}
    {key : Key}
    (isKey : key ∈ keys)
    (visits : List Key)
    {lengths after : Key → Nat}
    (oneFewer : lengths key = after key + 1)
    (othersSame : ∀ other, other ≠ key → after other = lengths other) :
    served keys (key :: visits) lengths = served keys visits after + 1 := by
  have others :
      ∑ other ∈ keys.erase key,
          min ((key :: visits).count other) (lengths other) =
        ∑ other ∈ keys.erase key,
          min (visits.count other) (after other) := by
    apply Finset.sum_congr rfl
    intro other member
    have different := Finset.ne_of_mem_erase member
    rw [List.count_cons_of_ne (Ne.symm different), othersSame other different]
  unfold served
  rw [← Finset.add_sum_erase _ _ isKey, ← Finset.add_sum_erase _ _ isKey,
    others, List.count_cons_self, oneFewer, Nat.add_min_add_right]
  ring

/-- Visits in rounds: every round repeats the same list of visits. -/
theorem served_rounds
    (keys : Finset Key)
    (rounds : Nat)
    (visits : List Key)
    (lengths : Key → Nat) :
    served keys (List.replicate rounds visits).flatten lengths =
      ∑ key ∈ keys, min (rounds * visits.count key) (lengths key) := by
  unfold served
  simp [List.count_flatten]

omit [DecidableEq Key] in
/-- Rounds visit only the keys of the round. -/
theorem mem_of_mem_rounds
    {rounds : Nat}
    {round : List Key}
    {key : Key}
    (visited : key ∈ (List.replicate rounds round).flatten) :
    key ∈ round := by
  obtain ⟨visits, isRound, inRound⟩ := List.mem_flatten.mp visited
  rwa [List.eq_of_mem_replicate isRound] at inRound

/-- In rounds without repetition every key is visited once a round. -/
theorem count_rounds
    {round : List Key}
    (distinct : round.Nodup)
    (rounds : Nat)
    {key : Key}
    (visited : key ∈ round) :
    (List.replicate rounds round).flatten.count key = rounds := by
  simp [List.count_flatten, List.count_eq_one_of_mem distinct visited]

/-- Rounds without repetition take one item a round from every key, as long as there are any. -/
theorem served_distinct_rounds
    {round : List Key}
    (distinct : round.Nodup)
    (rounds : Nat)
    (lengths : Key → Nat) :
    served round.toFinset (List.replicate rounds round).flatten lengths =
      ∑ key ∈ round.toFinset, min (lengths key) rounds := by
  apply Finset.sum_congr rfl
  intro key member
  rw [count_rounds distinct rounds (List.mem_toFinset.mp member),
    Nat.min_comm]

/-- Taking one item from one queue leaves one item fewer in all of them. -/
theorem sum_oneFewer
    {keys : Finset Key}
    {key : Key}
    (isKey : key ∈ keys)
    {lengths after : Key → Nat}
    (oneFewer : lengths key = after key + 1)
    (othersSame : ∀ other, other ≠ key → after other = lengths other) :
    ∑ other ∈ keys, lengths other = ∑ other ∈ keys, after other + 1 := by
  have others :
      ∑ other ∈ keys.erase key, after other =
        ∑ other ∈ keys.erase key, lengths other := by
    apply Finset.sum_congr rfl
    intro other member
    exact othersSame other (Finset.ne_of_mem_erase member)
  rw [← Finset.add_sum_erase _ _ isKey, ← Finset.add_sum_erase _ _ isKey,
    others, oneFewer]
  ring

/-- At any point of a sequence of rounds, no key has been visited twice more often than another. -/
theorem count_le_of_rounds
    {round : List Key}
    (distinct : round.Nodup)
    {rounds : Nat}
    {visits : List Key}
    (isPrefix : visits <+: (List.replicate rounds round).flatten)
    (first : Key)
    {second : Key}
    (visited : second ∈ round) :
    visits.count first ≤ visits.count second + 1 := by
  have atMostOnce := List.nodup_iff_count_le_one.mp distinct first
  have exactlyOnce := List.count_eq_one_of_mem distinct visited
  induction rounds generalizing visits with
  | zero =>
      have noVisits : visits = [] := List.prefix_nil.mp isPrefix
      rw [noVisits]
      exact Nat.zero_le _
  | succ rounds inductionHypothesis =>
      rw [List.replicate_succ, List.flatten_cons] at isPrefix
      have roundPrefix :
          round <+: round ++ (List.replicate rounds round).flatten :=
        List.prefix_append _ _
      rcases Nat.le_total visits.length round.length with
        shorter | longer
      · have inRound :=
          List.prefix_of_prefix_length_le isPrefix roundPrefix shorter
        have fewer := inRound.sublist.count_le first
        omega
      · obtain ⟨later, rfl⟩ :=
          List.prefix_of_prefix_length_le roundPrefix isPrefix longer
        have laterBound := inductionHypothesis
          ((List.prefix_append_right_inj round).mp isPrefix)
        rw [List.count_append, List.count_append]
        omega

end VDataplane.RoundRobin
