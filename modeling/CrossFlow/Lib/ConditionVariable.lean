import Mathlib.Data.List.Nodup
import Mathlib.Data.List.Perm.Basic

/-!
# `CrossFlow.Lib.ConditionVariable`: the threads inside `wait`

A thread that calls `wait` with its predicate false goes to sleep in one step with the release of
the mutex. It is woken by `notifyOne`, which wakes one of the threads asleep, whichever, by
`notifyAll`, or for no reason at all. A woken thread still has to take the mutex and look at its
predicate again, so a notification can reach a thread that has no use for it.

* `mem_asleep_notifyOne` and its like: no operation but `sleep` sends a thread to sleep.
* `Outside.notifyOne` and its like: no operation but `sleep` lets a thread in.
* `notifyOne_of_only`: the only thread asleep is the one that is woken.
-/

set_option autoImplicit false

namespace CrossFlow.Lib

/-- The threads inside `wait`, each of them in one place. -/
structure ConditionVariable (ι : Type) where
  asleep : List ι
  /-- Woken by a notification, and not in possession of the mutex yet. -/
  notified : List ι
  /-- Woken for no reason, and not in possession of the mutex yet. -/
  spurious : List ι
  distinct : (asleep ++ notified ++ spurious).Nodup

namespace ConditionVariable

variable {ι : Type}

/-- Nobody waits. -/
def init : ConditionVariable ι where
  asleep := []
  notified := []
  spurious := []
  distinct := List.nodup_nil

/-- `i` is not inside `wait`. -/
def Outside (c : ConditionVariable ι) (i : ι) : Prop := i ∉ c.asleep ++ c.notified ++ c.spurious

/-- A thread that is woken moves from the one list to the front of the other. -/
theorem perm_wake {asleep woken : List ι} {k : Nat} (hk : k < asleep.length) :
    (asleep ++ woken).Perm (asleep.eraseIdx k ++ asleep[k] :: woken) :=
  ((List.getElem_cons_eraseIdx_perm hk).symm.append_right woken).trans List.perm_middle.symm

/-- Wakes the thread at the position `pick` among those asleep. -/
def notifyOne (c : ConditionVariable ι) (pick : Nat) : ConditionVariable ι :=
  if h : c.asleep = [] then c
  else
    have hpick : pick % c.asleep.length < c.asleep.length :=
      Nat.mod_lt pick (List.length_pos_iff.mpr h)
    { c with
      asleep := c.asleep.eraseIdx (pick % c.asleep.length)
      notified := c.asleep[pick % c.asleep.length] :: c.notified
      distinct := ((perm_wake hpick).append_right c.spurious).nodup c.distinct }

/-- All that are asleep are to wake up. -/
def notifyAll (c : ConditionVariable ι) : ConditionVariable ι where
  asleep := []
  notified := c.asleep ++ c.notified
  spurious := c.spurious
  distinct := c.distinct

/-- A notification puts nobody to sleep. -/
theorem mem_asleep_notifyOne {c : ConditionVariable ι} {pick : Nat} {i : ι}
    (h : i ∈ (c.notifyOne pick).asleep) : i ∈ c.asleep := by
  unfold notifyOne at h
  split at h
  · exact h
  · exact List.mem_of_mem_eraseIdx h

/-- The only thread asleep is the one that is woken. -/
theorem notifyOne_of_only {c : ConditionVariable ι} {i : ι} (honly : ∀ j ∈ c.asleep, j = i)
    (pick : Nat) : (c.notifyOne pick).asleep = [] := by
  -- The list has no duplicates, so it is empty or it is `[i]`.
  have hnodup : c.asleep.Nodup := c.distinct.of_append_left.of_append_left
  have hlength : c.asleep.length ≤ 1 := by
    rw [List.eq_replicate_of_mem honly] at hnodup
    exact List.nodup_replicate.mp hnodup
  unfold notifyOne
  split
  · assumption
  · rename_i h
    have hpos := List.length_pos_iff.mpr h
    refine List.eq_nil_of_length_eq_zero ?_
    rw [List.length_eraseIdx_of_lt (Nat.mod_lt pick hpos)]
    omega

/-- When all are notified nobody is asleep. -/
@[simp] theorem asleep_notifyAll (c : ConditionVariable ι) : c.notifyAll.asleep = [] := rfl

/-- A thread that is not in a wait does not sleep. -/
theorem Outside.not_asleep {c : ConditionVariable ι} {i : ι} (h : c.Outside i) : i ∉ c.asleep :=
  fun hi => h (List.mem_append_left _ (List.mem_append_left _ hi))

/-- A thread that is not in a wait has not been notified. -/
theorem Outside.not_notified {c : ConditionVariable ι} {i : ι} (h : c.Outside i) :
    i ∉ c.notified :=
  fun hi => h (List.mem_append_left _ (List.mem_append_right _ hi))

/-- A thread that was notified is not asleep any more. -/
theorem not_asleep_of_notified {c : ConditionVariable ι} {i : ι} (h : i ∈ c.notified) :
    i ∉ c.asleep :=
  fun hi => (List.nodup_append'.mp c.distinct.of_append_left).2.2 hi h

/-- A notification of one takes no thread into a wait. -/
theorem Outside.notifyOne {c : ConditionVariable ι} {i : ι} (h : c.Outside i) (pick : Nat) :
    (c.notifyOne pick).Outside i := by
  unfold ConditionVariable.notifyOne
  split
  · exact h
  · rename_i hsome
    have hpick := Nat.mod_lt pick (List.length_pos_iff.mpr hsome)
    exact fun hi => h (((perm_wake hpick).append_right c.spurious).symm.subset hi)

/-- A notification of all takes no thread into a wait. -/
theorem Outside.notifyAll {c : ConditionVariable ι} {i : ι} (h : c.Outside i) :
    c.notifyAll.Outside i := h

variable [DecidableEq ι]

/-- Whether a thread is in a wait can be looked up. -/
instance (c : ConditionVariable ι) (i : ι) : Decidable (c.Outside i) :=
  inferInstanceAs (Decidable (i ∉ _))

/-- A thread that is not inside `wait` calls it and finds its predicate false. -/
def sleep (c : ConditionVariable ι) (i : ι) : ConditionVariable ι :=
  if h : c.Outside i then { c with asleep := i :: c.asleep, distinct := c.distinct.cons h } else c

/-- A thread wakes up for no reason. -/
def wakeSpuriously (c : ConditionVariable ι) (i : ι) : ConditionVariable ι :=
  if h : i ∈ c.asleep then
    { c with
      asleep := c.asleep.erase i
      spurious := i :: c.spurious
      distinct :=
        ((((List.perm_cons_erase h).append_right c.notified).append_right c.spurious).trans
          List.perm_middle.symm).nodup c.distinct }
  else c

/-- Those that wait when one of them has left are among those that waited before. -/
theorem sublist_erase (asleep notified spurious : List ι) (i : ι) :
    (asleep ++ notified.erase i ++ spurious.erase i).Sublist (asleep ++ notified ++ spurious) :=
  ((List.Sublist.refl asleep).append List.erase_sublist).append List.erase_sublist

/-- A woken thread takes the mutex. -/
def leave (c : ConditionVariable ι) (i : ι) : ConditionVariable ι where
  asleep := c.asleep
  notified := c.notified.erase i
  spurious := c.spurious.erase i
  distinct := c.distinct.sublist (sublist_erase c.asleep c.notified c.spurious i)

/-- A thread that leaves was not asleep. -/
@[simp] theorem asleep_leave (c : ConditionVariable ι) (i : ι) : (c.leave i).asleep = c.asleep :=
  rfl

/-- A spurious wake-up puts nobody to sleep. -/
theorem mem_asleep_wakeSpuriously {c : ConditionVariable ι} {i j : ι}
    (h : i ∈ (c.wakeSpuriously j).asleep) : i ∈ c.asleep := by
  unfold wakeSpuriously at h
  split at h
  · exact List.mem_of_mem_erase h
  · exact h

/-- Only the thread that goes to sleep is asleep besides the others. -/
theorem mem_asleep_sleep {c : ConditionVariable ι} {i j : ι} (h : i ∈ (c.sleep j).asleep) :
    i = j ∨ i ∈ c.asleep := by
  unfold sleep at h
  split at h
  · exact List.mem_cons.mp h
  · exact .inr h

/-- A spurious wake-up takes no thread into a wait. -/
theorem Outside.wakeSpuriously {c : ConditionVariable ι} {i : ι} (h : c.Outside i) (j : ι) :
    (c.wakeSpuriously j).Outside i := by
  unfold ConditionVariable.wakeSpuriously
  split
  · rename_i hj
    have hperm := (((List.perm_cons_erase hj).append_right c.notified).append_right
      c.spurious).trans List.perm_middle.symm
    exact fun hi => h (hperm.symm.subset hi)
  · exact h

/-- That another one leaves takes no thread into a wait. -/
theorem Outside.leave {c : ConditionVariable ι} {i : ι} (h : c.Outside i) (j : ι) :
    (c.leave j).Outside i :=
  fun hi => h ((sublist_erase c.asleep c.notified c.spurious j).subset hi)

/-- That another one goes to sleep takes no thread into a wait. -/
theorem Outside.sleep {c : ConditionVariable ι} {i j : ι} (h : c.Outside i) (hne : i ≠ j) :
    (c.sleep j).Outside i := by
  unfold ConditionVariable.sleep
  split
  · intro hi
    rcases List.mem_cons.mp hi with hi | hi
    · exact hne hi
    · exact h hi
  · exact h

/-- A thread that has taken the mutex was the only one of its name. -/
theorem not_notified_leave (c : ConditionVariable ι) (i : ι) : i ∉ (c.leave i).notified :=
  (c.distinct.of_append_left.of_append_right).not_mem_erase

end ConditionVariable

end CrossFlow.Lib
