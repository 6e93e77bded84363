/-!
# Credits

A count of submissions that wait for their result. It is bounded and never falls below zero.
-/

namespace Nv12Jpeg

/-- How many credits there are and how many of them are used. -/
structure Credits where
  capacity : Nat
  used : Nat
  used_le : used ≤ capacity

namespace Credits

/-- Unused credits, one at least. -/
def ofCapacity (capacity : Nat) : Credits := ⟨max capacity 1, 0, Nat.zero_le _⟩

/-- Uses one more credit, if there is one. -/
def acquire? (credits : Credits) : Option Credits :=
  if unused : credits.used < credits.capacity then some ⟨credits.capacity, credits.used + 1, unused⟩
  else none

/-- Gives a used credit back, if there is one. -/
def release (credits : Credits) : Credits :=
  ⟨credits.capacity, credits.used - 1, Nat.le_trans (Nat.sub_le ..) credits.used_le⟩

@[simp] theorem capacity_release (credits : Credits) :
    credits.release.capacity = credits.capacity := rfl

@[simp] theorem used_release (credits : Credits) : credits.release.used = credits.used - 1 := rfl

theorem acquire?_eq_none {credits : Credits} :
    credits.acquire? = none ↔ credits.used = credits.capacity := by
  have := credits.used_le
  unfold acquire?
  split <;> simp <;> omega

/-- A credit that was used and given back leaves no trace. -/
theorem release_of_acquire? {credits next : Credits} (h : credits.acquire? = some next) :
    next.release = credits := by
  unfold acquire? at h
  split at h
  · cases h
    rfl
  · cases h

end Credits

end Nv12Jpeg
