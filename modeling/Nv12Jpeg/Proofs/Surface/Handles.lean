import Nv12Jpeg.Proofs.Surface.Independence

/-!
# Guards taken through any handle

Every surface of a pool has a lock, and there may be several handles on it: whoever has a handle can
copy it and take guards through the copy. All handles on a lock share one count of 16 bits.

* `SharedLocks` — a pool with the handles on its locks and the guards that are held;
* `SharedLocks.Counts` — every lock counts the guards on its surface modulo 65536; each call keeps
  this: `SharedLocks.Counts.call`;
* `SharedLocks.locked_unless_wrapped` — so a surface is locked exactly if the number of its guards
  is no multiple of 65536, which is to say while it has guards, unless they are 65536 or a multiple
  of that.
-/

namespace Nv12Jpeg

/-- What is done with handles on locks and with guards. -/
inductive LockCall where
  /-- Copies a handle. -/
  | copy (handle : Nat)
  /-- Takes a guard through a handle. -/
  | acquire (handle : Nat)
  /-- Drops a guard, if it is still held. -/
  | drop (number : Nat)

/-- A pool, the handles on the locks of its surfaces and the guards that are held. -/
structure SharedLocks extends GuardedPool where
  /-- The surface that each handle is about. A handle that is given up is not used any more. -/
  handles : List Nat

namespace SurfacePool

variable {pool : SurfacePool} {index other : Nat}

theorem guards_modify_of_ne {change : SurfaceLock → SurfaceLock} (differs : other ≠ index) :
    guards { pool with locks := pool.locks.modify other change } index = pool.guards index := by
  rw [guards, Array.getElem?_modify, if_neg differs, guards]

/-- The count of a lock returns to zero with the 65536th guard. -/
theorem guards_acquire_self (within : index < pool.size) :
    (pool.acquire index).guards index = (pool.guards index + 1) % 65536 := by
  have found := Array.getElem?_eq_getElem within
  rw [acquire, guards_modify found, if_pos rfl, guards_eq within]
  exact UInt16.toNat_add _ 1

theorem guards_release_self (within : index < pool.size) :
    (pool.release index).guards index = (pool.guards index + 65535) % 65536 := by
  have found := Array.getElem?_eq_getElem within
  rw [release, guards_modify found, if_pos rfl, guards_eq within]
  show (pool.locks[index].guards - 1).toNat = _
  rw [UInt16.toNat_sub, UInt16.toNat_one]
  omega

end SurfacePool

namespace SharedLocks

/-- A pool of free surfaces with one handle on the lock of each. -/
def allocate (info : FrameInfo) (count : UInt16) : SharedLocks :=
  { GuardedPool.allocate info count with handles := List.range count.toNat }

/-- Makes a call; one with a handle or a guard that is not there changes nothing. -/
def call : LockCall → SharedLocks → SharedLocks
  | .copy handle, user =>
    match user.handles[handle]? with
    | none => user
    | some index => { user with handles := user.handles ++ [index] }
  | .acquire handle, user =>
    match user.handles[handle]? with
    | none => user
    | some index => { user with
        pool := user.pool.acquire index
        held := user.held ++ [⟨user.taken, index⟩]
        taken := user.taken + 1 }
  | .drop number, user =>
    match user.held.find? (·.number = number) with
    | none => user
    | some guard => { user with
        pool := user.pool.release guard.index
        held := user.held.filter (·.number ≠ number) }

/-- Makes calls one after the other. -/
def run (calls : List LockCall) (user : SharedLocks) : SharedLocks :=
  calls.foldl (fun user next => call next user) user

/-- How many guards on a surface are held. -/
def alive (user : SharedLocks) (index : Nat) : Nat := (Guard.on user.held index).length

/-- Every lock counts the guards on its surface modulo 65536. -/
structure Counts (user : SharedLocks) : Prop where
  guards_eq : ∀ index, user.pool.guards index = user.alive index % 65536
  handles_inside : ∀ index ∈ user.handles, index < user.pool.size
  inside : ∀ guard ∈ user.held, guard.index < user.pool.size
  nodup : (user.held.map Guard.number).Nodup
  fresh : ∀ guard ∈ user.held, guard.number < user.taken

variable {user : SharedLocks}

theorem alive_append (held : List Guard) (guard : Guard) (index : Nat) :
    (Guard.on (held ++ [guard]) index).length
      = (Guard.on held index).length + if guard.index = index then 1 else 0 := by
  rw [Guard.on_append]
  split <;> simp

namespace Counts

theorem allocate (info : FrameInfo) (count : UInt16) : (allocate info count).Counts := by
  have size_eq : (SurfacePool.allocate info count).size = count.toNat := Array.size_replicate
  refine ⟨fun index => ?_, fun index mem => ?_, nofun, List.nodup_nil, nofun⟩
  · show (SurfacePool.allocate info count).guards index = 0
    rw [SurfacePool.guards, SurfacePool.allocate, Array.getElem?_replicate]
    by_cases within : index < count.toNat <;> simp [within, SurfaceLock.free]
  · show index < (SurfacePool.allocate info count).size
    rw [size_eq]
    exact List.mem_range.1 mem

/-- A copy is on the same lock. -/
theorem copied (h : user.Counts) {handle index : Nat} (found : user.handles[handle]? = some index) :
    Counts { user with handles := user.handles ++ [index] } where
  guards_eq := h.guards_eq
  handles_inside := by
    intro other mem
    obtain mem | mem := List.mem_append.1 mem
    · exact h.handles_inside other mem
    · obtain rfl := List.mem_singleton.1 mem
      exact h.handles_inside other (List.mem_of_getElem? found)
  inside := h.inside
  nodup := h.nodup
  fresh := h.fresh

/-- One more guard on a surface, through any handle on its lock. -/
theorem acquired (h : user.Counts) {index : Nat} (within : index < user.pool.size) :
    Counts { user with
      pool := user.pool.acquire index
      held := user.held ++ [⟨user.taken, index⟩]
      taken := user.taken + 1 } where
  guards_eq := by
    intro other
    show (user.pool.acquire index).guards other
      = (Guard.on (user.held ++ [⟨user.taken, index⟩]) other).length % 65536
    rw [alive_append]
    by_cases same : index = other
    · subst same
      rw [SurfacePool.guards_acquire_self within, h.guards_eq, if_pos rfl, Nat.mod_add_mod]
      rfl
    · rw [SurfacePool.acquire, SurfacePool.guards_modify_of_ne same, h.guards_eq, if_neg same]
      rfl
  handles_inside := fun other mem =>
    (SurfacePool.size_acquire user.pool index).symm ▸ h.handles_inside other mem
  inside := by
    intro guard mem
    show guard.index < (user.pool.acquire index).size
    rw [SurfacePool.size_acquire]
    obtain mem | mem := List.mem_append.1 mem
    · exact h.inside guard mem
    · obtain rfl := List.mem_singleton.1 mem
      exact within
  nodup := Guard.nodup_taken h.nodup h.fresh index
  fresh := Guard.fresh_taken h.fresh index

/-- One guard less, whichever it is. -/
theorem dropped (h : user.Counts) {guard : Guard} (mem : guard ∈ user.held) :
    Counts { user with
      pool := user.pool.release guard.index
      held := user.held.filter (·.number ≠ guard.number) } where
  guards_eq := by
    intro other
    show (user.pool.release guard.index).guards other
      = (Guard.on (user.held.filter (·.number ≠ guard.number)) other).length % 65536
    rw [Guard.on_filter, length_filter_ne (Guard.nodup_on h.nodup other)]
    simp only [Guard.mem_on_iff h.nodup mem]
    by_cases same : guard.index = other
    · subst same
      have some_held : 0 < (Guard.on user.held guard.index).length :=
        List.length_pos_of_mem ((Guard.mem_on_iff h.nodup mem).2 rfl)
      rw [SurfacePool.guards_release_self (h.inside guard mem), h.guards_eq, if_pos rfl, alive]
      omega
    · rw [SurfacePool.release, SurfacePool.guards_modify_of_ne same, h.guards_eq, if_neg same]
      rfl
  handles_inside := fun other mem =>
    (SurfacePool.size_release user.pool guard.index).symm ▸ h.handles_inside other mem
  inside := fun other kept =>
    (SurfacePool.size_release user.pool guard.index).symm ▸
        h.inside other (List.mem_filter.1 kept).1
  nodup := (List.filter_sublist.map Guard.number).nodup h.nodup
  fresh := fun other kept => h.fresh other (List.mem_filter.1 kept).1

/-- Every call keeps the counts. -/
theorem call (h : user.Counts) (next : LockCall) : (call next user).Counts := by
  cases next with
  | copy handle =>
    rw [SharedLocks.call]
    split
    · exact h
    · exact h.copied ‹_›
  | acquire handle =>
    rw [SharedLocks.call]
    split
    case h_1 => exact h
    case h_2 index found => exact h.acquired (h.handles_inside index (List.mem_of_getElem? found))
  | drop number =>
    rw [SharedLocks.call]
    split
    case h_1 => exact h
    case h_2 guard found =>
      have same := List.find?_some found
      obtain rfl : guard.number = number := of_decide_eq_true same
      exact h.dropped (List.mem_of_find?_eq_some found)

/-- So does every sequence of calls. -/
theorem run (h : user.Counts) (calls : List LockCall) : (run calls user).Counts := by
  induction calls generalizing user with
  | nil => exact h
  | cons first rest ih => exact ih (h.call first)

/-- No guards are counted exactly if the number of those that are held is a multiple of 65536. -/
theorem guards_eq_zero_iff (h : user.Counts) (index : Nat) :
    user.pool.guards index = 0 ↔ 65536 ∣ user.alive index := by
  rw [h.guards_eq, Nat.dvd_iff_mod_eq_zero]

theorem isLocked_iff (h : user.Counts) (index : Nat) :
    user.pool.isLocked index = true ↔ ¬ 65536 ∣ user.alive index := by
  rw [SurfacePool.isLocked_iff, Ne, h.guards_eq_zero_iff]

theorem findFree_eq_some_iff (h : user.Counts) (index : Nat) :
    user.pool.findFree = some index ↔
      (index < user.pool.size ∧ 65536 ∣ user.alive index) ∧
        ∀ before < index, ¬ 65536 ∣ user.alive before := by
  simp only [SurfacePool.findFree_eq_some_iff, Ne, h.guards_eq_zero_iff]

end Counts

theorem size_call (next : LockCall) (user : SharedLocks) :
    (call next user).pool.size = user.pool.size := by
  cases next <;> rw [call] <;> split <;> simp

theorem size_run (calls : List LockCall) (user : SharedLocks) :
    (run calls user).pool.size = user.pool.size := by
  induction calls generalizing user with
  | nil => rfl
  | cons first rest ih => exact (ih (call first user)).trans (size_call first user)

/-- Whatever was done with the handles and guards of a pool, a surface is locked exactly if the
number of guards on it is no multiple of 65536. That is while it has guards, but for a positive
multiple of 65536 of them. The first surface that is not locked is offered as free, so one with
guards is offered only if it has a positive multiple of 65536 of them. -/
theorem locked_unless_wrapped (info : FrameInfo) (count : UInt16) (calls : List LockCall)
    (index : Nat) :
    let user := run calls (allocate info count)
    (user.pool.isLocked index = true ↔ ¬ 65536 ∣ user.alive index) ∧
    ((user.pool.isLocked index = true ↔ 0 < user.alive index) ↔
      ¬ (0 < user.alive index ∧ 65536 ∣ user.alive index)) ∧
    (user.pool.findFree = some index ↔
      (index < count.toNat ∧ 65536 ∣ user.alive index) ∧
        ∀ before < index, ¬ 65536 ∣ user.alive before) := by
  intro user
  have counts : user.Counts := (Counts.allocate info count).run calls
  have size_eq : user.pool.size = count.toNat :=
    (size_run calls (allocate info count)).trans Array.size_replicate
  refine ⟨counts.isLocked_iff index, ?_, ?_⟩
  · rw [counts.isLocked_iff index]
    have unguarded : user.alive index = 0 → 65536 ∣ user.alive index := fun none_held =>
      none_held ▸ Nat.dvd_zero 65536
    by_cases wrapped : 65536 ∣ user.alive index
    · simp [wrapped]
    · have held : 0 < user.alive index := Nat.pos_of_ne_zero fun none_held =>
        wrapped (unguarded none_held)
      simp [wrapped, held]
  · rw [counts.findFree_eq_some_iff, size_eq]

/-- Guards that are taken one after the other through a handle all stay. -/
theorem alive_run_acquire {handle index : Nat} (guards : Nat) (user : SharedLocks)
    (found : user.handles[handle]? = some index) :
    (run (List.replicate guards (.acquire handle)) user).alive index
      = user.alive index + guards := by
  induction guards generalizing user with
  | zero => rfl
  | succ guards ih =>
    have taken : call (.acquire handle) user = { user with
        pool := user.pool.acquire index
        held := user.held ++ [⟨user.taken, index⟩]
        taken := user.taken + 1 } := by
      simp only [call, found]
    have one_more : (call (.acquire handle) user).alive index = user.alive index + 1 := by
      rw [taken, alive]
      exact (alive_append ..).trans (by rw [if_pos rfl, alive])
    show (run (List.replicate guards (.acquire handle)) (call (.acquire handle) user)).alive
      index = _
    rw [ih _ (by rw [taken]; exact found), one_more]
    omega

/-- Guards that are all taken through a copy of the handle of a surface. -/
theorem free_of_wrapped {guards : Nat} (wrapped : 65536 ∣ guards) :
    let user := run (.copy 0 :: List.replicate guards (.acquire 1)) (allocate (.nv12 16 16 25) 1)
    user.alive 0 = guards ∧ user.pool.isLocked 0 = false ∧ user.pool.findFree = some 0 := by
  intro user
  have counts : user.Counts := (Counts.allocate (.nv12 16 16 25) 1).run _
  have held : user.alive 0 = guards :=
    (alive_run_acquire guards (call (.copy 0) (allocate (.nv12 16 16 25) 1)) rfl).trans
      (Nat.zero_add guards)
  have size_eq : user.pool.size = 1 := (size_run _ _).trans Array.size_replicate
  refine ⟨held, ?_, ?_⟩
  · rw [← Bool.not_eq_true, counts.isLocked_iff, held]
    exact not_not_intro wrapped
  · exact (counts.findFree_eq_some_iff 0).2 ⟨⟨size_eq ▸ Nat.one_pos, held ▸ wrapped⟩, nofun⟩

/-- A surface with 65536 guards is not locked, and is offered as free. -/
theorem wrapped_lock_is_free :
    let user := run (.copy 0 :: List.replicate 65536 (.acquire 1)) (allocate (.nv12 16 16 25) 1)
    user.alive 0 = 65536 ∧ user.pool.isLocked 0 = false ∧ user.pool.findFree = some 0 :=
  free_of_wrapped (Nat.dvd_refl 65536)

end SharedLocks

end Nv12Jpeg
