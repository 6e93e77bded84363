import Nv12Jpeg.Encoder.Basic
import Nv12Jpeg.Proofs.Surface.Filling

/-!
# Surfaces and guards of a pool

* `SurfacePool.Sound` — a pool whose surfaces all lie in its buffer;
* `SurfacePool.surface?_withData_self`, `SurfacePool.surface?_withData_of_ne` — filling a surface
  leaves the others as they are;
* `SurfacePool.readFrame_complete`, `SurfacePool.readFrame_short` — reading a frame into a surface
  of a pool;
* `SurfacePool.findFree_eq_some_iff`, `SurfacePool.findFree_eq_none_iff` — which surface is found to
  be free;
* `SurfacePool.guards_acquire`, `SurfacePool.guards_release` — what the locks of a pool count;
* `LockChange.guards_foldl` — as long as there are never 65536 guards on a surface at a time, its
  lock counts them;
* `LockChange.foldl_apply` — the order in which guards are taken and dropped does not matter.
-/

namespace Nv12Jpeg

theorem SurfaceLock.toNat_acquire {lock : SurfaceLock} (h : lock.guards.toNat + 1 < 65536) :
    lock.acquire.guards.toNat = lock.guards.toNat + 1 := by
  show (lock.guards + 1).toNat = _
  rw [UInt16.toNat_add]
  exact Nat.mod_eq_of_lt h

theorem SurfaceLock.toNat_release {lock : SurfaceLock} (h : 1 ≤ lock.guards.toNat) :
    lock.release.guards.toNat = lock.guards.toNat - 1 :=
  UInt16.toNat_sub_of_le _ _ (UInt16.le_iff_toNat_le.2 h)

/-- A lock that counts guards is locked. -/
theorem SurfaceLock.isLocked_iff {lock : SurfaceLock} :
    lock.isLocked = true ↔ lock.guards.toNat ≠ 0 := by
  rw [isLocked, bne_iff_ne]
  exact not_congr UInt16.toNat_inj.symm

namespace SurfacePool

variable {pool : SurfacePool} {index other : Nat}

/-- A pool of sound geometry whose surfaces all lie in its buffer. -/
structure Sound (pool : SurfacePool) : Prop where
  info : pool.info.Sound
  size_eq : pool.buffer.size = pool.info.surfaceSize * pool.size

theorem size_buffer_allocate (info : FrameInfo) (count : UInt16) :
    (allocate info count).buffer.size
      = (allocate info count).info.surfaceSize * (allocate info count).size := by
  show (Bytes.zeros _).size = info.surfaceSize * (Array.replicate _ _).size
  rw [Bytes.size_zeros, Array.size_replicate]

theorem sound_allocate {info : FrameInfo} (h : info.Sound) (count : UInt16) :
    (allocate info count).Sound :=
  ⟨h, size_buffer_allocate info count⟩

/-- The place of a surface in the buffer. -/
theorem offset_add_le (size_eq : pool.buffer.size = pool.info.surfaceSize * pool.size)
    (within : index < pool.size) :
    pool.offset index + pool.info.surfaceSize ≤ pool.buffer.size := by
  rw [size_eq, offset, Nat.mul_comm _ pool.size]
  exact Bytes.row_end_le (Nat.le_refl _) within

theorem surface?_eq_some (within : index < pool.size) :
    pool.surface? index = some ⟨pool.info,
      pool.buffer.extract (pool.offset index) (pool.offset index + pool.info.surfaceSize)⟩ :=
  if_pos within

/-- A surface has the geometry of its pool. -/
theorem info_of_surface?_eq_some {surface : Surface} (shown : pool.surface? index = some surface) :
    surface.info = pool.info := by
  unfold surface? at shown
  split at shown <;> cases shown
  rfl

/-- A surface has all the bytes of its geometry. -/
theorem size_of_surface?_eq_some
    (size_eq : pool.buffer.size = pool.info.surfaceSize * pool.size)
    {surface : Surface} (shown : pool.surface? index = some surface) :
    surface.data.size = pool.info.surfaceSize := by
  unfold surface? at shown
  split at shown <;> cases shown
  rename_i within
  exact Bytes.size_extract_add (offset_add_le size_eq within)

/-- A surface that was filled has the bytes it was filled with. -/
theorem surface?_withData_self
    (size_eq : pool.buffer.size = pool.info.surfaceSize * pool.size) (within : index < pool.size)
    {data : Bytes} (size : data.size = pool.info.surfaceSize) :
    (pool.withData index data).surface? index = some ⟨pool.info, data⟩ := by
  have inside := offset_add_le size_eq within
  have written := Bytes.extract_write_self (show pool.offset index + data.size
    ≤ pool.buffer.size by omega)
  rw [size] at written
  rw [surface?_eq_some (show index < (pool.withData index data).size from within)]
  exact congrArg some (congrArg (Surface.mk pool.info) written)

/-- The other surfaces have the bytes they had. -/
theorem surface?_withData_of_ne {other : Nat} (differs : other ≠ index) {data : Bytes}
    (size : data.size = pool.info.surfaceSize) :
    (pool.withData index data).surface? other = pool.surface? other := by
  by_cases within : other < pool.size
  · have apart : pool.offset other + pool.info.surfaceSize ≤ pool.offset index ∨
        pool.offset index + data.size ≤ pool.offset other := by
      rw [size, offset, offset]
      rcases Nat.lt_or_gt_of_ne differs with before | behind
      · exact .inl (Bytes.row_end_le (Nat.le_refl _) before)
      · exact .inr (Bytes.row_end_le (Nat.le_refl _) behind)
    rw [surface?_eq_some within,
      surface?_eq_some (show other < (pool.withData index data).size from within)]
    exact congrArg some (congrArg (Surface.mk pool.info) (Bytes.extract_write_of_disjoint apart))
  · rw [surface?, surface?, size_withData, if_neg within, if_neg within]

theorem sound_withData (sound : pool.Sound) (data : Bytes) : (pool.withData index data).Sound :=
  ⟨sound.info, (Bytes.size_write _ _ _).trans sound.size_eq⟩

/-- Putting bytes into a surface does not touch the locks. -/
theorem locks_of_overwrite_eq_ok {start : Nat} {payload : Bytes} {next : SurfacePool}
    (h : pool.overwrite index start payload = .ok next) : next.locks = pool.locks := by
  unfold overwrite at h
  split at h
  · cases h
    rfl
  · obtain ⟨data, _, done⟩ := bind_eq_ok.1 h
    cases done
    rfl

section ReadFrame

variable {source : Source} {store : FileStore} {written : Location → Prop} {bytes : Bytes}
  {failure : Option IoError}

/-- A frame that is there goes to the surface, and to no other one. -/
theorem readFrame_complete (feeds : source.Feeds store written bytes failure)
    (sound : pool.Sound) (within : index < pool.size)
    (enough : pool.info.rawFrameSize ≤ bytes.size) :
    ∃ (data : Bytes) (next : Source),
      pool.readFrame index store source
        = .ok (some .complete, pool.withData index data, next) ∧
      next.Feeds store written (bytes.extract pool.info.rawFrameSize bytes.size) failure ∧
      data.size = pool.info.surfaceSize ∧
      Surface.toFrame ⟨pool.info, data⟩ = .ok (.ofRaw pool.info.cropW.toNat pool.info.cropH.toNat
        (bytes.extract 0 pool.info.rawFrameSize)) := by
  obtain ⟨⟨info, data⟩, next, read, last, rfl, size, frame⟩ :=
    Surface.readFrame_complete feeds (show (Surface.mk pool.info _).info.Sound from sound.info)
      (Bytes.size_extract_add (offset_add_le sound.size_eq within)) enough
  refine ⟨data, next, ?_, last, size, frame⟩
  rw [readFrame, surface?_eq_some within]
  exact bind_eq_ok.2 ⟨_, read, rfl⟩

/-- A frame that is not all there uses the source up, and goes to no other surface either. -/
theorem readFrame_short (feeds : source.Feeds store written bytes failure)
    (sound : pool.Sound) (within : index < pool.size)
    (short : bytes.size < pool.info.rawFrameSize) :
    ∃ (data : Bytes) (next : Source),
      pool.readFrame index store source
        = .ok (some (.ofFailure failure), pool.withData index data, next) ∧
      next.Feeds store written #[] failure ∧ data.size = pool.info.surfaceSize := by
  obtain ⟨⟨info, data⟩, next, read, last, rfl, size⟩ :=
    Surface.readFrame_short feeds
      (show (Surface.mk pool.info _).info.Covering from sound.info.covering)
      (Bytes.size_extract_add (offset_add_le sound.size_eq within)) short
  refine ⟨data, next, ?_, last, size⟩
  rw [readFrame, surface?_eq_some within]
  exact bind_eq_ok.2 ⟨_, read, rfl⟩

end ReadFrame

/-! ## Guards -/

/-- The number of guards that the lock of a surface has counted. -/
def guards (pool : SurfacePool) (index : Nat) : Nat :=
  match pool.locks[index]? with
  | some lock => lock.guards.toNat
  | .none => 0

theorem guards_eq (within : index < pool.locks.size) :
    pool.guards index = pool.locks[index].guards.toNat := by
  rw [guards, Array.getElem?_eq_getElem within]

/-- A surface is locked while guards on it are counted. -/
theorem isLocked_iff : pool.isLocked index = true ↔ pool.guards index ≠ 0 := by
  unfold isLocked guards
  cases pool.locks[index]? with
  | none => simp
  | some lock => exact SurfaceLock.isLocked_iff

theorem not_isLocked_iff (within : index < pool.locks.size) :
    (!pool.locks[index].isLocked) = true ↔ pool.guards index = 0 := by
  rw [guards_eq within, Bool.not_eq_true', ← Bool.not_eq_true,
    SurfaceLock.isLocked_iff]
  exact Decidable.not_not

/-- The first surface without guards is found. -/
theorem findFree_eq_some_iff : pool.findFree = some index ↔
    (index < pool.size ∧ pool.guards index = 0) ∧ ∀ before < index, pool.guards before ≠ 0 := by
  rw [findFree, Array.findIdx?_eq_some_iff_getElem]
  constructor
  · rintro ⟨within, free, before⟩
    exact ⟨⟨within, (not_isLocked_iff within).1 free⟩, fun i low none_held =>
      before i low ((not_isLocked_iff (Nat.lt_trans low within)).2 none_held)⟩
  · rintro ⟨⟨within, none_held⟩, before⟩
    exact ⟨within, (not_isLocked_iff within).2 none_held, fun i low free =>
      before i low ((not_isLocked_iff (Nat.lt_trans low within)).1 free)⟩

/-- None is found if every surface has guards. -/
theorem findFree_eq_none_iff : pool.findFree = .none ↔ ∀ i < pool.size, pool.guards i ≠ 0 := by
  rw [findFree, Array.findIdx?_eq_none_iff]
  constructor
  · intro locked i within none_held
    have free := (not_isLocked_iff within).2 none_held
    rw [locked _ (Array.getElem_mem within)] at free
    cases free
  · intro held lock mem
    obtain ⟨i, within, rfl⟩ := Array.mem_iff_getElem.1 mem
    exact Bool.eq_false_iff.2 fun free => held i within ((not_isLocked_iff within).1 free)

/-- A free surface is one of the pool, and no guards on it were counted. -/
theorem findFree_eq_some (h : pool.findFree = some index) :
    index < pool.size ∧ pool.guards index = 0 :=
  (findFree_eq_some_iff.1 h).1

/-- Of two surfaces that are free the first one is found. -/
theorem findFree_of_two (free : pool.locks = #[.free, .free]) : pool.findFree = some 0 := by
  rw [findFree, free]
  decide +kernel

theorem guards_modify {place : Nat} {change : SurfaceLock → SurfaceLock} {lock : SurfaceLock}
    (found : pool.locks[index]? = some lock) :
    guards { pool with locks := pool.locks.modify place change } index
      = if place = index then (change lock).guards.toNat else lock.guards.toNat := by
  rw [guards, Array.getElem?_modify, found]
  by_cases same : place = index
  · rw [if_pos same, if_pos same]
    rfl
  · rw [if_neg same, if_neg same]

/-- A guard that is taken is counted on its surface only. -/
theorem guards_acquire (within : index < pool.size)
    (room : other = index → pool.guards index + 1 < 65536) : (pool.acquire other).guards index
      = if other = index then pool.guards index + 1 else pool.guards index := by
  obtain ⟨lock, found⟩ : ∃ lock, pool.locks[index]? = some lock :=
    ⟨_, Array.getElem?_eq_getElem within⟩
  have count : pool.guards index = lock.guards.toNat := by
    rw [guards, found]
  rw [count] at room ⊢
  rw [acquire, guards_modify found]
  split
  case isTrue same => exact SurfaceLock.toNat_acquire (room same)
  case isFalse => rfl

/-- So is one that is dropped. -/
theorem guards_release (within : index < pool.size)
    (counted : other = index → 1 ≤ pool.guards index) : (pool.release other).guards index
      = if other = index then pool.guards index - 1 else pool.guards index := by
  obtain ⟨lock, found⟩ : ∃ lock, pool.locks[index]? = some lock :=
    ⟨_, Array.getElem?_eq_getElem within⟩
  have count : pool.guards index = lock.guards.toNat := by
    rw [guards, found]
  rw [count] at counted ⊢
  rw [release, guards_modify found]
  split
  case isTrue same => exact SurfaceLock.toNat_release (counted same)
  case isFalse => rfl

theorem surface?_acquire : (pool.acquire other).surface? index = pool.surface? index := by
  rw [surface?, surface?, size_acquire]
  rfl

theorem surface?_release : (pool.release other).surface? index = pool.surface? index := by
  rw [surface?, surface?, size_release]
  rfl

end SurfacePool

namespace LockChange

variable {number index : Nat} {pool : SurfacePool} {changes : List LockChange}

/-- The surface that is concerned. -/
def surface : LockChange → SurfaceId
  | .acquired surface | .released surface => surface

/-- By how many guards a surface has more afterwards. -/
def effect (surface : SurfaceId) : LockChange → Int
  | .acquired other => if other = surface then 1 else 0
  | .released other => if other = surface then -1 else 0

/-- The number of guards on a surface after changes, if there were `before` of them. -/
def total (surface : SurfaceId) (before : Int) (changes : List LockChange) : Int :=
  changes.foldl (fun guards change => guards + change.effect surface) before

theorem info_apply (change : LockChange) : (change.apply number pool).info = pool.info := by
  cases change <;> rw [apply] <;> split <;> rfl

theorem buffer_apply (change : LockChange) : (change.apply number pool).buffer = pool.buffer := by
  cases change <;> rw [apply] <;> split <;> rfl

theorem size_apply (change : LockChange) : (change.apply number pool).size = pool.size := by
  cases change <;> rw [apply] <;> split <;> simp

/-- Guards do not change what a surface shows. -/
theorem surface?_foldl :
    (changes.foldl (apply number) pool).surface? index = pool.surface? index := by
  induction changes generalizing pool with
  | nil => rfl
  | cons change rest ih =>
    rw [List.foldl_cons, ih, SurfacePool.surface?, SurfacePool.surface?, SurfacePool.offset,
      info_apply, buffer_apply, size_apply]
    rfl

theorem size_foldl : (changes.foldl (apply number) pool).size = pool.size := by
  induction changes generalizing pool with
  | nil => rfl
  | cons change rest ih => rw [List.foldl_cons, ih, size_apply]

theorem info_foldl : (changes.foldl (apply number) pool).info = pool.info := by
  induction changes generalizing pool with
  | nil => rfl
  | cons change rest ih => rw [List.foldl_cons, ih, info_apply]

theorem buffer_foldl : (changes.foldl (apply number) pool).buffer = pool.buffer := by
  induction changes generalizing pool with
  | nil => rfl
  | cons change rest ih => rw [List.foldl_cons, ih, buffer_apply]

theorem sound_foldl (sound : pool.Sound) : (changes.foldl (apply number) pool).Sound where
  info := by
    rw [info_foldl]
    exact sound.info
  size_eq := by rw [info_foldl, buffer_foldl, size_foldl, sound.size_eq]

/-- What becomes of locks depends on nothing else in the pool. -/
theorem locks_foldl_congr {pool' : SurfacePool} (same : pool.locks = pool'.locks) :
    (changes.foldl (apply number) pool).locks = (changes.foldl (apply number) pool').locks := by
  induction changes generalizing pool pool' with
  | nil => exact same
  | cons change rest ih =>
    refine ih ?_
    cases change <;> rw [apply, apply] <;> split
    · rw [SurfacePool.acquire, SurfacePool.acquire, same]
    · exact same
    · rw [SurfacePool.release, SurfacePool.release, same]
    · exact same

/-- A guard that is taken and dropped leaves no trace. -/
theorem apply_released_acquired (surface : SurfaceId) :
    LockChange.apply number (LockChange.apply number pool (.acquired surface)) (.released surface)
      = pool := by
  obtain ⟨owner, place⟩ := surface
  rw [apply, apply]
  by_cases here : owner = number
  · rw [if_pos here, if_pos here, SurfacePool.release, SurfacePool.acquire]
    congr 1
    apply Array.ext_getElem?
    intro i
    rw [Array.getElem?_modify, Array.getElem?_modify]
    cases pool.locks[i]? with
    | none => split <;> rfl
    | some lock =>
      split
      · exact congrArg some lock.release_acquire
      · rfl
  · rw [if_neg here, if_neg here]

theorem modify_comm (locks : Array SurfaceLock) (place place' : Nat)
    {f g : SurfaceLock → SurfaceLock} (comm : ∀ lock, f (g lock) = g (f lock)) :
    (locks.modify place f).modify place' g = (locks.modify place' g).modify place f := by
  apply Array.ext_getElem?
  intro i
  simp only [Array.getElem?_modify]
  cases locks[i]? with
  | none => split <;> split <;> rfl
  | some lock => split <;> split <;> simp [comm]

/-- The order of two changes does not matter. -/
theorem apply_comm (first second : LockChange) :
    second.apply number (first.apply number pool)
      = first.apply number (second.apply number pool) := by
  have swapped : ∀ (place place' : Nat) {f g : SurfaceLock → SurfaceLock},
      (∀ lock, f (g lock) = g (f lock)) →
      { pool with locks := (pool.locks.modify place f).modify place' g }
        = { pool with locks := (pool.locks.modify place' g).modify place f } := by
    intro place place' f g comm
    rw [modify_comm pool.locks place place' comm]
  cases first <;> cases second <;> simp only [apply] <;> split <;> split <;> try rfl
  · exact swapped _ _ fun _ => rfl
  · exact swapped _ _ fun lock => by simp
  · exact swapped _ _ fun lock => by simp
  · exact swapped _ _ fun _ => rfl

/-- A change may as well come behind others. -/
theorem foldl_apply (change : LockChange) :
    changes.foldl (apply number) (change.apply number pool)
      = change.apply number (changes.foldl (apply number) pool) := by
  induction changes generalizing pool with
  | nil => rfl
  | cons other rest ih =>
    rw [List.foldl_cons, List.foldl_cons, apply_comm, ih]

/-- Guards on surfaces of other pools are not counted here. -/
theorem foldl_apply_of_ne (elsewhere : ∀ change ∈ changes, change.surface.pool ≠ number) :
    changes.foldl (apply number) pool = pool := by
  induction changes with
  | nil => rfl
  | cons change rest ih =>
    rw [List.forall_mem_cons] at elsewhere
    have unchanged : change.apply number pool = pool := by
      cases change <;> exact if_neg elsewhere.1
    rw [List.foldl_cons, unchanged, ih elsewhere.2]

/-- One change is counted right if that leaves a number that 16 bits hold. -/
theorem guards_apply {change : LockChange} (within : index < pool.size)
    (least : 0 ≤ pool.guards index + change.effect ⟨number, index⟩)
    (most : pool.guards index + change.effect ⟨number, index⟩ < 65536) :
    ((change.apply number pool).guards index : Int)
      = pool.guards index + change.effect ⟨number, index⟩ := by
  cases change with
  | acquired surface =>
    obtain ⟨owner, place⟩ := surface
    simp only [effect, SurfaceId.mk.injEq] at least most ⊢
    rw [apply]
    by_cases here : owner = number
    · rw [if_pos here]
      by_cases same : place = index
      · rw [if_pos ⟨here, same⟩] at most ⊢
        rw [SurfacePool.guards_acquire within fun _ => by omega, if_pos same]
        omega
      · rw [if_neg fun both => same both.2,
          SurfacePool.guards_acquire within fun same' => absurd same' same, if_neg same]
        omega
    · rw [if_neg here, if_neg fun both => here both.1]
      omega
  | released surface =>
    obtain ⟨owner, place⟩ := surface
    simp only [effect, SurfaceId.mk.injEq] at least most ⊢
    rw [apply]
    by_cases here : owner = number
    · rw [if_pos here]
      by_cases same : place = index
      · rw [if_pos ⟨here, same⟩] at least ⊢
        rw [SurfacePool.guards_release within fun _ => by omega, if_pos same]
        omega
      · rw [if_neg fun both => same both.2,
          SurfacePool.guards_release within fun same' => absurd same' same, if_neg same]
        omega
    · rw [if_neg here, if_neg fun both => here both.1]
      omega

/-- The lock of a surface counts its guards, as long as 16 bits hold their number. -/
theorem guards_foldl (within : index < pool.size)
    (bounded : ∀ first, first <+: changes →
      0 ≤ total ⟨number, index⟩ (pool.guards index) first ∧
        total ⟨number, index⟩ (pool.guards index) first < 65536) :
    ((changes.foldl (apply number) pool).guards index : Int)
      = total ⟨number, index⟩ (pool.guards index) changes := by
  induction changes generalizing pool with
  | nil => rfl
  | cons change rest ih =>
    have one := bounded [change] (by simp)
    have counted := guards_apply within one.1 one.2
    have rest_total : ∀ first, total ⟨number, index⟩ ((change.apply number pool).guards index) first
        = total ⟨number, index⟩ (pool.guards index) (change :: first) := by
      intro first
      rw [counted]
      rfl
    rw [List.foldl_cons, ih (by rw [size_apply]; exact within), rest_total]
    intro first before
    rw [rest_total]
    exact bounded _ (List.cons_prefix_cons.2 ⟨rfl, before⟩)

end LockChange

end Nv12Jpeg
