import Mathlib.Data.List.Infix
import Mathlib.Data.List.Nodup
import Nv12Jpeg.Proofs.Surface.Contents
import Nv12Jpeg.Proofs.Surface.Rows

/-!
# The surfaces of a pool by themselves

The surfaces of a pool share one buffer, and their guards are only counted. Still an application
cannot tell a pool from a list of surfaces that have their bytes and guards to themselves, as long
as no surface has 65536 guards at a time.

* `PoolCall` — what an application does with a pool, and `PoolReply`, what it is told;
* `GuardedPool` — a pool and the guards on its surfaces that are held;
* `SurfaceList` — surfaces with bytes and guards of their own;
* `GuardedPool.Mirrors` — a pool that has the bytes and counts the guards of such a list; every
  call keeps this and is answered alike by both: `GuardedPool.Mirrors.call`;
* `GuardedPool.run_allocate` — so is every sequence of calls, and what the pool shows afterwards is
  what the list has.
-/

namespace Nv12Jpeg

/-- What an application does with a pool. -/
inductive PoolCall where
  /-- Takes a guard on a surface. -/
  | lock (index : Nat)
  /-- Drops a guard, if it is still held. -/
  | unlock (number : Nat)
  /-- Reads a frame into a surface. -/
  | read (index : Nat) (store : FileStore) (source : Source)
  /-- Puts bytes over those of a surface. -/
  | write (index start : Nat) (payload : Bytes)

/-- The call puts bytes beyond the end of a surface. -/
def PoolCall.Overruns (info : FrameInfo) (count : Nat) : PoolCall → Prop
  | .write index start payload => index < count ∧ info.surfaceSize < start + payload.size
  | .lock _ | .unlock _ | .read _ _ _ => False

/-- What an application is told by a pool. -/
inductive PoolReply where
  /-- There is no such surface. -/
  | absent
  /-- The number of the guard that was taken. -/
  | locked (number : Nat)
  /-- Whether the guard was still held. -/
  | unlocked (held : Bool)
  /-- How reading ended, and the source behind what was read. -/
  | read (ending : FrameRead) (next : Source)
  | written

/-- Makes calls one after the other. -/
def PoolCall.run {σ : Type} (call : PoolCall → σ → Except Fault (PoolReply × σ)) :
    List PoolCall → σ → Except Fault (List PoolReply × σ)
  | [], state => .ok ([], state)
  | first :: rest, state => do
    let (reply, state) ← call first state
    let (replies, state) ← run call rest state
    return (reply :: replies, state)

namespace PoolCall

variable {σ : Type} {call : PoolCall → σ → Except Fault (PoolReply × σ)} {first : PoolCall}
  {rest : List PoolCall} {state next last : σ} {reply : PoolReply} {replies : List PoolReply}
  {fault : Fault}

theorem run_cons_ok (called : call first state = .ok (reply, next))
    (ran : run call rest next = .ok (replies, last)) :
    run call (first :: rest) state = .ok (reply :: replies, last) :=
  bind_eq_ok.2 ⟨_, called, bind_eq_ok.2 ⟨_, ran, rfl⟩⟩

theorem run_cons_stopped (stopped : call first state = .error fault) :
    run call (first :: rest) state = .error fault := by
  rw [run, stopped]
  rfl

theorem run_cons_error (called : call first state = .ok (reply, next))
    (failed : run call rest next = .error fault) :
    run call (first :: rest) state = .error fault := by
  rw [run, called]
  show (run call rest next >>= _) = _
  rw [failed]
  rfl

end PoolCall

/-- A guard that is held. -/
structure Guard where
  number : Nat
  /-- The surface that is guarded. -/
  index : Nat
  deriving DecidableEq, Repr

/-- The numbers of the guards on a surface, in the order in which they were taken. -/
def Guard.on (held : List Guard) (index : Nat) : List Nat :=
  (held.filter (·.index = index)).map number

/-- A pool and the guards on its surfaces that are held. -/
structure GuardedPool where
  pool : SurfacePool
  held : List Guard
  /-- How many guards were taken so far. -/
  taken : Nat

namespace GuardedPool

/-- A pool of surfaces of zero bytes without guards. -/
def allocate (info : FrameInfo) (count : UInt16) : GuardedPool := ⟨.allocate info count, [], 0⟩

/-- Makes a call. -/
def call : PoolCall → GuardedPool → Except Fault (PoolReply × GuardedPool)
  | .lock index, user =>
    match user.pool.surface? index with
    | none => .ok (.absent, user)
    | some _ =>
      .ok (.locked user.taken, {
        pool := user.pool.acquire index
        held := user.held ++ [⟨user.taken, index⟩]
        taken := user.taken + 1 })
  | .unlock number, user =>
    match user.held.find? (·.number = number) with
    | none => .ok (.unlocked false, user)
    | some guard =>
      .ok (.unlocked true, { user with
        pool := user.pool.release guard.index
        held := user.held.filter (·.number ≠ number) })
  | .read index store source, user => do
    let (ending, pool, next) ← user.pool.readFrame index store source
    let reply := match ending with
      | none => .absent
      | some ending => .read ending next
    return (reply, { user with pool })
  | .write index start payload, user => do
    let pool ← user.pool.overwrite index start payload
    let reply := match user.pool.surface? index with
      | none => .absent
      | some _ => .written
    return (reply, { user with pool })

/-- The surface that a call is about. -/
def concerned : PoolCall → GuardedPool → Option Nat
  | .unlock number, user => (user.held.find? (·.number = number)).map Guard.index
  | .lock index, _ | .read index _ _, _ | .write index _ _, _ => some index

end GuardedPool

/-- A surface with bytes and guards of its own. -/
structure OwnSurface where
  data : Bytes
  /-- The numbers of its guards that are held. -/
  guards : List Nat

/-- The surface without one of its guards. -/
def OwnSurface.drop (own : OwnSurface) (number : Nat) : OwnSurface :=
  { own with guards := own.guards.filter (· ≠ number) }

/-- Surfaces of one geometry, each by itself. -/
structure SurfaceList where
  info : FrameInfo
  surfaces : List OwnSurface
  /-- How many guards were taken so far. -/
  taken : Nat

namespace SurfaceList

/-- Surfaces of zero bytes without guards. -/
def allocate (info : FrameInfo) (count : UInt16) : SurfaceList :=
  ⟨info, List.replicate count.toNat ⟨.zeros info.surfaceSize, []⟩, 0⟩

/-- Puts a surface in the place of another. -/
def put (list : SurfaceList) (index : Nat) (own : OwnSurface) : SurfaceList :=
  { list with surfaces := list.surfaces.set index own }

/-- Makes a call. -/
def call : PoolCall → SurfaceList → Except Fault (PoolReply × SurfaceList)
  | .lock index, list =>
    match list.surfaces[index]? with
    | none => .ok (.absent, list)
    | some own =>
      .ok (.locked list.taken,
        { list.put index { own with guards := own.guards ++ [list.taken] } with
          taken := list.taken + 1 })
  | .unlock number, list =>
    .ok (.unlocked (list.surfaces.any (number ∈ ·.guards)),
      { list with surfaces := list.surfaces.map (·.drop number) })
  | .read index store source, list =>
    match list.surfaces[index]? with
    | none => .ok (.absent, list)
    | some own => do
      let (ending, filled, next) ← Surface.readFrame ⟨list.info, own.data⟩ store source
      return (.read ending next, list.put index { own with data := filled.data })
  | .write index start payload, list =>
    match list.surfaces[index]? with
    | none => .ok (.absent, list)
    | some own => do
      let data ← Bytes.overwrite own.data start payload
      return (.written, list.put index { own with data })

/-- No surface has more guards than a lock can count. -/
def Countable (list : SurfaceList) : Prop := ∀ own ∈ list.surfaces, own.guards.length < 65536

end SurfaceList

/-! ## Other surfaces -/

namespace SurfacePool

variable {pool : SurfacePool} {index other : Nat}

/-- Reading a frame into a surface leaves the others as they are. -/
theorem readFrame_others (apart : pool.info.RowsApart)
    (size_eq : pool.buffer.size = pool.info.surfaceSize * pool.size) {store : FileStore}
    {source rest : Source} {ending : Option FrameRead} {next : SurfacePool}
    (read : pool.readFrame other store source = .ok (ending, next, rest))
    (differs : index ≠ other) :
    next.surface? index = pool.surface? index ∧ next.locks[index]? = pool.locks[index]? := by
  unfold readFrame at read
  split at read
  case h_1 =>
    cases read
    exact ⟨rfl, rfl⟩
  case h_2 surface shown =>
    obtain ⟨ending, ⟨info, data⟩, last, filled, _, size⟩ := Surface.readFrame_ok
      (info_of_surface?_eq_some shown ▸ apart)
      ((size_of_surface?_eq_some size_eq shown).trans
        (congrArg FrameInfo.surfaceSize (info_of_surface?_eq_some shown).symm)) store source
    rw [info_of_surface?_eq_some shown] at size
    rw [filled] at read
    cases read
    exact ⟨surface?_withData_of_ne differs size, rfl⟩

/-- So does putting bytes over those of a surface. -/
theorem overwrite_others (size_eq : pool.buffer.size = pool.info.surfaceSize * pool.size)
    {start : Nat} {payload : Bytes} {next : SurfacePool}
    (written : pool.overwrite other start payload = .ok next) (differs : index ≠ other) :
    next.surface? index = pool.surface? index ∧ next.locks[index]? = pool.locks[index]? := by
  unfold overwrite at written
  split at written
  case h_1 =>
    cases written
    exact ⟨rfl, rfl⟩
  case h_2 surface shown =>
    obtain ⟨data, put, done⟩ := bind_eq_ok.1 written
    unfold Bytes.overwrite at put
    split at put <;> cases put
    cases done
    exact ⟨surface?_withData_of_ne differs
      ((Bytes.size_write _ _ _).trans (size_of_surface?_eq_some size_eq shown)), rfl⟩

end SurfacePool

/-! ## Guards -/

namespace Guard

variable {held : List Guard} {guard : Guard} {index number : Nat}

theorem on_append (held : List Guard) (guard : Guard) (index : Nat) :
    on (held ++ [guard]) index
      = if guard.index = index then on held index ++ [guard.number] else on held index := by
  by_cases here : guard.index = index <;> simp [on, here]

/-- A guard that is taken gets a number of its own. -/
theorem nodup_taken (nodup : (held.map Guard.number).Nodup) {taken : Nat}
    (fresh : ∀ guard ∈ held, guard.number < taken) (index : Nat) :
    ((held ++ [Guard.mk taken index]).map Guard.number).Nodup := by
  have unused : taken ∉ held.map Guard.number := by
    intro mem
    obtain ⟨guard, guard_mem, same⟩ := List.mem_map.1 mem
    exact Nat.ne_of_lt (fresh guard guard_mem) same
  rw [List.map_append]
  exact List.nodup_append.2 ⟨nodup, List.nodup_singleton _, by simpa using unused⟩

theorem fresh_taken {taken : Nat} (fresh : ∀ guard ∈ held, guard.number < taken) (index : Nat) :
    ∀ guard ∈ held ++ [Guard.mk taken index], guard.number < taken + 1 := by
  intro guard mem
  obtain mem | mem := List.mem_append.1 mem
  · exact Nat.lt_succ_of_lt (fresh guard mem)
  · obtain rfl := List.mem_singleton.1 mem
    exact Nat.lt_succ_self _

theorem on_filter (held : List Guard) (number index : Nat) :
    on (held.filter (·.number ≠ number)) index = (on held index).filter (· ≠ number) := by
  rw [on, on, List.filter_map, List.filter_filter, List.filter_filter]
  congr 2
  funext guard
  exact Bool.and_comm _ _

theorem mem_on : number ∈ on held index ↔ ⟨number, index⟩ ∈ held := by
  constructor
  · intro mem
    obtain ⟨guard, kept, rfl⟩ := List.mem_map.1 mem
    obtain ⟨guard_mem, here⟩ := List.mem_filter.1 kept
    obtain rfl := of_decide_eq_true here
    exact guard_mem
  · exact fun mem => List.mem_map.2 ⟨_, List.mem_filter.2 ⟨mem, decide_eq_true rfl⟩, rfl⟩

theorem nodup_on (nodup : (held.map Guard.number).Nodup) (index : Nat) : (on held index).Nodup :=
  (List.filter_sublist.map Guard.number).nodup nodup

/-- A guard is on one surface. -/
theorem mem_on_iff (nodup : (held.map Guard.number).Nodup) (mem : guard ∈ held) :
    guard.number ∈ on held index ↔ guard.index = index := by
  constructor
  · intro guarded
    exact congrArg Guard.index (List.inj_on_of_nodup_map nodup mem (mem_on.1 guarded) rfl)
  · rintro rfl
    exact mem_on.2 mem

end Guard

/-- One of the numbers is taken out. -/
theorem length_filter_ne {numbers : List Nat} {number : Nat} (nodup : numbers.Nodup) :
    (numbers.filter (· ≠ number)).length
      = if number ∈ numbers then numbers.length - 1 else numbers.length := by
  have erased := List.length_erase (a := number) (l := numbers)
  rw [nodup.erase_eq_filter] at erased
  simpa [bne, Bool.beq_eq_decide_eq] using erased

/-- Dropping a guard that no surface has changes nothing. -/
theorem OwnSurface.map_drop_eq_self {surfaces : List OwnSurface} {number : Nat}
    (gone : surfaces.any (number ∈ ·.guards) = false) :
    surfaces.map (·.drop number) = surfaces := by
  refine (List.map_congr_left fun own mem => ?_).trans (List.map_id surfaces)
  have absent : number ∉ own.guards := fun guarded =>
    List.any_eq_false.1 gone own mem (decide_eq_true guarded)
  have kept : own.guards.filter (· ≠ number) = own.guards :=
    List.filter_eq_self.2 fun other guarded => decide_eq_true fun same => absent (same ▸ guarded)
  rw [drop, kept]
  rfl

/-! ## Pools and lists of surfaces -/

namespace GuardedPool

/-- A surface of the pool has these bytes, and its lock counts these guards. -/
structure Has (user : GuardedPool) (index : Nat) (own : OwnSurface) : Prop where
  surface_eq : user.pool.surface? index = some ⟨user.pool.info, own.data⟩
  guards_eq : own.guards = Guard.on user.held index
  count_eq : user.pool.guards index = own.guards.length

/-- A pool that has the bytes and counts the guards of a list of surfaces. -/
structure Mirrors (user : GuardedPool) (list : SurfaceList) : Prop where
  info_eq : user.pool.info = list.info
  size_eq : user.pool.buffer.size = user.pool.info.surfaceSize * user.pool.size
  length_eq : list.surfaces.length = user.pool.size
  taken_eq : user.taken = list.taken
  has : ∀ i own, list.surfaces[i]? = some own → user.Has i own
  nodup : (user.held.map Guard.number).Nodup
  fresh : ∀ guard ∈ user.held, guard.number < user.taken
  inside : ∀ guard ∈ user.held, guard.index < user.pool.size

variable {user : GuardedPool} {list : SurfaceList} {index : Nat} {own : OwnSurface}

namespace Mirrors

theorem surface?_eq (h : user.Mirrors list) (index : Nat) :
    user.pool.surface? index = list.surfaces[index]?.map (⟨list.info, ·.data⟩) := by
  cases found : list.surfaces[index]? with
  | none =>
    have outside := List.getElem?_eq_none_iff.1 found
    exact if_neg (Nat.not_lt_of_le (h.length_eq ▸ outside))
  | some own =>
    rw [(h.has index own found).surface_eq, h.info_eq]
    rfl

theorem lt_size (h : user.Mirrors list) (found : list.surfaces[index]? = some own) :
    index < user.pool.size :=
  h.length_eq ▸ (List.getElem?_eq_some_iff.1 found).1

theorem size_data (h : user.Mirrors list) (found : list.surfaces[index]? = some own) :
    own.data.size = user.pool.info.surfaceSize :=
  SurfacePool.size_of_surface?_eq_some h.size_eq (h.has index own found).surface_eq

/-- A list of which one surface was replaced. -/
theorem has_set {next : GuardedPool} {replaced : OwnSurface}
    (within : index < list.surfaces.length) (here : next.Has index replaced)
    (others : ∀ i other, index ≠ i → list.surfaces[i]? = some other → next.Has i other) :
    ∀ i other, (list.surfaces.set index replaced)[i]? = some other → next.Has i other := by
  intro i other found
  rw [List.getElem?_set] at found
  by_cases same : index = i
  · subst same
    rw [if_pos rfl, if_pos within] at found
    cases found
    exact here
  · exact others i other same (by rwa [if_neg same] at found)

/-- New bytes in a surface. -/
theorem withData (h : user.Mirrors list) (found : list.surfaces[index]? = some own) {data : Bytes}
    (size : data.size = user.pool.info.surfaceSize) :
    Mirrors { user with pool := user.pool.withData index data }
      (list.put index { own with data }) where
  info_eq := h.info_eq
  size_eq := (Bytes.size_write _ _ _).trans h.size_eq
  length_eq := (List.length_set ..).trans h.length_eq
  taken_eq := h.taken_eq
  has := by
    have has := h.has index own found
    refine has_set (List.getElem?_eq_some_iff.1 found).1 ?_ fun i other differs found' => ?_
    · exact ⟨SurfacePool.surface?_withData_self h.size_eq (h.lt_size found) size, has.guards_eq,
        has.count_eq⟩
    · have has := h.has i other found'
      exact ⟨(SurfacePool.surface?_withData_of_ne differs.symm size).trans has.surface_eq,
        has.guards_eq, has.count_eq⟩
  nodup := h.nodup
  fresh := h.fresh
  inside := h.inside

/-- One more guard on a surface. -/
theorem locked (h : user.Mirrors list) (found : list.surfaces[index]? = some own)
    (room : own.guards.length + 1 < 65536) :
    Mirrors ⟨user.pool.acquire index, user.held ++ [⟨user.taken, index⟩], user.taken + 1⟩
      { list.put index { own with guards := own.guards ++ [list.taken] } with
        taken := list.taken + 1 } where
  info_eq := h.info_eq
  size_eq := h.size_eq.trans (congrArg _ (SurfacePool.size_acquire user.pool index).symm)
  length_eq := (List.length_set ..).trans
    (h.length_eq.trans (SurfacePool.size_acquire user.pool index).symm)
  taken_eq := congrArg Nat.succ h.taken_eq
  has := by
    have has := h.has index own found
    refine has_set (List.getElem?_eq_some_iff.1 found).1 ?_ fun i other differs found' => ?_
    · refine ⟨SurfacePool.surface?_acquire.trans has.surface_eq, ?_, ?_⟩
      · rw [Guard.on_append, if_pos rfl, has.guards_eq, h.taken_eq]
      · -- The lock does not return to zero here: there is room for one more guard.
        rw [SurfacePool.guards_acquire (h.lt_size found) fun _ => has.count_eq ▸ room, if_pos rfl,
          has.count_eq, List.length_append, List.length_singleton]
    · have has := h.has i other found'
      refine ⟨SurfacePool.surface?_acquire.trans has.surface_eq, ?_, ?_⟩
      · rw [Guard.on_append, if_neg differs, has.guards_eq]
      · rw [SurfacePool.guards_acquire (h.lt_size found') fun same => absurd same differs,
          if_neg differs, has.count_eq]
  nodup := Guard.nodup_taken h.nodup h.fresh index
  fresh := Guard.fresh_taken h.fresh index
  inside := by
    intro guard mem
    rw [SurfacePool.size_acquire]
    obtain mem | mem := List.mem_append.1 mem
    · exact h.inside guard mem
    · obtain rfl := List.mem_singleton.1 mem
      exact h.lt_size found

/-- One guard less. -/
theorem unlocked (h : user.Mirrors list) {guard : Guard} (mem : guard ∈ user.held) :
    Mirrors { user with
        pool := user.pool.release guard.index
        held := user.held.filter (·.number ≠ guard.number) }
      { list with surfaces := list.surfaces.map (·.drop guard.number) } where
  info_eq := h.info_eq
  size_eq := h.size_eq.trans (congrArg _ (SurfacePool.size_release user.pool guard.index).symm)
  length_eq := (List.length_map ..).trans
    (h.length_eq.trans (SurfacePool.size_release user.pool guard.index).symm)
  taken_eq := h.taken_eq
  has := by
    intro i other dropped
    rw [List.getElem?_map] at dropped
    obtain ⟨own, found, rfl⟩ := Option.map_eq_some_iff.1 dropped
    have has := h.has i own found
    have nodup : own.guards.Nodup := has.guards_eq ▸ Guard.nodup_on h.nodup i
    -- The guard is on one surface, so the list takes it out where the pool counts one less.
    have guarded : guard.number ∈ own.guards ↔ guard.index = i := by
      rw [has.guards_eq]
      exact Guard.mem_on_iff h.nodup mem
    have counted : guard.index = i → 1 ≤ user.pool.guards i := fun here =>
      has.count_eq ▸ List.length_pos_of_mem (guarded.2 here)
    refine ⟨SurfacePool.surface?_release.trans has.surface_eq, ?_, ?_⟩
    · rw [OwnSurface.drop, Guard.on_filter, has.guards_eq]
    · rw [SurfacePool.guards_release (h.lt_size found) counted, has.count_eq, OwnSurface.drop,
        length_filter_ne nodup]
      simp only [guarded]
  nodup := (List.filter_sublist.map Guard.number).nodup h.nodup
  fresh := fun other kept => h.fresh other (List.mem_filter.1 kept).1
  inside := by
    intro other kept
    rw [SurfacePool.size_release]
    exact h.inside other (List.mem_filter.1 kept).1

/-- The guards of the list are those that are held. -/
theorem any_eq_true (h : user.Mirrors list) (number : Nat) :
    list.surfaces.any (number ∈ ·.guards) = true ↔ ∃ guard ∈ user.held, guard.number = number := by
  rw [List.any_eq_true]
  constructor
  · rintro ⟨own, mem, guarded⟩
    obtain ⟨i, found⟩ := List.mem_iff_getElem?.1 mem
    have on := of_decide_eq_true guarded
    rw [(h.has i own found).guards_eq] at on
    exact ⟨_, Guard.mem_on.1 on, rfl⟩
  · rintro ⟨guard, mem, rfl⟩
    have within : guard.index < list.surfaces.length := h.length_eq ▸ h.inside guard mem
    have found := List.getElem?_eq_getElem within
    refine ⟨_, List.getElem_mem within, decide_eq_true ?_⟩
    rw [(h.has _ _ found).guards_eq]
    exact Guard.mem_on.2 mem

/-! ### Calls -/

/-- The pool and the list give the same answer to a call, and the pool mirrors the list then. -/
def Agrees (user : GuardedPool) (list : SurfaceList) (call : PoolCall) : Prop :=
  ∃ reply user' list', user.call call = .ok (reply, user') ∧ list.call call = .ok (reply, list') ∧
    user'.Mirrors list' ∧ list'.info = list.info ∧ list'.surfaces.length = list.surfaces.length

theorem lock (h : user.Mirrors list) (index : Nat)
    (countable : ∀ reply next, list.call (.lock index) = .ok (reply, next) → next.Countable) :
    Agrees user list (.lock index) := by
  have shown := h.surface?_eq index
  cases found : list.surfaces[index]? with
  | none =>
    rw [found] at shown
    exact ⟨.absent, user, list, by simp [GuardedPool.call, shown],
      by simp [SurfaceList.call, found], h, rfl, rfl⟩
  | some own =>
    rw [found] at shown
    have taken : list.call (.lock index) = .ok (.locked list.taken,
        { list.put index { own with guards := own.guards ++ [list.taken] } with
          taken := list.taken + 1 }) := by
      simp only [SurfaceList.call, found]
    have within := (List.getElem?_eq_some_iff.1 found).1
    have room := countable _ _ taken _ (List.mem_set within _)
    rw [List.length_append, List.length_singleton] at room
    exact ⟨.locked user.taken, _, _, by simp [GuardedPool.call, shown], h.taken_eq ▸ taken,
      h.locked found room, rfl, List.length_set ..⟩

theorem unlock (h : user.Mirrors list) (number : Nat) : Agrees user list (.unlock number) := by
  have known := h.any_eq_true number
  cases found : user.held.find? (·.number = number) with
  | none =>
    have gone : list.surfaces.any (number ∈ ·.guards) = false := by
      refine Bool.eq_false_iff.2 fun guarded => ?_
      obtain ⟨guard, mem, same⟩ := known.1 guarded
      exact List.find?_eq_none.1 found guard mem (decide_eq_true same)
    refine ⟨.unlocked false, user, list, by simp only [GuardedPool.call, found], ?_, h, rfl, rfl⟩
    simp only [SurfaceList.call, gone, OwnSurface.map_drop_eq_self gone]
  | some guard =>
    have mem := List.mem_of_find?_eq_some found
    have same := List.find?_some found
    obtain rfl : guard.number = number := of_decide_eq_true same
    have held : list.surfaces.any (guard.number ∈ ·.guards) = true := known.2 ⟨guard, mem, rfl⟩
    exact ⟨.unlocked true, _, _, by simp only [GuardedPool.call, found],
      by simp only [SurfaceList.call, held], h.unlocked mem, rfl, List.length_map ..⟩

theorem read (h : user.Mirrors list) (covering : list.info.Covering) (index : Nat)
    (store : FileStore) (source : Source) : Agrees user list (.read index store source) := by
  have shown := h.surface?_eq index
  cases found : list.surfaces[index]? with
  | none =>
    rw [found] at shown
    exact ⟨.absent, user, list, by simp [GuardedPool.call, SurfacePool.readFrame, shown],
      by simp [SurfaceList.call, found], h, rfl, rfl⟩
  | some own =>
    rw [found] at shown
    obtain ⟨ending, filled, next, read, _, size⟩ := Surface.readFrame_ok
      (show (Surface.mk list.info own.data).info.RowsApart from covering.rowsApart)
      (h.info_eq ▸ h.size_data found) store source
    have user_read : user.pool.readFrame index store source
        = .ok (some ending, user.pool.withData index filled.data, next) := by
      rw [SurfacePool.readFrame, shown]
      exact bind_eq_ok.2 ⟨_, read, rfl⟩
    refine ⟨.read ending next, _, _, bind_eq_ok.2 ⟨_, user_read, rfl⟩, ?_,
      h.withData found (h.info_eq ▸ size), rfl, List.length_set ..⟩
    simp only [SurfaceList.call, found]
    exact bind_eq_ok.2 ⟨_, read, rfl⟩

theorem write (h : user.Mirrors list) {index start : Nat} {payload : Bytes}
    (fits : ¬ (PoolCall.write index start payload).Overruns list.info list.surfaces.length) :
    Agrees user list (.write index start payload) := by
  have shown := h.surface?_eq index
  cases found : list.surfaces[index]? with
  | none =>
    rw [found] at shown
    exact ⟨.absent, user, list, by simp [GuardedPool.call, SurfacePool.overwrite, shown],
      by simp [SurfaceList.call, found], h, rfl, rfl⟩
  | some own =>
    rw [found] at shown
    have size := h.size_data found
    have within := (List.getElem?_eq_some_iff.1 found).1
    have room : start + payload.size ≤ own.data.size := by
      rw [size, h.info_eq]
      exact Nat.le_of_not_lt fun long => fits ⟨within, long⟩
    have written : Bytes.overwrite own.data start payload = .ok (own.data.write start payload) :=
      if_pos room
    have user_written : user.pool.overwrite index start payload
        = .ok (user.pool.withData index (own.data.write start payload)) := by
      rw [SurfacePool.overwrite, shown]
      exact bind_eq_ok.2 ⟨_, written, rfl⟩
    refine ⟨.written, _, _, bind_eq_ok.2 ⟨_, user_written, by rw [shown]; rfl⟩, ?_,
      h.withData found ((Bytes.size_write _ _ _).trans size), rfl, List.length_set ..⟩
    simp only [SurfaceList.call, found]
    exact bind_eq_ok.2 ⟨_, written, rfl⟩

/-- Bytes beyond the end of a surface are put there by neither. -/
theorem write_beyond (h : user.Mirrors list) {index start : Nat} {payload : Bytes}
    (beyond : (PoolCall.write index start payload).Overruns list.info list.surfaces.length) :
    user.call (.write index start payload) = .error .outOfRange ∧
      list.call (.write index start payload) = .error .outOfRange := by
  obtain ⟨within, long⟩ := beyond
  have found := List.getElem?_eq_getElem within
  have shown := h.surface?_eq index
  rw [found] at shown
  have failed : Bytes.overwrite list.surfaces[index].data start payload = .error .outOfRange := by
    refine if_neg (Nat.not_le_of_lt ?_)
    rw [h.size_data found, h.info_eq]
    exact long
  constructor
  · simp only [GuardedPool.call, SurfacePool.overwrite, shown, Option.map_some, failed]
    rfl
  · simp only [SurfaceList.call, found, failed]
    rfl

/-- A call is answered alike by the pool and by the list, and the pool mirrors the list afterwards.
Only a call that puts bytes beyond the end of a surface is not answered, by both. -/
theorem call (h : user.Mirrors list) (covering : list.info.Covering) (call : PoolCall)
    (countable : ∀ reply next, list.call call = .ok (reply, next) → next.Countable) :
    (call.Overruns list.info list.surfaces.length ∧ user.call call = .error .outOfRange ∧
      list.call call = .error .outOfRange) ∨
    (¬ call.Overruns list.info list.surfaces.length ∧ Agrees user list call) := by
  cases call with
  | lock index => exact .inr ⟨id, h.lock index countable⟩
  | unlock number => exact .inr ⟨id, h.unlock number⟩
  | read index store source => exact .inr ⟨id, h.read covering index store source⟩
  | write index start payload =>
    by_cases beyond : (PoolCall.write index start payload).Overruns list.info list.surfaces.length
    · exact .inl ⟨beyond, h.write_beyond beyond⟩
    · exact .inr ⟨beyond, h.write beyond⟩

/-- So is every sequence of calls. -/
theorem run (h : user.Mirrors list) (covering : list.info.Covering) (calls : List PoolCall)
    (countable : ∀ first, first <+: calls → ∀ replies next,
      PoolCall.run SurfaceList.call first list = .ok (replies, next) → next.Countable) :
    ((∃ call ∈ calls, call.Overruns list.info list.surfaces.length) ∧
      PoolCall.run GuardedPool.call calls user = .error .outOfRange ∧
      PoolCall.run SurfaceList.call calls list = .error .outOfRange) ∨
    ((∀ call ∈ calls, ¬ call.Overruns list.info list.surfaces.length) ∧
      ∃ replies user' list', PoolCall.run GuardedPool.call calls user = .ok (replies, user') ∧
        PoolCall.run SurfaceList.call calls list = .ok (replies, list') ∧
        user'.Mirrors list' ∧ list'.info = list.info ∧
        list'.surfaces.length = list.surfaces.length) := by
  -- Behind the first call the pool mirrors the list again, so the other calls are answered alike.
  induction calls generalizing user list with
  | nil => exact .inr ⟨nofun, [], user, list, rfl, rfl, h, rfl, rfl⟩
  | cons first rest ih =>
    have one : ∀ reply next, list.call first = .ok (reply, next) → next.Countable :=
      fun reply next called =>
        countable [first] (by simp) [reply] next (PoolCall.run_cons_ok called rfl)
    obtain ⟨beyond, user_failed, list_failed⟩ | ⟨fits, reply, user', list', user_called,
      list_called, mirrors, info_eq, length_eq⟩ := h.call covering first one
    · exact .inl ⟨⟨first, List.mem_cons_self, beyond⟩, PoolCall.run_cons_stopped user_failed,
        PoolCall.run_cons_stopped list_failed⟩
    · have later : ∀ more, more <+: rest → ∀ replies next,
          PoolCall.run SurfaceList.call more list' = .ok (replies, next) → next.Countable :=
        fun more before replies next ran =>
          countable (first :: more) (List.cons_prefix_cons.2 ⟨rfl, before⟩) (reply :: replies) next
            (PoolCall.run_cons_ok list_called ran)
      have onward := ih mirrors (info_eq ▸ covering) later
      rw [info_eq, length_eq] at onward
      obtain ⟨⟨call, mem, beyond⟩, user_failed, list_failed⟩ | ⟨all_fit, replies, last, left,
        user_ran, list_ran, mirrors, same_info, same_length⟩ := onward
      · exact .inl ⟨⟨call, List.mem_cons_of_mem _ mem, beyond⟩,
          PoolCall.run_cons_error user_called user_failed,
          PoolCall.run_cons_error list_called list_failed⟩
      · exact .inr ⟨List.forall_mem_cons.2 ⟨fits, all_fit⟩, reply :: replies, last, left,
          PoolCall.run_cons_ok user_called user_ran, PoolCall.run_cons_ok list_called list_ran,
          mirrors, same_info, same_length⟩

/-- Guards are counted on the surfaces that have guards. -/
theorem guarded_iff (h : user.Mirrors list) (index : Nat) : user.pool.guards index ≠ 0 ↔
    ∃ own, list.surfaces[index]? = some own ∧ own.guards ≠ [] := by
  cases found : list.surfaces[index]? with
  | none =>
    have outside : user.pool.size ≤ index := h.length_eq ▸ List.getElem?_eq_none_iff.1 found
    have no_lock : user.pool.locks[index]? = none := Array.getElem?_eq_none outside
    simp [SurfacePool.guards, no_lock]
  | some own =>
    rw [(h.has index own found).count_eq]
    simp

/-- None are counted on the surfaces that have none. -/
theorem unguarded_iff (h : user.Mirrors list) (index : Nat) :
    index < user.pool.size ∧ user.pool.guards index = 0 ↔
      ∃ own, list.surfaces[index]? = some own ∧ own.guards = [] := by
  cases found : list.surfaces[index]? with
  | none =>
    have outside : ¬ index < user.pool.size :=
      Nat.not_lt_of_le (h.length_eq ▸ List.getElem?_eq_none_iff.1 found)
    simp [outside]
  | some own =>
    rw [(h.has index own found).count_eq]
    simp [h.lt_size found]

end Mirrors

/-! ## What a pool shows -/

/-- What can be seen of a pool is what a list of surfaces has, and no call changes what can be seen
of another surface than the one it is about. -/
structure Shows (user : GuardedPool) (list : SurfaceList) : Prop where
  size_eq : user.pool.size = list.surfaces.length
  surface?_eq : ∀ i, user.pool.surface? i = list.surfaces[i]?.map (⟨list.info, ·.data⟩)
  surface?_eq_none : ∀ i, user.pool.surface? i = none ↔ user.pool.size ≤ i
  size_data : ∀ own ∈ list.surfaces, own.data.size = list.info.surfaceSize
  inside : ∀ i < user.pool.size,
    user.pool.offset i + list.info.surfaceSize ≤ user.pool.buffer.size
  /-- Locks count the guards that are held. -/
  guards_eq : ∀ i own, list.surfaces[i]? = some own → user.pool.guards i = own.guards.length
  isLocked_iff : ∀ i, user.pool.isLocked i = true ↔
    ∃ own, list.surfaces[i]? = some own ∧ own.guards ≠ []
  findFree_eq_some : ∀ i, user.pool.findFree = some i ↔
    (∃ own, list.surfaces[i]? = some own ∧ own.guards = []) ∧
      ∀ j < i, ∃ own, list.surfaces[j]? = some own ∧ own.guards ≠ []
  findFree_eq_none : user.pool.findFree = none ↔ ∀ own ∈ list.surfaces, own.guards ≠ []
  elsewhere : ∀ call reply next, user.call call = .ok (reply, next) →
    ∀ i, user.concerned call ≠ some i →
      next.pool.surface? i = user.pool.surface? i ∧ next.pool.locks[i]? = user.pool.locks[i]?

/-- A call leaves the surfaces alone that it is not about. -/
theorem call_elsewhere (covering : user.pool.info.Covering)
    (size_eq : user.pool.buffer.size = user.pool.info.surfaceSize * user.pool.size)
    {call : PoolCall} {reply : PoolReply} {next : GuardedPool}
    (called : user.call call = .ok (reply, next)) (other : user.concerned call ≠ some index) :
    next.pool.surface? index = user.pool.surface? index ∧
      next.pool.locks[index]? = user.pool.locks[index]? := by
  cases call with
  | lock place =>
    have differs : place ≠ index := fun same => other (congrArg some same)
    rw [GuardedPool.call] at called
    split at called <;> cases called
    · exact ⟨rfl, rfl⟩
    · exact ⟨SurfacePool.surface?_acquire, (Array.getElem?_modify ..).trans (if_neg differs)⟩
  | unlock number =>
    rw [concerned] at other
    rw [GuardedPool.call] at called
    cases found : user.held.find? (·.number = number) with
    | none =>
      rw [found] at called
      cases called
      exact ⟨rfl, rfl⟩
    | some guard =>
      rw [found] at called other
      cases called
      have differs : guard.index ≠ index := fun same => other (congrArg some same)
      exact ⟨SurfacePool.surface?_release, (Array.getElem?_modify ..).trans (if_neg differs)⟩
  | read place store source =>
    have differs : index ≠ place := fun same => other (congrArg some same.symm)
    obtain ⟨⟨ending, pool, rest⟩, read, done⟩ := bind_eq_ok.1 called
    cases done
    exact SurfacePool.readFrame_others covering.rowsApart size_eq read differs
  | write place start payload =>
    have differs : index ≠ place := fun same => other (congrArg some same.symm)
    obtain ⟨pool, written, done⟩ := bind_eq_ok.1 called
    cases done
    exact SurfacePool.overwrite_others size_eq written differs

/-- A pool that mirrors a list shows it. -/
theorem Mirrors.shows (h : user.Mirrors list) (covering : list.info.Covering) :
    user.Shows list where
  size_eq := h.length_eq.symm
  surface?_eq := h.surface?_eq
  surface?_eq_none := by
    intro i
    rw [h.surface?_eq, Option.map_eq_none_iff, List.getElem?_eq_none_iff, h.length_eq]
  size_data := by
    intro own mem
    obtain ⟨i, found⟩ := List.mem_iff_getElem?.1 mem
    exact h.info_eq ▸ h.size_data found
  inside := fun i within => h.info_eq ▸ SurfacePool.offset_add_le h.size_eq within
  guards_eq := fun i own found => (h.has i own found).count_eq
  isLocked_iff := fun i => SurfacePool.isLocked_iff.trans (h.guarded_iff i)
  findFree_eq_some := fun i => SurfacePool.findFree_eq_some_iff.trans
    (and_congr (h.unguarded_iff i)
      (forall_congr' fun j => imp_congr_right fun _ => h.guarded_iff j))
  findFree_eq_none := by
    rw [SurfacePool.findFree_eq_none_iff]
    constructor
    · intro counted own mem
      obtain ⟨i, found⟩ := List.mem_iff_getElem?.1 mem
      intro none_held
      exact counted i (h.lt_size found) ((h.unguarded_iff i).2 ⟨own, found, none_held⟩).2
    · intro held i within none_counted
      obtain ⟨own, found, none_held⟩ := (h.unguarded_iff i).1 ⟨within, none_counted⟩
      exact held own (List.mem_of_getElem? found) none_held
  elsewhere := fun call reply next called i other =>
    call_elsewhere (h.info_eq ▸ covering) h.size_eq called other

/-- A new pool has surfaces of zero bytes without guards. -/
theorem mirrors_allocate (info : FrameInfo) (count : UInt16) :
    (allocate info count).Mirrors (.allocate info count) := by
  have size_eq := SurfacePool.size_buffer_allocate info count
  have pool_size : (SurfacePool.allocate info count).size = count.toNat := Array.size_replicate
  refine ⟨rfl, size_eq, (List.length_replicate ..).trans pool_size.symm, rfl, fun i own found => ?_,
    List.nodup_nil, nofun, nofun⟩
  obtain ⟨within, rfl⟩ : i < count.toNat ∧ ⟨.zeros info.surfaceSize, []⟩ = own := by
    simpa [SurfaceList.allocate, List.getElem?_replicate] using found
  have room := SurfacePool.offset_add_le size_eq (pool_size.symm ▸ within)
  refine ⟨?_, rfl, ?_⟩
  · rw [allocate, SurfacePool.surface?_eq_some (pool_size.symm ▸ within)]
    rw [size_eq, pool_size] at room
    exact congrArg some (congrArg (Surface.mk info) (Bytes.extract_zeros room))
  · simp [allocate, SurfacePool.guards, SurfacePool.allocate, SurfaceLock.free, within]

/-- A pool of surfaces behaves as a list of surfaces that have bytes and guards of their own: it
answers every sequence of calls as the list does, and shows what the list has, as long as no surface
has 65536 guards at a time. The only call that neither answers is one that puts bytes beyond the
end of a surface. -/
theorem run_allocate {info : FrameInfo} (wide : covers info.width info.cropW = true)
    (high : covers info.height info.cropH = true) (count : UInt16) (calls : List PoolCall)
    (countable : ∀ first, first <+: calls → ∀ replies list,
      PoolCall.run SurfaceList.call first (.allocate info count) = .ok (replies, list) →
        ∀ own ∈ list.surfaces, own.guards.length < 65536) :
    ((∃ call ∈ calls, call.Overruns info count.toNat) ∧
      PoolCall.run GuardedPool.call calls (.allocate info count) = .error .outOfRange ∧
      PoolCall.run SurfaceList.call calls (.allocate info count) = .error .outOfRange) ∨
    ((∀ call ∈ calls, ¬ call.Overruns info count.toNat) ∧ ∃ replies user list,
      PoolCall.run GuardedPool.call calls (.allocate info count) = .ok (replies, user) ∧
      PoolCall.run SurfaceList.call calls (.allocate info count) = .ok (replies, list) ∧
      list.info = info ∧ list.surfaces.length = count.toNat ∧ user.Shows list) := by
  have covering := FrameInfo.covering_of_covers wide high
  have length_eq : (SurfaceList.allocate info count).surfaces.length = count.toNat :=
    List.length_replicate ..
  have ran := (mirrors_allocate info count).run covering calls countable
  rw [length_eq] at ran
  obtain beyond | ⟨fit, replies, user, list, user_ran, list_ran, mirrors, info_eq, length⟩ := ran
  · exact .inl beyond
  · exact .inr ⟨fit, replies, user, list, user_ran, list_ran, info_eq, length,
      mirrors.shows (info_eq ▸ covering)⟩

/-- Two guards on the first surface, of which the older one is dropped, one on the second, which is
dropped after a frame was read, and bytes at the end of the first surface. -/
private def crossed : List PoolCall :=
  [.lock 0, .lock 0, .lock 1, .unlock 0,
    .read 1 .empty (.ofBytes (Array.ofFn fun i : Fin 17 => UInt8.ofNat (i.val + 1))),
    .write 0 382 #[7, 8], .unlock 2, .unlock 0, .lock 2]

/-- Two surfaces of 16 by 16 pixels for pictures of 3 by 3. -/
theorem run_allocate_of_two :
    ∃ replies user,
      PoolCall.run GuardedPool.call crossed (.allocate (.nv12 3 3 30) 2) = .ok (replies, user) ∧
      user.pool.isLocked 0 = true ∧ user.pool.isLocked 1 = false ∧
      user.pool.findFree = some 1 ∧ user.pool.surface? 2 = none ∧
      (user.pool.surface? 0).map (·.data[383]?) = some (some 8) ∧
      (user.pool.surface? 1).map (·.data[256 + 16 + 3]?) = some (some 17) := by
  have few : (crossed.inits.all fun first =>
      match PoolCall.run SurfaceList.call first (.allocate (.nv12 3 3 30) 2) with
      | .ok (_, list) => list.surfaces.all (·.guards.length < 65536)
      | .error _ => true) = true := by
    decide +kernel
  have countable : ∀ first, first <+: crossed → ∀ replies list,
      PoolCall.run SurfaceList.call first (.allocate (.nv12 3 3 30) 2) = .ok (replies, list) →
        ∀ own ∈ list.surfaces, own.guards.length < 65536 := by
    intro first before replies list ran own mem
    have counted := List.all_eq_true.1 few first ((List.mem_inits _ _).2 before)
    rw [ran] at counted
    exact of_decide_eq_true (List.all_eq_true.1 counted own mem)
  have left : (PoolCall.run SurfaceList.call crossed (.allocate (.nv12 3 3 30) 2)).map
      (fun out => out.2.surfaces.map fun own => (own.guards, own.data[383]?, own.data[275]?))
        = .ok [([1], some 8, some 0), ([], some 0, some 17)] := by
    decide +kernel
  obtain ⟨_, _, stopped⟩ |
      ⟨_, replies, user, list, user_ran, list_ran, info_eq, length_eq, shows_⟩ :=
    run_allocate (show covers (FrameInfo.nv12 3 3 30).width (FrameInfo.nv12 3 3 30).cropW = true by
      decide) (by decide) 2 crossed countable
  · rw [stopped] at left
    cases left
  rw [list_ran] at left
  obtain ⟨first, second, surfaces_eq⟩ := List.length_eq_two.1 length_eq
  have left := Except.ok.inj left
  simp only [surfaces_eq, List.map_cons, List.map_nil, List.cons.injEq, Prod.mk.injEq,
    and_true] at left
  obtain ⟨⟨guards, top, _⟩, none_held, _, bottom⟩ := left
  have at_zero : list.surfaces[0]? = some first := by rw [surfaces_eq]; rfl
  have at_one : list.surfaces[1]? = some second := by rw [surfaces_eq]; rfl
  refine ⟨replies, user, user_ran, ?_, ?_, ?_, ?_, ?_, ?_⟩
  · exact (shows_.isLocked_iff 0).2 ⟨first, at_zero, by rw [guards]; nofun⟩
  · refine Bool.eq_false_iff.2 fun locked => ?_
    obtain ⟨own, found, held⟩ := (shows_.isLocked_iff 1).1 locked
    cases at_one.symm.trans found
    exact held none_held
  · refine (shows_.findFree_eq_some 1).2 ⟨⟨second, at_one, none_held⟩, fun j below => ?_⟩
    obtain rfl : j = 0 := Nat.lt_one_iff.1 below
    exact ⟨first, at_zero, by rw [guards]; nofun⟩
  · exact (shows_.surface?_eq_none 2).2 (by rw [shows_.size_eq, length_eq]; decide)
  · rw [shows_.surface?_eq, at_zero]
    exact congrArg some top
  · rw [shows_.surface?_eq, at_one]
    exact congrArg some bottom

end GuardedPool

end Nv12Jpeg
