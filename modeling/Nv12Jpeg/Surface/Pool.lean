import Nv12Jpeg.Picture.Nv12
import Nv12Jpeg.Stream.Source

/-!
# Surfaces and their pool

The surfaces of a pool have one geometry and lie one behind the other in one buffer. A surface that
a submission still refers to is locked. The lock counts its guards in 16 bits, so the count returns
to zero at the 65536th guard.

* `Surface.readFrame` fills the crop of a surface from a source of tightly packed frames;
* `SurfacePool.surface?` is a surface of the pool as a value of its own, and
  `SurfacePool.withData` puts its bytes back;
* `SurfacePool.findFree` is the first surface that is not locked.
-/

namespace Nv12Jpeg

/-- One surface: its geometry and its bytes. -/
structure Surface where
  info : FrameInfo
  data : Bytes
  deriving DecidableEq, Repr

/-- How filling a surface ends. -/
abbrev FrameRead := ReadEnd

namespace Surface

/-- The planes of a surface, cut to the crop size. -/
def planes (surface : Surface) : Nv12Planes where
  width := surface.info.cropW.toNat
  height := surface.info.cropH.toNat
  pitch := surface.info.pitch
  luma := surface.data.extract 0 surface.info.chromaOffset
  chroma := surface.data.extract surface.info.chromaOffset surface.data.size

/-- A copy of the visible bytes of a surface. -/
def toFrame (surface : Surface) : Except Fault Nv12Frame := surface.planes.toFrame

/-- Reads `count` rows of `row` bytes into `data`, the first of them at `start`, the next ones
`pitch` bytes apart. -/
def readRows (store : FileStore) (row pitch : Nat) : (count start : Nat) → Bytes → Source →
    Except Fault (FrameRead × Bytes × Source)
  | 0, _, data, source => .ok (.complete, data, source)
  | count + 1, start, data, source =>
    if start + row ≤ data.size then
      match source.readExact store row with
      | (⟨part, .complete⟩, source) =>
        readRows store row pitch count (start + pitch) (data.write start part) source
      | (⟨part, ending⟩, source) => .ok (ending, data.write start part, source)
    else .error .outOfRange

/-- Fills the crop with one frame: the luma rows, then the chroma rows. What was read of a frame
that is not complete stays in the surface. -/
def readFrame (surface : Surface) (store : FileStore) (source : Source) :
    Except Fault (FrameRead × Surface × Source) := do
  let info := surface.info
  let width := info.cropW.toNat
  let height := info.cropH.toNat
  let (ending, data, source) ←
    readRows store width info.pitch height 0 surface.data source
  match ending with
  | .complete =>
    let (ending, data, source) ←
      readRows store (chromaRowBytes width) info.pitch (chromaRows height) info.chromaOffset
        data source
    return (ending, { surface with data }, source)
  | ending => return (ending, { surface with data }, source)

end Surface

/-- The number of guards on a surface, in 16 bits. -/
structure SurfaceLock where
  guards : UInt16
  deriving DecidableEq, Repr

namespace SurfaceLock

/-- A lock without guards. -/
def free : SurfaceLock := ⟨0⟩

/-- Whether the count of guards is not zero. -/
def isLocked (lock : SurfaceLock) : Bool := lock.guards != 0

/-- Takes one more guard. -/
def acquire (lock : SurfaceLock) : SurfaceLock := ⟨lock.guards + 1⟩

/-- Drops a guard. -/
def release (lock : SurfaceLock) : SurfaceLock := ⟨lock.guards - 1⟩

@[simp] theorem release_acquire (lock : SurfaceLock) : lock.acquire.release = lock := by
  simp [acquire, release]

@[simp] theorem acquire_release (lock : SurfaceLock) : lock.release.acquire = lock := by
  simp [acquire, release]

end SurfaceLock

/-- Surfaces of one geometry in one buffer, each with a lock. -/
structure SurfacePool where
  info : FrameInfo
  buffer : Bytes
  locks : Array SurfaceLock
  deriving Repr

namespace SurfacePool

/-- A pool of `count` free surfaces of zero bytes. -/
def allocate (info : FrameInfo) (count : UInt16) : SurfacePool where
  info := info
  buffer := Bytes.zeros (info.surfaceSize * count.toNat)
  locks := Array.replicate count.toNat .free

/-- A pool without surfaces. -/
def none : SurfacePool := allocate (.nv12 0 0 0) 0

/-- The number of surfaces. -/
def size (pool : SurfacePool) : Nat := pool.locks.size

/-- Where the bytes of a surface start in the buffer. -/
def offset (pool : SurfacePool) (index : Nat) : Nat := index * pool.info.surfaceSize

/-- A surface of the pool. -/
def surface? (pool : SurfacePool) (index : Nat) : Option Surface :=
  if index < pool.size then
    some ⟨pool.info,
      pool.buffer.extract (pool.offset index) (pool.offset index + pool.info.surfaceSize)⟩
  else .none

/-- Puts bytes in place of those of a surface. -/
def withData (pool : SurfacePool) (index : Nat) (data : Bytes) : SurfacePool :=
  { pool with buffer := Bytes.write pool.buffer (pool.offset index) data }

/-- Whether there is such a surface and it is locked. -/
def isLocked (pool : SurfacePool) (index : Nat) : Bool :=
  match pool.locks[index]? with
  | some lock => lock.isLocked
  | .none => false

/-- The first surface that is not locked. -/
def findFree (pool : SurfacePool) : Option Nat := pool.locks.findIdx? (!·.isLocked)

/-- Takes a guard on a surface. -/
def acquire (pool : SurfacePool) (index : Nat) : SurfacePool :=
  { pool with locks := pool.locks.modify index .acquire }

/-- Drops a guard on a surface. -/
def release (pool : SurfacePool) (index : Nat) : SurfacePool :=
  { pool with locks := pool.locks.modify index .release }

/-- Fills a surface of the pool from a source; nothing happens where there is no such surface. -/
def readFrame (pool : SurfacePool) (index : Nat) (store : FileStore) (source : Source) :
    Except Fault (Option FrameRead × SurfacePool × Source) :=
  match pool.surface? index with
  | .none => .ok (.none, pool, source)
  | some surface => do
    let (ending, surface, source) ← surface.readFrame store source
    return (some ending, pool.withData index surface.data, source)

/-- Puts `payload` over the bytes of a surface from `start` on. -/
def overwrite (pool : SurfacePool) (index start : Nat) (payload : Bytes) :
    Except Fault SurfacePool :=
  match pool.surface? index with
  | .none => .ok pool
  | some surface => return pool.withData index (← Bytes.overwrite surface.data start payload)

@[simp] theorem size_withData (pool : SurfacePool) (index : Nat) (data : Bytes) :
    (pool.withData index data).size = pool.size := rfl

@[simp] theorem size_acquire (pool : SurfacePool) (index : Nat) :
    (pool.acquire index).size = pool.size := by
  simp [acquire, size]

@[simp] theorem size_release (pool : SurfacePool) (index : Nat) :
    (pool.release index).size = pool.size := by
  simp [release, size]

end SurfacePool

end Nv12Jpeg
