/-!
# Faults and failures

Frames are copied by byte range, and their sizes are held in 64-bit words. A range that leaves
its buffer, or a size that leaves the word, is no error a caller can handle: it stops the work.

* `Fault` names the ways a computation stops;
* `Failure` tells an error, which has a cause and a message, from a fault;
* `IoError` names the causes for which opening, reading or writing fails;
* `Size.add` and `Size.mul` are the sums and products of sizes that check the word, and
  `Size.buffer` checks the size of a buffer to be allocated;
* `Clock.deadline` is the end of a wait, if the clock can tell it.

A computation in steps succeeds only if each step does: `bind_eq_ok` takes the first step off.
-/

namespace Nv12Jpeg

/-- A way in which a computation stops without an error its caller could handle. -/
inductive Fault where
  /-- A sum or a product does not fit its word: 64 bits for a size, 32 for a count of frames. -/
  | sizeOverflow
  /-- A byte range is not inside its buffer. -/
  | outOfRange
  /-- A buffer was to be cut into rows of no bytes. -/
  | emptyRow
  /-- A buffer was to be larger than half of the address space. -/
  | allocation
  /-- The clock cannot tell the end of a wait. -/
  | noDeadline
  /-- A loop was still running when the rounds allowed to it were used up. -/
  | unfinished
  deriving DecidableEq, Repr

/-- Why a computation gave no value: an error with a cause, or a fault. -/
inductive Failure (ε : Type) where
  | error (cause : ε)
  | fault (fault : Fault)
  deriving DecidableEq, Repr

/-- The outcome of a computation that may fail with a cause or stop with a fault. -/
abbrev Attempt (ε α : Type) := Except (Failure ε) α

namespace Attempt

/-- An attempt that failed with `cause`. -/
def fail {ε α : Type} (cause : ε) : Attempt ε α := .error (.error cause)

/-- A computation that can only stop, seen as an attempt. -/
def ofFault {ε α : Type} (result : Except Fault α) : Attempt ε α :=
  result.mapError .fault

/-- A computation that can only fail with a cause, seen as an attempt. -/
def ofError {ε α : Type} (result : Except ε α) : Attempt ε α :=
  result.mapError .error

end Attempt

/-- Why input or output failed, as the operating system names it. -/
inductive IoError where
  | notFound
  | notADirectory
  | isADirectory
  | noSpace
  | nameTooLong
  /-- A path holds a null character. -/
  | nullInPath
  /-- A stream's own failure, with its text. -/
  | stream (text : String)
  deriving DecidableEq, Repr

/-- The text of an error. -/
def IoError.message : IoError → String
  | .notFound => "No such file or directory (os error 2)"
  | .notADirectory => "Not a directory (os error 20)"
  | .isADirectory => "Is a directory (os error 21)"
  | .noSpace => "No space left on device (os error 28)"
  | .nameTooLong => "File name too long (os error 36)"
  | .nullInPath => "file name contained an unexpected NUL byte"
  | .stream text => text

namespace Size

/-- Sizes and indices are below this bound. -/
def bound : Nat := 0x10000000000000000

/-- No buffer has this many bytes. -/
def allocationBound : Nat := 0x8000000000000000

/-- The sum of two sizes. -/
def add (a b : Nat) : Except Fault Nat :=
  if a + b < bound then .ok (a + b) else .error .sizeOverflow

/-- The product of two sizes. -/
def mul (a b : Nat) : Except Fault Nat :=
  if a * b < bound then .ok (a * b) else .error .sizeOverflow

/-- The size of a buffer to be allocated. -/
def buffer (count : Nat) : Except Fault Nat :=
  if count < allocationBound then .ok count else .error .allocation

theorem add_eq_ok {a b c : Nat} : add a b = .ok c ↔ a + b < bound ∧ c = a + b := by
  by_cases h : a + b < bound <;> simp [add, h, eq_comm]

theorem mul_eq_ok {a b c : Nat} : mul a b = .ok c ↔ a * b < bound ∧ c = a * b := by
  by_cases h : a * b < bound <;> simp [mul, h, eq_comm]

theorem buffer_eq_ok {count size : Nat} :
    buffer count = .ok size ↔ count < allocationBound ∧ size = count := by
  by_cases h : count < allocationBound <;> simp [buffer, h, eq_comm]

/-- A product of two numbers that are no larger than a pitch is a size. -/
theorem mul_of_le {a b : Nat} (ha : a ≤ 65536) (hb : b ≤ 65536) : mul a b = .ok (a * b) := by
  have := Nat.mul_le_mul ha hb
  exact mul_eq_ok.2 ⟨by rw [bound]; omega, rfl⟩

end Size

namespace Clock

/-- The nanoseconds of a millisecond. -/
def nanosPerMilli : Nat := 1000000

/-- The clock tells no moment that is as many nanoseconds after its start: it counts seconds in 63
bits. -/
def bound : Nat := 0x8000000000000000 * 1000000000

/-- The end of a wait of `waitMs` milliseconds that begins now. The clock has been running for
`present` nanoseconds. -/
def deadline (present : UInt64) (waitMs : Nat) : Except Fault Nat :=
  let moment := present.toNat + waitMs * nanosPerMilli
  if moment < bound then .ok moment else .error .noDeadline

/-- Whether waits that are as long have an end, whenever they begin. -/
def Covers (waitMs : Nat) : Prop := UInt64.size + waitMs * nanosPerMilli ≤ bound

instance (waitMs : Nat) : Decidable (Covers waitMs) := inferInstanceAs (Decidable (_ ≤ _))

theorem deadline_of_covers {waitMs : Nat} (covers : Covers waitMs) (present : UInt64) :
    deadline present waitMs = .ok (present.toNat + waitMs * nanosPerMilli) := by
  have := present.toNat_lt
  rw [Covers, UInt64.size] at covers
  exact if_pos (by omega)

theorem deadline_eq_error {present : UInt64} {waitMs : Nat} {fault : Fault}
    (endless : deadline present waitMs = .error fault) :
    fault = .noDeadline ∧ ¬ Covers waitMs := by
  refine ⟨?_, fun covers => ?_⟩
  · rw [deadline] at endless
    split at endless <;> cases endless
    rfl
  · rw [deadline_of_covers covers] at endless
    cases endless

/-- A wait is covered if its milliseconds are counted in a word. -/
theorem covers_of_lt {waitMs : Nat} (h : waitMs < Size.bound) : Covers waitMs := by
  rw [Size.bound] at h
  rw [Covers, bound, nanosPerMilli, UInt64.size]
  omega

end Clock

/-! ## Computations that succeed -/

variable {ε α β : Type}

/-- The first step of a computation that succeeds, and the others behind it. -/
theorem bind_eq_ok {first : Except ε α} {next : α → Except ε β} {result : β} :
    first >>= next = .ok result ↔ ∃ value, first = .ok value ∧ next value = .ok result := by
  cases first with
  | error cause => simp [bind, Except.bind]
  | ok value => simp [bind, Except.bind]

/-- A first step that has succeeded. -/
theorem ok_bind (value : α) (next : α → Except ε β) : Except.ok value >>= next = next value := rfl

@[simp] theorem Attempt.ofFault_ok (value : α) :
    (ofFault (.ok value) : Attempt ε α) = .ok value := rfl

theorem Attempt.ofFault_eq_ok {result : Except Fault α} {value : α} :
    (ofFault result : Attempt ε α) = .ok value ↔ result = .ok value := by
  cases result with
  | error fault => exact ⟨nofun, nofun⟩
  | ok found => rw [ofFault_ok, Except.ok.injEq, Except.ok.injEq]

end Nv12Jpeg
