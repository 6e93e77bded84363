import Nv12Jpeg.Proofs.Bitstream

/-!
# What waits in an output buffer

An output buffer is filled, emptied and written out again and again, and bytes from before stay in
it. What waits depends on its uses only: on the appends that succeeded since it was emptied.

* `Bitstream.perform` is one use of a buffer, `Bitstream.run` a list of them;
* `Bitstream.pending` — the bytes that should wait after a list of uses;
* `Bitstream.Follows` — a buffer in which just these wait; `Follows.perform` is the step and
  `Follows.run` the run;
* `Bitstream.bytes_are_pending` — a buffer behaves as a list of bytes of bounded length.
-/

namespace Nv12Jpeg

namespace Bitstream

/-- What is done with an output buffer. -/
inductive Action where
  | append (payload : Bytes)
  | clear
  | write (sink : Sink)

/-- An action with what came of it. -/
inductive Use where
  | appended (payload : Bytes) (outcome : Except EncoderError Unit)
  | cleared
  | written (outcome : Except IoError Nat)

/-- Does one thing with a buffer. What is refused leaves it as it is. -/
def perform (bitstream : Bitstream) : Action → Use × Bitstream
  | .append payload =>
    match bitstream.append payload with
    | .ok next => (.appended payload (.ok ()), next)
    | .error error => (.appended payload (.error error), bitstream)
  | .clear => (.cleared, bitstream.clear)
  | .write sink =>
    let (outcome, _, next) := bitstream.writeTo sink
    (.written outcome, next)

/-- Does one thing after the other; the uses are told oldest first. -/
def run (bitstream : Bitstream) : List Action → List Use × Bitstream
  | [] => ([], bitstream)
  | action :: actions =>
    let (use, next) := bitstream.perform action
    let (uses, last) := next.run actions
    (use :: uses, last)

/-! ## What should wait -/

/-- Whether a use empties the buffer: it was cleared, or all of it was written out. -/
def Use.empties : Use → Bool
  | .cleared | .written (.ok _) => true
  | .appended _ _ | .written (.error _) => false

/-- The bytes that a use added. -/
def Use.added : Use → Bytes
  | .appended payload (.ok ()) => payload
  | _ => #[]

/-- The uses behind the last one that emptied the buffer. -/
def recent (uses : List Use) : List Use := (uses.reverse.takeWhile (!·.empties)).reverse

/-- What was added since the buffer was emptied, in order. -/
def pending (uses : List Use) : Bytes :=
  (recent uses).foldl (fun bytes use => bytes ++ use.added) #[]

theorem recent_concat (uses : List Use) (use : Use) :
    recent (uses ++ [use]) = if use.empties then [] else recent uses ++ [use] := by
  cases empties : use.empties <;> simp [recent, empties]

/-- A use that empties the buffer leaves nothing, and any other adds to what waits. -/
theorem pending_concat (uses : List Use) (use : Use) :
    pending (uses ++ [use]) = if use.empties then #[] else pending uses ++ use.added := by
  cases empties : use.empties <;> simp [pending, recent_concat, empties]

/-! ## What waits -/

/-- A buffer of this capacity, used from its start, in which waits what should after these uses. -/
structure Follows (capacity : Nat) (uses : List Use) (bitstream : Bitstream) : Prop where
  capacity_eq : bitstream.capacity = capacity
  offset_eq : bitstream.offset = 0
  bytes_eq : bitstream.bytes = pending uses

namespace Follows

variable {capacity : Nat} {uses : List Use} {bitstream : Bitstream}

/-- A new buffer. -/
theorem opened (capacity : Nat) : Follows capacity [] (empty capacity) :=
  ⟨rfl, rfl, rfl⟩

/-- What is free is what the waiting bytes leave of the capacity. -/
theorem available_eq (follows : Follows capacity uses bitstream) :
    bitstream.available = capacity - bitstream.bytes.size := by
  rw [available, stop, follows.offset_eq, follows.capacity_eq, size_bytes, Nat.zero_add]

theorem size_le (follows : Follows capacity uses bitstream) : bitstream.bytes.size ≤ capacity := by
  have within := Nat.le_trans bitstream.stop_le bitstream.data_le
  rw [stop, follows.offset_eq, Nat.zero_add, follows.capacity_eq] at within
  rwa [size_bytes]

/-- Emptying a buffer, by a use that does so. -/
theorem emptied (follows : Follows capacity uses bitstream) {use : Use}
    (empties : use.empties = true) : Follows capacity (uses ++ [use]) bitstream.clear where
  capacity_eq := follows.capacity_eq
  offset_eq := rfl
  bytes_eq := by simp [pending_concat, empties]

/-- A use that neither empties the buffer nor adds to it. -/
theorem unchanged (follows : Follows capacity uses bitstream) {use : Use}
    (keeps : use.empties = false) (nothing : use.added = #[]) :
    Follows capacity (uses ++ [use]) bitstream where
  capacity_eq := follows.capacity_eq
  offset_eq := follows.offset_eq
  bytes_eq := by simp [pending_concat, keeps, nothing, follows.bytes_eq]

/-- Each use of a buffer keeps to what should wait. -/
theorem perform (follows : Follows capacity uses bitstream) (action : Action) :
    Follows capacity (uses ++ [(bitstream.perform action).1]) (bitstream.perform action).2 := by
  cases action with
  | append payload =>
    rw [Bitstream.perform]
    rcases appended : bitstream.append payload with error | next
    · exact follows.unchanged rfl rfl
    · obtain ⟨bytes_eq, capacity_eq⟩ := append_eq_ok appended
      refine ⟨capacity_eq.trans follows.capacity_eq, ?_, ?_⟩
      · -- an append does not move the start
        rw [append] at appended
        split at appended
        · cases appended
          exact follows.offset_eq
        · cases appended
      · rw [bytes_eq, follows.bytes_eq, pending_concat]
        rfl
  | clear => exact follows.emptied rfl
  | write sink =>
    simp only [Bitstream.perform, writeTo]
    rcases sink.writeAll bitstream.bytes with ⟨error | _, _⟩
    · exact follows.unchanged rfl rfl
    · exact follows.emptied rfl

/-- So do all of them, one after the other. -/
theorem run (follows : Follows capacity uses bitstream) (actions : List Action) :
    Follows capacity (uses ++ (bitstream.run actions).1) (bitstream.run actions).2 := by
  induction actions generalizing uses bitstream with
  | nil => simpa [Bitstream.run] using follows
  | cons action actions ih =>
    have later := ih (follows.perform action)
    rw [List.append_assoc] at later
    exact later

end Follows

/-- An output buffer behaves as a list of bytes of bounded length. After any uses there wait, in
order, the bytes of the appends that succeeded since the buffer was cleared or all of it was written
out. An append succeeds if and only if its bytes fit into what these leave of the capacity, and
otherwise tells both numbers. A sink that takes all bytes has received them behind what it had, and
the buffer is empty then; one that fails has received the first ones, as many as it had room for,
and the buffer is as before. -/
theorem bytes_are_pending (capacity : Nat) (actions : List Action) :
    let (uses, bitstream) := (empty capacity).run actions
    bitstream.bytes = pending uses ∧ bitstream.bytes.size ≤ capacity ∧
      bitstream.size = bitstream.bytes.size ∧ bitstream.capacity = capacity ∧
      bitstream.clear.bytes = #[] ∧
      (∀ payload, match bitstream.perform (.append payload) with
        | (.appended _ (.ok ()), next) =>
          payload.size ≤ capacity - bitstream.bytes.size ∧ next.bytes = bitstream.bytes ++ payload
        | (use, next) =>
          capacity - bitstream.bytes.size < payload.size ∧ next = bitstream ∧
          use = .appended payload
            (.error (.notEnoughBuffer payload.size (capacity - bitstream.bytes.size)))) ∧
      ∀ sink, match bitstream.writeTo sink with
        | (.ok count, after, next) =>
          after.received = sink.received ++ bitstream.bytes ∧ count = bitstream.bytes.size ∧
          next.bytes = #[]
        | (.error error, after, next) =>
          next = bitstream ∧ ∃ limit, sink.room = some (limit, error) ∧
            limit - sink.received.size < bitstream.bytes.size ∧
            after.received
              = sink.received ++ bitstream.bytes.extract 0 (limit - sink.received.size) := by
  have follows := (Follows.opened capacity).run actions
  rw [List.nil_append] at follows
  -- That the buffer follows its uses is all that is needed of how it came about.
  generalize (empty capacity).run actions = result at follows ⊢
  obtain ⟨uses, bitstream⟩ := result
  refine ⟨follows.bytes_eq, follows.size_le, bitstream.size_bytes.symm, follows.capacity_eq,
    bitstream.bytes_clear, ?_, ?_⟩
  · intro payload
    rw [perform]
    rcases bitstream.append_cases payload with
      ⟨fits, next, appended, bytes_eq, -⟩ | ⟨large, refused⟩
    · rw [appended]
      exact ⟨follows.available_eq ▸ fits, bytes_eq⟩
    · rw [refused]
      exact ⟨follows.available_eq ▸ large, rfl, by rw [follows.available_eq]⟩
  · intro sink
    rw [writeTo]
    rcases taken : sink.writeAll bitstream.bytes with ⟨error | _, after⟩
    · exact ⟨rfl, Sink.writeAll_error taken⟩
    · exact ⟨Sink.writeAll_ok taken, bitstream.size_bytes.symm, bitstream.bytes_clear⟩

/-- Bytes that were dropped stay in the buffer, and do not wait. -/
example : let bitstream := ((empty 4).run [.append #[1, 2, 3], .clear, .append #[9]]).2
    bitstream.data = #[9, 2, 3] ∧ bitstream.bytes = #[9] := by decide

end Bitstream

end Nv12Jpeg
