import Nv12Jpeg.Bitstream
import Nv12Jpeg.Proofs.Bytes

/-!
# What is appended is what is written

* `Sink.writeAll_ok` — a sink that takes all bytes has received them behind what it had;
* `Sink.writeAll_error` — a sink that fails has received as many of the bytes as it had room for;
* `Bitstream.append_cases` — an append takes all bytes or none;
* `Bitstream.writeTo_ok` — what is written out is what was waiting, and the buffer is empty then.
-/

namespace Nv12Jpeg

namespace Sink

/-- A write that does not fail takes some of the bytes. -/
theorem accepted_bounds {sink : Sink} {count taken : Nat} (positive : 0 < count)
    (h : sink.accepted count = .ok taken) : 0 < taken ∧ taken ≤ count := by
  unfold accepted at h
  cases limited : sink.room with
  | none =>
    rw [limited] at h
    cases h
    omega
  | some limit =>
    rw [limited] at h
    simp only at h
    by_cases full : limit.1 ≤ sink.received.size
    · rw [if_pos full] at h
      cases h
    · rw [if_neg full] at h
      cases h
      omega

/-- Writing on takes the bytes that are left. Each write takes one of them at least. -/
theorem writeFrom_ok {payload : Bytes} {writes start : Nat} {sink next : Sink}
    (fuel : payload.size ≤ start + writes)
    (h : writeFrom payload writes start sink = (.ok (), next)) :
    next.received = sink.received ++ payload.extract start payload.size := by
  induction writes generalizing start sink with
  | zero =>
    cases h
    rw [Array.extract_empty_of_size_le_start (by omega), Array.append_empty]
  | succ writes ih =>
    rw [writeFrom] at h
    by_cases finished : payload.size ≤ start
    · rw [if_pos finished] at h
      cases h
      rw [Array.extract_empty_of_size_le_start finished, Array.append_empty]
    · rw [if_neg finished] at h
      cases accepted : sink.accepted (payload.size - start) with
      | error error =>
        rw [accepted] at h
        cases h
      | ok taken =>
        rw [accepted] at h
        have bounds := accepted_bounds (by omega) accepted
        rw [ih (by omega) h]
        show sink.received ++ payload.extract start (start + taken)
          ++ payload.extract (start + taken) payload.size = _
        rw [Array.append_assoc, Array.extract_append_extract, Nat.min_eq_left (by omega),
          Nat.max_eq_right (by omega)]

/-- A sink that takes all bytes has received them behind what it had. -/
theorem writeAll_ok {payload : Bytes} {sink next : Sink}
    (h : sink.writeAll payload = (.ok (), next)) :
    next.received = sink.received ++ payload := by
  rw [writeFrom_ok (Nat.le_of_eq (Nat.zero_add _).symm) h,
    Array.extract_eq_self_of_le (Nat.le_refl _)]

/-- A write that does not fail leaves no less room than it takes. -/
theorem accepted_le_room {sink : Sink} {count taken limit : Nat} {error : IoError}
    (h : sink.accepted count = .ok taken) (limited : sink.room = some (limit, error)) :
    sink.received.size + taken ≤ limit := by
  simp only [accepted, limited] at h
  split at h
  · cases h
  · cases h
    omega

/-- A sink fails with its own error, and only if it is full. -/
theorem accepted_error {sink : Sink} {count : Nat} {error : IoError}
    (h : sink.accepted count = .error error) :
    ∃ limit, sink.room = some (limit, error) ∧ limit ≤ sink.received.size := by
  cases limited : sink.room with
  | none => simp [accepted, limited] at h
  | some room =>
    obtain ⟨limit, own⟩ := room
    simp only [accepted, limited] at h
    split at h
    · cases h
      exact ⟨limit, rfl, by assumption⟩
    · cases h

/-- Writing on fails once the sink is full, and there are bytes left then. -/
theorem writeFrom_error {payload : Bytes} {writes start : Nat} {sink next : Sink} {error : IoError}
    (h : writeFrom payload writes start sink = (.error error, next)) :
    ∃ limit, sink.room = some (limit, error) ∧
      start + (limit - sink.received.size) < payload.size ∧
      next.received
        = sink.received ++ payload.extract start (start + (limit - sink.received.size)) := by
  -- Each write takes as many bytes off the room as it puts behind the start, so the end stays.
  induction writes generalizing start sink with
  | zero => cases h
  | succ writes ih =>
    rw [writeFrom] at h
    by_cases finished : payload.size ≤ start
    · rw [if_pos finished] at h
      cases h
    rw [if_neg finished] at h
    cases accepted : sink.accepted (payload.size - start) with
    | error failure =>
      rw [accepted] at h
      cases h
      obtain ⟨limit, limited, full⟩ := accepted_error accepted
      refine ⟨limit, limited, by omega, ?_⟩
      rw [Nat.sub_eq_zero_of_le full, Nat.add_zero,
        Array.extract_empty_of_stop_le_start (Nat.le_refl _), Array.append_empty]
    | ok taken =>
      rw [accepted] at h
      obtain ⟨-, taken_le⟩ := accepted_bounds (by omega) accepted
      obtain ⟨limit, limited, left, received⟩ := ih h
      have room := accepted_le_room accepted limited
      have size : (sink.received ++ payload.extract start (start + taken)).size
          = sink.received.size + taken := by
        rw [Array.size_append, Bytes.size_extract_add (by omega)]
      simp only [size] at left received
      refine ⟨limit, limited, by omega, ?_⟩
      rw [received, Array.append_assoc, Bytes.extract_append_extract_add]
      congr 2
      omega

/-- A sink that fails has received as many of the bytes as it had room for. -/
theorem writeAll_error {payload : Bytes} {sink next : Sink} {error : IoError}
    (h : sink.writeAll payload = (.error error, next)) :
    ∃ limit, sink.room = some (limit, error) ∧ limit - sink.received.size < payload.size ∧
      next.received = sink.received ++ payload.extract 0 (limit - sink.received.size) := by
  simpa using writeFrom_error h

end Sink

namespace Bitstream

/-- Bytes put behind the waiting ones wait as well. -/
theorem extract_put (bitstream : Bitstream) (payload : Bytes) :
    (bitstream.data.put bitstream.stop payload).extract bitstream.offset
      (bitstream.stop + payload.size) = bitstream.bytes ++ payload := by
  have stop_le := bitstream.stop_le
  have start_le : bitstream.offset ≤ bitstream.stop := Nat.le_add_right _ _
  have front : (bitstream.data.extract 0 bitstream.stop).size = bitstream.stop := by
    rw [Array.size_extract]
    omega
  rw [Bytes.put, Array.append_assoc, Array.extract_append, front,
    Array.extract_append, Nat.sub_eq_zero_of_le start_le, Nat.add_sub_cancel_left,
    Array.extract_eq_self_of_le (Nat.le_refl _), Nat.zero_sub, Nat.sub_self, Array.extract_zero,
    Array.append_empty, Array.extract_extract]
  simp [bytes]

/-- An append takes all bytes or none. -/
theorem append_cases (bitstream : Bitstream) (payload : Bytes) :
    (payload.size ≤ bitstream.available ∧ ∃ next, bitstream.append payload = .ok next ∧
      next.bytes = bitstream.bytes ++ payload ∧ next.capacity = bitstream.capacity) ∨
    (bitstream.available < payload.size ∧
      bitstream.append payload = .error (.notEnoughBuffer payload.size bitstream.available)) := by
  unfold append
  by_cases fits : payload.size ≤ bitstream.available
  · rw [dif_pos fits]
    have behind := bitstream.extract_put payload
    rw [stop, Nat.add_assoc] at behind
    exact .inl ⟨fits, _, rfl, behind, rfl⟩
  · rw [dif_neg fits]
    exact .inr ⟨Nat.lt_of_not_le fits, rfl⟩

/-- What an append that succeeds leaves. -/
theorem append_eq_ok {bitstream result : Bitstream} {payload : Bytes}
    (h : bitstream.append payload = .ok result) :
    result.bytes = bitstream.bytes ++ payload ∧ result.capacity = bitstream.capacity := by
  rcases bitstream.append_cases payload with ⟨-, next, appended, left⟩ | ⟨-, refused⟩
  · rw [appended] at h
    cases h
    exact left
  · rw [refused] at h
    cases h

/-- All of a buffer in which nothing waits is free. -/
theorem available_of_bytes_eq_empty {bitstream : Bitstream} (h : bitstream.bytes = #[]) :
    bitstream.available = bitstream.capacity := by
  have nothing : bitstream.size = 0 := by
    rw [← size_bytes, h]
    rfl
  rw [available, stop, bitstream.idle nothing, nothing]
  rfl

/-- What is written out is what was waiting, and the buffer is empty then. -/
theorem writeTo_ok {bitstream next : Bitstream} {sink sink' : Sink} {count : Nat}
    (h : bitstream.writeTo sink = (.ok count, sink', next)) :
    sink'.received = sink.received ++ bitstream.bytes ∧ next = bitstream.clear := by
  unfold writeTo at h
  split at h
  · rename_i taken
    cases h
    exact ⟨Sink.writeAll_ok taken, rfl⟩
  · cases h

/-- Writing fails only if the sink has no room for all that waits. -/
theorem writeTo_error {bitstream next : Bitstream} {sink sink' : Sink} {error : IoError}
    (h : bitstream.writeTo sink = (.error error, sink', next)) :
    ∃ limit, sink.room = some (limit, error) ∧
      limit - sink.received.size < bitstream.bytes.size := by
  unfold writeTo at h
  split at h
  · cases h
  · rename_i refused
    cases h
    obtain ⟨limit, limited, less, _⟩ := Sink.writeAll_error refused
    exact ⟨limit, limited, less⟩

end Bitstream

end Nv12Jpeg
