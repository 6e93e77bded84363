import Nv12Jpeg.Proofs.Bytes
import Nv12Jpeg.Proofs.FileStore
import Nv12Jpeg.Stream.Source

/-!
# What a source feeds

A source is known to its reader by two things only: the bytes it will still deliver, and how it
ends after them. The portions in which it delivers, its interruptions and its buffer do not show.

* `Source.Feeds` — the source will deliver these bytes and then end, or fail;
* `Source.Feeds.readExact_complete` — reading takes the next bytes, in order, if there are enough;
* `Source.Feeds.readExact_short` — otherwise it ends as the source does, and nothing is left;
* `Source.Feeds.of_changedAt` — files that are written meanwhile do not matter.
-/

namespace Nv12Jpeg

/-- How reading ends where the source has no more bytes. -/
def ReadEnd.ofFailure : Option IoError → ReadEnd
  | none => .ended
  | some error => .failed error

/-- What a read of a stream gives where the stream has no more bytes. -/
def ReadResult.ofFailure : Option IoError → ReadResult
  | none => .delivered #[]
  | some error => .failed error

/-! ## Streams -/

namespace ByteStream

/-- The bytes a stream will still deliver. -/
def rest (stream : ByteStream) : Bytes := stream.bytes.extract stream.position stream.limit

/-- The failure a stream ends in, if it does not just end. -/
def fate (stream : ByteStream) : Option IoError :=
  match stream.delivery.failure with
  | none => none
  | some (position, error) =>
    if position ≤ max stream.position stream.bytes.size then some error else none

/-- A stream that never delivers an empty portion before its end delivers `bytes` and then ends,
or fails. -/
structure Feeds (stream : ByteStream) (bytes : Bytes) (failure : Option IoError) : Prop where
  portions : ∀ position, 0 < stream.delivery.portion position
  rest_eq : stream.rest = bytes
  fate_eq : stream.fate = failure

/-- The stream once every interruption at its position is over. -/
def settled (stream : ByteStream) : ByteStream :=
  { stream with
    interrupted := max stream.interrupted (stream.delivery.interruptions stream.position) }

theorem limit_le (stream : ByteStream) : stream.limit ≤ stream.bytes.size := by
  unfold limit
  cases stream.delivery.failure with
  | none => exact Nat.le_refl _
  | some failure => exact Nat.min_le_right _ _

theorem size_rest (stream : ByteStream) : stream.rest.size = stream.limit - stream.position := by
  have := stream.limit_le
  rw [rest, Array.size_extract, Nat.min_eq_left this]

theorem retry_eq_read_settled (count interruptions : Nat) (stream : ByteStream)
    (h : stream.delivery.interruptions stream.position - stream.interrupted = interruptions) :
    retry interruptions stream count = stream.settled.read count := by
  induction interruptions generalizing stream with
  | zero =>
    have same : stream.settled = stream := by
      rw [settled, Nat.max_eq_left (by omega)]
    rw [retry, same]
  | succ interruptions ih =>
    have more : stream.interrupted < stream.delivery.interruptions stream.position := by omega
    have read : stream.read count
        = (.interrupted, { stream with interrupted := stream.interrupted + 1 }) := by
      rw [ByteStream.read, if_pos more]
    have same : ({ stream with interrupted := stream.interrupted + 1 } : ByteStream).settled
        = stream.settled := by
      simp only [settled, mk.injEq, true_and]
      omega
    rw [retry, read]
    simp only
    rw [ih _ (by simp only; omega), same]

theorem readUninterrupted_eq (stream : ByteStream) (count : Nat) :
    stream.readUninterrupted count = stream.settled.read count :=
  retry_eq_read_settled count _ stream rfl

@[simp] theorem failure?_settled (stream : ByteStream) :
    stream.settled.failure? = stream.failure? := rfl

@[simp] theorem next_settled (stream : ByteStream) (count : Nat) :
    stream.settled.next count = stream.next count := rfl

/-- A read that is not interrupted delivers what comes next, or tells the failure. -/
theorem read_settled (stream : ByteStream) (count : Nat) :
    stream.settled.read count = match stream.failure? with
      | some error => (.failed error, stream.settled)
      | none =>
        if (stream.next count).isEmpty then (.delivered (stream.next count), stream.settled)
        else (.delivered (stream.next count),
          { stream with
              position := stream.position + (stream.next count).size
              interrupted := 0 }) := by
  rw [ByteStream.read, if_neg (by simp only [settled]; omega), failure?_settled, next_settled]
  cases stream.failure? <;> rfl

/-- Where nothing is left a read tells how the stream ends. -/
theorem read_settled_of_rest_eq_empty (stream : ByteStream) (count : Nat)
    (h : stream.rest.size = 0) :
    stream.settled.read count = (.ofFailure stream.fate, stream.settled) := by
  have exhausted : stream.limit ≤ stream.position := by
    rw [size_rest] at h
    omega
  have ending : stream.failure? = stream.fate := by
    unfold failure? fate limit at *
    cases failed : stream.delivery.failure with
    | none => rfl
    | some failure =>
      obtain ⟨position, error⟩ := failure
      rw [failed] at exhausted
      simp only at exhausted ⊢
      by_cases reached : position ≤ stream.position
      · rw [if_pos reached, if_pos (by omega)]
      · rw [if_neg reached, if_neg (by omega)]
  have part : stream.next count = #[] := by
    rw [next]
    apply Array.extract_empty_of_stop_le_start
    exact Nat.le_trans (Nat.min_le_right _ _) exhausted
  rw [read_settled, ending, part]
  cases stream.fate <;> rfl

/-- Where something is left a read delivers some of it. -/
theorem read_settled_of_rest_ne_empty (stream : ByteStream) {count : Nat} (positive : 0 < count)
    (portion : 0 < stream.delivery.portion stream.position) (h : stream.rest.size ≠ 0) :
    ∃ n, 0 < n ∧ n ≤ count ∧ n ≤ stream.rest.size ∧
      stream.settled.read count = (.delivered (stream.rest.extract 0 n),
        { stream with position := stream.position + n, interrupted := 0 }) := by
  rw [size_rest] at h
  obtain ⟨n, n_eq⟩ : ∃ n, n = min (min count (stream.delivery.portion stream.position))
    (stream.limit - stream.position) := ⟨_, rfl⟩
  have part : stream.next count = stream.rest.extract 0 n := by
    have inner := Bytes.extract_extract_add stream.bytes stream.position
      (show 0 + n ≤ stream.limit - stream.position by omega)
    rw [Nat.add_zero, Nat.zero_add, Nat.add_sub_of_le (by omega)] at inner
    rw [rest, inner, next]
    congr 1
    omega
  have size : (stream.rest.extract 0 n).size = n := by
    rw [Array.size_extract, size_rest]
    omega
  have going : stream.failure? = none := by
    unfold failure? limit at *
    cases failed : stream.delivery.failure with
    | none => rfl
    | some failure =>
      rw [failed] at h
      simp only at h ⊢
      rw [if_neg (by omega)]
  refine ⟨n, by omega, by omega, by rw [size_rest]; omega, ?_⟩
  rw [read_settled, going, part]
  simp only [Array.isEmpty, size, decide_eq_true_eq]
  rw [if_neg (by omega)]

/-- What is left once some of the rest was delivered. -/
theorem rest_advance (stream : ByteStream) (n : Nat) :
    ({ stream with position := stream.position + n, interrupted := 0 } : ByteStream).rest
      = stream.rest.extract n stream.rest.size := by
  have bound := stream.limit_le
  rw [rest, rest, Array.extract_extract, Array.size_extract]
  show stream.bytes.extract (stream.position + n) stream.limit = _
  apply Array.extract_eq_extract_right.2
  omega

/-- Delivering some of the rest does not change how the stream ends. -/
theorem fate_advance (stream : ByteStream) {n : Nat} (h : n ≤ stream.rest.size) (h' : 0 < n) :
    ({ stream with position := stream.position + n, interrupted := 0 } : ByteStream).fate
      = stream.fate := by
  have bound := stream.limit_le
  rw [size_rest] at h
  unfold fate
  cases stream.delivery.failure with
  | none => rfl
  | some failure =>
    simp only
    rw [Nat.max_eq_right (show stream.position + n ≤ stream.bytes.size by omega),
      Nat.max_eq_right (show stream.position ≤ stream.bytes.size by omega)]

namespace Feeds

variable {stream : ByteStream} {bytes : Bytes} {failure : Option IoError}

/-- One read of a stream: some of the next bytes, or its end. -/
theorem readUninterrupted (h : stream.Feeds bytes failure) {count : Nat} (positive : 0 < count) :
    (bytes.size = 0 ∧ ∃ next : ByteStream, next.Feeds bytes failure ∧
      stream.readUninterrupted count = (.ofFailure failure, next)) ∨
    ∃ (n : Nat) (next : ByteStream), 0 < n ∧ n ≤ count ∧ n ≤ bytes.size ∧
      next.Feeds (bytes.extract n bytes.size) failure ∧
      stream.readUninterrupted count = (.delivered (bytes.extract 0 n), next) := by
  obtain ⟨portions, rfl, rfl⟩ := h
  rw [readUninterrupted_eq]
  by_cases empty : stream.rest.size = 0
  · refine .inl ⟨empty, stream.settled, ⟨portions, rfl, rfl⟩, ?_⟩
    exact read_settled_of_rest_eq_empty stream count empty
  · obtain ⟨n, n_pos, n_le, n_le_rest, read⟩ :=
      read_settled_of_rest_ne_empty stream positive (portions _) empty
    refine .inr ⟨n, _, n_pos, n_le, n_le_rest, ?_, read⟩
    exact ⟨portions, rest_advance stream n, fate_advance stream n_le_rest n_pos⟩

/-- Reading on takes the next bytes if there are enough. Each read takes one byte at least, so
`count` reads do. -/
theorem readOn_complete {reads count : Nat} (h : stream.Feeds bytes failure) (part : Bytes)
    (fuel : count < reads) (enough : count ≤ bytes.size) :
    ∃ next : ByteStream, next.Feeds (bytes.extract count bytes.size) failure ∧
      stream.readOn reads count part = (⟨part ++ bytes.extract 0 count, .complete⟩, next) := by
  induction reads generalizing stream bytes count part with
  | zero => omega
  | succ reads ih =>
    by_cases none_asked : count = 0
    · subst none_asked
      refine ⟨stream, by simpa using h, ?_⟩
      simp [ByteStream.readOn]
    · obtain ⟨empty, _⟩ | ⟨n, next, n_pos, n_le, n_le_size, feeds, read⟩ :=
        h.readUninterrupted (Nat.pos_of_ne_zero none_asked)
      · omega
      · have size : (bytes.extract 0 n).size = n := by
          rw [Array.size_extract]
          omega
        obtain ⟨last, last_feeds, last_read⟩ := ih feeds (part ++ bytes.extract 0 n)
          (show count - n < reads by omega) (by rw [Array.size_extract]; omega)
        rw [Bytes.extract_size_extract_size, Nat.add_sub_of_le n_le] at last_feeds
        refine ⟨last, last_feeds, ?_⟩
        rw [ByteStream.readOn, if_neg none_asked, read]
        simp only [Array.isEmpty, size, decide_eq_true_eq]
        rw [if_neg (by omega), last_read, Array.append_assoc,
          Bytes.extract_append_extract_of_le bytes n_le enough]

/-- Reading on ends as the stream does if there are not enough bytes. -/
theorem readOn_short {reads count : Nat} (h : stream.Feeds bytes failure) (part : Bytes)
    (fuel : count < reads) (short : bytes.size < count) :
    ∃ next : ByteStream, next.Feeds #[] failure ∧
      stream.readOn reads count part = (⟨part ++ bytes, .ofFailure failure⟩, next) := by
  induction reads generalizing stream bytes count part with
  | zero => omega
  | succ reads ih =>
    have asked : count ≠ 0 := by omega
    obtain ⟨empty, next, feeds, read⟩ | ⟨n, next, n_pos, n_le, n_le_size, feeds, read⟩ :=
      h.readUninterrupted (Nat.pos_of_ne_zero asked)
    · obtain rfl := Array.eq_empty_of_size_eq_zero empty
      refine ⟨next, feeds, ?_⟩
      rw [ByteStream.readOn, if_neg asked, read]
      cases failure <;> simp [ReadResult.ofFailure, ReadEnd.ofFailure]
    · have size : (bytes.extract 0 n).size = n := by
        rw [Array.size_extract]
        omega
      obtain ⟨last, last_feeds, last_read⟩ := ih feeds (part ++ bytes.extract 0 n)
        (show count - n < reads by omega) (by rw [Array.size_extract]; omega)
      refine ⟨last, last_feeds, ?_⟩
      rw [ByteStream.readOn, if_neg asked, read]
      simp only [Array.isEmpty, size, decide_eq_true_eq]
      rw [if_neg (by omega), last_read, Array.append_assoc, Bytes.extract_append_extract_size]

end Feeds

end ByteStream

/-! ## Files -/

namespace FileReader

/-- The bytes in the buffer that were not handed out. -/
def held (reader : FileReader) : Bytes := reader.buffer.extract reader.used reader.buffer.size

/-- The file is there and holds, behind what waits in the buffer, the rest of `bytes`. It is not
at a location that others may write to. -/
def Feeds (reader : FileReader) (store : FileStore) (written : Location → Prop) (bytes : Bytes) :
    Prop :=
  ∃ contents, (store.contents reader.location = .ok contents ∧ ¬ written reader.location) ∧
    bytes = reader.held ++ contents.extract reader.offset contents.size

variable {written : Location → Prop}

theorem size_held (reader : FileReader) : reader.held.size = reader.waiting := by
  rw [held, Array.size_extract, Nat.min_self, waiting]

theorem fst_take (reader : FileReader) (count : Nat) :
    (reader.take count).1 = reader.held.extract 0 count := by
  rw [take, held, Array.extract_extract, Nat.add_zero]
  apply Array.extract_eq_extract_right.2
  omega

theorem held_take (reader : FileReader) (count : Nat) :
    (reader.take count).2.held
      = reader.held.extract (min count reader.held.size) reader.held.size := by
  have size : (reader.take count).1.size = min count reader.held.size := by
    rw [fst_take, Array.size_extract, Nat.sub_zero]
  show reader.buffer.extract (reader.used + (reader.take count).1.size) reader.buffer.size = _
  rw [size, held, Bytes.extract_size_extract_size]

/-- A reader hands out of its buffer the next bytes of all that it feeds. -/
theorem Feeds.take {reader : FileReader} {store : FileStore} {bytes : Bytes}
    (h : reader.Feeds store written bytes) {count : Nat} (positive : 0 < count) :
    ∃ n : Nat, (n = 0 → reader.held.size = 0) ∧ n ≤ count ∧ n ≤ bytes.size ∧
      (reader.take count).1 = bytes.extract 0 n ∧
      (reader.take count).2.Feeds store written (bytes.extract n bytes.size) := by
  obtain ⟨contents, found, rfl⟩ := h
  refine ⟨min count reader.held.size, by omega, Nat.min_le_left _ _, ?_, ?_, contents, found, ?_⟩
  · rw [Array.size_append]
    omega
  · rw [fst_take, Array.extract_append, Nat.sub_eq_zero_of_le (Nat.min_le_right _ _),
      Array.extract_zero, Array.append_empty]
    apply Array.extract_eq_extract_right.2
    omega
  · rw [held_take, Array.extract_append, Array.size_append, Nat.add_sub_cancel_left,
      Nat.sub_eq_zero_of_le (Nat.min_le_right _ _),
      Array.extract_eq_self_of_le (Nat.le_refl (contents.extract _ _).size)]
    congr 1
    apply Array.extract_eq_extract_right.2
    omega

/-- One read of a file: some of the next bytes, none only at the end. -/
theorem Feeds.read {reader : FileReader} {store : FileStore} {bytes : Bytes}
    (h : reader.Feeds store written bytes) {count : Nat} (positive : 0 < count) :
    ∃ (n : Nat) (next : FileReader), (n = 0 → bytes.size = 0) ∧ n ≤ count ∧ n ≤ bytes.size ∧
      next.Feeds store written (bytes.extract n bytes.size) ∧
      reader.read store count = .ok (bytes.extract 0 n, next) := by
  by_cases waiting : 0 < reader.waiting
  · obtain ⟨n, n_pos, n_le, n_le_size, part, feeds⟩ := h.take positive
    rw [size_held] at n_pos
    refine ⟨n, _, by omega, n_le, n_le_size, feeds, ?_⟩
    rw [FileReader.read, if_pos waiting, ← part]
  · obtain ⟨contents, found, rfl⟩ := h
    have empty : reader.held = #[] := by
      apply Array.eq_empty_of_size_eq_zero
      rw [size_held]
      omega
    rw [empty, Array.empty_append]
    by_cases long : bufferSize ≤ count
    · refine ⟨min count (contents.size - reader.offset),
        { reader with
          offset := reader.offset + (contents.extract reader.offset (reader.offset + count)).size
          buffer := #[]
          used := 0 }, ?_, Nat.min_le_left _ _, ?_, ⟨contents, found, ?_⟩, ?_⟩
      · rw [Array.size_extract]
        omega
      · rw [Array.size_extract]
        omega
      · rw [Bytes.extract_size_extract_size, Array.size_extract]
        simp only [FileReader.held, Array.extract_empty, Array.empty_append]
        congr 1
        omega
      · rw [FileReader.read, if_neg waiting, if_pos long, fetch, found.1]
        simp only [bind, Except.bind, pure, Except.pure]
        rw [Array.extract_extract]
        congr 2
        apply Array.extract_eq_extract_right.2
        omega
    · have filled : ({ reader with
          offset := reader.offset
            + (contents.extract reader.offset (reader.offset + bufferSize)).size
          buffer := contents.extract reader.offset (reader.offset + bufferSize)
          used := 0 } : FileReader).Feeds store written
            (contents.extract reader.offset contents.size) := by
        refine ⟨contents, found, ?_⟩
        simp only [FileReader.held]
        rw [Array.extract_eq_self_of_le (Nat.le_refl _), Bytes.extract_append_extract_behind]
      obtain ⟨n, n_pos, n_le, n_le_size, part, feeds⟩ := filled.take positive
      refine ⟨n, _, ?_, n_le, n_le_size, feeds, ?_⟩
      · intro none_left
        have := n_pos none_left
        simp only [size_held, FileReader.waiting, Array.size_extract, bufferSize] at this
        rw [Array.size_extract]
        omega
      · rw [FileReader.read, if_neg waiting, if_neg long, fetch, found.1, ← part]
        rfl

/-- Reading on takes the next bytes of the file if there are enough. -/
theorem Feeds.readOn_complete {store : FileStore} {reads count : Nat} {reader : FileReader}
    {bytes : Bytes} (h : reader.Feeds store written bytes) (part : Bytes) (fuel : count < reads)
    (enough : count ≤ bytes.size) :
    ∃ next : FileReader, next.Feeds store written (bytes.extract count bytes.size) ∧
      reader.readOn store reads count part
        = (⟨part ++ bytes.extract 0 count, .complete⟩, next) := by
  induction reads generalizing reader bytes count part with
  | zero => omega
  | succ reads ih =>
    by_cases none_asked : count = 0
    · subst none_asked
      refine ⟨reader, by simpa using h, ?_⟩
      simp [FileReader.readOn]
    · obtain ⟨n, next, n_pos, n_le, n_le_size, feeds, read⟩ :=
        h.read (Nat.pos_of_ne_zero none_asked)
      have size : (bytes.extract 0 n).size = n := by
        rw [Array.size_extract]
        omega
      obtain ⟨last, last_feeds, last_read⟩ := ih feeds (part ++ bytes.extract 0 n)
        (show count - n < reads by omega) (by rw [Array.size_extract]; omega)
      rw [Bytes.extract_size_extract_size, Nat.add_sub_of_le n_le] at last_feeds
      refine ⟨last, last_feeds, ?_⟩
      rw [FileReader.readOn, if_neg none_asked, read]
      simp only [Array.isEmpty, size, decide_eq_true_eq]
      rw [if_neg (by omega), last_read, Array.append_assoc,
        Bytes.extract_append_extract_of_le bytes n_le enough]

/-- Reading on ends at the end of the file if there are not enough bytes. -/
theorem Feeds.readOn_short {store : FileStore} {reads count : Nat} {reader : FileReader}
    {bytes : Bytes} (h : reader.Feeds store written bytes) (part : Bytes) (fuel : count < reads)
    (short : bytes.size < count) :
    ∃ next : FileReader, next.Feeds store written #[] ∧
      reader.readOn store reads count part = (⟨part ++ bytes, .ended⟩, next) := by
  induction reads generalizing reader bytes count part with
  | zero => omega
  | succ reads ih =>
    have asked : count ≠ 0 := by omega
    obtain ⟨n, next, n_pos, n_le, n_le_size, feeds, read⟩ := h.read (Nat.pos_of_ne_zero asked)
    have size : (bytes.extract 0 n).size = n := by
      rw [Array.size_extract]
      omega
    rw [FileReader.readOn, if_neg asked, read]
    simp only [Array.isEmpty, size, decide_eq_true_eq]
    by_cases empty : n = 0
    · obtain rfl := Array.eq_empty_of_size_eq_zero (n_pos empty)
      refine ⟨next, by simpa using feeds, ?_⟩
      rw [if_pos empty, Array.append_empty]
    · obtain ⟨last, last_feeds, last_read⟩ := ih feeds (part ++ bytes.extract 0 n)
        (show count - n < reads by omega) (by rw [Array.size_extract]; omega)
      refine ⟨last, last_feeds, ?_⟩
      rw [if_neg empty, last_read, Array.append_assoc, Bytes.extract_append_extract_size]

/-- What a reader feeds depends on the file it reads only. -/
theorem Feeds.of_changedAt {reader : FileReader} {next store : FileStore} {bytes : Bytes}
    (h : reader.Feeds store written bytes) (changed : FileStore.ChangedAt written next store) :
    reader.Feeds next written bytes := by
  obtain ⟨contents, ⟨found, outside⟩, bytes_eq⟩ := h
  refine ⟨contents, ⟨?_, outside⟩, bytes_eq⟩
  rw [← found, FileStore.contents, FileStore.contents, changed.others _ outside]

end FileReader

/-! ## Sources -/

namespace Source

/-- The source will deliver `bytes` and then end, or fail, also if locations where files are
`written` change meanwhile. -/
def Feeds (source : Source) (store : FileStore) (written : Location → Prop) (bytes : Bytes)
    (failure : Option IoError) : Prop :=
  match source with
  | .stream input => input.Feeds bytes failure
  | .file reader => failure = none ∧ reader.Feeds store written bytes
  | .memory reader => failure = none ∧ reader.position ≤ reader.bytes.size ∧
    bytes = reader.bytes.extract reader.position reader.bytes.size

variable {source : Source} {store : FileStore} {written : Location → Prop} {bytes : Bytes}
  {failure : Option IoError}

/-- A stream at its start feeds all its bytes, if it never fails. -/
theorem feeds_ofBytes {delivery : Delivery}
    (portions : ∀ position, 0 < delivery.portion position) (never : delivery.failure = none) :
    (Source.stream (ByteStream.ofBytes bytes delivery)).Feeds store written bytes none := by
  refine ⟨portions, ?_, ?_⟩
  · simp [ByteStream.rest, ByteStream.limit, ByteStream.ofBytes, never]
  · simp [ByteStream.fate, ByteStream.ofBytes, never]

/-- A file that was just opened feeds all its bytes. -/
theorem feeds_ofLocation {location : Location} (found : store.find? location = some (.file bytes))
    (apart : ¬ written location) :
    (Source.file (.ofLocation location)).Feeds store written bytes none := by
  refine ⟨rfl, bytes, ⟨?_, apart⟩, ?_⟩
  · show store.contents location = _
    rw [FileStore.contents, found]
  · simp [FileReader.held, FileReader.ofLocation]

/-- Reading takes the next bytes, in order, if there are enough. -/
theorem Feeds.readExact_complete (h : source.Feeds store written bytes failure) {count : Nat}
    (enough : count ≤ bytes.size) :
    ∃ next : Source, next.Feeds store written (bytes.extract count bytes.size) failure ∧
      source.readExact store count = (⟨bytes.extract 0 count, .complete⟩, next) := by
  cases source with
  | stream input =>
    obtain ⟨next, feeds, read⟩ :=
      ByteStream.Feeds.readOn_complete (show input.Feeds bytes failure from h) #[]
        (Nat.lt_succ_self count) enough
    rw [Array.empty_append] at read
    exact ⟨.stream next, feeds, by rw [Source.readExact, ByteStream.readExact, read]⟩
  | file reader =>
    obtain ⟨next, feeds, read⟩ :=
      FileReader.Feeds.readOn_complete h.2 #[] (Nat.lt_succ_self count) enough
    rw [Array.empty_append] at read
    exact ⟨.file next, ⟨h.1, feeds⟩, by rw [Source.readExact, FileReader.readExact, read]⟩
  | memory reader =>
    obtain ⟨rfl, inside, rfl⟩ := h
    rw [Array.size_extract, Nat.min_self] at enough
    have part := Bytes.extract_size_extract_add reader.bytes reader.position 0 count (by omega)
    rw [Nat.zero_add, Nat.add_zero] at part
    refine ⟨.memory { reader with position := reader.position + count }, ⟨rfl, ?_, ?_⟩, ?_⟩
    · show reader.position + count ≤ reader.bytes.size
      omega
    · rw [Bytes.extract_size_extract_size]
    · rw [Source.readExact, MemoryReader.readExact, if_pos (by omega), part]

/-- Reading more than is left tells how the source ends, and nothing is left after it. What was
delivered by then fits where all that was asked for does. -/
theorem Feeds.readExact_short (h : source.Feeds store written bytes failure) {count : Nat}
    (short : bytes.size < count) :
    ∃ (part : Bytes) (next : Source), part.size ≤ count ∧ next.Feeds store written #[] failure ∧
      source.readExact store count = (⟨part, .ofFailure failure⟩, next) := by
  cases source with
  | stream input =>
    obtain ⟨next, feeds, read⟩ :=
      ByteStream.Feeds.readOn_short (show input.Feeds bytes failure from h) #[]
        (Nat.lt_succ_self count) short
    rw [Array.empty_append] at read
    exact ⟨bytes, .stream next, Nat.le_of_lt short, feeds, by
      rw [Source.readExact, ByteStream.readExact, read]⟩
  | file reader =>
    obtain ⟨rfl, feeds⟩ := h
    obtain ⟨next, feeds, read⟩ :=
      FileReader.Feeds.readOn_short feeds #[] (Nat.lt_succ_self count) short
    rw [Array.empty_append] at read
    exact ⟨bytes, .file next, Nat.le_of_lt short, ⟨rfl, feeds⟩, by
      rw [Source.readExact, FileReader.readExact, read]
      rfl⟩
  | memory reader =>
    obtain ⟨rfl, inside, rfl⟩ := h
    rw [Array.size_extract, Nat.min_self] at short
    refine ⟨#[], .memory { reader with position := reader.bytes.size }, Nat.zero_le _,
      ⟨rfl, Nat.le_refl _, ?_⟩, ?_⟩
    · rw [Array.extract_empty_of_size_le_start (Nat.le_refl _)]
    · rw [Source.readExact, MemoryReader.readExact, if_neg (by omega)]
      rfl

/-- A source feeds no more bytes than there are in it and in files. -/
theorem Feeds.size_le (h : source.Feeds store written bytes failure) :
    bytes.size ≤ source.size + store.size := by
  cases source with
  | stream input =>
    obtain ⟨_, rfl, _⟩ := show input.Feeds bytes failure from h
    have limit := input.limit_le
    show (input.bytes.extract _ _).size ≤ input.bytes.size + _
    rw [Array.size_extract]
    omega
  | file reader =>
    obtain ⟨_, contents, ⟨opened, _⟩, rfl⟩ := h
    have stored := FileStore.size_contents_le opened
    show (reader.held ++ _).size ≤ reader.buffer.size + _
    rw [Array.size_append, FileReader.held, Array.size_extract, Array.size_extract]
    omega
  | memory reader =>
    obtain ⟨_, _, rfl⟩ := h
    show (reader.bytes.extract _ _).size ≤ reader.bytes.size + _
    rw [Array.size_extract]
    omega

/-- What a source feeds does not change while files are written. -/
theorem Feeds.of_changedAt {next : FileStore} (h : source.Feeds store written bytes failure)
    (changed : FileStore.ChangedAt written next store) :
    source.Feeds next written bytes failure := by
  cases source with
  | stream input => exact h
  | file reader => exact ⟨h.1, h.2.of_changedAt changed⟩
  | memory reader => exact h

end Source

end Nv12Jpeg
