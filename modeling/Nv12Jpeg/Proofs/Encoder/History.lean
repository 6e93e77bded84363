import Nv12Jpeg.Proofs.Bitstream
import Nv12Jpeg.Proofs.Encoder.Cpu

/-!
# Histories of the software encoder

An application works on an encoder, a pool of surfaces and an output buffer, with operations in
any order: it may submit a surface and overwrite it, collect results in another order than that of
the submissions, close the encoder and initialize it again. Its *history* tells which submissions
were queued, which results were collected and when the encoder was closed.

* `Application.perform` is one operation, `Application.run` a list of them;
* `Application.Sound` — the encoder owes what its history says, and each sync point was issued at
  most once; `Sound.perform` is the step, `Sound.run` the run;
* `sync_yields_its_frame_once` — a sync point yields the file of its own surface, once.
-/

namespace Nv12Jpeg

/-- What an application works on. -/
structure Application where
  cpu : CpuEncoder
  pool : SurfacePool
  poolNumber : Nat
  bitstream : Bitstream

/-- What an application does. -/
inductive Operation where
  | attach (accelerator : Accelerator)
  | query (params : EncodeParams)
  | init (params : EncodeParams)
  | surfaceRequest (params : EncodeParams)
  | currentParams
  | reset (params : EncodeParams)
  /-- Submits a surface of the pool. -/
  | submit (index : Nat)
  | flush
  | sync (sync : SyncPoint) (waitMs : Nat)
  | close
  /-- Puts other bytes into a surface of the pool. -/
  | overwrite (index start : Nat) (payload : Bytes)
  /-- Allocates another pool in place of the one there is. -/
  | allocate (info : FrameInfo) (count : UInt16)
  /-- Takes another output buffer, or the same one with other contents. -/
  | replace (bitstream : Bitstream)

/-- An entry of a history. -/
inductive Mark where
  /-- A surface was queued, as it was then, with the quality in force. -/
  | submitted (sync : SyncPoint) (surface : Surface) (quality : UInt16)
  /-- The result was collected, or dropped for want of room. -/
  | completed (sync : SyncPoint)
  | closed
  deriving DecidableEq

namespace Application

/-- An application with an encoder that was not initialized. -/
def start (reportsResults : Bool) (schedule : List Occasion) (pool : SurfacePool)
    (bitstream : Bitstream) : Application where
  cpu := .new reportsResults schedule
  pool := pool
  poolNumber := 0
  bitstream := bitstream

/-- Books what comes of a call, with what it leaves in the history. A fault ends the run. -/
def book {α : Type} (application : Application) (answer : Answer CpuEncoder α)
    (marks : Except EncoderError α → List Mark) : Except Fault (Application × List Mark) :=
  let next := { application with
    cpu := answer.state
    pool := answer.locks.foldl (LockChange.apply application.poolNumber) application.pool }
  match answer.reply with
  | .ok value => .ok (next, marks (.ok value))
  | .error (.error error) => .ok (next, marks (.error error))
  | .error (.fault fault) => .error fault

/-- The history of a call that leaves nothing in it. -/
def unmarked {α : Type} (_ : Except EncoderError α) : List Mark := []

/-- The history of a submission to an encoder with these parameters in force. -/
def submitMarks (surface : Surface) (params : Option EncodeParams) :
    Except EncoderError SubmitStatus → List Mark
  | .ok (.queued (some sync)) =>
    match params with
    | some params => [.submitted sync surface params.quality]
    | none => []
  | _ => []

/-- The history of an attempt at collecting a result. -/
def syncMarks (sync : SyncPoint) : Except EncoderError SyncStatus → List Mark
  | .ok .done | .error (.notEnoughBuffer _ _) => [.completed sync]
  | _ => []

/-- Does one thing. -/
def perform (application : Application) : Operation → Except Fault (Application × List Mark)
  | .attach accelerator =>
    application.book (CpuEncoder.encoder.attach accelerator application.cpu) unmarked
  | .query params => application.book (application.cpu.query params) unmarked
  | .init params => application.book (application.cpu.init params) unmarked
  | .surfaceRequest params => application.book (application.cpu.surfaceRequest params) unmarked
  | .currentParams => application.book application.cpu.currentParams unmarked
  | .reset params => application.book (application.cpu.reset params) unmarked
  | .submit index =>
    match application.pool.surface? index with
    | none => .ok (application, [])
    | some surface =>
      application.book
        (application.cpu.submit (some ⟨⟨application.poolNumber, index⟩, surface⟩))
        (submitMarks surface application.cpu.params)
  | .flush => application.book (application.cpu.submit none) unmarked
  | .sync sync waitMs =>
    let (answer, bitstream) := application.cpu.sync sync waitMs application.bitstream
    { application with bitstream }.book answer (syncMarks sync)
  | .close => application.book application.cpu.close fun _ => [.closed]
  | .overwrite index start payload => do
    let pool ← application.pool.overwrite index start payload
    return ({ application with pool }, [])
  | .allocate info count =>
    .ok ({ application with
      pool := .allocate info count
      poolNumber := application.poolNumber + 1 }, [])
  | .replace bitstream => .ok ({ application with bitstream }, [])

/-- Does one thing after the other; the history is told oldest first. -/
def run (application : Application) : List Operation → Except Fault (Application × List Mark)
  | [] => .ok (application, [])
  | operation :: operations => do
    let (application, marks) ← application.perform operation
    let (application, later) ← application.run operations
    return (application, marks ++ later)

end Application

/-! ## What a history leaves -/

namespace Mark

/-- What is owed after an entry. -/
def apply (owed : List Owed) : Mark → List Owed
  | submitted sync surface quality => ⟨sync, surface, quality⟩ :: owed
  | completed sync => owed.filter fun o => o.sync ≠ sync
  | closed => []

/-- What is owed after a history. -/
def owedAfter (marks : List Mark) : List Owed := marks.foldl apply []

/-- The sync point that an entry tells of. -/
def issued? : Mark → Option SyncPoint
  | submitted sync _ _ => some sync
  | completed _ | closed => none

/-- The sync points of the submissions of a history. -/
def issued (marks : List Mark) : List SyncPoint := marks.filterMap issued?

theorem issued_append (marks later : List Mark) :
    issued (marks ++ later) = issued marks ++ issued later := List.filterMap_append

theorem mem_issued {sync : SyncPoint} {surface : Surface} {quality : UInt16} {marks : List Mark}
    (h : submitted sync surface quality ∈ marks) : sync ∈ issued marks :=
  List.mem_filterMap.2 ⟨_, h, rfl⟩

/-- What is owed was submitted or owed before. -/
theorem mem_foldl_apply {sync : SyncPoint} {marks : List Mark} {owed : List Owed}
    (h : sync ∈ (marks.foldl apply owed).map Owed.sync) :
    sync ∈ owed.map Owed.sync ∨ sync ∈ issued marks := by
  induction marks generalizing owed with
  | nil => exact .inl h
  | cons mark marks ih =>
    obtain earlier | later := ih h
    · cases mark with
      | submitted sync' surface quality =>
        obtain rfl | earlier := List.mem_cons.1 earlier
        · exact .inr (mem_issued List.mem_cons_self)
        · exact .inl earlier
      | completed sync' =>
        obtain ⟨o, o_mem, rfl⟩ := List.mem_map.1 earlier
        exact .inl (List.mem_map_of_mem (List.mem_filter.1 o_mem).1)
      | closed => cases earlier
    · refine .inr ?_
      rw [show mark :: marks = [mark] ++ marks from rfl, issued_append]
      exact List.mem_append_right _ later

/-- What is owed stays so until it is completed or the encoder is closed. -/
theorem mem_foldl_apply_of_not_mem {o : Owed} {marks : List Mark} {owed : List Owed}
    (h : o ∈ owed) (open_ : closed ∉ marks) (uncollected : completed o.sync ∉ marks) :
    o ∈ marks.foldl apply owed := by
  induction marks generalizing owed with
  | nil => exact h
  | cons mark marks ih =>
    rw [List.mem_cons, not_or] at open_ uncollected
    refine ih ?_ open_.2 uncollected.2
    cases mark with
    | submitted sync surface quality => exact List.mem_cons_of_mem _ h
    | completed sync =>
      refine List.mem_filter.2 ⟨h, ?_⟩
      rw [decide_eq_true_eq]
      intro same
      exact uncollected.1 (by rw [same])
    | closed => exact absurd rfl open_.1

@[simp] theorem owedAfter_append (marks : List Mark) (mark : Mark) :
    owedAfter (marks ++ [mark]) = mark.apply (owedAfter marks) := by
  rw [owedAfter, List.foldl_append]
  rfl

/-- What is owed was submitted. -/
theorem mem_issued_of_mem_owedAfter {sync : SyncPoint} {marks : List Mark}
    (h : sync ∈ (owedAfter marks).map Owed.sync) : sync ∈ issued marks := by
  obtain earlier | submitted := mem_foldl_apply h
  · cases earlier
  · exact submitted

end Mark

/-! ## The invariant -/

namespace Application

/-- The encoder owes what its history says. Each sync point was issued once at most, and the next
one was not; a result that was collected is not owed any more. -/
structure Sound (application : Application) (marks : List Mark) : Prop where
  owes : application.cpu.Owes (Mark.owedAfter marks)
  issued_once : (Mark.issued marks).Nodup
  issued_below : ∀ sync ∈ Mark.issued marks, sync.number < application.cpu.nextSync
  settled : ∀ sync, .completed sync ∈ marks →
    sync ∈ Mark.issued marks ∧ sync ∉ (Mark.owedAfter marks).map Owed.sync

theorem sound_start (reportsResults : Bool) (schedule : List Occasion) (pool : SurfacePool)
    (bitstream : Bitstream) : (start reportsResults schedule pool bitstream).Sound [] where
  owes := CpuEncoder.owes_new reportsResults schedule
  issued_once := List.nodup_nil
  issued_below := fun _ mem => absurd mem List.not_mem_nil
  settled := fun _ mem => absurd mem List.not_mem_nil

/-- What booking an answer leaves, if it is not a fault. -/
theorem book_eq_ok {α : Type} {application next : Application} {answer : Answer CpuEncoder α}
    {marks : Except EncoderError α → List Mark} {added : List Mark}
    (h : application.book answer marks = .ok (next, added)) :
    next.cpu = answer.state ∧ ∃ reply, answer.reply = .ofError reply ∧ added = marks reply := by
  unfold book at h
  obtain ⟨reply, state, events, locks⟩ := answer
  cases reply with
  | ok value =>
    cases h
    exact ⟨rfl, .ok value, rfl, rfl⟩
  | error failure =>
    cases failure with
    | error error =>
      cases h
      exact ⟨rfl, .error error, rfl, rfl⟩
    | fault fault => cases h

namespace Sound

variable {application next : Application} {marks added : List Mark}

/-- What leaves nothing in the history. -/
theorem unmarked (h : application.Sound marks) (owes : next.cpu.Owes (Mark.owedAfter marks))
    (same : next.cpu.nextSync = application.cpu.nextSync) : next.Sound (marks ++ []) := by
  rw [List.append_nil]
  refine ⟨owes, h.issued_once, ?_, h.settled⟩
  rw [same]
  exact h.issued_below

/-- A submission that is queued. -/
theorem submitted (h : application.Sound marks) {surface : Surface} {quality : UInt16}
    (owes : next.cpu.Owes (⟨⟨application.cpu.nextSync⟩, surface, quality⟩ :: Mark.owedAfter marks))
    (later : next.cpu.nextSync = application.cpu.nextSync + 1) :
    next.Sound (marks ++ [.submitted ⟨application.cpu.nextSync⟩ surface quality]) := by
  have fresh : (⟨application.cpu.nextSync⟩ : SyncPoint) ∉ Mark.issued marks := fun mem =>
    Nat.lt_irrefl _ (h.issued_below _ mem)
  have issued_eq : Mark.issued
      (marks ++ [.submitted ⟨application.cpu.nextSync⟩ surface quality])
        = Mark.issued marks ++ [⟨application.cpu.nextSync⟩] := Mark.issued_append _ _
  refine ⟨by rw [Mark.owedAfter_append]; exact owes, ?_, ?_, ?_⟩
  · rw [issued_eq]
    refine List.nodup_append.2 ⟨h.issued_once, List.nodup_singleton _, ?_⟩
    rintro sync mem sync' mem' rfl
    rw [List.mem_singleton.1 mem'] at mem
    exact fresh mem
  · intro sync mem
    rw [issued_eq, List.mem_append, List.mem_singleton] at mem
    rw [later]
    obtain mem | rfl := mem
    · exact Nat.lt_succ_of_lt (h.issued_below sync mem)
    · exact Nat.lt_succ_self _
  · intro sync mem
    obtain ⟨issued, unowed⟩ := h.settled sync (by simpa using mem)
    rw [issued_eq, Mark.owedAfter_append]
    refine ⟨List.mem_append_left _ issued, fun mem => ?_⟩
    obtain rfl | mem := List.mem_cons.1 mem
    · exact fresh issued
    · exact unowed mem

/-- A result that is collected. -/
theorem completed (h : application.Sound marks) {o : Owed} (o_mem : o ∈ Mark.owedAfter marks)
    (owes : next.cpu.Owes ((Mark.owedAfter marks).filter fun o' => o'.sync ≠ o.sync))
    (same : next.cpu.nextSync = application.cpu.nextSync) :
    next.Sound (marks ++ [.completed o.sync]) := by
  have issued_eq : Mark.issued (marks ++ [.completed o.sync]) = Mark.issued marks := by
    rw [Mark.issued_append]
    exact List.append_nil _
  refine ⟨by rw [Mark.owedAfter_append]; exact owes, ?_, ?_, ?_⟩
  · rw [issued_eq]
    exact h.issued_once
  · rw [issued_eq, same]
    exact h.issued_below
  · intro sync mem
    rw [issued_eq, Mark.owedAfter_append]
    obtain mem | mem := List.mem_append.1 mem
    · obtain ⟨issued, unowed⟩ := h.settled sync mem
      refine ⟨issued, fun mem => unowed ?_⟩
      exact (List.filter_sublist.map Owed.sync).subset mem
    · cases List.mem_singleton.1 mem
      refine ⟨Mark.mem_issued_of_mem_owedAfter (List.mem_map_of_mem o_mem), fun mem => ?_⟩
      obtain ⟨o', o'_mem, sync_eq⟩ := List.mem_map.1 mem
      have := (List.mem_filter.1 o'_mem).2
      simp [sync_eq] at this

/-- The encoder is closed. -/
theorem closed (h : application.Sound marks) (owes : next.cpu.Owes [])
    (same : next.cpu.nextSync = application.cpu.nextSync) : next.Sound (marks ++ [.closed]) := by
  have issued_eq : Mark.issued (marks ++ [.closed]) = Mark.issued marks := by
    rw [Mark.issued_append]
    exact List.append_nil _
  refine ⟨by rw [Mark.owedAfter_append]; exact owes, ?_, ?_, ?_⟩
  · rw [issued_eq]
    exact h.issued_once
  · rw [issued_eq, same]
    exact h.issued_below
  · intro sync mem
    rw [issued_eq, Mark.owedAfter_append]
    exact ⟨(h.settled sync (by simpa using mem)).1, List.not_mem_nil⟩

/-- An attempt at collecting a result. -/
theorem synced (h : application.Sound marks) {sync : SyncPoint} {waitMs : Nat}
    (done : application.perform (.sync sync waitMs) = .ok (next, added)) :
    next.Sound (marks ++ added) := by
  change ({ application with
      bitstream := (application.cpu.sync sync waitMs application.bitstream).2 } : Application).book
    (application.cpu.sync sync waitMs application.bitstream).1 (syncMarks sync) = _ at done
  obtain ⟨cpu_eq, reply, reply_eq, rfl⟩ := book_eq_ok done
  by_cases owed : sync ∈ (Mark.owedAfter marks).map Owed.sync
  · obtain ⟨o, o_mem, rfl⟩ := List.mem_map.1 owed
    obtain ⟨file, _, ⟨_, stopped⟩ | ⟨attempted, _, unfinished, _⟩ | ⟨attempted, outcome⟩⟩ :=
      h.owes.sync_cases o_mem waitMs application.bitstream
    · rw [stopped] at reply_eq
      cases reply <;> cases reply_eq
    · rw [unfinished] at reply_eq
      cases reply with
      | error error => cases reply_eq
      | ok status =>
        cases reply_eq
        exact h.unmarked (cpu_eq ▸ attempted.owes) (cpu_eq ▸ attempted.nextSync_eq)
    · have collected : syncMarks o.sync reply = [.completed o.sync] := by
        rw [reply_eq] at outcome
        obtain ⟨_, appended, append_eq, _⟩ | ⟨_, append_eq⟩ :=
          application.bitstream.append_cases file
        · rw [append_eq] at outcome
          cases reply <;> cases congrArg Prod.fst outcome
          rfl
        · rw [append_eq] at outcome
          cases reply <;> cases congrArg Prod.fst outcome
          rfl
      rw [collected]
      exact h.completed o_mem (cpu_eq ▸ attempted.owes) (cpu_eq ▸ attempted.nextSync_eq)
  · rw [h.owes.sync_unknown owed] at cpu_eq reply_eq
    cases reply with
    | ok status => cases reply_eq
    | error error =>
      cases reply_eq
      exact h.unmarked (cpu_eq ▸ h.owes) (by rw [cpu_eq]; rfl)

/-- A call that leaves nothing in the history. -/
theorem booked {α : Type} (h : application.Sound marks) {answer : Answer CpuEncoder α}
    (owes : answer.state.Owes (Mark.owedAfter marks))
    (same : answer.state.nextSync = application.cpu.nextSync)
    (done : application.book answer Application.unmarked = .ok (next, added)) :
    next.Sound (marks ++ added) := by
  obtain ⟨cpu_eq, _, _, rfl⟩ := book_eq_ok done
  exact h.unmarked (cpu_eq ▸ owes) (by rw [cpu_eq, same])

/-- A call that changes nothing in the encoder. -/
theorem asked {α : Type} (h : application.Sound marks) {answer : Answer CpuEncoder α}
    (unchanged : answer.state = application.cpu)
    (done : application.book answer Application.unmarked = .ok (next, added)) :
    next.Sound (marks ++ added) :=
  h.booked (unchanged ▸ h.owes) (by rw [unchanged]) done

/-- A surface that is offered may be queued or not. -/
theorem offered (h : application.Sound marks) {index : Nat}
    (done : application.perform (.submit index) = .ok (next, added)) :
    next.Sound (marks ++ added) := by
  simp only [Application.perform] at done
  cases found : application.pool.surface? index with
  | none =>
    rw [found] at done
    cases done
    exact h.unmarked h.owes rfl
  | some surface =>
    rw [found] at done
    obtain ⟨cpu_eq, reply, reply_eq, rfl⟩ := book_eq_ok done
    obtain ⟨params, params_eq, queued⟩ | ⟨error, answer_eq⟩ | ⟨fault, credits, _, answer_eq⟩ :=
      h.owes.submit_cases ⟨⟨application.poolNumber, index⟩, surface⟩
    · rw [queued.reply_eq] at reply_eq
      cases reply with
      | error error => cases reply_eq
      | ok status =>
        cases reply_eq
        rw [params_eq]
        exact h.submitted (cpu_eq ▸ queued.owes) (cpu_eq ▸ queued.nextSync_eq)
    · rw [answer_eq] at cpu_eq reply_eq
      cases reply with
      | ok status => cases reply_eq
      | error error => exact h.unmarked (cpu_eq ▸ h.owes) (by rw [cpu_eq]; rfl)
    · rw [answer_eq] at reply_eq
      cases reply <;> cases reply_eq

/-- One operation keeps the encoder to its history. -/
theorem perform (h : application.Sound marks) {operation : Operation}
    (done : application.perform operation = .ok (next, added)) : next.Sound (marks ++ added) := by
  cases operation with
  | attach accelerator =>
    rw [Application.perform] at done
    exact h.asked rfl done
  | query params => exact h.asked (CpuEncoder.state_query _ params) done
  | init params => exact h.booked (h.owes.init params) (CpuEncoder.nextSync_init _ params) done
  | surfaceRequest params => exact h.asked (CpuEncoder.state_surfaceRequest _ params) done
  | currentParams => exact h.asked (CpuEncoder.state_currentParams _) done
  | reset params => exact h.booked (h.owes.reset params) (CpuEncoder.nextSync_reset _ params) done
  | submit index => exact h.offered done
  | flush => exact h.asked (CpuEncoder.state_submit_none _) done
  | sync sync waitMs => exact h.synced done
  | close =>
    rw [Application.perform] at done
    obtain ⟨cpu_eq, _, _, rfl⟩ := book_eq_ok done
    exact h.closed (cpu_eq ▸ CpuEncoder.owes_close _) (by rw [cpu_eq]; rfl)
  | overwrite index start payload =>
    obtain ⟨pool, _, done⟩ := bind_eq_ok.1 done
    cases done
    exact h.unmarked h.owes rfl
  | allocate info count =>
    cases done
    exact h.unmarked h.owes rfl
  | replace bitstream =>
    cases done
    exact h.unmarked h.owes rfl

/-- So does a list of them. -/
theorem run (h : application.Sound marks) {operations : List Operation}
    (done : application.run operations = .ok (next, added)) : next.Sound (marks ++ added) := by
  induction operations generalizing application marks added with
  | nil =>
    cases done
    rw [List.append_nil]
    exact h
  | cons operation operations ih =>
    obtain ⟨⟨middle, marks'⟩, first, done⟩ := bind_eq_ok.1 done
    obtain ⟨⟨last, later⟩, others, done⟩ := bind_eq_ok.1 done
    cases done
    rw [← List.append_assoc]
    exact ih (h.perform first) others

end Sound

end Application

/-! ## The result -/

/-- What was submitted before the encoder was closed, or collected, is not owed any more. -/
theorem Application.Sound.not_mem_of_gone {application : Application} {marks : List Mark}
    (h : application.Sound marks) {sync : SyncPoint}
    (gone : .completed sync ∈ marks ∨
      (∀ surface quality, .submitted sync surface quality ∉ marks) ∨
      ∃ surface quality earlier later, marks = earlier ++ .closed :: later ∧
        .submitted sync surface quality ∈ earlier) :
    sync ∉ (Mark.owedAfter marks).map Owed.sync := by
  obtain collected | never | ⟨surface, quality, earlier, later, rfl, submitted⟩ := gone
  · exact (h.settled sync collected).2
  · intro owed
    obtain ⟨mark, mark_mem, issued⟩ :=
      List.mem_filterMap.1 (Mark.mem_issued_of_mem_owedAfter owed)
    cases mark with
    | submitted sync' surface quality =>
      cases issued
      exact never surface quality mark_mem
    | completed sync' => cases issued
    | closed => cases issued
  · -- What is owed after the encoder was closed was issued after that.
    intro owed
    have emptied : Mark.owedAfter (earlier ++ .closed :: later) = later.foldl Mark.apply [] := by
      rw [Mark.owedAfter, List.foldl_append]
      rfl
    rw [emptied] at owed
    obtain none | again := Mark.mem_foldl_apply owed
    · cases none
    · have once := h.issued_once
      rw [Mark.issued_append, List.nodup_append] at once
      exact once.2.2 sync (Mark.mem_issued submitted) sync again rfl

/-- A sync point yields the file of its own surface, as that was when it was submitted and at the
quality in force then, and it does so once. As long as it was neither collected nor lost by
closing, an attempt at collecting its result appends that file to the output buffer and nothing
else, or drops it for want of room, or finds that it is not there yet, which happens only while
the worker is behind; or else the clock cannot tell the end of the wait, and nothing changes. Any
other attempt is refused and changes nothing. -/
theorem sync_yields_its_frame_once {reportsResults : Bool} {schedule : List Occasion}
    {pool : SurfacePool} {bitstream : Bitstream} {operations : List Operation}
    {application : Application} {marks : List Mark}
    (history : (Application.start reportsResults schedule pool bitstream).run operations
      = .ok (application, marks)) (sync : SyncPoint) (waitMs : Nat) :
    (∀ surface quality earlier later, marks = earlier ++ .submitted sync surface quality :: later →
      .completed sync ∉ later → .closed ∉ later →
      ∃ file, surface.toJpeg quality = .ok file ∧
        ∀ answer next, application.cpu.sync sync waitMs application.bitstream = (answer, next) →
          (answer.reply = .ok .done ∧ next.bytes = application.bitstream.bytes ++ file ∧
            next.capacity = application.bitstream.capacity) ∨
          (answer.reply = .fail (.notEnoughBuffer file.size application.bitstream.available) ∧
            application.bitstream.available < file.size ∧ next = application.bitstream) ∨
          (answer.reply = .ok .inExecution ∧ application.cpu.schedule ≠ [] ∧
            next = application.bitstream) ∨
          (¬ Clock.Covers waitMs ∧
            answer = .quiet (.error (.fault .noDeadline)) application.cpu ∧
            next = application.bitstream)) ∧
    ((.completed sync ∈ marks ∨
        (∀ surface quality, .submitted sync surface quality ∉ marks) ∨
        ∃ surface quality earlier later, marks = earlier ++ .closed :: later ∧
          .submitted sync surface quality ∈ earlier) →
      application.cpu.sync sync waitMs application.bitstream
        = (.refused (.invalidInput s!"unknown sync point {sync.text}") application.cpu,
          application.bitstream)) := by
  have sound := (Application.sound_start reportsResults schedule pool bitstream).run history
  rw [List.nil_append] at sound
  refine ⟨?_, fun gone => sound.owes.sync_unknown (sound.not_mem_of_gone gone) _ _⟩
  rintro surface quality earlier later rfl uncollected unclosed
  have owed : (⟨sync, surface, quality⟩ : Owed)
      ∈ Mark.owedAfter (earlier ++ .submitted sync surface quality :: later) := by
    rw [Mark.owedAfter, List.foldl_append, List.foldl_cons]
    exact Mark.mem_foldl_apply_of_not_mem List.mem_cons_self unclosed uncollected
  obtain ⟨file, file_ok, outcome⟩ := sound.owes.sync_cases owed waitMs application.bitstream
  refine ⟨file, file_ok, fun answer next synced => ?_⟩
  rw [synced] at outcome
  obtain ⟨uncovered, stopped⟩ | ⟨attempted, waiting, unfinished, unchanged⟩ | ⟨_, outcome⟩ :=
    outcome
  · obtain ⟨rfl, rfl⟩ := Prod.mk.inj stopped
    exact .inr (.inr (.inr ⟨uncovered, rfl, rfl⟩))
  · refine .inr (.inr (.inl ⟨unfinished, fun up => waiting ?_, unchanged⟩))
    rw [attempted.pending_eq, CpuEncoder.nextJobs, CpuEncoder.nextOccasion, up, List.headD_nil,
      List.drop_length]
  · obtain ⟨_, appended, append_eq, bytes_eq, capacity_eq⟩ | ⟨full, append_eq⟩ :=
      application.bitstream.append_cases file
    · rw [append_eq] at outcome
      obtain ⟨reply_eq, rfl⟩ := Prod.mk.inj outcome
      exact .inl ⟨reply_eq, bytes_eq, capacity_eq⟩
    · rw [append_eq] at outcome
      obtain ⟨reply_eq, unchanged⟩ := Prod.mk.inj outcome
      exact .inr (.inl ⟨reply_eq, full, unchanged⟩)

/-- A surface is overwritten and submitted again, at another quality, before the first result is
collected: then the first sync point yields nothing more, and the second one the second file. -/
theorem sync_yields_its_frame_once_of_two :
    ∃ application : Application, ∃ file,
      (Application.start false [⟨1, 0⟩] (.allocate ⟨⟨25, 1⟩, 0, 0, 1, 1, 2, 2⟩ 1) (.empty 2000)).run
          [.init { EncodeParams.jpeg 1 1 25 90 with asyncDepth := 2 }, .submit 0,
            .overwrite 0 0 #[200], .reset { EncodeParams.jpeg 1 1 25 50 with asyncDepth := 2 },
            .submit 0, .sync ⟨1⟩ 100]
        = .ok (application, [
          .submitted ⟨1⟩ ⟨⟨⟨25, 1⟩, 0, 0, 1, 1, 2, 2⟩, #[0, 0, 0, 0, 0, 0]⟩ 90,
          .submitted ⟨2⟩ ⟨⟨⟨25, 1⟩, 0, 0, 1, 1, 2, 2⟩, #[200, 0, 0, 0, 0, 0]⟩ 50,
          .completed ⟨1⟩]) ∧
      Surface.toJpeg ⟨⟨⟨25, 1⟩, 0, 0, 1, 1, 2, 2⟩, #[200, 0, 0, 0, 0, 0]⟩ 50 = .ok file ∧
      (∃ next, (application.cpu.sync ⟨2⟩ 100 application.bitstream).1.reply = .ok .done ∧
        (application.cpu.sync ⟨2⟩ 100 application.bitstream).2 = next ∧
        next.bytes = application.bitstream.bytes ++ file) ∧
      application.cpu.sync ⟨1⟩ 100 application.bitstream
        = (.refused (.invalidInput "unknown sync point sync#1") application.cpu,
          application.bitstream) := by
  have told : ((Application.start false [⟨1, 0⟩] (.allocate ⟨⟨25, 1⟩, 0, 0, 1, 1, 2, 2⟩ 1)
      (.empty 2000)).run [
        .init { EncodeParams.jpeg 1 1 25 90 with asyncDepth := 2 }, .submit 0,
        .overwrite 0 0 #[200], .reset { EncodeParams.jpeg 1 1 25 50 with asyncDepth := 2 },
        .submit 0, .sync ⟨1⟩ 100]).map (fun result =>
          ((result.1.cpu.sync ⟨2⟩ 100 result.1.bitstream).1.reply, result.2)) = .ok (.ok .done, [
          .submitted ⟨1⟩ ⟨⟨⟨25, 1⟩, 0, 0, 1, 1, 2, 2⟩, #[0, 0, 0, 0, 0, 0]⟩ 90,
          .submitted ⟨2⟩ ⟨⟨⟨25, 1⟩, 0, 0, 1, 1, 2, 2⟩, #[200, 0, 0, 0, 0, 0]⟩ 50,
          .completed ⟨1⟩]) := by
    decide +kernel
  generalize history : Application.run _ _ = result at told
  cases result with
  | error fault => cases told
  | ok result =>
    obtain ⟨application, marks⟩ := result
    obtain ⟨done, rfl⟩ := Prod.mk.inj (Except.ok.inj told)
    obtain ⟨file, file_ok, outcome⟩ := (sync_yields_its_frame_once history ⟨2⟩ 100).1 _ _
      [_] [_] rfl (by decide) (by decide)
    have refused := (sync_yields_its_frame_once history ⟨1⟩ 100).2 (.inl (by decide))
    refine ⟨application, file, rfl, file_ok, ⟨_, done, rfl, ?_⟩, refused⟩
    obtain ⟨_, bytes_eq, _⟩ | ⟨reply_eq, _⟩ | ⟨reply_eq, _⟩ | ⟨uncovered, _⟩ := outcome _ _ rfl
    · exact bytes_eq
    · cases done.symm.trans reply_eq
    · cases done.symm.trans reply_eq
    · exact absurd (by decide) uncovered

end Nv12Jpeg
