import Nv12Jpeg.CommandLine.Request
import Nv12Jpeg.Fault
import Nv12Jpeg.Proofs.CommandLine.PictureSize
import Nv12Jpeg.Proofs.CommandLine.Spelling

/-!
# The options that arguments ask for

Each option of the encoder is what the arguments set it to, or as usual, and no option that is set
is passed over.

* `Tells` — what arguments tell of an option: the value of the only text it is set to, or nothing;
* `Flag.KeptIn` — the field in which the value of an option is kept, and `Flag.KeptIn.tells`, that
  the field has what the arguments tell;
* `AsksFor` — the encode options that arguments ask for, and `asksFor_of_ofArguments`, that these
  are the ones that come of them;
* `WellFormed` — options within their bounds, and `AsksFor.wellFormed`;
* `ResetAsTold` — a change of the picture size that is made of all that arguments say of one.
-/

namespace Nv12Jpeg.CommandLine

/-! ## Fields -/

/-- A field that is set to what is read. -/
theorem set_eq_ok {α : Type} {reading : Except UsageError α} {set : α → Given} {next : Given}
    {field : Given → Option α} (put : (do return set (← reading)) = .ok next)
    (kept : ∀ result, field (set result) = some result) :
    ∃ result, reading = .ok result ∧ field next = some result := by
  obtain ⟨result, read, same⟩ := bind_eq_ok.1 put
  cases same
  exact ⟨result, read, kept result⟩

/-- What is set agrees but for one option. -/
structure Given.SameBut (flag : Flag) (given next : Given) : Prop where
  input : flag ≠ .input → next.input = given.input
  width : flag ≠ .width → next.width = given.width
  height : flag ≠ .height → next.height = given.height
  frameRate : flag ≠ .frameRate → next.frameRate = given.frameRate
  quality : flag ≠ .quality → next.quality = given.quality
  outputDir : flag ≠ .outputDir → next.outputDir = given.outputDir
  backend : flag ≠ .backend → next.backend = given.backend
  maxFrames : flag ≠ .maxFrames → next.maxFrames = given.maxFrames
  resetAfter : flag ≠ .resetAfter → next.resetAfter = given.resetAfter
  resetSize : flag ≠ .resetSize → next.resetSize = given.resetSize
  resetInput : flag ≠ .resetInput → next.resetInput = given.resetInput
  bitstreamSize : flag ≠ .bitstreamSize → next.bitstreamSize = given.bitstreamSize
  syncWait : flag ≠ .syncWait → next.syncWait = given.syncWait
  syncAttempts : flag ≠ .syncAttempts → next.syncAttempts = given.syncAttempts

/-- Setting an option changes no other one. -/
theorem Given.put_sameBut {flag : Flag} {given next : Given} {value : String}
    (put : given.put flag value = .ok next) : SameBut flag given next := by
  cases flag with
  | verbose => cases put
  | help => cases put
  | _ =>
    obtain ⟨result, _, same⟩ := bind_eq_ok.1 put
    cases same
    constructor <;> intro other <;> first | rfl | exact absurd rfl other

/-- The field in which the value of an option is kept, and how it is read. -/
structure Flag.KeptIn (flag : Flag) {α : Type} (read : String → Except UsageError α)
    (field : Given → Option α) : Prop where
  takes : flag.takesValue = true
  unset : field .nothing = none
  has_eq : ∀ given, given.has flag = (field given).isSome
  put_self : ∀ {given next : Given} {value : String}, given.put flag value = .ok next →
    ∃ result, read value = .ok result ∧ field next = some result
  put_other : ∀ {given next : Given} {other : Flag} {value : String}, other ≠ flag →
    given.put other value = .ok next → field next = field given
  verbosity : ∀ (given : Given) (count : Nat), field { given with verbosity := count } = field given

namespace Flag

theorem keptIn_input : KeptIn input input.readPath Given.input :=
  ⟨rfl, rfl, fun _ => rfl, fun put => set_eq_ok put fun _ => rfl,
    fun other put => (Given.put_sameBut put).input other, fun _ _ => rfl⟩

theorem keptIn_width : KeptIn width (width.readWord16 1) Given.width :=
  ⟨rfl, rfl, fun _ => rfl, fun put => set_eq_ok put fun _ => rfl,
    fun other put => (Given.put_sameBut put).width other, fun _ _ => rfl⟩

theorem keptIn_height : KeptIn height (height.readWord16 1) Given.height :=
  ⟨rfl, rfl, fun _ => rfl, fun put => set_eq_ok put fun _ => rfl,
    fun other put => (Given.put_sameBut put).height other, fun _ _ => rfl⟩

theorem keptIn_frameRate : KeptIn frameRate (frameRate.readWord32 1) Given.frameRate :=
  ⟨rfl, rfl, fun _ => rfl, fun put => set_eq_ok put fun _ => rfl,
    fun other put => (Given.put_sameBut put).frameRate other, fun _ _ => rfl⟩

theorem keptIn_quality : KeptIn quality (quality.readWord16 0) Given.quality :=
  ⟨rfl, rfl, fun _ => rfl, fun put => set_eq_ok put fun _ => rfl,
    fun other put => (Given.put_sameBut put).quality other, fun _ _ => rfl⟩

theorem keptIn_outputDir : KeptIn outputDir outputDir.readPath Given.outputDir :=
  ⟨rfl, rfl, fun _ => rfl, fun put => set_eq_ok put fun _ => rfl,
    fun other put => (Given.put_sameBut put).outputDir other, fun _ _ => rfl⟩

theorem keptIn_backend : KeptIn backend backend.readChoice Given.backend :=
  ⟨rfl, rfl, fun _ => rfl, fun put => set_eq_ok put fun _ => rfl,
    fun other put => (Given.put_sameBut put).backend other, fun _ _ => rfl⟩

theorem keptIn_maxFrames : KeptIn maxFrames (maxFrames.readWord32 0) Given.maxFrames :=
  ⟨rfl, rfl, fun _ => rfl, fun put => set_eq_ok put fun _ => rfl,
    fun other put => (Given.put_sameBut put).maxFrames other, fun _ _ => rfl⟩

theorem keptIn_resetAfter : KeptIn resetAfter (resetAfter.readWord32 1) Given.resetAfter :=
  ⟨rfl, rfl, fun _ => rfl, fun put => set_eq_ok put fun _ => rfl,
    fun other put => (Given.put_sameBut put).resetAfter other, fun _ _ => rfl⟩

theorem keptIn_resetSize : KeptIn resetSize resetSize.readPictureSize Given.resetSize :=
  ⟨rfl, rfl, fun _ => rfl, fun put => set_eq_ok put fun _ => rfl,
    fun other put => (Given.put_sameBut put).resetSize other, fun _ _ => rfl⟩

theorem keptIn_resetInput : KeptIn resetInput resetInput.readPath Given.resetInput :=
  ⟨rfl, rfl, fun _ => rfl, fun put => set_eq_ok put fun _ => rfl,
    fun other put => (Given.put_sameBut put).resetInput other, fun _ _ => rfl⟩

theorem keptIn_bitstreamSize :
    KeptIn bitstreamSize bitstreamSize.readSize Given.bitstreamSize :=
  ⟨rfl, rfl, fun _ => rfl, fun put => set_eq_ok put fun _ => rfl,
    fun other put => (Given.put_sameBut put).bitstreamSize other, fun _ _ => rfl⟩

theorem keptIn_syncWait : KeptIn syncWait syncWait.readSize Given.syncWait :=
  ⟨rfl, rfl, fun _ => rfl, fun put => set_eq_ok put fun _ => rfl,
    fun other put => (Given.put_sameBut put).syncWait other, fun _ _ => rfl⟩

theorem keptIn_syncAttempts :
    KeptIn syncAttempts (syncAttempts.readWord32 0) Given.syncAttempts :=
  ⟨rfl, rfl, fun _ => rfl, fun put => set_eq_ok put fun _ => rfl,
    fun other put => (Given.put_sameBut put).syncAttempts other, fun _ _ => rfl⟩

end Flag

/-! ## Occurrences -/

/-- Taking an occurrence into account asks for more messages, or sets an option that was not set. -/
theorem Given.take_eq_ok {given next : Given} {o : Occurrence} (taken : given.take o = .ok next) :
    (o.flag = .verbose ∧ next = { given with verbosity := given.verbosity + 1 }) ∨
    ∃ value, o.value = some value ∧ given.has o.flag = false ∧
      given.put o.flag value = .ok next := by
  unfold take at taken
  split at taken
  · rename_i verbose
    cases taken
    exact .inl ⟨verbose, rfl⟩
  · split at taken
    · cases taken
    · rename_i value some_value
      split at taken
      · cases taken
      · rename_i unset
        exact .inr ⟨value, some_value, Bool.eq_false_of_not_eq_true unset, taken⟩

/-- Where occurrences are taken into account, none of them asks for help. -/
theorem Given.ofOccurrences_cons {given last : Given} {o : Occurrence} {rest : List Occurrence}
    (done : given.ofOccurrences (o :: rest) = .ok (some last)) :
    o.flag ≠ .help ∧
      ∃ next, given.take o = .ok next ∧ next.ofOccurrences rest = .ok (some last) := by
  rw [ofOccurrences] at done
  split at done
  · cases done
  · rename_i other
    exact ⟨other, bind_eq_ok.1 done⟩

/-- Options with a value have one. -/
theorem Given.value_of_mem {given last : Given} {occurrences : List Occurrence} {o : Occurrence}
    (done : given.ofOccurrences occurrences = .ok (some last)) (mem : o ∈ occurrences)
    (takes : o.flag ≠ .verbose) : o.value ≠ none := by
  induction occurrences generalizing given with
  | nil => cases mem
  | cons first rest ih =>
    obtain ⟨_, next, taken, done⟩ := ofOccurrences_cons done
    rcases List.mem_cons.1 mem with rfl | mem
    · rcases take_eq_ok taken with ⟨verbose, _⟩ | ⟨value, some_value, _⟩
      · exact absurd verbose takes
      · rw [some_value]
        exact Option.some_ne_none value
    · exact ih done mem

/-- Help is asked for by an occurrence. -/
theorem Given.help_of_ofOccurrences {given : Given} {occurrences : List Occurrence}
    (done : given.ofOccurrences occurrences = .ok none) : ∃ o ∈ occurrences, o.flag = .help := by
  induction occurrences generalizing given with
  | nil => cases done
  | cons first rest ih =>
    rw [ofOccurrences] at done
    split at done
    · rename_i help
      exact ⟨first, List.mem_cons_self, help⟩
    · obtain ⟨next, _, done⟩ := bind_eq_ok.1 done
      obtain ⟨o, mem, help⟩ := ih done
      exact ⟨o, List.mem_cons_of_mem _ mem, help⟩

namespace Flag.KeptIn

variable {flag : Flag} {α : Type} {read : String → Except UsageError α} {field : Given → Option α}

/-- The field of an option has the value of its only occurrence, or what it had before. The
induction is on the occurrences: an option that is set does not occur again. -/
theorem field_eq (kept : flag.KeptIn read field) {given last : Given}
    {occurrences : List Occurrence} (done : given.ofOccurrences occurrences = .ok (some last)) :
    (field given = none ∧ ∃ value result,
      (∀ value', (∃ o ∈ occurrences, o.flag = flag ∧ o.value = some value') ↔ value' = value) ∧
      read value = .ok result ∧ field last = some result) ∨
    ((∀ value, ¬ ∃ o ∈ occurrences, o.flag = flag ∧ o.value = some value) ∧
      field last = field given) := by
  induction occurrences generalizing given with
  | nil =>
    cases done
    exact .inr ⟨fun _ ⟨_, mem, _⟩ => (nomatch mem), rfl⟩
  | cons o rest ih =>
    obtain ⟨_, next, taken, done⟩ := Given.ofOccurrences_cons done
    -- An occurrence of another option does not count.
    have other : o.flag ≠ flag → ∀ value,
        (∃ o' ∈ o :: rest, o'.flag = flag ∧ o'.value = some value) ↔
          ∃ o' ∈ rest, o'.flag = flag ∧ o'.value = some value := by
      intro differs value
      constructor
      · rintro ⟨o', mem, same, some_value⟩
        rcases List.mem_cons.1 mem with rfl | mem
        · exact absurd same differs
        · exact ⟨o', mem, same, some_value⟩
      · rintro ⟨o', mem, found⟩
        exact ⟨o', List.mem_cons_of_mem _ mem, found⟩
    by_cases same : o.flag = flag
    · rcases Given.take_eq_ok taken with ⟨verbose, _⟩ | ⟨value, some_value, unset, put⟩
      · rw [← same, verbose] at kept
        cases kept.takes
      rw [same] at put unset
      obtain ⟨result, read_eq, set⟩ := kept.put_self put
      rw [kept.has_eq, Option.isSome_eq_false_iff, Option.isNone_iff_eq_none] at unset
      rcases ih done with ⟨none_set, _⟩ | ⟨never, last_eq⟩
      · cases set.symm.trans none_set
      refine .inl ⟨unset, value, result, fun value' => ⟨?_, ?_⟩, read_eq, last_eq.trans set⟩
      · rintro ⟨o', mem, same', some_value'⟩
        rcases List.mem_cons.1 mem with rfl | mem
        · exact Option.some.inj (some_value'.symm.trans some_value)
        · exact absurd ⟨o', mem, same', some_value'⟩ (never value')
      · rintro rfl
        exact ⟨o, List.mem_cons_self, same, some_value⟩
    · have unchanged : field next = field given := by
        rcases Given.take_eq_ok taken with ⟨_, rfl⟩ | ⟨_, _, _, put⟩
        · exact kept.verbosity _ _
        · exact kept.put_other same put
      have later := ih done
      simp only [unchanged, ← other same] at later
      exact later

end Flag.KeptIn

/-! ## Arguments -/

/-- What arguments tell of an option: what is read from the only text that they set it to, or
nothing if they do not set it. -/
def Tells {α : Type} (arguments : List String) (flag : Flag) (read : String → Except UsageError α) :
    Option α → Prop
  | some result =>
    ∃ value, (∀ value', Sets arguments flag value' ↔ value' = value) ∧ read value = .ok result
  | none => ∀ value, ¬ Sets arguments flag value

/-- Arguments that make a request to encode, as they are read. -/
theorem given_of_ofArguments {arguments : List String} {options : EncodeOptions} {verbosity : Nat}
    (request : Request.ofArguments arguments = .ok (.encode options verbosity)) :
    ∃ given occurrences, Parsed arguments occurrences ∧
      Given.nothing.ofOccurrences occurrences = .ok (some given) ∧
      given.toOptions = .ok options := by
  unfold Request.ofArguments at request
  dsimp only at request
  split at request
  · cases request
  · cases request
  · cases request
  · rename_i given done sound
    have settled : (Reading.ofArguments arguments).settled
        = (Reading.ofArguments arguments).occurrences := by
      rw [Reading.settled, sound]
    rw [settled] at done
    cases options_eq : given.toOptions with
    | error error =>
      rw [options_eq] at request
      cases request
    | ok asked =>
      rw [options_eq] at request
      cases request
      refine ⟨given, _, parsed_ofArguments sound fun o mem apart => ?_, done, options_eq⟩
      refine Given.value_of_mem done mem fun verbose => ?_
      rcases Reading.occurrence_cases mem with rfl | ⟨rfl, _⟩ | takes
      · cases apart
      · cases apart
      · rw [verbose] at takes
        cases takes

/-- The field of an option has what the arguments tell. -/
theorem Flag.KeptIn.tells {flag : Flag} {α : Type} {read : String → Except UsageError α}
    {field : Given → Option α} (kept : flag.KeptIn read field) {arguments : List String}
    {occurrences : List Occurrence} {given : Given} (parsed : Parsed arguments occurrences)
    (done : Given.nothing.ofOccurrences occurrences = .ok (some given)) :
    Tells arguments flag read (field given) := by
  rcases kept.field_eq done with ⟨_, value, result, once, read_eq, set⟩ | ⟨never, unset⟩
  · rw [set]
    refine ⟨value, fun value' => ?_, read_eq⟩
    rw [← parsed.sets_iff kept.takes]
    exact once value'
  · rw [unset, kept.unset]
    intro value
    rw [← parsed.sets_iff kept.takes]
    exact never value

/-! ## Options -/

/-- The options that arguments ask for: each is what they set it to, or as usual. A change of the
picture size comes of all that they set of one. -/
structure AsksFor (arguments : List String) (options : EncodeOptions) : Prop where
  input : Tells arguments .input Flag.input.readPath (some options.input)
  width : Tells arguments .width (Flag.width.readWord16 1) (some options.width)
  height : Tells arguments .height (Flag.height.readWord16 1) (some options.height)
  frameRate : ∃ told, Tells arguments .frameRate (Flag.frameRate.readWord32 1) told ∧
    options.frameRate = told.getD 25
  quality : ∃ told, Tells arguments .quality (Flag.quality.readWord16 0) told ∧
    options.quality = told.getD 90
  outputDir : ∃ told, Tells arguments .outputDir Flag.outputDir.readPath told ∧
    options.outputDir = told.getD "."
  backend : ∃ told, Tells arguments .backend Flag.backend.readChoice told ∧
    options.backend = told.getD .auto
  /-- A limit of 0 is none. -/
  maxFrames : ∃ told, Tells arguments .maxFrames (Flag.maxFrames.readWord32 0) told ∧
    options.maxFrames = if told.getD 3 = 0 then none else some (told.getD 3)
  bitstreamSize : ∃ told, Tells arguments .bitstreamSize Flag.bitstreamSize.readSize told ∧
    options.bitstreamCapacity = told.getD 2000000
  syncWait : ∃ told, Tells arguments .syncWait Flag.syncWait.readSize told ∧
    options.sync.waitMs = told.getD 100
  syncAttempts : ∃ told, Tells arguments .syncAttempts (Flag.syncAttempts.readWord32 0) told ∧
    options.sync.maxAttempts = told.getD 50
  resetAfter : Tells arguments .resetAfter (Flag.resetAfter.readWord32 1)
    (options.resolutionChange.map ResolutionChange.afterFrames)
  resetSize : Tells arguments .resetSize Flag.resetSize.readPictureSize
    (options.resolutionChange.map fun change => ⟨change.width, change.height⟩)
  resetInput : Tells arguments .resetInput Flag.resetInput.readPath
    (options.resolutionChange.bind ResolutionChange.input)

theorem Given.need_eq_ok {α : Type} {flag : Flag} {given : Option α} {value : α} :
    need flag given = .ok value ↔ given = some value := by
  cases given <;> simp [need]

/-- The parts of a change that is made of what is set. -/
theorem Given.change_eq_ok {given : Given} {change : Option ResolutionChange}
    (made : given.change = .ok change) :
    given.resetAfter = change.map ResolutionChange.afterFrames ∧
    given.resetSize = change.map (fun change => ⟨change.width, change.height⟩) ∧
    given.resetInput = change.bind ResolutionChange.input := by
  unfold Given.change at made
  split at made
  · rename_i unset
    cases made
    exact unset
  · obtain ⟨after, after_eq, made⟩ := bind_eq_ok.1 made
    obtain ⟨size, size_eq, made⟩ := bind_eq_ok.1 made
    cases made
    exact ⟨need_eq_ok.1 after_eq, need_eq_ok.1 size_eq, rfl⟩

/-- Arguments that make a request to encode ask for its options. -/
theorem asksFor_of_ofArguments {arguments : List String} {options : EncodeOptions} {verbosity : Nat}
    (request : Request.ofArguments arguments = .ok (.encode options verbosity)) :
    AsksFor arguments options := by
  obtain ⟨given, occurrences, parsed, done, made⟩ := given_of_ofArguments request
  have tells {flag : Flag} {α : Type} {read : String → Except UsageError α}
      {field : Given → Option α} (kept : flag.KeptIn read field) :
      Tells arguments flag read (field given) := kept.tells parsed done
  unfold Given.toOptions at made
  obtain ⟨input, input_eq, made⟩ := bind_eq_ok.1 made
  obtain ⟨width, width_eq, made⟩ := bind_eq_ok.1 made
  obtain ⟨height, height_eq, made⟩ := bind_eq_ok.1 made
  obtain ⟨change, change_eq, made⟩ := bind_eq_ok.1 made
  cases made
  rw [Given.need_eq_ok] at input_eq width_eq height_eq
  obtain ⟨after_eq, size_eq, change_input_eq⟩ := Given.change_eq_ok change_eq
  exact {
    input := input_eq ▸ tells Flag.keptIn_input
    width := width_eq ▸ tells Flag.keptIn_width
    height := height_eq ▸ tells Flag.keptIn_height
    frameRate := ⟨_, tells Flag.keptIn_frameRate, rfl⟩
    quality := ⟨_, tells Flag.keptIn_quality, rfl⟩
    outputDir := ⟨_, tells Flag.keptIn_outputDir, rfl⟩
    backend := ⟨_, tells Flag.keptIn_backend, rfl⟩
    maxFrames := by
      refine ⟨_, tells Flag.keptIn_maxFrames, ?_⟩
      cases given.maxFrames with
      | none => rfl
      | some limit => rfl
    bitstreamSize := ⟨_, tells Flag.keptIn_bitstreamSize, rfl⟩
    syncWait := ⟨_, tells Flag.keptIn_syncWait, rfl⟩
    syncAttempts := ⟨_, tells Flag.keptIn_syncAttempts, rfl⟩
    resetAfter := after_eq ▸ tells Flag.keptIn_resetAfter
    resetSize := size_eq ▸ tells Flag.keptIn_resetSize
    resetInput := change_input_eq ▸ tells Flag.keptIn_resetInput }

/-! ## Bounds -/

/-- Options within their bounds. -/
structure WellFormed (options : EncodeOptions) : Prop where
  width : 1 ≤ options.width.toNat
  height : 1 ≤ options.height.toNat
  frameRate : 1 ≤ options.frameRate.toNat
  maxFrames : options.maxFrames ≠ some 0
  change : ∀ change, options.resolutionChange = some change →
    1 ≤ change.afterFrames.toNat ∧ 1 ≤ change.width.toNat ∧ 1 ≤ change.height.toNat

theorem readNumber_eq_ok {flag : Flag} {least most n : Nat} {value : String}
    (read : flag.readNumber least most value = .ok n) : least ≤ n ∧ n ≤ most := by
  unfold Flag.readNumber at read
  split at read
  · split at read
    · cases read
      omega
    · cases read
  · cases read

theorem readWord16_eq_ok {flag : Flag} {least : Nat} {value : String} {word : UInt16}
    (read : flag.readWord16 least value = .ok word) : least ≤ word.toNat := by
  unfold Flag.readWord16 at read
  cases number : flag.readNumber least (UInt16.size - 1) value with
  | error error =>
    rw [number] at read
    cases read
  | ok n =>
    rw [number] at read
    cases read
    obtain ⟨least_le, most⟩ := readNumber_eq_ok number
    rw [UInt16.toNat_ofNat_of_lt' (Nat.lt_of_le_of_lt most (by decide))]
    exact least_le

theorem readWord32_eq_ok {flag : Flag} {least : Nat} {value : String} {word : UInt32}
    (read : flag.readWord32 least value = .ok word) : least ≤ word.toNat := by
  unfold Flag.readWord32 at read
  cases number : flag.readNumber least (UInt32.size - 1) value with
  | error error =>
    rw [number] at read
    cases read
  | ok n =>
    rw [number] at read
    cases read
    obtain ⟨least_le, most⟩ := readNumber_eq_ok number
    rw [UInt32.toNat_ofNat_of_lt' (Nat.lt_of_le_of_lt most (by decide))]
    exact least_le

/-- Neither side of a size that is read is zero. -/
theorem readPictureSize_eq_ok {flag : Flag} {value : String} {size : PictureSize}
    (read : flag.readPictureSize value = .ok size) :
    1 ≤ size.width.toNat ∧ 1 ≤ size.height.toNat := by
  unfold Flag.readPictureSize at read
  cases sized : PictureSize.ofChars value.toList with
  | error defect =>
    rw [sized] at read
    cases read
  | ok other =>
    rw [sized] at read
    cases read
    exact (PictureSize.writes_of_ofChars sized).positive

/-- Options that arguments ask for are within their bounds. -/
theorem AsksFor.wellFormed {arguments : List String} {options : EncodeOptions}
    (asks : AsksFor arguments options) : WellFormed options where
  width := by
    obtain ⟨_, _, read⟩ := asks.width
    exact readWord16_eq_ok read
  height := by
    obtain ⟨_, _, read⟩ := asks.height
    exact readWord16_eq_ok read
  frameRate := by
    obtain ⟨told, tells, rate_eq⟩ := asks.frameRate
    rw [rate_eq]
    cases told with
    | none => decide
    | some rate =>
      obtain ⟨_, _, read⟩ := tells
      exact readWord32_eq_ok read
  maxFrames := by
    obtain ⟨told, _, limit_eq⟩ := asks.maxFrames
    rw [limit_eq]
    split
    · nofun
    · rename_i positive
      exact fun zero => positive (Option.some.inj zero)
  change := by
    intro change due
    have after := asks.resetAfter
    have size := asks.resetSize
    rw [due] at after size
    obtain ⟨_, _, after⟩ := after
    obtain ⟨_, _, size⟩ := size
    exact ⟨readWord32_eq_ok after, readPictureSize_eq_ok size⟩

theorem readSize_lt {flag : Flag} {value : String} {n : Nat} (read : flag.readSize value = .ok n) :
    n < Size.bound := by
  unfold Flag.readSize at read
  split at read
  · split at read
    · rename_i below
      cases read
      exact below
    · cases read
  · cases read

/-- The clock can tell the end of every wait that arguments ask for. -/
theorem AsksFor.covers {arguments : List String} {options : EncodeOptions}
    (asks : AsksFor arguments options) : Clock.Covers options.sync.waitMs := by
  obtain ⟨told, tells, wait_eq⟩ := asks.syncWait
  rw [wait_eq]
  cases told with
  | none => decide
  | some wait =>
    obtain ⟨_, _, read⟩ := tells
    exact Clock.covers_of_lt (readSize_lt read)

/-- An option that is set tells something, and one that tells something is set. -/
theorem Tells.ne_none_iff {α : Type} {arguments : List String} {flag : Flag}
    {read : String → Except UsageError α} {told : Option α}
    (tells : Tells arguments flag read told) :
    told ≠ none ↔ ∃ value, Sets arguments flag value := by
  cases told with
  | none => exact ⟨fun same => absurd rfl same, fun ⟨value, sets⟩ => absurd sets (tells value)⟩
  | some result =>
    obtain ⟨value, only, _⟩ := tells
    exact ⟨fun _ => ⟨value, (only value).2 rfl⟩, fun _ => Option.some_ne_none result⟩

/-- A path is told as it is set. -/
theorem Tells.path_iff {arguments : List String} {flag : Flag} {told : Option String}
    (tells : Tells arguments flag flag.readPath told) (path : String) :
    told = some path ↔ Sets arguments flag path := by
  cases told with
  | none => exact ⟨nofun, fun sets => absurd sets (tells path)⟩
  | some result =>
    obtain ⟨value, only, read⟩ := tells
    rw [only]
    unfold Flag.readPath at read
    split at read
    · cases read
    · cases read
      exact ⟨fun same => (Option.some.inj same).symm, fun same => congrArg some same.symm⟩

/-- There is a change of the picture size exactly where arguments set the frame after which it is
made, and exactly where they set its size. It goes on with the input that they set, if they do;
without a change they set none. -/
structure ResetAsTold (arguments : List String) (options : EncodeOptions) : Prop where
  after : options.resolutionChange ≠ none ↔ ∃ value, Sets arguments .resetAfter value
  size : options.resolutionChange ≠ none ↔ ∃ value, Sets arguments .resetSize value
  input : ∀ path, (options.resolutionChange.bind ResolutionChange.input) = some path ↔
    Sets arguments .resetInput path

theorem AsksFor.resetAsTold {arguments : List String} {options : EncodeOptions}
    (asks : AsksFor arguments options) : ResetAsTold arguments options where
  after := by
    rw [← asks.resetAfter.ne_none_iff, Ne, Ne, Option.map_eq_none_iff]
  size := by
    rw [← asks.resetSize.ne_none_iff, Ne, Ne, Option.map_eq_none_iff]
  input := asks.resetInput.path_iff

end Nv12Jpeg.CommandLine
