import Nv12Jpeg.Proofs.Encode.Submissions
import Nv12Jpeg.Proofs.Encoder.ParamsCheck

/-!
# What a run is expected to write

The files of a run on the software encoder, told without the encoder. The raw bytes are cut into
frames and each frame is encoded. Results that do not fit into the output buffer are skipped, the
others are files. After as many files as a resolution change asks for, what is cut and encoded is
what the change names, at its size.

* `FrameInfo.encodings` — the results of the frames in raw bytes, with `encodings_of_le` and
  `encodings_of_short` for the first frame of them;
* `EncodeOptions.expected` — the files, and the summary that goes with them.
-/

namespace Nv12Jpeg

open EncodeParams

/-! ## Frames -/

/-- Pictures of these sides have room in their surfaces. -/
theorem FrameInfo.sound_nv12 {width height : UInt16} (w : IsSide width) (h : IsSide height)
    (framesPerSecond : UInt32) : (FrameInfo.nv12 width height framesPerSecond).Sound := by
  obtain ⟨aligned_w, covers_w⟩ := covers_iff.1 w.covers_align16
  obtain ⟨aligned_h, covers_h⟩ := covers_iff.1 h.covers_align16
  exact ⟨w.1, h.1, covers_w, covers_h,
    show (align16 width).toNat % 2 = 0 by omega, show (align16 height).toNat % 2 = 0 by omega⟩

/-- The files that the frames in raw bytes are encoded to. -/
def FrameInfo.encodings (info : FrameInfo) (quality : UInt8) (bytes : Bytes) :
    Attempt EncoderError (List Bytes) :=
  (List.range (bytes.size / info.rawFrameSize)).mapM fun i => (info.frame bytes i).toJpeg quality

namespace FrameInfo

variable {info : FrameInfo} {quality : UInt8} {bytes : Bytes}

theorem frame_succ (info : FrameInfo) (bytes : Bytes) (i : Nat) :
    info.frame bytes (i + 1) = info.frame (bytes.extract info.rawFrameSize bytes.size) i := by
  rw [Nat.add_comm, ← frame_extract, Nat.one_mul]

theorem encodings_of_short (short : bytes.size < info.rawFrameSize) :
    info.encodings quality bytes = .ok [] := by
  rw [encodings, Nat.div_eq_of_lt short]
  rfl

theorem encodings_of_le (positive : 0 < info.rawFrameSize)
    (enough : info.rawFrameSize ≤ bytes.size) :
    info.encodings quality bytes = do
      let result ← (info.frame bytes 0).toJpeg quality
      let rest ← info.encodings quality (bytes.extract info.rawFrameSize bytes.size)
      return result :: rest := by
  have fewer : (bytes.extract info.rawFrameSize bytes.size).size
      = bytes.size - info.rawFrameSize := by
    rw [Array.size_extract, Nat.min_self]
  rw [encodings, Nat.div_eq_sub_div positive enough, List.range_succ_eq_map, List.mapM_cons,
    List.mapM_map, encodings, fewer]
  have later : (fun i => (info.frame bytes (Nat.succ i)).toJpeg quality)
      = fun i => (info.frame (bytes.extract info.rawFrameSize bytes.size) i).toJpeg quality :=
    funext fun i => by rw [← frame_succ]
  rw [← later]
  rfl

/-- Results are those of the first frame and of the frames behind it, or there is no frame. -/
theorem encodings_cases (positive : 0 < info.rawFrameSize) {results : List Bytes}
    (encoded : info.encodings quality bytes = .ok results) :
    (bytes.size < info.rawFrameSize ∧ results = []) ∨
    (info.rawFrameSize ≤ bytes.size ∧ ∃ result rest, results = result :: rest ∧
      (info.frame bytes 0).toJpeg quality = .ok result ∧
      info.encodings quality (bytes.extract info.rawFrameSize bytes.size) = .ok rest) := by
  rcases Nat.lt_or_ge bytes.size info.rawFrameSize with short | enough
  · rw [encodings_of_short short] at encoded
    cases encoded
    exact .inl ⟨short, rfl⟩
  · rw [encodings_of_le positive enough] at encoded
    obtain ⟨result, first, encoded⟩ := bind_eq_ok.1 encoded
    obtain ⟨rest, others, same⟩ := bind_eq_ok.1 encoded
    cases same
    exact .inr ⟨enough, result, rest, rfl, first, others⟩

/-- A frame that is there can be encoded. -/
theorem Sound.frame_toJpeg_ok (sound : info.Sound) (quality : UInt8)
    (enough : info.rawFrameSize ≤ bytes.size) :
    ∃ result, (info.frame bytes 0).toJpeg quality = .ok result := by
  have tight : (info.frame bytes 0).Tight := by
    refine Nv12Frame.tight_ofRaw sound.crop_w_pos (Nat.le_of_lt_succ info.cropW.toNat_lt)
      sound.crop_h_pos (Nat.le_of_lt_succ info.cropH.toNat_lt) ?_
    rw [Nat.zero_mul, Bytes.size_extract_add (by omega), rawFrameSize,
      Nat.mul_comm info.cropW.toNat, Nat.mul_comm (chromaRowBytes _)]
  exact tight.toJpeg_ok quality

/-- All frames can be encoded. -/
theorem Sound.encodings_ok (sound : info.Sound) (quality : UInt8) (bytes : Bytes) :
    ∃ results, info.encodings quality bytes = .ok results := by
  induction size : bytes.size using Nat.strongRecOn generalizing bytes with
  | ind size ih =>
    subst size
    rcases Nat.lt_or_ge bytes.size info.rawFrameSize with short | enough
    · exact ⟨[], encodings_of_short short⟩
    · have positive := sound.rawFrameSize_pos
      obtain ⟨result, encoded⟩ := sound.frame_toJpeg_ok quality enough
      obtain ⟨rest, others⟩ := ih _ (by rw [Array.size_extract]; omega)
        (bytes.extract info.rawFrameSize bytes.size) rfl
      refine ⟨result :: rest, ?_⟩
      rw [encodings_of_le positive enough, encoded, others]
      rfl

theorem length_encodings_le (positive : 1 < info.rawFrameSize) {results : List Bytes}
    (encoded : info.encodings quality bytes = .ok results) : results.length * 2 ≤ bytes.size := by
  induction results generalizing bytes with
  | nil => exact Nat.zero_le _
  | cons result rest ih =>
    rcases encodings_cases (Nat.zero_lt_of_lt positive) encoded with
      ⟨_, same⟩ | ⟨enough, _, _, same, _, others⟩
    · cases same
    · cases same
      have fewer := ih others
      rw [Array.size_extract] at fewer
      rw [List.length_cons]
      omega

end FrameInfo

/-! ## Files -/

/-- Whether there is a file under a path that is none of the first `count` ones a run writes. -/
def EncodeOptions.CanRead (options : EncodeOptions) (store : FileStore) (count : Nat)
    (path : String) : Prop :=
  ∃ location contents, store.openRead path = .ok location ∧
    store.find? location = some (.file contents) ∧ ¬ IsOutput options store count location

/-- Whether the files of as many frames can be created. -/
structure EncodeOptions.Writable (options : EncodeOptions) (store : FileStore) (count : Nat) :
    Prop where
  counted : count < 0x100000000
  creatable : ∀ k < count, store.Creatable (outputPath options (k + 1))

/-- The bytes of the file under a path. -/
def FileStore.bytesUnder (store : FileStore) (path : String) : Bytes :=
  match store.openRead path >>= store.contents with
  | .ok bytes => bytes
  | .error _ => #[]

theorem FileStore.bytesUnder_eq {store : FileStore} {path : String} {location : Location}
    {contents : Bytes} (opened : store.openRead path = .ok location)
    (found : store.find? location = some (.file contents)) : store.bytesUnder path = contents := by
  have read : store.openRead path >>= store.contents = .ok contents :=
    bind_eq_ok.2 ⟨location, opened, by rw [FileStore.contents, found]⟩
  rw [bytesUnder, read]

theorem FileStore.size_bytesUnder_le (store : FileStore) (path : String) :
    (store.bytesUnder path).size ≤ store.size := by
  unfold bytesUnder
  split
  · rename_i bytes opened
    obtain ⟨location, _, opened⟩ := bind_eq_ok.1 opened
    exact size_contents_le opened
  · exact Nat.zero_le _

/-- What is expected of a run. -/
structure Expected where
  /-- The files, in order. -/
  files : List Bytes
  stopReason : StopReason
  frameInfo : FrameInfo
  resets : Nat

/-- The summary of a run that goes as expected. -/
def Expected.summary (expected : Expected) (options : EncodeOptions) : EncodeSummary where
  framesWritten := expected.files.length
  outputs := (List.range expected.files.length).map fun k => outputPath options (k + 1)
  stopReason := expected.stopReason
  frameInfo := expected.frameInfo
  poolSize := 2
  resets := expected.resets

namespace EncodeOptions

variable (options : EncodeOptions)

/-- The geometry of the frames of the input. -/
def frameInfo : FrameInfo := .nv12 options.width options.height options.frameRate

/-- The quality that is asked for, or the nearest one from 1 to 100. -/
def jpegQuality : UInt8 := UInt8.ofNat (min (max options.quality.toNat 1) 100)

/-- How many files there are at most. The limit is looked at when a file was written, so one file
is there in any case. -/
def fileLimit : Option Nat := options.maxFrames.map fun limit => max limit.toNat 1

/-- The results that fit into the output buffer. -/
def fitting (results : List Bytes) : List Bytes :=
  results.filter fun result => result.size ≤ options.bitstreamCapacity

/-- How many results there are up to the one that is number `count` of those that fit. -/
def upTo : (count : Nat) → List Bytes → Nat
  | 0, _ => 0
  | _ + 1, [] => 0
  | count + 1, result :: rest =>
    if result.size ≤ options.bitstreamCapacity then upTo count rest + 1
    else upTo (count + 1) rest + 1

/-- The files of the last results, of which as many as `limit` may be written, and why a run stops
with them. -/
def lastFiles (limit : Option Nat) (results : List Bytes) : List Bytes × StopReason :=
  match limit with
  | some limit =>
    if limit ≤ (options.fitting results).length then
      ((options.fitting results).take limit, .frameLimit)
    else (options.fitting results, .drained)
  | none => (options.fitting results, .drained)

/-- The resolution change, if it is due after one of the files of these results. -/
def changeWithin? (results : List Bytes) : Option ResolutionChange :=
  options.resolutionChange.filter fun change =>
    1 ≤ change.afterFrames.toNat && change.afterFrames.toNat ≤ (options.fitting results).length
      && options.fileLimit.all (change.afterFrames.toNat ≤ ·)

/-- The raw bytes behind a change: those of its input, or what is left of those before it. -/
def bytesBehind (store : FileStore) (change : ResolutionChange) (results : List Bytes)
    (bytes : Bytes) : Bytes :=
  change.input.elim (bytes.extract
      (options.upTo change.afterFrames.toNat results * options.frameInfo.rawFrameSize) bytes.size)
    store.bytesUnder

/-- What is expected of a run on these raw bytes. -/
def expected (store : FileStore) (bytes : Bytes) : Attempt EncoderError Expected := do
  let results ← options.frameInfo.encodings options.jpegQuality bytes
  match options.changeWithin? results with
  | none =>
    let (files, stopReason) := options.lastFiles options.fileLimit results
    return ⟨files, stopReason, options.frameInfo, 0⟩
  | some change =>
    let info := FrameInfo.nv12 change.width change.height options.frameRate
    let before := change.afterFrames.toNat
    let results' ←
      info.encodings options.jpegQuality (options.bytesBehind store change results bytes)
    let (files, stopReason) := options.lastFiles (options.fileLimit.map (· - before)) results'
    return ⟨(options.fitting results).take before ++ files, stopReason, info, 1⟩

variable {options}

/-- What is expected of a run that no change comes about in. -/
theorem expected_of_none {store : FileStore} {bytes : Bytes} {results : List Bytes}
    (encoded : options.frameInfo.encodings options.jpegQuality bytes = .ok results)
    (undue : options.changeWithin? results = none) :
    options.expected store bytes = .ok {
      files := (options.lastFiles options.fileLimit results).1
      stopReason := (options.lastFiles options.fileLimit results).2
      frameInfo := options.frameInfo
      resets := 0 } := by
  refine bind_eq_ok.2 ⟨results, encoded, ?_⟩
  rw [undue]
  rfl

/-- What is expected of a run that a change comes about in. -/
theorem expected_of_some {store : FileStore} {bytes : Bytes} {results results' : List Bytes}
    {change : ResolutionChange}
    (encoded : options.frameInfo.encodings options.jpegQuality bytes = .ok results)
    (due : options.changeWithin? results = some change)
    (encoded' : (FrameInfo.nv12 change.width change.height options.frameRate).encodings
      options.jpegQuality (options.bytesBehind store change results bytes) = .ok results') :
    options.expected store bytes = .ok {
      files := (options.fitting results).take change.afterFrames.toNat ++
        (options.lastFiles (options.fileLimit.map (· - change.afterFrames.toNat)) results').1
      stopReason :=
        (options.lastFiles (options.fileLimit.map (· - change.afterFrames.toNat)) results').2
      frameInfo := .nv12 change.width change.height options.frameRate
      resets := 1 } := by
  refine bind_eq_ok.2 ⟨results, encoded, ?_⟩
  rw [due]
  exact bind_eq_ok.2 ⟨results', encoded', rfl⟩

/-- Something is expected of every run on pictures of sides that are taken. -/
theorem expected_ok (store : FileStore) {bytes : Bytes} (w : IsSide options.width)
    (h : IsSide options.height)
    (reachable : ∀ results change,
      options.frameInfo.encodings options.jpegQuality bytes = .ok results →
      options.changeWithin? results = some change → IsSide change.width ∧ IsSide change.height) :
    ∃ expected, options.expected store bytes = .ok expected := by
  obtain ⟨results, encoded⟩ := (FrameInfo.sound_nv12 w h options.frameRate).encodings_ok
    options.jpegQuality bytes
  cases change_eq : options.changeWithin? results with
  | none => exact ⟨_, expected_of_none encoded change_eq⟩
  | some change =>
    obtain ⟨w', h'⟩ := reachable results change encoded change_eq
    obtain ⟨results', encoded'⟩ := (FrameInfo.sound_nv12 w' h' options.frameRate).encodings_ok
      options.jpegQuality (options.bytesBehind store change results bytes)
    exact ⟨_, expected_of_some encoded change_eq encoded'⟩

theorem Writable.of_le {store : FileStore} {count fewer : Nat} (h : options.Writable store count)
    (le : fewer ≤ count) : options.Writable store fewer :=
  ⟨Nat.lt_of_le_of_lt le h.counted, fun k within => h.creatable k (Nat.lt_of_lt_of_le within le)⟩

theorem fitting_cons (result : Bytes) (rest : List Bytes) :
    options.fitting (result :: rest) =
      if result.size ≤ options.bitstreamCapacity then result :: options.fitting rest
      else options.fitting rest := by
  rw [fitting, List.filter_cons]
  simp only [decide_eq_true_eq]
  rfl

theorem upTo_le (options : EncodeOptions) (count : Nat) (results : List Bytes) :
    options.upTo count results ≤ results.length := by
  induction results generalizing count with
  | nil => cases count <;> exact Nat.le_refl _
  | cons result rest ih =>
    cases count with
    | zero => exact Nat.zero_le _
    | succ count =>
      rw [upTo, List.length_cons]
      split <;> exact Nat.succ_le_succ (ih _)

theorem fileLimit_ne_zero (options : EncodeOptions) : options.fileLimit ≠ some 0 := by
  rw [fileLimit]
  cases options.maxFrames with
  | none => nofun
  | some limit =>
    intro zero
    have zero : max limit.toNat 1 = 0 := Option.some.inj zero
    omega

theorem lastFiles_zero (options : EncodeOptions) (results : List Bytes) :
    options.lastFiles (some 0) results = ([], .frameLimit) := by
  rw [lastFiles]
  exact if_pos (Nat.zero_le _)

theorem fst_lastFiles_some (options : EncodeOptions) (limit : Nat) (results : List Bytes) :
    (options.lastFiles (some limit) results).1 = (options.fitting results).take limit := by
  rw [lastFiles]
  split
  · rfl
  · rename_i fewer
    exact (List.take_of_length_le (Nat.le_of_not_le fewer)).symm

/-- A run ends with as many files as fit, or as there may be. -/
theorem length_lastFiles_le (options : EncodeOptions) (limit : Option Nat) (results : List Bytes) :
    (options.lastFiles limit results).1.length ≤ (options.fitting results).length ∧
      ∀ most, limit = some most → (options.lastFiles limit results).1.length ≤ most := by
  cases limit with
  | none =>
    refine ⟨Nat.le_refl _, ?_⟩
    intro most same
    cases same
  | some limit =>
    rw [fst_lastFiles_some]
    refine ⟨List.length_take_le' _ _, ?_⟩
    intro most same
    cases same
    exact List.length_take_le _ _

/-- There are no more bytes behind a change than in all files, or before it. -/
theorem size_bytesBehind_le (options : EncodeOptions) {store : FileStore}
    (change : ResolutionChange) (results : List Bytes) {bytes : Bytes} {bound : Nat}
    (bytes_le : bytes.size ≤ bound) (store_le : store.size ≤ bound) :
    (options.bytesBehind store change results bytes).size ≤ bound := by
  unfold bytesBehind
  cases change.input with
  | none =>
    show (bytes.extract _ _).size ≤ bound
    rw [Array.size_extract]
    omega
  | some path => exact Nat.le_trans (store.size_bytesUnder_le path) store_le

/-- A change is due after one of the files of these results, and no earlier limit. -/
theorem changeWithin?_eq_some {results : List Bytes} {change : ResolutionChange} :
    options.changeWithin? results = some change ↔ options.resolutionChange = some change ∧
      1 ≤ change.afterFrames.toNat ∧
      change.afterFrames.toNat ≤ (options.fitting results).length ∧
      ∀ most, options.fileLimit = some most → change.afterFrames.toNat ≤ most := by
  rw [changeWithin?, Option.filter_eq_some_iff]
  simp only [Bool.and_eq_true, decide_eq_true_eq, and_assoc]
  cases options.fileLimit with
  | none => simp
  | some most => simp

/-- Nothing is due when as many files were written: no change, and no end. -/
def Undisturbed (options : EncodeOptions) (written : Nat) : Prop :=
  (∀ change, options.resolutionChange = some change → change.afterFrames.toNat ≠ written) ∧
    ∀ limit, options.maxFrames = some limit → written < limit.toNat

/-- Nothing is due before a change that comes about. -/
theorem undisturbed_of_lt {results : List Bytes} {change : ResolutionChange} {written : Nat}
    (within : options.changeWithin? results = some change) (positive : 0 < written)
    (early : written < change.afterFrames.toNat) : options.Undisturbed written := by
  obtain ⟨due, _, _, below⟩ := changeWithin?_eq_some.1 within
  constructor
  · intro other due'
    cases due.symm.trans due'
    exact Nat.ne_of_gt early
  · intro limit limit_eq
    have := below (max limit.toNat 1) (by rw [fileLimit, limit_eq]; rfl)
    omega

/-- A change that does not come about is not due after any file. -/
theorem afterFrames_ne {results : List Bytes} {change : ResolutionChange} {written : Nat}
    (without : options.changeWithin? results = none)
    (due : options.resolutionChange = some change) (positive : 0 < written)
    (there : written ≤ (options.lastFiles options.fileLimit results).1.length) :
    change.afterFrames.toNat ≠ written := by
  rintro rfl
  have bounds := options.length_lastFiles_le options.fileLimit results
  have within := changeWithin?_eq_some.2 ⟨due, positive, Nat.le_trans there bounds.1,
    fun most limit_eq => Nat.le_trans there (bounds.2 most limit_eq)⟩
  rw [without] at within
  cases within

end EncodeOptions

end Nv12Jpeg
