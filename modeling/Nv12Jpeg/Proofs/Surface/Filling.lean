import Nv12Jpeg.Proofs.Picture.Frame
import Nv12Jpeg.Proofs.Stream.Source
import Nv12Jpeg.Surface.Pool

/-!
# Filling a surface

A surface whose allocation covers its crop takes one frame from a source: then its visible bytes
are that frame, and the source goes on behind it. A source with less than a frame left is used up.
Places that no row of the crop covers keep their bytes, however reading ends.

* `FrameInfo.Covering` — geometries whose planes have room for every row of the crop, and
  `FrameInfo.Sound`, those of them with a picture to encode;
* `FrameInfo.Visible` — the places in a surface that the rows of the crop cover;
* `Surface.readRows_complete`, `Surface.readRows_short`, `Surface.readRows_elsewhere` — the rows of
  one plane;
* `Surface.readFrame_rows`, `Surface.readFrame_short`, `Surface.readFrame_elsewhere` — a whole
  frame; `Surface.readFrame_complete` says which picture the surface shows.
-/

namespace Nv12Jpeg

/-- An allocation of even sides that covers its crop, which may be empty. Sides that are multiples
of 16 are even. -/
structure FrameInfo.Covering (info : FrameInfo) : Prop where
  crop_w_le : info.cropW.toNat ≤ info.width.toNat
  crop_h_le : info.cropH.toNat ≤ info.height.toNat
  width_even : info.width.toNat % 2 = 0
  height_even : info.height.toNat % 2 = 0

/-- A picture that is not empty, in an allocation of even sides that covers it. -/
structure FrameInfo.Sound (info : FrameInfo) : Prop where
  crop_w_pos : 0 < info.cropW.toNat
  crop_h_pos : 0 < info.cropH.toNat
  crop_w_le : info.cropW.toNat ≤ info.width.toNat
  crop_h_le : info.cropH.toNat ≤ info.height.toNat
  width_even : info.width.toNat % 2 = 0
  height_even : info.height.toNat % 2 = 0

namespace FrameInfo

variable {info : FrameInfo}

theorem Sound.covering (h : info.Sound) : info.Covering :=
  ⟨h.crop_w_le, h.crop_h_le, h.width_even, h.height_even⟩

namespace Covering

theorem chromaRowBytes_le_pitch (h : info.Covering) :
    chromaRowBytes info.cropW.toNat ≤ info.pitch := by
  have := h.crop_w_le
  have := h.width_even
  rw [chromaRowBytes, pitch]
  omega

theorem chromaRows_le_half (h : info.Covering) :
    chromaRows info.cropH.toNat ≤ info.height.toNat / 2 := by
  have := h.crop_h_le
  have := h.height_even
  rw [chromaRows]
  omega

/-- The luma rows of the crop lie before the chroma plane. -/
theorem luma_le (h : info.Covering) : info.cropH.toNat * info.pitch ≤ info.chromaOffset := by
  rw [chromaOffset, Nat.mul_comm info.pitch]
  exact Nat.mul_le_mul_right _ h.crop_h_le

/-- The chroma rows of the crop lie before the end of the surface. -/
theorem chroma_le (h : info.Covering) :
    info.chromaOffset + chromaRows info.cropH.toNat * info.pitch ≤ info.surfaceSize := by
  have half : info.chromaOffset / 2 = info.height.toNat / 2 * info.pitch := by
    have even := h.height_even
    obtain ⟨k, twice⟩ : ∃ k, info.height.toNat = 2 * k := ⟨info.height.toNat / 2, by omega⟩
    rw [chromaOffset, twice, Nat.mul_div_cancel_left _ (by decide), Nat.mul_left_comm,
      Nat.mul_div_cancel_left _ (by decide), Nat.mul_comm]
  rw [surfaceSize, half]
  exact Nat.add_le_add_left (Nat.mul_le_mul_right _ h.chromaRows_le_half) _

theorem cropW_le_pitch (h : info.Covering) : info.cropW.toNat ≤ info.pitch :=
  Nat.le_trans (le_chromaRowBytes _) h.chromaRowBytes_le_pitch

end Covering

/-- The place of a byte of the crop in a surface: of a luma row, or of a chroma row. -/
def Visible (info : FrameInfo) (place : Nat) : Prop :=
  (∃ y < info.cropH.toNat, ∃ x < info.cropW.toNat, place = y * info.pitch + x) ∨
  ∃ r < chromaRows info.cropH.toNat, ∃ c < chromaRowBytes info.cropW.toNat,
    place = info.chromaOffset + r * info.pitch + c

/-- The places of the crop lie in the surface. -/
theorem Covering.lt_surfaceSize (h : info.Covering) {place : Nat} (visible : info.Visible place) :
    place < info.surfaceSize := by
  have luma := h.luma_le
  have chroma := h.chroma_le
  obtain ⟨y, y_lt, x, x_lt, rfl⟩ | ⟨r, r_lt, c, c_lt, rfl⟩ := visible
  · have row := Bytes.row_end_le h.cropW_le_pitch y_lt
    omega
  · have row := Bytes.row_end_le h.chromaRowBytes_le_pitch r_lt
    omega

end FrameInfo

namespace Surface

variable {source : Source} {store : FileStore} {written : Location → Prop} {bytes data : Bytes}
  {failure : Option IoError} {row pitch count start : Nat}

/-- Rows that are all delivered fill their places, and no others. -/
theorem readRows_complete (h : source.Feeds store written bytes failure) (narrow : row ≤ pitch)
    (enough : count * row ≤ bytes.size) (inside : start + count * pitch ≤ data.size) :
    ∃ (filled : Bytes) (next : Source),
      readRows store row pitch count start data source = .ok (.complete, filled, next) ∧
      next.Feeds store written (bytes.extract (count * row) bytes.size) failure ∧
      filled.size = data.size ∧
      (∀ y < count, filled.extract (start + y * pitch) (start + y * pitch + row)
        = bytes.extract (y * row) (y * row + row)) ∧
      ∀ i n, i + n ≤ start ∨ start + count * pitch ≤ i →
        filled.extract i (i + n) = data.extract i (i + n) := by
  induction count generalizing start data source bytes with
  | zero =>
    refine ⟨data, source, rfl, ?_, rfl, nofun, fun _ _ _ => rfl⟩
    rw [Nat.zero_mul, Array.extract_eq_self_of_le (Nat.le_refl _)]
    exact h
  | succ count ih =>
    rw [Nat.succ_mul] at enough inside
    obtain ⟨later, feeds, read⟩ := h.readExact_complete (show row ≤ bytes.size by omega)
    have part_size : (bytes.extract 0 row).size = row := by
      rw [Array.size_extract]
      omega
    obtain ⟨filled, next, rest, last, size, rows, others⟩ :=
      ih feeds
        (show count * row ≤ (bytes.extract row bytes.size).size by rw [Array.size_extract]; omega)
        (show start + pitch + count * pitch ≤ (data.write start (bytes.extract 0 row)).size by
          rw [Bytes.size_write]; omega)
    refine ⟨filled, next, ?_, ?_, by rw [size, Bytes.size_write], ?_, ?_⟩
    · rw [readRows, if_pos (by omega), read]
      exact rest
    · rw [Bytes.extract_size_extract_size, Nat.add_comm row, ← Nat.succ_mul] at last
      exact last
    · intro y within
      cases y with
      | zero =>
        -- The first row is not touched by the later ones.
        rw [others _ _ (.inl (by omega))]
        have first := Bytes.extract_write_self
          (show start + (bytes.extract 0 row).size ≤ data.size by
            rw [part_size]
            omega)
        rw [part_size] at first
        simpa using first
      | succ y =>
        have before := Bytes.row_end_le (Nat.le_refl row) (show y < count by omega)
        have place : start + (y + 1) * pitch = start + pitch + y * pitch := by
          rw [Nat.succ_mul]
          omega
        have origin : (y + 1) * row = row + y * row := by
          rw [Nat.succ_mul]
          omega
        rw [place, origin, rows y (by omega),
          Bytes.extract_size_extract_add _ _ _ _ (by omega)]
    · intro i n outside
      rw [Nat.succ_mul] at outside
      rw [others i n (by omega), Bytes.extract_write_of_disjoint]
      omega

/-- Rows of which one is not delivered use the source up. -/
theorem readRows_short (h : source.Feeds store written bytes failure) (narrow : row ≤ pitch)
    (short : bytes.size < count * row) (inside : start + count * pitch ≤ data.size) :
    ∃ (filled : Bytes) (next : Source),
      readRows store row pitch count start data source = .ok (.ofFailure failure, filled, next) ∧
      next.Feeds store written #[] failure ∧ filled.size = data.size := by
  induction count generalizing start data source bytes with
  | zero => omega
  | succ count ih =>
    rw [Nat.succ_mul] at short inside
    rw [readRows, if_pos (by omega)]
    by_cases enough : row ≤ bytes.size
    · obtain ⟨later, feeds, read⟩ := h.readExact_complete enough
      obtain ⟨filled, next, rest, last, size⟩ := ih feeds
        (show (bytes.extract row bytes.size).size < count * row by rw [Array.size_extract]; omega)
        (show start + pitch + count * pitch ≤ (data.write start (bytes.extract 0 row)).size by
          rw [Bytes.size_write]
          omega)
      rw [read]
      exact ⟨filled, next, rest, last, by rw [size, Bytes.size_write]⟩
    · obtain ⟨part, later, _, feeds, read⟩ := h.readExact_short (Nat.lt_of_not_le enough)
      refine ⟨data.write start part, later, ?_, feeds, Bytes.size_write _ _ _⟩
      rw [read]
      cases failure <;> rfl

/-- Rows change no place but their own, however reading ends. -/
theorem readRows_elsewhere (h : source.Feeds store written bytes failure) {ending : FrameRead}
    {filled : Bytes} {next : Source}
    (read : readRows store row pitch count start data source = .ok (ending, filled, next))
    {place : Nat} (outside : ∀ y < count, ∀ x < row, place ≠ start + y * pitch + x) :
    filled[place]? = data[place]? := by
  induction count generalizing start data source bytes with
  | zero =>
    obtain ⟨rfl, rfl, rfl⟩ : .complete = ending ∧ data = filled ∧ source = next := by
      simpa [readRows] using read
    rfl
  | succ count ih =>
    -- No portion of the first row is longer than the row.
    have kept : ∀ {part : Bytes}, part.size ≤ row →
        (data.write start part)[place]? = data[place]? := by
      intro part short
      rw [Bytes.getElem?_write, if_neg]
      rintro ⟨behind, before, _⟩
      exact outside 0 (Nat.succ_pos _) (place - start) (by omega) (by omega)
    rw [readRows] at read
    split at read
    case isFalse => cases read
    case isTrue inside =>
    by_cases enough : row ≤ bytes.size
    · obtain ⟨later, feeds, delivered⟩ := h.readExact_complete enough
      rw [delivered] at read
      rw [ih feeds read, kept (by rw [Array.size_extract]; omega)]
      intro y within x inside
      have := outside (y + 1) (Nat.succ_lt_succ within) x inside
      rw [Nat.succ_mul] at this
      omega
    · obtain ⟨part, later, part_size, _, delivered⟩ := h.readExact_short (Nat.lt_of_not_le enough)
      rw [delivered] at read
      have rest : data.write start part = filled := by
        cases failure <;> simp only [ReadEnd.ofFailure, Except.ok.injEq, Prod.mk.injEq] at read <;>
          exact read.2.1
      rw [← rest, kept part_size]

variable {surface : Surface}

/-- The planes of a sound surface have all their rows. -/
theorem full_planes (sound : surface.info.Sound)
    (size : surface.data.size = surface.info.surfaceSize) : surface.planes.Full where
  width_pos := sound.crop_w_pos
  width_le := Nat.le_of_lt_succ surface.info.cropW.toNat_lt
  height_pos := sound.crop_h_pos
  height_le := Nat.le_of_lt_succ surface.info.cropH.toNat_lt
  row_le := sound.covering.chromaRowBytes_le_pitch
  pitch_le := Nat.le_of_lt surface.info.width.toNat_lt
  luma_size := by
    have luma := sound.covering.luma_le
    have chroma := sound.covering.chroma_le
    show surface.info.cropH.toNat * surface.info.pitch
      ≤ (surface.data.extract 0 surface.info.chromaOffset).size
    rw [Array.size_extract]
    omega
  chroma_size := by
    have chroma := sound.covering.chroma_le
    show chromaRows surface.info.cropH.toNat * surface.info.pitch
      ≤ (surface.data.extract surface.info.chromaOffset surface.data.size).size
    rw [Array.size_extract]
    omega

/-- A surface whose rows are those of a raw frame shows that frame. -/
theorem toFrame_of_rows (sound : surface.info.Sound)
    (size : surface.data.size = surface.info.surfaceSize) {raw : Bytes} {w h : Nat}
    (w_eq : surface.info.cropW.toNat = w) (h_eq : surface.info.cropH.toNat = h)
    (luma : ∀ y < h, surface.data.extract (y * surface.info.pitch) (y * surface.info.pitch + w)
      = raw.extract (y * w) (y * w + w))
    (chroma : ∀ r < chromaRows h, surface.data.extract
        (surface.info.chromaOffset + r * surface.info.pitch)
        (surface.info.chromaOffset + r * surface.info.pitch + chromaRowBytes w)
      = raw.extract (h * w + r * chromaRowBytes w)
          (h * w + r * chromaRowBytes w + chromaRowBytes w)) :
    surface.toFrame = .ok (.ofRaw w h raw) := by
  have luma_le := sound.covering.luma_le
  have chroma_le := sound.covering.chroma_le
  have wide := sound.covering.chromaRowBytes_le_pitch
  subst w_eq h_eq
  have narrow := sound.covering.cropW_le_pitch
  have lumas : ∀ y < surface.info.cropH.toNat, surface.planes.luma.extract
      (y * surface.info.pitch) (y * surface.info.pitch + surface.info.cropW.toNat)
        = raw.extract (y * surface.info.cropW.toNat)
            (y * surface.info.cropW.toNat + surface.info.cropW.toNat) := by
    intro y within
    have inside := Bytes.row_end_le narrow within
    have part := Bytes.extract_extract_add surface.data 0 (show y * surface.info.pitch
      + surface.info.cropW.toNat ≤ surface.info.chromaOffset by omega)
    rw [Nat.zero_add, Nat.zero_add] at part
    exact part.trans (luma y within)
  have chromas : ∀ r < chromaRows surface.info.cropH.toNat, surface.planes.chroma.extract
      (r * surface.info.pitch)
      (r * surface.info.pitch + chromaRowBytes surface.info.cropW.toNat)
        = raw.extract (surface.info.cropH.toNat * surface.info.cropW.toNat
              + r * chromaRowBytes surface.info.cropW.toNat)
            (surface.info.cropH.toNat * surface.info.cropW.toNat
              + r * chromaRowBytes surface.info.cropW.toNat
              + chromaRowBytes surface.info.cropW.toNat) := by
    intro r within
    have inside := Bytes.row_end_le wide within
    exact (Bytes.extract_size_extract_add _ _ _ _ (by omega)).trans (chroma r within)
  rw [toFrame, (full_planes sound size).accepted.copyable.toFrame_eq, Nv12Frame.ofRaw]
  congr 3
  · refine Bytes.joinRows_congr fun y _ (within : y < 0 + surface.info.cropH.toNat) => ?_
    rw [← lumas y (by omega)]
    rfl
  · have joined := Bytes.joinRows_extract raw
      (surface.info.cropH.toNat * surface.info.cropW.toNat)
      (chromaRowBytes surface.info.cropW.toNat) (chromaRows surface.info.cropH.toNat) 0
    rw [Nat.zero_mul, Nat.add_zero] at joined
    rw [← joined]
    exact Bytes.joinRows_congr
      fun r _ (within : r < 0 + chromaRows surface.info.cropH.toNat) => chromas r (by omega)

/-- A frame that is there: its rows go to the rows of the crop, and the source goes on behind it. -/
theorem readFrame_rows (feeds : source.Feeds store written bytes failure)
    (covering : surface.info.Covering) (size : surface.data.size = surface.info.surfaceSize)
    {w h : Nat} (w_eq : surface.info.cropW.toNat = w) (h_eq : surface.info.cropH.toNat = h)
    (enough : surface.info.rawFrameSize ≤ bytes.size) :
    ∃ (filled : Bytes) (next : Source),
      surface.readFrame store source = .ok (.complete, { surface with data := filled }, next) ∧
      next.Feeds store written (bytes.extract surface.info.rawFrameSize bytes.size) failure ∧
      filled.size = surface.info.surfaceSize ∧
      (∀ y < h, filled.extract (y * surface.info.pitch) (y * surface.info.pitch + w)
        = bytes.extract (y * w) (y * w + w)) ∧
      ∀ r < chromaRows h,
        filled.extract (surface.info.chromaOffset + r * surface.info.pitch)
            (surface.info.chromaOffset + r * surface.info.pitch + chromaRowBytes w)
          = bytes.extract (h * w + r * chromaRowBytes w)
              (h * w + r * chromaRowBytes w + chromaRowBytes w) := by
  have luma := covering.luma_le
  have chroma := covering.chroma_le
  have narrow := covering.cropW_le_pitch
  have wide := covering.chromaRowBytes_le_pitch
  have raw_eq : surface.info.rawFrameSize = h * w + chromaRows h * chromaRowBytes w := by
    rw [FrameInfo.rawFrameSize, w_eq, h_eq, Nat.mul_comm w, Nat.mul_comm (chromaRowBytes w)]
  rw [w_eq] at narrow wide
  rw [h_eq] at luma chroma
  rw [raw_eq] at enough ⊢
  obtain ⟨half, later, read, rest, half_size, lumas, _⟩ := readRows_complete feeds narrow
    (show h * w ≤ bytes.size by omega)
    (show 0 + h * surface.info.pitch ≤ surface.data.size by omega)
  obtain ⟨filled, next, read', last, filled_size, chromas, others⟩ :=
    readRows_complete rest wide
      (show chromaRows h * chromaRowBytes w ≤ (bytes.extract (h * w) bytes.size).size by
        rw [Array.size_extract]
        omega)
      (show surface.info.chromaOffset + chromaRows h * surface.info.pitch ≤ half.size by omega)
  refine ⟨filled, next, ?_, ?_, by rw [filled_size, half_size, size], ?_, ?_⟩
  · subst w_eq h_eq
    exact bind_eq_ok.2 ⟨_, read, bind_eq_ok.2 ⟨_, read', rfl⟩⟩
  · rw [Bytes.extract_size_extract_size] at last
    exact last
  · intro y within
    -- The chroma rows leave the luma rows as they are.
    have last_row := Bytes.row_end_le narrow within
    have luma_row := lumas y within
    rw [Nat.zero_add] at luma_row
    rw [← luma_row]
    exact others _ _ (.inl (by omega))
  · intro r within
    have last_raw := Bytes.row_end_le (Nat.le_refl (chromaRowBytes w)) within
    exact (chromas r within).trans (Bytes.extract_size_extract_add _ _ _ _ (by omega))

/-- A frame that is there is what the surface shows afterwards. -/
theorem readFrame_complete (feeds : source.Feeds store written bytes failure)
    (sound : surface.info.Sound) (size : surface.data.size = surface.info.surfaceSize)
    (enough : surface.info.rawFrameSize ≤ bytes.size) :
    ∃ (filled : Surface) (next : Source),
      surface.readFrame store source = .ok (.complete, filled, next) ∧
      next.Feeds store written (bytes.extract surface.info.rawFrameSize bytes.size) failure ∧
      filled.info = surface.info ∧ filled.data.size = surface.info.surfaceSize ∧
      filled.toFrame = .ok (.ofRaw surface.info.cropW.toNat surface.info.cropH.toNat
        (bytes.extract 0 surface.info.rawFrameSize)) := by
  obtain ⟨w, w_eq⟩ : ∃ w, surface.info.cropW.toNat = w := ⟨_, rfl⟩
  obtain ⟨h, h_eq⟩ : ∃ h, surface.info.cropH.toNat = h := ⟨_, rfl⟩
  obtain ⟨filled, next, read, rest, filled_size, lumas, chromas⟩ :=
    readFrame_rows feeds sound.covering size w_eq h_eq enough
  refine ⟨{ surface with data := filled }, next, read, rest, rfl, filled_size, ?_⟩
  -- All rows of the source lie in its first frame.
  have raw_row : ∀ {i n : Nat}, i + n ≤ surface.info.rawFrameSize →
      (bytes.extract 0 surface.info.rawFrameSize).extract i (i + n) = bytes.extract i (i + n) := by
    intro i n within
    have part := Bytes.extract_extract_add bytes 0 within
    rwa [Nat.zero_add, Nat.zero_add] at part
  have raw_eq : surface.info.rawFrameSize = h * w + chromaRows h * chromaRowBytes w := by
    rw [FrameInfo.rawFrameSize, w_eq, h_eq, Nat.mul_comm w, Nat.mul_comm (chromaRowBytes w)]
  rw [w_eq, h_eq]
  refine @toFrame_of_rows { surface with data := filled } sound filled_size _ _ _ w_eq h_eq ?_ ?_
  · intro y within
    have last_raw := Bytes.row_end_le (Nat.le_refl w) within
    rw [raw_row (by omega), ← lumas y within]
  · intro r within
    have last_raw := Bytes.row_end_le (Nat.le_refl (chromaRowBytes w)) within
    rw [raw_row (by omega), ← chromas r within]

/-- A frame that is not all there uses the source up. -/
theorem readFrame_short (h : source.Feeds store written bytes failure)
    (covering : surface.info.Covering) (size : surface.data.size = surface.info.surfaceSize)
    (short : bytes.size < surface.info.rawFrameSize) :
    ∃ (filled : Surface) (next : Source),
      surface.readFrame store source = .ok (.ofFailure failure, filled, next) ∧
      next.Feeds store written #[] failure ∧
      filled.info = surface.info ∧ filled.data.size = surface.info.surfaceSize := by
  have luma := covering.luma_le
  have chroma := covering.chroma_le
  have wide := covering.chromaRowBytes_le_pitch
  have narrow := covering.cropW_le_pitch
  rw [FrameInfo.rawFrameSize, Nat.mul_comm surface.info.cropW.toNat,
    Nat.mul_comm (chromaRowBytes _)] at short
  by_cases enough : surface.info.cropH.toNat * surface.info.cropW.toNat ≤ bytes.size
  · obtain ⟨half, later, read, feeds, half_size, _⟩ := readRows_complete h narrow enough
      (show 0 + surface.info.cropH.toNat * surface.info.pitch ≤ surface.data.size by omega)
    obtain ⟨filled, next, read', last, filled_size⟩ := readRows_short feeds wide
      (by rw [Array.size_extract]; omega)
      (show surface.info.chromaOffset + chromaRows surface.info.cropH.toNat * surface.info.pitch
        ≤ half.size by omega)
    refine ⟨{ surface with data := filled }, next, ?_, last, rfl, by
      rw [filled_size, half_size, size]⟩
    refine bind_eq_ok.2 ⟨_, read, ?_⟩
    exact bind_eq_ok.2 ⟨_, read', rfl⟩
  · obtain ⟨filled, next, read, last, filled_size⟩ := readRows_short h narrow
      (Nat.lt_of_not_le enough)
      (show 0 + surface.info.cropH.toNat * surface.info.pitch ≤ surface.data.size by omega)
    refine ⟨{ surface with data := filled }, next, ?_, last, rfl, by rw [filled_size, size]⟩
    refine bind_eq_ok.2 ⟨_, read, ?_⟩
    cases failure <;> rfl

/-- A frame changes no place but the visible ones, however reading ends. -/
theorem readFrame_elsewhere (feeds : source.Feeds store written bytes failure)
    {ending : FrameRead} {filled : Surface} {next : Source}
    (covering : surface.info.Covering) (size : surface.data.size = surface.info.surfaceSize)
    (read : surface.readFrame store source = .ok (ending, filled, next)) {place : Nat}
    (outside : ¬ surface.info.Visible place) : filled.data[place]? = surface.data[place]? := by
  have luma := covering.luma_le
  have chroma := covering.chroma_le
  have narrow := covering.cropW_le_pitch
  have inside : 0 + surface.info.cropH.toNat * surface.info.pitch ≤ surface.data.size := by omega
  have no_luma : ∀ y < surface.info.cropH.toNat, ∀ x < surface.info.cropW.toNat,
      place ≠ 0 + y * surface.info.pitch + x := by
    intro y y_lt x x_lt same
    exact outside (.inl ⟨y, y_lt, x, x_lt, by rw [same, Nat.zero_add]⟩)
  have no_chroma : ∀ r < chromaRows surface.info.cropH.toNat,
      ∀ c < chromaRowBytes surface.info.cropW.toNat,
        place ≠ surface.info.chromaOffset + r * surface.info.pitch + c := by
    intro r r_lt c c_lt same
    exact outside (.inr ⟨r, r_lt, c, c_lt, same⟩)
  obtain ⟨⟨ending', half, later⟩, lumas, read⟩ := bind_eq_ok.1 read
  have first := readRows_elsewhere feeds lumas no_luma
  by_cases enough : surface.info.cropH.toNat * surface.info.cropW.toNat ≤ bytes.size
  · -- All luma rows were read, so the chroma rows are.
    obtain ⟨_, _, lumas', rest, _⟩ := readRows_complete feeds narrow enough inside
    rw [lumas', Except.ok.injEq, Prod.mk.injEq, Prod.mk.injEq] at lumas
    obtain ⟨rfl, rfl, rfl⟩ := lumas
    obtain ⟨⟨_, data, _⟩, chromas, read⟩ := bind_eq_ok.1 read
    obtain ⟨_, rfl, _⟩ : _ ∧ { surface with data } = filled ∧ _ := by
      simpa [pure, Except.pure] using read
    rw [readRows_elsewhere rest chromas no_chroma, first]
  · obtain ⟨data, _, lumas', _⟩ := readRows_short feeds narrow (Nat.lt_of_not_le enough) inside
    rw [lumas', Except.ok.injEq, Prod.mk.injEq, Prod.mk.injEq] at lumas
    obtain ⟨rfl, rfl, rfl⟩ := lumas
    have unchanged : { surface with data } = filled := by
      cases failure <;> simp only [ReadEnd.ofFailure, pure, Except.pure, Except.ok.injEq,
        Prod.mk.injEq] at read <;> exact read.2.1
    rw [← unchanged, first]

end Surface

end Nv12Jpeg
