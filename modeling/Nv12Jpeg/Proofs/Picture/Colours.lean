import Nv12Jpeg.Proofs.Picture.Planes

/-!
# The colours of a converted picture

Which bytes of the planes make a pixel, and what its channels are.

* `Rgb.ofBt601InWords` — the conversion of one pixel step by step in signed 32-bit words, and
  `Rgb.ofBt601InWords_eq`, that no step leaves its word;
* `Rgb.level` — a channel in exact arithmetic;
* `Nv12Planes.Accepted.pixel_eq` — the pixel at a place, from the bytes of the planes;
* `Nv12Planes.toRgb_is_exact` — the size of a picture and all of its pixels.
-/

namespace Nv12Jpeg

/-! ## One pixel -/

/-- A value in a signed 32-bit word. -/
def Word.hold (value : Int) : Except Fault Int :=
  if -0x80000000 ≤ value ∧ value < 0x80000000 then .ok value else .error .sizeOverflow

theorem Word.hold_ok {value : Int} (low : -0x80000000 ≤ value) (high : value < 0x80000000) :
    hold value = .ok value :=
  if_pos ⟨low, high⟩

namespace Rgb

/-- A word with 8 fractional bits, shifted, clamped and cut down to a byte. -/
def channelInWords (scaled : Int) : UInt8 := UInt8.ofInt (max 0 (min (scaled >>> (8 : Nat)) 255))

/-- The colour of luma `y` under the chroma pair `u`, `v`, each step in a word. -/
def ofBt601InWords (y u v : UInt8) : Except Fault Rgb := do
  let above ← Word.hold (y.toNat - 16)
  let luma ← Word.hold ((← Word.hold (298 * max above 0)) + 128)
  let cb ← Word.hold (u.toNat - 128)
  let cr ← Word.hold (v.toNat - 128)
  let red ← Word.hold (luma + (← Word.hold (409 * cr)))
  let lessBlue ← Word.hold (luma - (← Word.hold (100 * cb)))
  let green ← Word.hold (lessBlue - (← Word.hold (208 * cr)))
  let blue ← Word.hold (luma + (← Word.hold (516 * cb)))
  return ⟨channelInWords red, channelInWords green, channelInWords blue⟩

/-- A channel in exact arithmetic: the level of luma `y` with `chroma` added, rounded down and
confined to a byte. -/
def level (y : UInt8) (chroma : Int) : Int :=
  max 0 (min 255 ((298 * max ((y.toNat : Int) - 16) 0 + 128 + chroma) / 256))

theorem channelInWords_eq (scaled : Int) : channelInWords scaled = channel scaled := by
  have shifted : scaled >>> (8 : Nat) = scaled / 256 := by
    rw [Int.shiftRight_eq_div_pow]
    rfl
  have narrow : max 0 (min (scaled / 256) 255) % 2 ^ 8 = max 0 (min (scaled / 256) 255) :=
    Int.emod_eq_of_lt (by omega) (by omega)
  rw [channelInWords, channel, shifted, UInt8.ofInt, narrow]
  congr 1
  omega

theorem toNat_channel (scaled : Int) :
    ((channel scaled).toNat : Int) = max 0 (min 255 (scaled / 256)) := by
  have narrow : min (scaled / 256).toNat 255 < UInt8.size := by
    rw [UInt8.size]
    omega
  rw [channel, UInt8.toNat_ofNat_of_lt' narrow]
  omega

/-- No step leaves its word, and the shift rounds down. -/
theorem ofBt601InWords_eq (y u v : UInt8) : ofBt601InWords y u v = .ok (ofBt601 y u v) := by
  have luma_le := y.toNat_lt
  have blue_le := u.toNat_lt
  have red_le := v.toNat_lt
  simp (disch := omega) only [ofBt601InWords, Word.hold_ok, ok_bind, channelInWords_eq]
  rfl

/-- The channels of a colour. -/
theorem channels_ofBt601 (y u v : UInt8) :
    ((ofBt601 y u v).red.toNat : Int) = level y (409 * ((v.toNat : Int) - 128)) ∧
    ((ofBt601 y u v).green.toNat : Int)
      = level y (-100 * ((u.toNat : Int) - 128) - 208 * ((v.toNat : Int) - 128)) ∧
    ((ofBt601 y u v).blue.toNat : Int) = level y (516 * ((u.toNat : Int) - 128)) := by
  refine ⟨toNat_channel _, ?_, toNat_channel _⟩
  rw [ofBt601, toNat_channel, level]
  congr 4
  omega

/-- The bytes of a colour in a picture. -/
def bytes (colour : Rgb) : Bytes := #[colour.red, colour.green, colour.blue]

end Rgb

/-! ## Pixels one behind the other -/

namespace Bytes

theorem joinRows_succ_last (row : Nat → Bytes) (count first : Nat) :
    joinRows row (count + 1) first = joinRows row count first ++ row (first + count) := by
  induction count generalizing first with
  | zero => simp [joinRows]
  | succ count ih =>
    rw [joinRows, ih, joinRows, Array.append_assoc, Nat.add_assoc, Nat.add_comm 1]

/-- A loop that appends a part in each step. -/
theorem fold_append {count : Nat} {step : (i : Nat) → i < count → Bytes → Bytes}
    {part : Nat → Bytes} (h : ∀ i within out, step i within out = out ++ part i) (out : Bytes) :
    Nat.fold count step out = out ++ joinRows part count 0 := by
  induction count with
  | zero => simp [joinRows]
  | succ count ih =>
    rw [Nat.fold_succ, h, ih fun i within => h i _, joinRows_succ_last, Array.append_assoc,
      Nat.zero_add]

end Bytes

/-- A pixel is what its three bytes say. -/
theorem RgbImage.pixel_eq {image : RgbImage} {x y : Nat} {colour : Rgb}
    (shown : image.data.extract ((y * image.width + x) * 3) ((y * image.width + x) * 3 + 3)
      = colour.bytes) : image.pixel x y = colour := by
  have byte : ∀ i < 3, image.data.getD ((y * image.width + x) * 3 + i) 0
      = colour.bytes.getD i 0 := by
    intro i within
    have one := Bytes.getElem?_extract_add image.data ((y * image.width + x) * 3) 3 i
    rw [shown, if_pos within] at one
    rw [Array.getD_eq_getD_getElem?, Array.getD_eq_getD_getElem?, one]
  rw [pixel]
  exact congr (congr (congrArg Rgb.mk (byte 0 (by decide))) (byte 1 (by decide)))
    (byte 2 (by decide))

namespace Nv12Planes

variable {planes : Nv12Planes} {image : RgbImage} {count first : Nat} {out : Bytes}

/-- The colour at column `x` of a row, given its luma bytes and the chroma pairs under them. -/
def colourAt (luma chroma : Bytes) (x : Nat) : Rgb :=
  .ofBt601 (luma.getD x 0) (chroma.getD (x / 2 * 2) 0) (chroma.getD (x / 2 * 2 + 1) 0)

/-- The colours of a row. -/
def rowColours (luma chroma : Bytes) : Bytes :=
  Bytes.joinRows (fun x => (colourAt luma chroma x).bytes) luma.size 0

theorem appendRgbRow_eq (luma chroma out : Bytes) :
    appendRgbRow luma chroma out = out ++ rowColours luma chroma := by
  refine Bytes.fold_append (fun x within out => ?_) out
  have byte : luma.getD x 0 = luma[x] := by
    rw [Array.getD_eq_getD_getElem?, Array.getElem?_eq_getElem within, Option.getD_some]
  rw [colourAt, byte]
  simp [Rgb.bytes, ← Array.append_singleton]

/-- The colours of rows that lie in the planes. -/
theorem appendRgbRows_eq_ok (luma chroma : Nat → Bytes)
    (h : ∀ y, first ≤ y → y < first + count →
      planes.lumaRow y = .ok (luma y) ∧ planes.chromaRow (y / 2) = .ok (chroma y)) :
    planes.appendRgbRows count first out
      = .ok (out ++ Bytes.joinRows (fun y => rowColours (luma y) (chroma y)) count first) := by
  induction count generalizing first out with
  | zero => simp [appendRgbRows, Bytes.joinRows]
  | succ count ih =>
    obtain ⟨lumaRow, chromaRow⟩ := h first (by omega) (by omega)
    rw [appendRgbRows, lumaRow, chromaRow, Bytes.joinRows, ← Array.append_assoc]
    simp only [ok_bind, appendRgbRow_eq]
    exact ih fun y low high => h y (by omega) (by omega)

theorem size_rowColours {luma chroma : Bytes} :
    (rowColours luma chroma).size = luma.size * 3 :=
  Bytes.size_joinRows fun _ _ _ => rfl

/-- The bytes of a pixel in its row. -/
theorem extract_rowColours {luma chroma : Bytes} {x : Nat} (within : x < luma.size) :
    (rowColours luma chroma).extract (x * 3) (x * 3 + 3) = (colourAt luma chroma x).bytes := by
  have cut := Bytes.extract_joinRows
    (fun x (_ : 0 ≤ x) (_ : x < 0 + luma.size) =>
      show (colourAt luma chroma x).bytes.size = 3 from rfl) within
  rwa [Nat.zero_add] at cut

namespace Accepted

/-- The bytes of a converted picture, row by row. -/
theorem data_eq (h : planes.Accepted) (converted : planes.toRgb = .ok image) :
    image.data = Bytes.joinRows (fun y => rowColours
      (planes.luma.extract (y * planes.pitch) (y * planes.pitch + planes.width))
      (planes.chroma.extract (y / 2 * planes.pitch)
        (y / 2 * planes.pitch + chromaRowBytes planes.width))) planes.height 0 := by
  obtain ⟨_, _, _, rows⟩ := toRgb_eq_ok.1 converted
  rw [appendRgbRows_eq_ok _ _ fun y _ within =>
    ⟨h.copyable.lumaRow_eq (by omega), h.copyable.chromaRow_eq (half_lt_chromaRows (by omega))⟩,
    Array.empty_append] at rows
  exact (Except.ok.inj rows).symm

theorem size_row (h : planes.Accepted) {y : Nat} (within : y < planes.height) (chroma : Bytes) :
    (rowColours (planes.luma.extract (y * planes.pitch) (y * planes.pitch + planes.width))
      chroma).size = planes.width * 3 := by
  rw [size_rowColours, Bytes.size_extract_add (h.copyable.luma_row y within).2]

theorem size_data (h : planes.Accepted) (converted : planes.toRgb = .ok image) :
    image.data.size = 3 * planes.width * planes.height := by
  rw [h.data_eq converted, Bytes.size_joinRows fun y _ within => h.size_row (by omega) _,
    Nat.mul_comm planes.width, Nat.mul_comm]

/-- The pixel at a place has the colour of the luma byte there under the chroma pair of its
square. -/
theorem pixel_eq (h : planes.Accepted) (converted : planes.toRgb = .ok image) {x y : Nat}
    (column : x < planes.width) (row : y < planes.height) :
    ∃ luma u v, planes.luma[y * planes.pitch + x]? = some luma ∧
      planes.chroma[y / 2 * planes.pitch + x / 2 * 2]? = some u ∧
      planes.chroma[y / 2 * planes.pitch + x / 2 * 2 + 1]? = some v ∧
      image.pixel x y = .ofBt601 luma u v := by
  obtain ⟨_, width_eq, _, _⟩ := toRgb_eq_ok.1 converted
  have wide : x / 2 * 2 + 1 < chromaRowBytes planes.width := by
    rw [chromaRowBytes]
    omega
  obtain ⟨_, luma_inside⟩ := h.copyable.luma_row y row
  obtain ⟨_, chroma_inside⟩ := h.copyable.chroma_row (y / 2) (half_lt_chromaRows row)
  -- a byte of a row is one of its plane
  have byte : ∀ (plane : Bytes) (start count i : Nat), i < count → start + count ≤ plane.size →
      plane[start + i]? = some ((plane.extract start (start + count)).getD i 0) := by
    intro plane start count i within inside
    have one := Bytes.getElem?_extract_add plane start count i
    rw [if_pos within] at one
    rw [← one, Array.getD_eq_getD_getElem?, one, Array.getElem?_eq_getElem (by omega),
      Option.getD_some]
  refine ⟨_, _, _, byte _ _ _ _ column luma_inside,
    byte _ _ _ _ (Nat.lt_of_succ_lt wide) chroma_inside,
    byte _ _ _ (x / 2 * 2 + 1) wide chroma_inside, RgbImage.pixel_eq ?_⟩
  -- a pixel is three bytes of its row, and the row is one of the picture
  have cut := Bytes.extract_joinRows
    (fun y (_ : 0 ≤ y) within => h.size_row (show y < planes.height by omega)
      (planes.chroma.extract (y / 2 * planes.pitch)
        (y / 2 * planes.pitch + chromaRowBytes planes.width))) row
  rw [← h.data_eq converted, Nat.zero_add] at cut
  have start : (y * image.width + x) * 3 = y * (planes.width * 3) + x * 3 := by
    rw [width_eq, Nat.add_mul, Nat.mul_assoc]
  rw [start, ← Bytes.extract_extract_add image.data _ (show x * 3 + 3 ≤ planes.width * 3 by omega),
    cut, extract_rowColours (by rwa [Bytes.size_extract_add luma_inside])]
  rfl

end Accepted

/-- A converted picture has the size of its planes. Each pixel has the colour of its luma byte
under the chroma pair of its square of 2 by 2, which is the same pair for all pixels of the square
that the picture has. The channels are those of exact arithmetic, and computing them step by step
leaves no 32-bit word. -/
theorem toRgb_is_exact (converted : planes.toRgb = .ok image) :
    image.width = planes.width ∧ image.height = planes.height ∧
    image.data.size = 3 * planes.width * planes.height ∧
    (∀ x y, x < planes.width → y < planes.height → ∃ luma u v,
      planes.luma[y * planes.pitch + x]? = some luma ∧
      planes.chroma[y / 2 * planes.pitch + x / 2 * 2]? = some u ∧
      planes.chroma[y / 2 * planes.pitch + x / 2 * 2 + 1]? = some v ∧
      ((image.pixel x y).red.toNat : Int) = Rgb.level luma (409 * ((v.toNat : Int) - 128)) ∧
      ((image.pixel x y).green.toNat : Int) = Rgb.level luma
        (-100 * ((u.toNat : Int) - 128) - 208 * ((v.toNat : Int) - 128)) ∧
      ((image.pixel x y).blue.toNat : Int) = Rgb.level luma (516 * ((u.toNat : Int) - 128)) ∧
      Rgb.ofBt601InWords luma u v = .ok (image.pixel x y)) ∧
    ∀ i j, 2 * i < planes.width → 2 * j < planes.height → ∃ u v,
      planes.chroma[j * planes.pitch + i * 2]? = some u ∧
      planes.chroma[j * planes.pitch + i * 2 + 1]? = some v ∧
      ∀ x y, x / 2 = i → y / 2 = j → x < planes.width → y < planes.height → ∃ luma,
        planes.luma[y * planes.pitch + x]? = some luma ∧
        image.pixel x y = .ofBt601 luma u v := by
  obtain ⟨accepted, width_eq, height_eq, _⟩ := toRgb_eq_ok.1 converted
  refine ⟨width_eq, height_eq, accepted.size_data converted, fun x y column row => ?_,
    fun i j left top => ?_⟩
  · obtain ⟨luma, u, v, luma_eq, u_eq, v_eq, shown⟩ := accepted.pixel_eq converted column row
    obtain ⟨red, green, blue⟩ := Rgb.channels_ofBt601 luma u v
    rw [shown]
    exact ⟨luma, u, v, luma_eq, u_eq, v_eq, red, green, blue, Rgb.ofBt601InWords_eq luma u v⟩
  · obtain ⟨_, u, v, _, u_eq, v_eq, _⟩ := accepted.pixel_eq converted left top
    rw [Nat.mul_div_cancel_left i (by decide), Nat.mul_div_cancel_left j (by decide)] at u_eq v_eq
    refine ⟨u, v, u_eq, v_eq, ?_⟩
    rintro x y rfl rfl column row
    obtain ⟨luma, u', v', luma_eq, u_eq', v_eq', shown⟩ := accepted.pixel_eq converted column row
    obtain rfl := Option.some.inj (u_eq.symm.trans u_eq')
    obtain rfl := Option.some.inj (v_eq.symm.trans v_eq')
    exact ⟨luma, luma_eq, shown⟩

/-- The last pixel of a picture of 3 by 3 pixels takes its chroma pair from a square that has no
other pixels. -/
theorem toRgb_is_exact_at_odd_edge :
    let planes : Nv12Planes := ⟨3, 3, 6,
      #[81, 82, 83, 7, 7, 7, 90, 91, 92, 7, 7, 7, 16, 235, 128, 7, 7, 7],
      #[90, 240, 128, 128, 7, 7, 128, 54, 34, 16, 7, 7]⟩
    ∃ image, planes.toRgb = .ok image ∧ image.data.size = 27 ∧
      Rgb.ofBt601InWords 128 34 16 = .ok (image.pixel 2 2) := by
  intro planes
  have accepted : planes.Accepted := ⟨⟨by decide, by decide, by decide, by decide, by decide,
    by decide, by decide, by decide⟩, by decide, by decide, by decide⟩
  obtain ⟨image, converted, _⟩ := accepted.toRgb_ok
  obtain ⟨_, _, size, pixels, _⟩ := toRgb_is_exact converted
  obtain ⟨luma, u, v, luma_eq, u_eq, v_eq, _, _, _, words⟩ := pixels 2 2 (by decide) (by decide)
  obtain rfl := Option.some.inj luma_eq
  obtain rfl := Option.some.inj u_eq
  obtain rfl := Option.some.inj v_eq
  exact ⟨image, converted, size, words⟩

end Nv12Planes

end Nv12Jpeg
