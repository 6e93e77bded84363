import Nv12Jpeg.Proofs.Encoder.ParamsCheck
import Nv12Jpeg.Proofs.Surface.Contents

/-!
# From raw frames to repacked ones

A raw frame is read into the rows of a surface, and a copy of the surface has these rows one behind
the other again. The copy has the bytes of the raw frame in their order, and nothing else but the
zero byte that makes the luma rows of an odd width even.

* `Nv12Frame.data_ofRaw_of_even`, `Nv12Frame.data_ofRaw_of_odd` — the bytes of the copy;
* `Nv12Frame.ofRaw_inj` — different raw frames give different copies;
* `Surface.readFrame_loses_nothing` — what a surface held before does not matter, and the copy
  can be converted to a picture.
-/

namespace Nv12Jpeg

theorem chromaRowBytes_of_even {width : Nat} (even : width % 2 = 0) :
    chromaRowBytes width = width := by
  rw [chromaRowBytes]
  omega

theorem chromaRowBytes_of_odd {width : Nat} (odd : width % 2 = 1) :
    chromaRowBytes width = width + 1 := by
  rw [chromaRowBytes]
  omega

namespace Nv12Frame

variable {width height : Nat} {raw other : Bytes}

/-- Of an even width the copy has the bytes of the raw frame. -/
theorem data_ofRaw_of_even
    (size : raw.size = height * width + chromaRows height * chromaRowBytes width)
    (even : width % 2 = 0) : (ofRaw width height raw).data = raw := by
  -- Rows of an even width have no padding, and joined they are the front of the raw frame.
  have luma := Bytes.joinRows_extract raw 0 width height 0
  simp only [Nat.zero_add, Nat.zero_mul] at luma
  have no_padding : Bytes.zeros (chromaRowBytes width - width) = #[] := by
    rw [chromaRowBytes_of_even even, Nat.sub_self]
    rfl
  simp only [ofRaw, no_padding, Array.append_empty]
  rw [luma, ← size, Bytes.extract_append_extract_size]

/-- Of an odd width the copy has a zero byte behind each luma row. -/
theorem data_ofRaw_of_odd
    (size : raw.size = height * width + chromaRows height * chromaRowBytes width)
    (odd : width % 2 = 1) : (ofRaw width height raw).data
      = Bytes.joinRows (fun y => (raw.extract (y * width) (y * width + width)).push 0) height 0
        ++ raw.extract (height * width) raw.size := by
  have padding : Bytes.zeros (chromaRowBytes width - width) = #[0] := by
    rw [chromaRowBytes_of_odd odd, Nat.add_sub_cancel_left]
    rfl
  simp only [ofRaw, padding, Array.append_singleton, ← size]

/-- Different raw frames give different copies. -/
theorem ofRaw_inj (size : raw.size = height * width + chromaRows height * chromaRowBytes width)
    (other_size : other.size = height * width + chromaRows height * chromaRowBytes width)
    (same : ofRaw width height other = ofRaw width height raw) : other = raw := by
  rw [← raw_ofRaw size, ← raw_ofRaw other_size, same]

end Nv12Frame

/-- A raw frame that is read into a surface and copied from there comes out as it was, but for the
one zero byte behind each luma row of an odd width. What comes out is a frame of the crop size that
is converted to a picture; it does not depend on what the surface held before or on how the source
delivers its bytes, and no other raw frame gives the same. -/
theorem Surface.readFrame_loses_nothing {info : FrameInfo}
    (wide : covers info.width info.cropW = true) (high : covers info.height info.cropH = true)
    (columns : info.cropW ≠ 0) (rows : info.cropH ≠ 0) :
    ∃ repacked : Bytes → Nv12Frame, ∀ raw : Bytes, raw.size = info.rawFrameSize →
      (∀ data source store written failure, data.size = info.surfaceSize →
        Source.Feeds source store written raw failure → ∃ filled next,
          Surface.readFrame ⟨info, data⟩ store source = .ok (.complete, filled, next) ∧
          filled.toFrame = .ok (repacked raw)) ∧
      (repacked raw).width = info.cropW.toNat ∧ (repacked raw).height = info.cropH.toNat ∧
      (repacked raw).pitch = chromaRowBytes info.cropW.toNat ∧
      (info.cropW.toNat % 2 = 0 → (repacked raw).data = raw) ∧
      (info.cropW.toNat % 2 = 1 → (repacked raw).data
        = Bytes.joinRows (fun y => (raw.extract (y * info.cropW.toNat)
            (y * info.cropW.toNat + info.cropW.toNat)).push 0) info.cropH.toNat 0
          ++ raw.extract (info.cropH.toNat * info.cropW.toNat) raw.size) ∧
      (∃ planes image, (repacked raw).planes = .ok planes ∧ planes.toRgb = .ok image ∧
        image.width = info.cropW.toNat ∧ image.height = info.cropH.toNat) ∧
      ∀ other : Bytes, other.size = info.rawFrameSize → repacked other = repacked raw →
        other = raw := by
  have covering := FrameInfo.covering_of_covers wide high
  have width_pos : 0 < info.cropW.toNat :=
    Nat.pos_of_ne_zero fun empty => columns (UInt16.toNat_inj.1 empty)
  have height_pos : 0 < info.cropH.toNat :=
    Nat.pos_of_ne_zero fun empty => rows (UInt16.toNat_inj.1 empty)
  have sound : info.Sound := ⟨width_pos, height_pos, covering.crop_w_le, covering.crop_h_le,
    covering.width_even, covering.height_even⟩
  have size_eq : info.rawFrameSize = info.cropH.toNat * info.cropW.toNat
      + chromaRows info.cropH.toNat * chromaRowBytes info.cropW.toNat := by
    rw [FrameInfo.rawFrameSize, Nat.mul_comm info.cropW.toNat, Nat.mul_comm (chromaRowBytes _)]
  refine ⟨Nv12Frame.ofRaw info.cropW.toNat info.cropH.toNat, fun raw size => ?_⟩
  have tight : (Nv12Frame.ofRaw info.cropW.toNat info.cropH.toNat raw).Tight :=
    Nv12Frame.tight_ofRaw width_pos (Nat.le_of_lt_succ (UInt16.toNat_lt _)) height_pos
      (Nat.le_of_lt_succ (UInt16.toNat_lt _)) (size.trans size_eq)
  refine ⟨?_, rfl, rfl, rfl, Nv12Frame.data_ofRaw_of_even (size.trans size_eq),
    Nv12Frame.data_ofRaw_of_odd (size.trans size_eq), ?_, fun other other_size same =>
      Nv12Frame.ofRaw_inj (size.trans size_eq) (other_size.trans size_eq) same⟩
  · intro data source store written failure surface_size feeds
    obtain ⟨filled, next, read, _, _, _, shown⟩ := Surface.readFrame_complete feeds
      (show (Surface.mk info data).info.Sound from sound) surface_size (Nat.le_of_eq size.symm)
    rw [Array.extract_eq_self_of_le (Nat.le_of_eq size)] at shown
    exact ⟨filled, next, read, shown⟩
  · obtain ⟨planes, cut, full⟩ := tight.planes_ok
    obtain ⟨image, converted, image_width, image_height⟩ := full.accepted.toRgb_ok
    obtain ⟨_, _, made⟩ := bind_eq_ok.1 cut
    cases made
    exact ⟨_, image, cut, converted, image_width, image_height⟩

/-- The 17 bytes of a frame of 3 by 3 pixels, in portions of one or two, with an interruption before
each but the first. -/
private def trickle : ByteStream :=
  .ofBytes (Array.ofFn fun i : Fin 17 => UInt8.ofNat (i.val + 1))
    ⟨fun position => position % 2 + 1, fun position => min position 1, none⟩

/-- A frame of 3 by 3 pixels, read into a surface with bytes from before and repacked. -/
theorem Surface.readFrame_loses_nothing_of_three :
    ∃ filled next frame planes image,
      Surface.readFrame ⟨.nv12 3 3 30, Array.replicate 384 200⟩ .empty (.stream trickle)
        = .ok (.complete, filled, next) ∧
      filled.toFrame = .ok frame ∧ frame.planes = .ok planes ∧ planes.toRgb = .ok image ∧
      frame.pitch = 4 ∧ frame.data
        = #[1, 2, 3, 0, 4, 5, 6, 0, 7, 8, 9, 0, 10, 11, 12, 13, 14, 15, 16, 17] := by
  have feeds : (Source.stream trickle).Feeds .empty (fun _ => False) trickle.bytes none :=
    ⟨fun _ => Nat.succ_pos _, by decide +kernel, rfl⟩
  obtain ⟨repacked, lossless⟩ := readFrame_loses_nothing
    (show covers (FrameInfo.nv12 3 3 30).width (FrameInfo.nv12 3 3 30).cropW = true by decide)
    (show covers (FrameInfo.nv12 3 3 30).height (FrameInfo.nv12 3 3 30).cropH = true by decide)
    (by decide) (by decide)
  obtain ⟨reads, _, _, pitch, _, odd, ⟨planes, image, cut, converted, _⟩, _⟩ :=
    lossless trickle.bytes (by decide +kernel)
  obtain ⟨filled, next, read, copied⟩ :=
    reads (Array.replicate 384 200) _ _ _ _ (by decide +kernel) feeds
  refine ⟨filled, next, _, planes, image, read, copied, cut, converted, pitch, ?_⟩
  exact (odd (by decide)).trans (by decide +kernel)

end Nv12Jpeg
