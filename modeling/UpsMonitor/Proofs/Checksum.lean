import UpsMonitor.Checksum
import UpsMonitor.Proofs.Nibble
import UpsMonitor.Proofs.Word

/-!
# The guard on a frame

The guard word is written and checked over the same bytes. Main statements:

* `verify_append_gpser`: a GPSER frame closed with its guard word and any one byte passes;
* `etx_not_mem_guard`: its guard word never looks like an end byte;
* `verify_append_sentry`: a SENTRY frame closed with its guard word passes;
* `guarded_frame_passes`: content passes behind its own guard word and behind no other.
-/

namespace UpsMonitor.Checksum

/-! ## GPSER frames -/

theorem length_written_gpser (value : UInt16) : (written .gpser value).length = 4 :=
  Nibble.length_encode 4 value.toUInt32

/-- A GPSER frame is its content, four characters and a last byte. -/
theorem split?_gpser (content : Bytes) {chars : Bytes} (four : chars.length = 4) (last : UInt8) :
    split? .gpser (content ++ chars ++ [last]) =
      some (content, (Nibble.decode chars).toUInt16) := by
  let frame := content ++ (chars ++ [last])
  have length : frame.length = content.length + Wire.trailerLength := by
    simp [frame, four, Wire.trailerLength]
  have cut : frame.length - Wire.trailerLength = content.length := by omega
  have carried : (frame.drop content.length).take 4 = chars := by
    rw [List.drop_left, ← four, List.take_left]
  rw [List.append_assoc]
  change split? .gpser frame = some (content, (Nibble.decode chars).toUInt16)
  simp only [split?, cut, carried]
  rw [if_neg (by omega), List.take_left]

theorem split?_append_gpser (content : Bytes) (value : UInt16) (last : UInt8) :
    split? .gpser (content ++ written .gpser value ++ [last]) = some (content, value) := by
  rw [split?_gpser content (length_written_gpser value), written, Nibble.decode_encodeWord]

theorem verify_gpser_iff {mode : CheckMode} {content chars : Bytes} (four : chars.length = 4)
    {last : UInt8} :
    verify .gpser mode (content ++ chars ++ [last]) = true ↔
      word .gpser mode content = (Nibble.decode chars).toUInt16 := by
  simp only [verify, split?_gpser content four, beq_iff_eq]

/-- A whole GPSER frame: its content, the guard word and the end byte. -/
def sealed (mode : CheckMode) (content : Bytes) : Bytes :=
  append .gpser mode content ++ [Wire.etx]

theorem verify_written_gpser {mode : CheckMode} {content : Bytes} {value : UInt16} {last : UInt8} :
    verify .gpser mode (content ++ written .gpser value ++ [last]) = true ↔
      value = word .gpser mode content := by
  simp only [verify, split?_append_gpser, beq_iff_eq]
  exact eq_comm

/-- A frame closed with its guard word passes, whatever byte ends it. -/
theorem verify_append_gpser (mode : CheckMode) (content : Bytes) (last : UInt8) :
    verify .gpser mode (append .gpser mode content ++ [last]) = true :=
  verify_written_gpser.mpr rfl

theorem verify_sealed (mode : CheckMode) (content : Bytes) :
    verify .gpser mode (sealed mode content) = true :=
  verify_append_gpser mode content Wire.etx

@[simp] theorem length_sealed (mode : CheckMode) (content : Bytes) :
    (sealed mode content).length = content.length + 5 := by
  simp [sealed, append, length_written_gpser]

theorem etx_not_mem_guard (value : UInt16) : Wire.etx ∉ written .gpser value :=
  Nibble.etx_not_mem_encode 4 value.toUInt32

/-! ## SENTRY frames -/

theorem length_append_sentry (mode : CheckMode) (content : Bytes) :
    (append .sentry mode content).length = content.length + 2 := by
  simp [append, written, Word.littleEndian]

/-- A SENTRY frame is its content and two bytes. -/
theorem split?_sentry (content : Bytes) (low high : UInt8) :
    split? .sentry (content ++ [low, high]) = some (content, Word.ofLittleEndian low high) := by
  have cut : (content ++ [low, high]).length - 2 = content.length := by simp
  rw [split?, cut, List.drop_left, List.take_left]

theorem verify_sentry_iff {mode : CheckMode} {content : Bytes} {low high : UInt8} :
    verify .sentry mode (content ++ [low, high]) = true ↔
      word .sentry mode content = Word.ofLittleEndian low high := by
  simp only [verify, split?_sentry, beq_iff_eq]

theorem split?_append_sentry (content : Bytes) (value : UInt16) :
    split? .sentry (content ++ written .sentry value) = some (content, value) := by
  rw [written, Word.littleEndian, split?_sentry, Word.ofLittleEndian_bytes]

theorem verify_written_sentry {mode : CheckMode} {content : Bytes} {value : UInt16} :
    verify .sentry mode (content ++ written .sentry value) = true ↔
      value = word .sentry mode content := by
  simp only [verify, split?_append_sentry, beq_iff_eq]
  exact eq_comm

/-- A SENTRY frame closed with its guard word passes. The mode makes no difference, and a byte that
is not summed is left out both times. -/
theorem verify_append_sentry (mode other : CheckMode) (content : Bytes) :
    verify .sentry mode (append .sentry other content) = true :=
  verify_written_sentry.mpr rfl

/-! ## Frames of both families -/

/-- **Content passes behind its own guard word and behind no other.** A GPSER frame may end with any
byte. That holds of content of any length, also of SENTRY content of 101 bytes, of which the last is
guarded by nothing. -/
theorem guarded_frame_passes (mode : CheckMode) (content : Bytes) :
    (∀ last, verify .gpser mode (append .gpser mode content ++ [last]) = true) ∧
    verify .sentry mode (append .sentry mode content) = true ∧
    (∀ value last, verify .gpser mode (content ++ written .gpser value ++ [last]) = true ↔
      value = word .gpser mode content) ∧
    ∀ value, verify .sentry mode (content ++ written .sentry value) = true ↔
      value = word .sentry mode content :=
  ⟨verify_append_gpser mode content, verify_append_sentry mode mode content,
    fun _ _ => verify_written_gpser, fun _ => verify_written_sentry⟩

example :
    verify .sentry .sum (List.replicate 100 0x01 ++ [0x20] ++ written .sentry 100) = true := by
  decide +kernel

end UpsMonitor.Checksum
