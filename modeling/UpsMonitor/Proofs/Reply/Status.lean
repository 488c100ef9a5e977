import UpsMonitor.Proofs.BitField
import UpsMonitor.Proofs.Checksum
import UpsMonitor.Proofs.Word
import UpsMonitor.Reply.Gpser

/-!
# Writing status replies

A status reply carries its five status bytes as they are, and its measurements in nibble characters.
Main statements:

* `flags_apply`: the conditions that a reply keeps agree with the flags of its bitmap;
* `ofFrame_encode`: what was written is read back, as far as the declared length calls for it.
-/

namespace UpsMonitor

namespace Gpser

theorem long_encode {width : Nat} {value : UInt32} (fits : value.toNat < 16 ^ width)
    (rest : Bytes) : long width (Nibble.encode width value ++ rest) = (value, rest) := by
  have length : (Nibble.encode width value).length = width := Nibble.length_encode width value
  change (Nibble.decode ((Nibble.encode width value ++ rest).take width),
    (Nibble.encode width value ++ rest).drop width) = _
  rw [List.take_left' length, List.drop_left' length, Nibble.decode_encode fits]

theorem long_bind {β : Type} {width : Nat} {value : UInt32} (fits : value.toNat < 16 ^ width)
    (next : UInt32 → StateM Bytes β) (rest : Bytes) :
    (long width >>= next) (Nibble.encode width value ++ rest) = next value rest := by
  change next (long width _).1 (long width _).2 = _
  rw [long_encode fits]

theorem clip_toUInt32 (value : UInt16) : Word.clip value.toUInt32 = value := by
  apply UInt16.toNat_inj.mp
  rw [Word.toNat_clip, UInt16.toNat_toUInt32]
  exact Nat.min_eq_right (Nat.le_of_lt_succ value.toNat_lt)

/-- A word that fits its width is not clipped. -/
theorem word_encode {width : Nat} {value : UInt16} (fits : value.toNat < 16 ^ width)
    (rest : Bytes) :
    word width (Nibble.encode width value.toUInt32 ++ rest) = (value, rest) := by
  have whole : value.toUInt32.toNat < 16 ^ width := by rwa [UInt16.toNat_toUInt32]
  change (Word.clip (long width _).1, (long width _).2) = _
  rw [long_encode whole, clip_toUInt32]

theorem word_bind {β : Type} {width : Nat} {value : UInt16} (fits : value.toNat < 16 ^ width)
    (next : UInt16 → StateM Bytes β) (rest : Bytes) :
    (word width >>= next) (Nibble.encode width value.toUInt32 ++ rest) = next value rest := by
  change next (word width _).1 (word width _).2 = _
  rw [word_encode fits]

end Gpser

namespace StatusReply

/-- Boost and buck are kept by their place in the whole bitmap and flagged by their place behind its
first byte, which is the same bit. -/
theorem flags_apply (reply : StatusReply) (s : Snapshot) :
    (reply.apply s).flags.boost = (reply.apply s).boost ∧
    (reply.apply s).flags.buck = (reply.apply s).buck :=
  ⟨testBit_drop reply.code.bytes 1 1, testBit_drop reply.code.bytes 1 0⟩

/-- A measurement as it is written: its count of characters and its value. -/
abbrev Slot := Nat × UInt16

/-- The measurements of every reply. -/
def common (reply : StatusReply) : List Slot :=
  [(3, reply.inputFrequency), (3, reply.inputVoltage.l1), (3, reply.outputFrequency),
    (3, reply.outputVoltage.l1), (2, reply.load.l1), (3, reply.bypassFrequency),
    (3, reply.bypassVoltage.l1), (4, reply.batteryVoltage), (2, reply.charge),
    (3, reply.runtime), (2, reply.temperature)]

/-- The other two input phases. -/
def inputPhases (reply : StatusReply) : List Slot :=
  [(3, reply.inputVoltage.l2), (3, reply.inputVoltage.l3)]

/-- The other two output phases. -/
def outputPhases (reply : StatusReply) : List Slot :=
  [(3, reply.outputVoltage.l2), (2, reply.load.l2), (3, reply.bypassVoltage.l2),
    (3, reply.outputVoltage.l3), (2, reply.load.l3), (3, reply.bypassVoltage.l3)]

/-- The measurements that a declared length calls for. -/
def slots (declared : Nat) (reply : StatusReply) : List Slot :=
  reply.common ++ (if 42 < declared then reply.inputPhases else []) ++
    (if 48 < declared then reply.outputPhases else [])

def written (slots : List Slot) : Bytes :=
  slots.flatMap fun slot => Nibble.encode slot.1 slot.2.toUInt32

def AllFit (slots : List Slot) : Prop := ∀ slot ∈ slots, slot.2.toNat < 16 ^ slot.1

instance (slots : List Slot) : Decidable (AllFit slots) :=
  inferInstanceAs (Decidable (∀ slot ∈ slots, slot.2.toNat < 16 ^ slot.1))

/-- The status bytes as they are, and the measurements behind them. -/
def encode (declared : Nat) (reply : StatusReply) : Bytes :=
  reply.code.bytes ++ written (reply.slots declared)

/-- The whole reply as a unit sends it. -/
def wire (declared : Nat) (mode : CheckMode) (reply : StatusReply) : Bytes :=
  Checksum.sealed mode (Wire.replyHeader ++ [0x52, 0x53, 0x30, 0x30] ++ reply.encode declared)

/-- What can be read of a reply. An output that is off has no frequency, an unknown run time is
marked, and phases that the declared length does not call for are zero. -/
def seen (declared : Nat) (reply : StatusReply) : StatusReply :=
  let input (value : UInt16) : UInt16 := if 42 < declared then value else 0
  let output (value : UInt16) : UInt16 := if 48 < declared then value else 0
  { reply with
    inputVoltage :=
      ⟨reply.inputVoltage.l1, input reply.inputVoltage.l2, input reply.inputVoltage.l3⟩
    outputFrequency := if testBit reply.code.bytes 3 then reply.outputFrequency else 0
    outputVoltage :=
      ⟨reply.outputVoltage.l1, output reply.outputVoltage.l2, output reply.outputVoltage.l3⟩
    load := ⟨reply.load.l1, output reply.load.l2, output reply.load.l3⟩
    bypassVoltage :=
      ⟨reply.bypassVoltage.l1, output reply.bypassVoltage.l2, output reply.bypassVoltage.l3⟩
    runtime := if reply.runtime = 0x0FFF then 0xFFFF else reply.runtime }

/-- A value that may be missing is read from where it would be written. -/
theorem word?_bind {β : Type} {present : Prop} [Decidable present] {width : Nat} {value : UInt16}
    (fits : present → value.toNat < 16 ^ width) (next : UInt16 → StateM Bytes β) (rest : Bytes) :
    (word? present width >>= next)
        ((if present then Nibble.encode width value.toUInt32 else []) ++ rest) =
      next (if present then value else 0) rest := by
  by_cases here : present
  · simp only [word?, here, decide_true, if_true]
    exact Gpser.word_bind (fits here) next rest
  · simp only [word?, here, decide_false, if_false]
    rfl

theorem written_if {present : Prop} [Decidable present] (width : Nat) (value : UInt16)
    (slots : List Slot) :
    written (if present then (width, value) :: slots else []) =
      (if present then Nibble.encode width value.toUInt32 else []) ++
        written (if present then slots else []) := by
  split <;> simp [written]

theorem AllFit.parts {declared : Nat} {reply : StatusReply} (fits : AllFit (reply.slots declared)) :
    AllFit reply.common ∧ (42 < declared → AllFit reply.inputPhases) ∧
      (48 < declared → AllFit reply.outputPhases) := by
  refine ⟨fun slot member => fits slot ?_, fun here slot member => fits slot ?_,
    fun here slot member => fits slot ?_⟩
  · simp [slots, member]
  · simp [slots, here, member]
  · simp [slots, here, member]

/-- The measurements are read one by one in the order in which they were written. -/
theorem measurements_written {declared : Nat} {reply : StatusReply}
    (fits : AllFit (reply.slots declared)) (rest : Bytes) :
    (measurements reply.code declared (written (reply.slots declared) ++ rest)).1 =
      reply.seen declared := by
  obtain ⟨always, input, output⟩ := fits.parts
  simp only [AllFit, common, inputPhases, outputPhases, List.forall_mem_cons, forall_and]
    at always input output
  obtain ⟨inFreq, in1, outFreq, out1, load1, byFreq, by1, battery, charge, runtime, temp, -⟩ :=
    always
  obtain ⟨in2, in3, -⟩ := input
  obtain ⟨out2, load2, by2, out3, load3, by3, -⟩ := output
  have none_left (present : Prop) [Decidable present] :
      written (if present then [] else []) = [] := by split <;> rfl
  have shape : written (reply.slots declared) ++ rest =
      written reply.common ++ (written (if 42 < declared then reply.inputPhases else []) ++
        (written (if 48 < declared then reply.outputPhases else []) ++ rest)) := by
    simp [slots, written]
  rw [shape]
  simp only [inputPhases, outputPhases, written_if, none_left, List.append_assoc, List.nil_append]
  simp only [common, written, List.flatMap_cons, List.flatMap_nil, List.append_assoc,
    List.nil_append]
  unfold measurements withInput withOutput
  rw [Gpser.word_bind inFreq, Gpser.word_bind in1, Gpser.word_bind outFreq, Gpser.word_bind out1,
    Gpser.word_bind load1, Gpser.word_bind byFreq, Gpser.word_bind by1, Gpser.word_bind battery,
    Gpser.word_bind charge, Gpser.word_bind runtime, Gpser.word_bind temp, word?_bind in2,
    word?_bind in3, word?_bind out2, word?_bind load2, word?_bind by2, word?_bind out3,
    word?_bind load3, word?_bind by3]
  rfl

theorem length_encode_status (declared : Nat) (reply : StatusReply) :
    (reply.encode declared).length + 12 = needed declared := by
  by_cases output : 48 < declared
  · have input : 42 < declared := by omega
    simp [encode, StatusCode.bytes, slots, written, common, inputPhases, outputPhases, needed,
      withOutput, input, output]
  · by_cases input : 42 < declared
    · simp [encode, StatusCode.bytes, slots, written, common, inputPhases, needed, withInput,
        withOutput, input, output]
    · simp [encode, StatusCode.bytes, slots, written, common, needed, withInput, withOutput, input,
        output]

theorem length_wire (declared : Nat) (mode : CheckMode) (reply : StatusReply) :
    (reply.wire declared mode).length = needed declared := by
  rw [← length_encode_status declared reply]
  simp [wire, Wire.replyHeader]

theorem needed_bounds (declared : Nat) : 48 ≤ needed declared ∧ needed declared ≤ 70 := by
  unfold needed
  split
  · decide
  · split <;> decide

/-- Only the status bytes can look like an end byte. -/
theorem etx_mem_encode {declared : Nat} {reply : StatusReply} :
    0x03 ∈ reply.encode declared ↔ 0x03 ∈ reply.code.bytes := by
  have silent : 0x03 ∉ written (reply.slots declared) := by
    intro member
    obtain ⟨slot, _, inside⟩ := List.mem_flatMap.mp member
    exact Nibble.etx_not_mem_encode _ _ inside
  simp [encode, silent]

/-- The status bytes of a frame. -/
def statusAt (frame : Bytes) (long : 12 ≤ frame.length) : StatusCode :=
  ⟨frame[7], frame[8], frame[9], frame[10], frame[11]⟩

/-- **What was written is read back.** Seven bytes may precede it, and five more must follow. -/
theorem ofFrame_encode {declared : Nat} {reply : StatusReply}
    (fits : AllFit (reply.slots declared)) {front rest : Bytes} (seven : front.length = 7)
    (five : 5 ≤ rest.length) :
    ofFrame declared (front ++ reply.encode declared ++ rest) = .ok (reply.seen declared) := by
  have long : needed declared ≤ (front ++ reply.encode declared ++ rest).length := by
    have length := length_encode_status declared reply
    simp only [List.length_append]
    omega
  have behind : (front ++ reply.encode declared ++ rest).drop 12 =
      written (reply.slots declared) ++ rest := by
    have bytes : (front ++ reply.code.bytes).length = 12 := by
      simp [seven, StatusCode.bytes]
    rw [encode, ← List.append_assoc, List.append_assoc _ _ rest, ← bytes, List.drop_left]
  have enough : 12 ≤ (front ++ reply.encode declared ++ rest).length := by
    have least := length_encode_status declared reply
    simp only [encode, List.length_append, StatusCode.bytes, List.length_cons] at least ⊢
    omega
  have code : statusAt (front ++ reply.encode declared ++ rest) enough = reply.code := by
    simp [statusAt, seven, encode, StatusCode.bytes]
  unfold ofFrame
  rw [dif_pos long]
  simp only [behind]
  rw [← measurements_written fits rest, ← code]
  rfl

/-- The reply that a unit sends is read back. -/
theorem ofFrame_wire {declared : Nat} {reply : StatusReply}
    (fits : AllFit (reply.slots declared)) (mode : CheckMode) :
    ofFrame declared (reply.wire declared mode) = .ok (reply.seen declared) := by
  let front := Wire.replyHeader ++ [0x52, 0x53, 0x30, 0x30]
  let guard := Checksum.written .gpser (Checksum.word .gpser mode (front ++ reply.encode declared))
  have shape : reply.wire declared mode =
      front ++ reply.encode declared ++ (guard ++ [Wire.etx]) := by
    rw [wire, Checksum.sealed, Checksum.append, List.append_assoc _ _ [Wire.etx]]
  rw [shape]
  exact ofFrame_encode fits rfl (by simp [guard, Checksum.length_written_gpser])

theorem ofFrame_short {declared : Nat} {frame : Bytes} (short : frame.length < needed declared) :
    ofFrame declared frame = .error (.insufficient (needed declared) frame.length) := by
  unfold ofFrame
  rw [dif_neg (Nat.not_le_of_lt short)]

end StatusReply

end UpsMonitor
