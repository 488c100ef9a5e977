import Mathlib.Data.List.TakeWhile
import UpsMonitor.Proofs.Reply.Decoding
import UpsMonitor.Proofs.Reply.Status

/-!
# Replies are read back

How a unit writes what it has to tell, and that all of it is read back, whatever was known before.
Texts stand in fields of fixed size that are filled up, numbers in nibble characters, and what is
not in a reply stays as it was. Main statements:

* `text_padded`: a text is read out of its field without what fills it up;
* `status_round_trip`: a status reply brings all of the status and changes nothing else;
* `data_replies_round_trip`: so do the four other data replies with what they tell.
-/

namespace UpsMonitor

/-! ## Texts -/

namespace Text

/-- Bytes below 0x80 are characters by themselves. -/
theorem Utf8.decodeLossy_ascii {bytes : Bytes} (ascii : ∀ byte ∈ bytes, byte < 0x80) :
    decodeLossy bytes = bytes.map fun byte => Char.ofNat byte.toNat := by
  unfold decodeLossy
  induction bytes with
  | nil => simp [characters]
  | cons lead rest ih =>
    have alone : character lead rest = (some (Char.ofNat lead.toNat), 0) := by
      rw [character, if_pos (ascii lead (List.mem_cons_self ..))]
    have others := ih fun byte member => ascii byte (List.mem_cons_of_mem _ member)
    rw [characters, alone, List.drop_zero, List.map_cons, others]
    rfl

theorem trimEnd_append {text blanks : List Char} (blank : ∀ c ∈ blanks, isBlank c = true)
    (trimmed : ∀ c ∈ text.getLast?, isBlank c = false) : trimEnd (text ++ blanks) = text := by
  have inside : ∀ c ∈ blanks.reverse, isBlank c = true := fun c member =>
    blank c (List.mem_reverse.mp member)
  have boundary : text.reverse.dropWhile isBlank = text.reverse := by
    rw [← List.head?_reverse] at trimmed
    cases reversed : text.reverse with
    | nil => rfl
    | cons last others =>
      have ends := trimmed last (by rw [reversed]; rfl)
      rw [List.dropWhile_cons_of_neg (by simp [ends])]
  rw [trimEnd, List.reverse_append, List.dropWhile_append_of_pos inside, boundary,
    List.reverse_reverse]

/-- The bytes of a text that is all ASCII. -/
def ascii (text : String) : Bytes := text.toList.map fun c => UInt8.ofNat c.toNat

theorem map_ascii {text : String} (plain : ∀ c ∈ text.toList, c.toNat < 0x80) :
    (ascii text).map (fun byte => Char.ofNat byte.toNat) = text.toList := by
  rw [ascii, List.map_map]
  refine (List.map_congr_left fun c member => ?_).trans (List.map_id _)
  have small := plain c member
  have same : (UInt8.ofNat c.toNat).toNat = c.toNat := by
    rw [UInt8.toNat_ofNat']
    omega
  simp [same]

end Text

namespace Gpser

open Text

/-- How a text stands in a field: in ASCII without zeros, and filled up with blanks or zeros. Its
own end is no blank. -/
structure Padded (size : Nat) (text : String) (field : Bytes) : Prop where
  length : field.length = size
  plain : ∀ c ∈ text.toList, 0 < c.toNat ∧ c.toNat < 0x80
  trimmed : ∀ c ∈ text.toList.getLast?, isBlank c = false
  filled : ∃ filler, field = ascii text ++ filler ∧ ∀ byte ∈ filler, byte = 0x20 ∨ byte = 0

theorem mem_ascii {text : String} (plain : ∀ c ∈ text.toList, 0 < c.toNat ∧ c.toNat < 0x80) :
    ∀ byte ∈ ascii text, byte ≠ 0 ∧ byte < 0x80 := by
  intro byte member
  obtain ⟨c, inside, rfl⟩ := List.mem_map.mp member
  obtain ⟨positive, small⟩ := plain c inside
  have same : (UInt8.ofNat c.toNat).toNat = c.toNat := by
    rw [UInt8.toNat_ofNat']
    omega
  refine ⟨fun zero => ?_, ?_⟩
  · rw [zero] at same
    exact absurd same (Nat.ne_of_lt positive)
  · rw [UInt8.lt_iff_toNat_lt, same]
    exact small

/-- **A text is read out of its field without what fills it up.** -/
theorem text_padded {size : Nat} {text : String} {field : Bytes}
    (padded : Padded size text field) : Gpser.text field = text := by
  obtain ⟨filler, rfl, fills⟩ := padded.filled
  have plain := mem_ascii padded.plain
  -- only blanks are left of the filler, since a zero ends the text
  let blanks := filler.takeWhile (· != 0)
  have blank : ∀ byte ∈ blanks, byte = 0x20 := by
    intro byte member
    have there := (List.takeWhile_prefix _).subset member
    have nonzero := List.mem_takeWhile_imp member
    exact (fills byte there).resolve_right (by simpa using nonzero)
  have kept : (ascii text ++ filler).takeWhile (· != 0) = ascii text ++ blanks :=
    List.takeWhile_append_of_pos fun byte member => by simpa using (plain byte member).1
  have low : ∀ byte ∈ ascii text ++ blanks, byte < 0x80 := by
    intro byte member
    rcases List.mem_append.mp member with written | filling
    · exact (plain byte written).2
    · rw [blank byte filling]
      decide
  have chars : Utf8.decodeLossy (ascii text ++ blanks) =
      text.toList ++ blanks.map fun byte => Char.ofNat byte.toNat := by
    rw [Utf8.decodeLossy_ascii low, List.map_append, map_ascii fun c member =>
      (padded.plain c member).2]
  have all_blank : ∀ c ∈ blanks.map (fun byte => Char.ofNat byte.toNat), isBlank c = true := by
    intro c member
    obtain ⟨byte, filling, rfl⟩ := List.mem_map.mp member
    rw [blank byte filling]
    decide
  rw [Gpser.text, kept, chars, trimEnd_append all_blank padded.trimmed, String.ofList_toList]

/-- A text that is not too long for its field may be filled up with blanks. -/
theorem padded_blanks {size : Nat} {text : String} (short : text.toList.length ≤ size)
    (plain : ∀ c ∈ text.toList, 0 < c.toNat ∧ c.toNat < 0x80)
    (trimmed : ∀ c ∈ text.toList.getLast?, isBlank c = false) :
    Padded size text (ascii text ++ List.replicate (size - text.toList.length) 0x20) where
  length := by
    rw [List.length_append, List.length_replicate, ascii, List.length_map]
    omega
  plain := plain
  trimmed := trimmed
  filled := ⟨_, rfl, fun _ member => .inl (List.eq_of_mem_replicate member)⟩

theorem slice_field {front field : Bytes} {start count : Nat} (begins : front.length = start)
    (size : field.length = count) (rest : Bytes) :
    slice (front ++ (field ++ rest)) start count = field := by
  rw [slice, List.drop_left' begins, List.take_left' size]

theorem getElem_of_slice {frame : Bytes} {start count i : Nat} {block : Vector UInt8 count}
    (found : slice frame start count = block.toList) (inside : i < count)
    {h : start + i < frame.length} : frame[start + i] = block[i] := by
  have here : frame[start + i]? = block.toList[i]? := by
    rw [← found, slice, List.getElem?_take_of_lt inside, List.getElem?_drop]
  rw [List.getElem?_eq_getElem h, List.getElem?_eq_getElem (by simp [inside])] at here
  simpa using here

end Gpser

/-! ## Identity -/

namespace IdentityReply

/-- The fields of an identity reply and its block. The byte between model and firmware is not
used. -/
def written (serial modelName firmware : Bytes) (gap : UInt8) (block : Vector UInt8 12) : Bytes :=
  serial ++ (modelName ++ ([gap] ++ (firmware ++ block.toList)))

/-- Every field is found at its place. -/
theorem slices_written {front field₁ field₂ field₃ : Bytes} (seven : front.length = 7)
    (one : field₁.length = 16) (two : field₂.length = 15) (three : field₃.length = 12) (gap : UInt8)
    (block : Vector UInt8 12) (rest : Bytes) :
    let frame := front ++ written field₁ field₂ field₃ gap block ++ rest
    Gpser.slice frame 7 16 = field₁ ∧ Gpser.slice frame 23 15 = field₂ ∧
      Gpser.slice frame 39 12 = field₃ ∧ Gpser.slice frame 51 12 = block.toList := by
  intro frame
  let tail₁ := field₂ ++ ([gap] ++ (field₃ ++ block.toList)) ++ rest
  have shape₁ : frame = front ++ (field₁ ++ tail₁) := by simp [frame, tail₁, written]
  let tail₂ := [gap] ++ (field₃ ++ block.toList) ++ rest
  have shape₂ : frame = (front ++ field₁) ++ (field₂ ++ tail₂) := by simp [frame, tail₂, written]
  have shape₃ : frame = (front ++ field₁ ++ field₂ ++ [gap]) ++
      (field₃ ++ (block.toList ++ rest)) := by simp [frame, written]
  have shape₄ : frame = (front ++ field₁ ++ field₂ ++ [gap] ++ field₃) ++
      (block.toList ++ rest) := by simp [frame, written]
  refine ⟨?_, ?_, ?_, ?_⟩
  · rw [shape₁]
    exact Gpser.slice_field seven one _
  · rw [shape₂]
    exact Gpser.slice_field (by simp [seven, one]) two _
  · rw [shape₃]
    exact Gpser.slice_field (by simp [seven, one, two]) three _
  · rw [shape₄]
    exact Gpser.slice_field (by simp [seven, one, two, three]) (by simp) _

theorem ofFrame_written {serial modelName firmware : String} {field₁ field₂ field₃ : Bytes}
    (one : Gpser.Padded 16 serial field₁) (two : Gpser.Padded 15 modelName field₂)
    (three : Gpser.Padded 12 firmware field₃) (gap : UInt8) (block : Vector UInt8 12)
    {front rest : Bytes} (seven : front.length = 7) (five : 5 ≤ rest.length) :
    ofFrame (front ++ written field₁ field₂ field₃ gap block ++ rest) =
      .ok ⟨serial, modelName, firmware, block.set 11 0⟩ := by
  obtain ⟨first, second, third, last⟩ :=
    slices_written seven one.length two.length three.length gap block rest
  have enough : needed ≤ (front ++ written field₁ field₂ field₃ gap block ++ rest).length := by
    simp [written, seven, one.length, two.length, three.length, needed]
    omega
  generalize front ++ written field₁ field₂ field₃ gap block ++ rest = frame at *
  unfold ofFrame
  rw [dif_pos enough]
  simp only [first, second, third, Gpser.text_padded one, Gpser.text_padded two,
    Gpser.text_padded three, Except.ok.injEq, IdentityReply.mk.injEq, true_and]
  apply Vector.ext
  intro i inside
  rw [Vector.getElem_ofFn, Vector.getElem_set]
  by_cases eleven : i = 11
  · simp [eleven]
  · rw [if_neg eleven, if_neg (Ne.symm eleven)]
    exact Gpser.getElem_of_slice last inside

/-- The count of batteries wraps around below the digit 0. -/
theorem toUInt16_digit (digit : UInt8) :
    (digit - 0x30).toUInt16 = .ofNat ((digit.toNat + 256 - 0x30) % 256) := by
  apply UInt16.toNat_inj.mp
  rw [UInt8.toNat_toUInt16, UInt8.toNat_sub, UInt16.toNat_ofNat']
  simp
  omega

end IdentityReply

/-! ## Ratings -/

namespace NominalReply

/-- Powers are written in five characters, the other ratings in three. -/
def encode (reply : NominalReply) : Bytes :=
  Nibble.encode 5 reply.power ++ (Nibble.encode 5 reply.realPower ++
    (Nibble.encode 3 reply.batteryVoltage.toUInt32 ++
      (Nibble.encode 3 reply.batteryCapacity.toUInt32 ++
        (Nibble.encode 3 reply.outputVoltage.toUInt32 ++
          Nibble.encode 3 reply.outputFrequency.toUInt32))))

/-- Ratings that fit their counts of characters. -/
structure Fits (reply : NominalReply) : Prop where
  power : reply.power.toNat < 16 ^ 5
  realPower : reply.realPower.toNat < 16 ^ 5
  batteryVoltage : reply.batteryVoltage.toNat < 16 ^ 3
  batteryCapacity : reply.batteryCapacity.toNat < 16 ^ 3
  outputVoltage : reply.outputVoltage.toNat < 16 ^ 3
  outputFrequency : reply.outputFrequency.toNat < 16 ^ 3

theorem ofFrame_encode {reply : NominalReply} (fits : reply.Fits) {front rest : Bytes}
    (seven : front.length = 7) (five : 5 ≤ rest.length) :
    ofFrame (front ++ reply.encode ++ rest) = .ok reply := by
  have enough : needed ≤ (front ++ reply.encode ++ rest).length := by
    simp [encode, needed, seven]
    omega
  have read : (payload (reply.encode ++ rest)).1 = reply := by
    simp only [encode, List.append_assoc]
    unfold payload
    rw [Gpser.long_bind fits.power, Gpser.long_bind fits.realPower,
      Gpser.word_bind fits.batteryVoltage, Gpser.word_bind fits.batteryCapacity,
      Gpser.word_bind fits.outputVoltage, Gpser.word_bind fits.outputFrequency]
    rfl
  unfold ofFrame
  rw [if_pos enough, Wire.payloadOffset, List.append_assoc, List.drop_left' seven, read]

/-- Hundredths are rounded down. -/
theorem scaled_eq (phases : UInt8) (power : UInt32) :
    scaled phases power = if phases = 0x31 then power else .ofNat (power.toNat / 100) := by
  have hundredths : power / 100 = .ofNat (power.toNat / 100) := by
    have bound := power.toNat_lt
    apply UInt32.toNat_inj.mp
    rw [UInt32.toNat_div, UInt32.toNat_ofNat']
    simp
    omega
  rw [scaled, hundredths]

end NominalReply

/-! ## Currents and powers -/

namespace ExtendedReply

/-- Currents are written in four characters, powers in five. -/
def encode (reply : ExtendedReply) : Bytes :=
  Nibble.encode 4 reply.outputCurrent.l1.toUInt32 ++
    (Nibble.encode 4 reply.outputCurrent.l2.toUInt32 ++
      (Nibble.encode 4 reply.outputCurrent.l3.toUInt32 ++
        (Nibble.encode 5 reply.realPower.l1 ++ (Nibble.encode 5 reply.realPower.l2 ++
          (Nibble.encode 5 reply.realPower.l3 ++ (Nibble.encode 5 reply.power.l1 ++
            (Nibble.encode 5 reply.power.l2 ++ Nibble.encode 5 reply.power.l3)))))))

/-- Powers that fit their counts of characters. Any current fits. -/
structure Fits (reply : ExtendedReply) : Prop where
  real1 : reply.realPower.l1.toNat < 16 ^ 5
  real2 : reply.realPower.l2.toNat < 16 ^ 5
  real3 : reply.realPower.l3.toNat < 16 ^ 5
  power1 : reply.power.l1.toNat < 16 ^ 5
  power2 : reply.power.l2.toNat < 16 ^ 5
  power3 : reply.power.l3.toNat < 16 ^ 5

theorem ofFrame_encode {reply : ExtendedReply} (fits : reply.Fits) {front rest : Bytes}
    (begins : front.length = 23) (five : 5 ≤ rest.length) :
    ofFrame (front ++ reply.encode ++ rest) = .ok reply := by
  have enough : needed ≤ (front ++ reply.encode ++ rest).length := by
    simp [encode, needed, begins]
    omega
  have any (current : UInt16) : current.toNat < 16 ^ 4 := current.toNat_lt
  have read : (payload (reply.encode ++ rest)).1 = reply := by
    simp only [encode, List.append_assoc]
    unfold payload
    rw [Gpser.word_bind (any _), Gpser.word_bind (any _), Gpser.word_bind (any _),
      Gpser.long_bind fits.real1, Gpser.long_bind fits.real2, Gpser.long_bind fits.real3,
      Gpser.long_bind fits.power1, Gpser.long_bind fits.power2, Gpser.long_bind fits.power3]
    rfl
  unfold ofFrame
  rw [if_pos enough, dataOffset, List.append_assoc, List.drop_left' begins, read]

end ExtendedReply

/-! ## Codes -/

namespace CodesReply

/-- Each code is written as a pair of characters. -/
def pack (table : Bytes) : Bytes := table.flatMap fun code => Nibble.encode 2 code.toUInt32

/-- Two characters are joined to the byte that they were split from. -/
theorem join_digits (code : UInt8) : ((Nibble.digit (code.toUInt32 >>> 4) - Nibble.zero) <<< 4) |||
    (Nibble.digit code.toUInt32 - Nibble.zero) = code := by
  have bound := code.toNat_lt
  have digit (value : UInt32) : (Nibble.digit value - Nibble.zero).toNat = value.toNat % 16 := by
    rw [UInt8.toNat_sub, Nibble.toNat_digit]
    simp [Nibble.zero]
    omega
  have high : (Nibble.digit (code.toUInt32 >>> 4) - Nibble.zero).toNat = code.toNat / 16 := by
    have shifted : (code.toUInt32 >>> 4).toNat = code.toNat / 16 := by
      rw [UInt32.toNat_shiftRight, UInt8.toNat_toUInt32]
      exact Nat.shiftRight_eq_div_pow code.toNat 4
    rw [digit, shifted]
    omega
  have moved : ((Nibble.digit (code.toUInt32 >>> 4) - Nibble.zero) <<< 4).toNat =
      (code.toNat / 16) <<< 4 := by
    rw [UInt8.toNat_shiftLeft, high, Nat.shiftLeft_eq, Nat.shiftLeft_eq]
    simp
    omega
  have small : code.toNat % 16 < 2 ^ 4 := by omega
  apply UInt8.toNat_inj.mp
  rw [UInt8.toNat_or, moved, digit, UInt8.toNat_toUInt32,
    ← Nat.shiftLeft_add_eq_or_of_lt small, Nat.shiftLeft_eq]
  omega

theorem unpack_pack (table : Bytes) : unpack (pack table) = table := by
  have pair (code : UInt8) : Nibble.encode 2 code.toUInt32 =
      [Nibble.digit (code.toUInt32 >>> 4), Nibble.digit code.toUInt32] := rfl
  unfold pack
  induction table with
  | nil => rfl
  | cons code table ih =>
    rw [List.flatMap_cons, pair, List.cons_append, List.cons_append, List.nil_append, unpack,
      join_digits, ih]

theorem length_pack (table : Bytes) : (pack table).length = 2 * table.length := by
  unfold pack
  induction table with
  | nil => rfl
  | cons code table ih =>
    rw [List.flatMap_cons, List.length_append, ih, Nibble.length_encode, List.length_cons]
    omega

theorem ofFrame_pack {table : Bytes} (whole : table.length = 22) {front rest : Bytes}
    (seven : front.length = 7) (five : 5 ≤ rest.length) :
    ofFrame (front ++ pack table ++ rest) = .ok ⟨table⟩ := by
  have length : (pack table).length = pairs * 2 := by rw [length_pack, whole, pairs]
  have enough : needed ≤ (front ++ pack table ++ rest).length := by
    simp only [List.length_append, length, seven, needed, pairs]
    omega
  unfold ofFrame
  rw [if_pos enough, Wire.payloadOffset, List.append_assoc, Gpser.slice_field seven length,
    unpack_pack]

end CodesReply

/-! ## Snapshots -/

/-- What a snapshot tells of the status, flags aside. -/
def Snapshot.statusReply (s : Snapshot) : StatusReply where
  code := s.status
  inputFrequency := s.inputFrequency
  inputVoltage := s.inputVoltage
  outputFrequency := s.outputFrequency
  outputVoltage := s.outputVoltage
  load := s.load
  bypassFrequency := s.bypassFrequency
  bypassVoltage := s.bypassVoltage
  batteryVoltage := s.batteryVoltage
  charge := s.charge
  runtime := s.runtime
  temperature := s.temperature

/-- Three characters are never read as the mark of an unknown run time by themselves. -/
theorem StatusReply.runtime_seen_iff {declared : Nat} {reply : StatusReply}
    (fits : AllFit (reply.slots declared)) :
    (reply.seen declared).runtime = 0xFFFF ↔ reply.runtime = 0x0FFF := by
  have few : reply.runtime.toNat < 16 ^ 3 := fits (3, reply.runtime) (by simp [slots, common])
  have other : reply.runtime ≠ 0xFFFF := by
    intro marked
    rw [marked] at few
    exact absurd few (by decide)
  change (if reply.runtime = 0x0FFF then 0xFFFF else reply.runtime) = 0xFFFF ↔ _
  by_cases unknown : reply.runtime = 0x0FFF
  · simp [unknown]
  · simp [unknown, other]

/-- **A status reply is read back and carries nothing over.** Whatever a snapshot held, it holds the
written status bytes and measurements afterwards, and all that a status reply does not tell is as it
was. An output that is off has no frequency, a run time of 0xFFF minutes is unknown, and phases that
the declared length does not call for are zero. So two snapshots tell the same status afterwards. -/
theorem status_round_trip {declared : Nat} {reply : StatusReply}
    (fits : StatusReply.AllFit (reply.slots declared)) {front rest : Bytes}
    (seven : front.length = 7) (five : 5 ≤ rest.length) (s : Snapshot) :
    let frame := front ++ reply.encode declared ++ rest
    let input (value : UInt16) : UInt16 := if 42 < declared then value else 0
    let output (value : UInt16) : UInt16 := if 48 < declared then value else 0
    ∃ after, Reply.decode (.status declared) frame s = .ok after ∧
      after = { s with
        status := reply.code
        boost := testBit reply.code.bytes 9
        buck := testBit reply.code.bytes 8
        locked := testBit reply.code.bytes 2
        inputFrequency := reply.inputFrequency
        inputVoltage :=
          ⟨reply.inputVoltage.l1, input reply.inputVoltage.l2, input reply.inputVoltage.l3⟩
        outputFrequency := if testBit reply.code.bytes 3 then reply.outputFrequency else 0
        outputVoltage :=
          ⟨reply.outputVoltage.l1, output reply.outputVoltage.l2, output reply.outputVoltage.l3⟩
        load := ⟨reply.load.l1, output reply.load.l2, output reply.load.l3⟩
        bypassFrequency := reply.bypassFrequency
        bypassVoltage :=
          ⟨reply.bypassVoltage.l1, output reply.bypassVoltage.l2, output reply.bypassVoltage.l3⟩
        batteryVoltage := reply.batteryVoltage
        charge := reply.charge
        runtime := if reply.runtime = 0x0FFF then 0xFFFF else reply.runtime
        temperature := reply.temperature } ∧
      (after.runtime = 0xFFFF ↔ reply.runtime = 0x0FFF) ∧
      after.boost = after.flags.boost ∧ after.buck = after.flags.buck ∧
      ∀ other, ∃ after', Reply.decode (.status declared) frame other = .ok after' ∧
        after'.statusReply = after.statusReply ∧ after'.boost = after.boost ∧
        after'.buck = after.buck ∧ after'.locked = after.locked := by
  intro frame input output
  have read (other : Snapshot) : Reply.decode (.status declared) frame other =
      .ok ((reply.seen declared).apply other) := by
    rw [Reply.decode, StatusReply.ofFrame_encode fits seven five]
    rfl
  refine ⟨_, read s, rfl, StatusReply.runtime_seen_iff fits, rfl, rfl, fun other => ?_⟩
  exact ⟨_, read other, rfl, rfl, rfl, rfl⟩

/-- A unit whose output is off and that cannot tell how long its battery lasts. -/
def halted : StatusReply where
  code := ⟨0x06, 0x02, 0, 0, 0⟩
  inputFrequency := 499
  inputVoltage := ⟨230, 231, 232⟩
  outputFrequency := 500
  outputVoltage := ⟨0, 7, 7⟩
  load := ⟨0, 7, 7⟩
  bypassFrequency := 500
  bypassVoltage := ⟨229, 7, 7⟩
  batteryVoltage := 435
  charge := 100
  runtime := 0x0FFF
  temperature := 28

/-- Its reply in the middle layout takes back what was known of other output phases. -/
theorem halted_is_read_back :
    let s : Snapshot := { serial := "SN1", outputVoltage := ⟨230, 230, 230⟩ }
    ∃ after, Reply.decode (.status 48)
        (.replicate 7 0x41 ++ halted.encode 48 ++ .replicate 5 0x41) s = .ok after ∧
      after.inputVoltage = ⟨230, 231, 232⟩ ∧ after.outputVoltage = ⟨0, 0, 0⟩ ∧
      after.outputFrequency = 0 ∧ after.runtime = 0xFFFF ∧ after.boost = true ∧
      after.flags.boost = true ∧ after.buck = false ∧ after.locked = true ∧
      after.serial = "SN1" := by
  intro s
  have fits : StatusReply.AllFit (halted.slots 48) := by decide
  have seven : (List.replicate 7 0x41 : Bytes).length = 7 := rfl
  have five : 5 ≤ (List.replicate 5 0x41 : Bytes).length := by decide
  obtain ⟨after, read, rfl, -⟩ := status_round_trip fits seven five s
  exact ⟨_, read, by decide, by decide, by decide, by decide, by decide, by decide, by decide,
    by decide, rfl⟩

/-- **The other data replies are read back.** An identity reply gives its texts without what fills
them up, its block with a zero at the end, and the count of batteries, which is a digit of the
block. Ratings come as they are, but powers in hundredths unless both sides of the unit, as it is
known so far, have a single phase. Currents and powers come as they are, without input currents. A
table of codes comes as it is. Whatever a reply does not tell stays as it was. -/
theorem data_replies_round_trip (s : Snapshot) {rest : Bytes} (five : 5 ≤ rest.length) :
    (∀ {serial modelName firmware : String} {field₁ field₂ field₃ front : Bytes},
      Gpser.Padded 16 serial field₁ → Gpser.Padded 15 modelName field₂ →
      Gpser.Padded 12 firmware field₃ → ∀ (gap : UInt8) (block : Vector UInt8 12),
      front.length = 7 →
      Reply.identity.decode
          (front ++ IdentityReply.written field₁ field₂ field₃ gap block ++ rest) s =
        .ok { s with
          serial
          modelName
          firmware
          identity := block.set 11 0
          batteryCount := .ofNat ((block[7].toNat + 256 - 0x30) % 256) }) ∧
    (∀ {reply : NominalReply} {front : Bytes}, reply.Fits → front.length = 7 →
      let scaled (power : UInt32) : UInt32 :=
        if s.identity[0] = 0x31 then power else .ofNat (power.toNat / 100)
      Reply.nominal.decode (front ++ reply.encode ++ rest) s =
        .ok { s with
          nominalPower := scaled reply.power
          nominalRealPower := scaled reply.realPower
          nominalBatteryVoltage := reply.batteryVoltage
          batteryCapacity := reply.batteryCapacity
          nominalOutputVoltage := reply.outputVoltage
          nominalOutputFrequency := reply.outputFrequency }) ∧
    (∀ {reply : ExtendedReply} {front : Bytes}, reply.Fits → front.length = 23 →
      Reply.extended.decode (front ++ reply.encode ++ rest) s =
        .ok { s with
          inputCurrent := ⟨0xFFFF, 0xFFFF, 0xFFFF⟩
          outputCurrent := reply.outputCurrent
          realPower := reply.realPower
          power := reply.power }) ∧
    ∀ {table front : Bytes}, table.length = 22 → front.length = 7 →
      Reply.statusCodes.decode (front ++ CodesReply.pack table ++ rest) s =
        .ok { s with alarmTable := table } := by
  refine ⟨fun one two three gap block seven => ?_, fun fits seven => ?_, fun fits begins => ?_,
    fun whole seven => ?_⟩
  · have seventh : (block.set 11 0)[7] = block[7] := Vector.getElem_set_ne _ _ (by decide)
    rw [Reply.decode, IdentityReply.ofFrame_written one two three gap block seven five,
      ← IdentityReply.toUInt16_digit, ← seventh]
    rfl
  · intro scaled
    have same (power : UInt32) : scaled power = NominalReply.scaled s.phasesByte power :=
      (NominalReply.scaled_eq _ power).symm
    rw [Reply.decode, NominalReply.ofFrame_encode fits seven five, same, same]
    rfl
  · rw [Reply.decode, ExtendedReply.ofFrame_encode fits begins five]
    rfl
  · rw [Reply.decode, CodesReply.ofFrame_pack whole seven five]
    rfl

/-- A block of a unit with four batteries and three phases. -/
def threePhaseBlock : Vector UInt8 12 := #v[0x33, 0x31, 0x30, 0, 0x30, 0, 0, 0x34, 0, 0, 0, 0x30]

/-- Names, ratings in hundredths, the highest current and power that fit, and codes are all read
back by a snapshot that knew other ones. -/
theorem three_phase_is_read_back :
    let s : Snapshot := { identity := threePhaseBlock, modelName := "DUAL", runtime := 7 }
    let front : Bytes := .replicate 7 0
    let rest : Bytes := .replicate 5 0
    let serial := Text.ascii "SN 1" ++ .replicate 12 0x20
    let modelName := Text.ascii "" ++ .replicate 15 0
    let firmware := Text.ascii "SWM052-01-00" ++ []
    let ratings : NominalReply := ⟨100099, 80000, 240, 9, 230, 500⟩
    let outputs : ExtendedReply := ⟨⟨0xFFFF, 0, 0⟩, ⟨0xFFFFF, 0, 0⟩, ⟨100000, 0, 0⟩⟩
    ∃ named rated loaded coded : Snapshot,
      Reply.identity.decode
          (front ++ IdentityReply.written serial modelName firmware 0x58 threePhaseBlock ++ rest)
          s = .ok named ∧
      named.serial = "SN 1" ∧ named.modelName = "" ∧ named.firmware = "SWM052-01-00" ∧
      named.identity = threePhaseBlock.set 11 0 ∧ named.batteryCount = 4 ∧ named.runtime = 7 ∧
      Reply.nominal.decode (front ++ ratings.encode ++ rest) s = .ok rated ∧
      rated.nominalPower = 1000 ∧ rated.nominalRealPower = 800 ∧
      Reply.extended.decode (.replicate 23 0 ++ outputs.encode ++ rest) s = .ok loaded ∧
      loaded.outputCurrent.l1 = 0xFFFF ∧ loaded.realPower.l1 = 0xFFFFF ∧ loaded.runtime = 7 ∧
      Reply.statusCodes.decode (front ++ CodesReply.pack (.replicate 22 0xFA) ++ rest) s =
        .ok coded ∧
      coded.alarmTable = .replicate 22 0xFA := by
  intro s front rest serial modelName firmware ratings outputs
  have five : 5 ≤ rest.length := by decide
  have seven : front.length = 7 := rfl
  have begins : (List.replicate 23 0 : Bytes).length = 23 := rfl
  obtain ⟨identity, nominal, extended, codes⟩ := data_replies_round_trip s five
  have one : Gpser.Padded 16 "SN 1" serial :=
    Gpser.padded_blanks (by decide) (by simp) (by simp [Text.isBlank, Text.blankPoints])
  have two : Gpser.Padded 15 "" modelName :=
    ⟨rfl, by simp, by simp, .replicate 15 0, rfl, by simp⟩
  have three : Gpser.Padded 12 "SWM052-01-00" firmware :=
    Gpser.padded_blanks (by decide) (by simp) (by simp [Text.isBlank, Text.blankPoints])
  have ratingsFit : ratings.Fits :=
    ⟨by decide, by decide, by decide, by decide, by decide, by decide⟩
  have outputsFit : outputs.Fits :=
    ⟨by decide, by decide, by decide, by decide, by decide, by decide⟩
  have whole : (List.replicate 22 0xFA : Bytes).length = 22 := rfl
  exact ⟨_, _, _, _, identity one two three 0x58 threePhaseBlock seven, rfl, rfl, rfl, rfl,
    by decide, rfl, nominal ratingsFit seven, by decide, by decide, extended outputsFit begins, rfl,
    rfl, rfl, codes whole seven, rfl⟩

end UpsMonitor
