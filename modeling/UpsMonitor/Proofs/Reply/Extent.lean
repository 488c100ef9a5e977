import UpsMonitor.Command.Gpser
import UpsMonitor.Proofs.Monitor.Account
import UpsMonitor.Proofs.Reply.Decoding
import UpsMonitor.Proofs.Reply.Status

/-!
# How much of a frame is read

Each reply is read from a run of bytes at the beginning of its frame, and whether it is read depends
on nothing but the length of the frame. Main statements:

* `Gpser.Takes.bind`: how far a cursor over nibble characters moves adds up;
* `Reply.decode_congr`, `Sentry.resolve_take`: what lies behind the extent of a reply does not bear
  on it;
* `declared_length_suffices_iff`: a frame of the length that is declared for a reply is long enough
  for all replies but the status;
* `read_within_frame`: a reply is read exactly if its frame is long enough, from the bytes of its
  extent, and a frame that is too short changes nothing.
-/

namespace UpsMonitor

/-! ## Cursors -/

namespace Gpser

/-- Moves over a fixed count of characters: they alone decide what is read, and all that follow them
are left. -/
structure Takes {α : Type} (reader : StateM Bytes α) (count : Nat) : Prop where
  left : ∀ chars, (reader chars).2 = chars.drop count
  read : ∀ chars, (reader chars).1 = (reader (chars.take count)).1

theorem takes_long (width : Nat) : Takes (long width) width where
  left _ := rfl
  read chars := by
    change Nibble.decode (chars.take width) = Nibble.decode ((chars.take width).take width)
    rw [List.take_take, Nat.min_self]

theorem takes_word (width : Nat) : Takes (word width) width where
  left _ := rfl
  read chars := congrArg Word.clip ((takes_long width).read chars)

theorem takes_pure {α : Type} (value : α) : Takes (pure value) 0 where
  left _ := rfl
  read _ := rfl

/-- **Cursors add up.** -/
theorem Takes.bind {α β : Type} {reader : StateM Bytes α} {next : α → StateM Bytes β}
    {count more : Nat} (first : Takes reader count) (second : ∀ value, Takes (next value) more) :
    Takes (reader >>= next) (count + more) where
  left chars := by
    change (next (reader chars).1 (reader chars).2).2 = _
    rw [(second _).left, first.left, List.drop_drop]
  read chars := by
    have same : (reader (chars.take (count + more))).1 = (reader chars).1 := by
      rw [first.read chars, first.read, List.take_take, Nat.min_eq_left (Nat.le_add_right ..)]
    change (next (reader chars).1 (reader chars).2).1 =
      (next (reader (chars.take (count + more))).1 (reader (chars.take (count + more))).2).1
    rw [same, first.left, first.left, (second _).read, List.drop_take, Nat.add_sub_cancel_left]

/-- A cursor that starts inside a frame ends `count` bytes further on, and sees nothing beyond. -/
theorem Takes.within {α : Type} {reader : StateM Bytes α} {count start : Nat}
    (takes : Takes reader count) {frame other : Bytes}
    (agree : frame.take (start + count) = other.take (start + count)) :
    (reader (frame.drop start)).1 = (reader (other.drop start)).1 := by
  have part (bytes : Bytes) :
      (bytes.drop start).take count = (bytes.take (start + count)).drop start := by
    rw [List.drop_take, Nat.add_sub_cancel_left]
  rw [takes.read, takes.read (other.drop start), part, part, agree]

theorem slice_congr {frame other : Bytes} {start count extent : Nat}
    (agree : frame.take extent = other.take extent) (inside : start + count ≤ extent) :
    slice frame start count = slice other start count := by
  have part (bytes : Bytes) :
      slice bytes start count = ((bytes.take extent).drop start).take count := by
    rw [slice, List.drop_take, List.take_take, Nat.min_eq_left (by omega)]
  rw [part, part, agree]

end Gpser

open Gpser

theorem NominalReply.takes_payload : Takes payload 22 :=
  (takes_long 5).bind fun _ => (takes_long 5).bind fun _ => (takes_word 3).bind fun _ =>
    (takes_word 3).bind fun _ => (takes_word 3).bind fun _ => (takes_word 3).bind fun _ =>
      takes_pure _

theorem ExtendedReply.takes_payload : Takes payload 42 :=
  (takes_word 4).bind fun _ => (takes_word 4).bind fun _ => (takes_word 4).bind fun _ =>
    (takes_long 5).bind fun _ => (takes_long 5).bind fun _ => (takes_long 5).bind fun _ =>
      (takes_long 5).bind fun _ => (takes_long 5).bind fun _ => (takes_long 5).bind fun _ =>
        takes_pure _

namespace StatusReply

theorem takes_word? (present : Bool) (width : Nat) :
    Takes (word? present width) (if present then width else 0) := by
  cases present with
  | true => exact takes_word width
  | false => exact takes_pure 0

/-- The measurements stand between twelve bytes of prefix and status and five of trailer. -/
theorem takes_measurements (code : StatusCode) (declared : Nat) :
    Takes (measurements code declared) (needed declared - 17) := by
  have cursor : Takes (measurements code declared) _ :=
    (takes_word 3).bind fun _ => (takes_word 3).bind fun _ => (takes_word 3).bind fun _ =>
      (takes_word 3).bind fun _ => (takes_word 2).bind fun _ => (takes_word 3).bind fun _ =>
      (takes_word 3).bind fun _ => (takes_word 4).bind fun _ => (takes_word 2).bind fun _ =>
      (takes_word 3).bind fun _ => (takes_word 2).bind fun _ =>
      (takes_word? _ 3).bind fun _ => (takes_word? _ 3).bind fun _ =>
      (takes_word? _ 3).bind fun _ => (takes_word? _ 2).bind fun _ =>
      (takes_word? _ 3).bind fun _ => (takes_word? _ 3).bind fun _ =>
      (takes_word? _ 2).bind fun _ => (takes_word? _ 3).bind fun _ => takes_pure _
  refine (congrArg (Takes _) ?_).mp cursor
  unfold needed
  by_cases output : withOutput declared
  · have input : withInput declared := by
      simp only [withInput, withOutput, decide_eq_true_eq] at output ⊢
      omega
    simp [output, input]
  · by_cases input : withInput declared
    · simp [output, input]
    · simp [output, input]

end StatusReply

/-! ## Extents -/

/-- The least length of a frame from which a reply can be read. -/
def Reply.leastLength : Reply → Nat
  | identity => 68
  | nominal => 34
  | status declared => if declared ≤ 42 then 48 else if declared ≤ 48 then 54 else 70
  | extended => 70
  | statusCodes => 56
  | telemetry .ext176 => 164
  | telemetry _ => 103

/-- How many bytes of its frame a reply is read from. The trailer of a GPSER frame is not read. -/
def Reply.extent : Reply → Nat
  | telemetry level => (telemetry level).leastLength
  | kind => kind.leastLength - Wire.trailerLength

theorem getElem_congr {frame other : Bytes} {extent i : Nat}
    (agree : frame.take extent = other.take extent) (inside : i < extent) (h : i < frame.length)
    (h' : i < other.length) : frame[i] = other[i] := by
  have here : frame[i]? = other[i]? := by
    rw [← List.getElem?_take_of_lt inside, agree, List.getElem?_take_of_lt inside]
  rwa [List.getElem?_eq_getElem h, List.getElem?_eq_getElem h', Option.some_inj] at here

theorem StatusReply.needed_eq (declared : Nat) :
    needed declared = if declared ≤ 42 then 48 else if declared ≤ 48 then 54 else 70 := by
  simp only [needed, withOutput, withInput, decide_eq_true_eq]
  by_cases input : declared ≤ 42
  · rw [if_pos input, if_neg (by omega), if_neg (by omega)]
  · by_cases output : declared ≤ 48
    · rw [if_neg input, if_pos output, if_neg (by omega), if_pos (by omega)]
    · rw [if_neg input, if_neg output, if_pos (by omega)]

theorem Reply.needed_eq_leastLength (kind : Reply) : kind.needed = kind.leastLength := by
  cases kind with
  | identity | nominal | extended | statusCodes => rfl
  | status declared => exact StatusReply.needed_eq declared
  | telemetry level => cases level <;> rfl

section

variable {frame other : Bytes}

theorem IdentityReply.ofFrame_congr (agree : frame.take 63 = other.take 63)
    (long : needed ≤ frame.length) (long' : needed ≤ other.length) :
    ofFrame frame = ofFrame other := by
  have enough : 68 ≤ frame.length := long
  have enough' : 68 ≤ other.length := long'
  have block : (fun i : Fin 12 => if i.val = 11 then 0 else frame[51 + i.val]) =
      fun i : Fin 12 => if i.val = 11 then 0 else other[51 + i.val] := by
    funext i
    rw [getElem_congr agree (by omega)]
  unfold ofFrame
  rw [dif_pos long, dif_pos long']
  simp only [slice_congr agree (by decide : 7 + 16 ≤ 63),
    slice_congr agree (by decide : 23 + 15 ≤ 63), slice_congr agree (by decide : 39 + 12 ≤ 63),
    block]

theorem NominalReply.ofFrame_congr (agree : frame.take 29 = other.take 29)
    (long : needed ≤ frame.length) (long' : needed ≤ other.length) :
    ofFrame frame = ofFrame other := by
  unfold ofFrame
  rw [if_pos long, if_pos long', Wire.payloadOffset, takes_payload.within agree]

theorem StatusReply.ofFrame_congr {declared : Nat}
    (agree : frame.take (needed declared - 5) = other.take (needed declared - 5))
    (long : needed declared ≤ frame.length) (long' : needed declared ≤ other.length) :
    ofFrame declared frame = ofFrame declared other := by
  have least := (needed_bounds declared).1
  have ends : 12 + (needed declared - 17) = needed declared - 5 := by omega
  have enough : 12 ≤ frame.length := by omega
  have enough' : 12 ≤ other.length := by omega
  have code : statusAt frame enough = statusAt other enough' := by
    unfold statusAt
    congr 1 <;> exact getElem_congr agree (by omega) _ _
  unfold ofFrame
  rw [dif_pos long, dif_pos long']
  change Except.ok (measurements (statusAt frame enough) declared (frame.drop 12)).1 =
    Except.ok (measurements (statusAt other enough') declared (other.drop 12)).1
  rw [code, (takes_measurements _ declared).within (ends ▸ agree)]

theorem ExtendedReply.ofFrame_congr (agree : frame.take 65 = other.take 65)
    (long : needed ≤ frame.length) (long' : needed ≤ other.length) :
    ofFrame frame = ofFrame other := by
  unfold ofFrame
  rw [if_pos long, if_pos long', dataOffset, takes_payload.within agree]

theorem CodesReply.ofFrame_congr (agree : frame.take 51 = other.take 51)
    (long : needed ≤ frame.length) (long' : needed ≤ other.length) :
    ofFrame frame = ofFrame other := by
  unfold ofFrame
  rw [if_pos long, if_pos long', slice_congr agree (by decide)]

end

/-! ## SENTRY frames -/

namespace Sentry

theorem wordAt_take (frame : Bytes) (extent i : Nat) (h : i + 1 < (frame.take extent).length) :
    wordAt (frame.take extent) i h =
      wordAt frame i (Nat.lt_of_lt_of_le h (List.length_take_le' ..)) := by
  simp only [wordAt, List.getElem_take]

theorem bytesAt_take (frame : Bytes) (extent i step : Nat)
    (h : i + 2 * step < (frame.take extent).length) :
    bytesAt (frame.take extent) i step h =
      bytesAt frame i step (Nat.lt_of_lt_of_le h (List.length_take_le' ..)) := by
  simp only [bytesAt, List.getElem_take]

theorem wordsAt_take (frame : Bytes) (extent i : Nat) (h : i + 5 < (frame.take extent).length) :
    wordsAt (frame.take extent) i h =
      wordsAt frame i (Nat.lt_of_lt_of_le h (List.length_take_le' ..)) := by
  simp only [wordsAt, wordAt_take]

theorem testBit_take (frame : Bytes) {extent start i : Nat} (inside : start + i / 8 < extent) :
    testBit ((frame.take extent).drop start) i = testBit (frame.drop start) i := by
  unfold testBit
  rw [List.getElem?_drop, List.getElem?_drop, List.getElem?_take_of_lt inside]

theorem bypassRequested_take {frame : Bytes} {extent : Nat}
    (h : 103 ≤ (frame.take extent).length) :
    bypassRequested (frame.take extent) h =
      bypassRequested frame (Nat.le_trans h (List.length_take_le' ..)) := by
  have inside : 103 ≤ extent := by
    rw [List.length_take] at h
    omega
  simp only [bypassRequested, List.getElem_take, List.any_cons, List.any_nil,
    testBit_take frame (show 32 + 0 / 8 < extent by omega),
    testBit_take frame (show 32 + 12 / 8 < extent by omega),
    testBit_take frame (show 32 + 13 / 8 < extent by omega),
    testBit_take frame (show 32 + 14 / 8 < extent by omega)]

theorem extensionOf_take {frame : Bytes} {extent : Nat} (h : 103 ≤ (frame.take extent).length) :
    extensionOf (frame.take extent) h =
      extensionOf frame (Nat.le_trans h (List.length_take_le' ..)) := by
  simp only [extensionOf, wordAt_take, List.getElem_take]

theorem electrical_take (level : Extension) {frame : Bytes} {extent : Nat}
    (h : level.replyLength ≤ (frame.take extent).length) :
    electrical level (frame.take extent) h =
      electrical level frame (Nat.le_trans h (List.length_take_le' ..)) := by
  cases level with
  | only192 | also240 =>
    simp only [electrical, relativeElectrical, wordAt_take, bytesAt_take, List.getElem_take]
  | ext176 => simp only [electrical, absoluteElectrical, wordsAt_take]

theorem bypassVoltage_take (level : Extension) {frame : Bytes} {extent : Nat}
    (h : level.replyLength ≤ (frame.take extent).length) :
    bypassVoltage level (frame.take extent) h =
      bypassVoltage level frame (Nat.le_trans h (List.length_take_le' ..)) := by
  cases level with
  | only192 | also240 | ext176 => simp only [bypassVoltage, wordsAt_take, bytesAt_take]

/-- Nothing behind the bytes that are kept is read. -/
theorem apply_take (level : Extension) {frame : Bytes} {extent : Nat}
    (h : level.replyLength ≤ (frame.take extent).length) (s : Snapshot) :
    apply level (frame.take extent) h s =
      apply level frame (Nat.le_trans h (List.length_take_le' ..)) s := by
  simp only [apply, electrical_take, bypassVoltage_take, batteryVoltage, statusOf,
    bypassRequested_take, wordAt_take, bytesAt_take, List.getElem_take]

/-- A telemetry reply is read from the bytes that its layout counts. -/
theorem decode_take {level : Extension} {frame : Bytes} (long : level.replyLength ≤ frame.length)
    (s : Snapshot) : decode level (frame.take level.replyLength) s = decode level frame s := by
  have whole : level.replyLength ≤ (frame.take level.replyLength).length := by
    rw [List.length_take]
    omega
  unfold decode
  rw [dif_pos long, dif_pos whole, apply_take]

theorem resolve_take {frame : Bytes} (long : 103 ≤ frame.length) :
    resolve (frame.take 103) = resolve frame := by
  have whole : 103 ≤ (frame.take 103).length := by
    rw [List.length_take]
    omega
  unfold resolve
  rw [dif_pos long, dif_pos whole, extensionOf_take]

theorem resolve_short {frame : Bytes} (short : frame.length < 103) :
    resolve frame = .error (.insufficient 103 frame.length) :=
  dif_neg (Nat.not_le_of_lt short)

end Sentry

/-! ## All replies -/

namespace Reply

/-- **What lies behind the extent of a reply does not bear on it.** -/
theorem decode_congr {kind : Reply} {frame other : Bytes} (long : kind.leastLength ≤ frame.length)
    (long' : kind.leastLength ≤ other.length)
    (agree : frame.take kind.extent = other.take kind.extent) (s : Snapshot) :
    kind.decode frame s = kind.decode other s := by
  cases kind with
  | identity => rw [decode, decode, IdentityReply.ofFrame_congr agree long long']
  | nominal => rw [decode, decode, NominalReply.ofFrame_congr agree long long']
  | extended => rw [decode, decode, ExtendedReply.ofFrame_congr agree long long']
  | statusCodes => rw [decode, decode, CodesReply.ofFrame_congr agree long long']
  | status declared =>
    have needs : (status declared).leastLength = StatusReply.needed declared :=
      (StatusReply.needed_eq declared).symm
    have ends : (status declared).extent = StatusReply.needed declared - 5 := by rw [← needs]; rfl
    rw [ends] at agree
    rw [needs] at long long'
    rw [decode, decode, StatusReply.ofFrame_congr agree long long']
  | telemetry level =>
    have needs : (telemetry level).leastLength = level.replyLength := by cases level <;> rfl
    rw [extent, needs] at agree
    rw [needs] at long long'
    rw [decode, decode, ← Sentry.decode_take long, agree, Sentry.decode_take long']

theorem decode_short {kind : Reply} {frame : Bytes} (short : frame.length < kind.leastLength)
    (s : Snapshot) :
    kind.decode frame s = .error (.insufficient kind.leastLength frame.length) := by
  rw [← needed_eq_leastLength] at short ⊢
  have few := Nat.not_le_of_lt short
  cases kind with
  | identity | nominal | status | extended | statusCodes =>
    simp only [decode, IdentityReply.ofFrame, NominalReply.ofFrame, StatusReply.ofFrame,
      ExtendedReply.ofFrame, CodesReply.ofFrame]
    split
    · next long => exact absurd long few
    · rfl
  | telemetry level => exact Sentry.decode_eq_error few s

/-- At most a trailer lies between the extent of a reply and the end of its shortest frame. -/
theorem extent_bounds (kind : Reply) :
    kind.extent ≤ kind.leastLength ∧ kind.leastLength ≤ kind.extent + Wire.trailerLength := by
  cases kind with
  | identity | nominal | extended | statusCodes => decide
  | status declared =>
    simp only [extent, Wire.trailerLength]
    omega
  | telemetry level => exact ⟨Nat.le_refl _, Nat.le_add_right ..⟩

/-- Reads a reply from the bytes of its extent, with nothing behind them but an empty trailer. -/
def readExtent (kind : Reply) (bytes : Bytes) (s : Snapshot) : Snapshot :=
  (kind.decode (bytes ++ List.replicate Wire.trailerLength 0) s).toOption.getD s

/-- A frame that is long enough is read, from the bytes of its extent. -/
theorem decode_long {kind : Reply} {frame : Bytes} (long : kind.leastLength ≤ frame.length)
    (s : Snapshot) :
    kind.decode frame s = .ok (kind.readExtent (frame.take kind.extent) s) := by
  obtain ⟨inside, beyond⟩ := kind.extent_bounds
  let bare := frame.take kind.extent ++ List.replicate Wire.trailerLength 0
  have cut : (frame.take kind.extent).length = kind.extent := by
    rw [List.length_take]
    omega
  have enough : kind.leastLength ≤ bare.length := by
    simpa only [bare, List.length_append, cut, List.length_replicate] using beyond
  have agree : frame.take kind.extent = bare.take kind.extent := (List.take_left' cut).symm
  have needs := kind.needed_eq_leastLength
  obtain ⟨after, read⟩ := (decode_iff_needed kind bare s).mpr (needs ▸ enough)
  rw [decode_congr long enough agree, readExtent, read]
  rfl

end Reply

/-! ## Declared lengths -/

theorem PhaseLayout.statusLength_cases (layout : PhaseLayout) :
    layout.statusLength = 42 ∨ layout.statusLength = 48 ∨ layout.statusLength = 64 := by
  unfold statusLength
  by_cases input : layout.inputSingle
  · simp [input]
  · by_cases output : layout.outputSingle
    · simp [input, output]
    · simp [input, output]

namespace GpserCommand

/-- How the reply to a request for data is read. The other commands are only acknowledged. -/
def dataReply? (command : GpserCommand) (layout : PhaseLayout) : Option Reply :=
  match command with
  | identify => some .identity
  | readNominal => some .nominal
  | readStatus => some (.status (readStatus.replyLength layout))
  | readExtended => some .extended
  | readStatusCodes => some .statusCodes
  | shutdown _ | restart _ | cancelShutdown | panelTest | batteryTest => none

/-- By how many bytes a reply is longer than its declared length says. -/
def undeclared (command : GpserCommand) : Nat := if command = readStatus then 6 else 0

theorem leastLength_of_dataReply {command : GpserCommand} {layout : PhaseLayout} {kind : Reply}
    (data : command.dataReply? layout = some kind) :
    kind.leastLength = command.replyLength layout + command.undeclared := by
  cases command with
  | identify | readNominal | readExtended | readStatusCodes =>
    cases data
    rfl
  | readStatus =>
    cases data
    simp only [Reply.leastLength, undeclared, replyLength, if_true]
    rcases layout.statusLength_cases with single | mixed | three
    · simp [single]
    · simp [mixed]
    · simp [three]
  | shutdown | restart | cancelShutdown | panelTest | batteryTest => cases data

end GpserCommand

/-- **A frame of the declared length is long enough for every reply but the status.** A status reply
is read only from a frame that is six bytes longer, whatever the arrangement of the phases, and one
that has just its declared length is refused as too short. -/
theorem declared_length_suffices_iff {command : GpserCommand} {layout : PhaseLayout} {kind : Reply}
    (data : command.dataReply? layout = some kind) (frame : Bytes) (s : Snapshot) :
    ((∃ after, kind.decode frame s = .ok after) ↔
      command.replyLength layout + command.undeclared ≤ frame.length) ∧
    (frame.length = command.replyLength layout →
      ((∃ after, kind.decode frame s = .ok after) ↔ command ≠ .readStatus) ∧
      (command = .readStatus →
        kind.decode frame s = .error (.insufficient (frame.length + 6) frame.length))) := by
  have needs := GpserCommand.leastLength_of_dataReply data
  have read : (∃ after, kind.decode frame s = .ok after) ↔
      command.replyLength layout + command.undeclared ≤ frame.length := by
    rw [Reply.decode_iff_needed, kind.needed_eq_leastLength, needs]
  refine ⟨read, fun declared => ⟨?_, ?_⟩⟩
  · rw [read, declared]
    by_cases status : command = .readStatus
    · simp [GpserCommand.undeclared, status]
    · simp [GpserCommand.undeclared, status]
  · intro status
    have six : kind.leastLength = frame.length + 6 := by
      rw [needs, declared, GpserCommand.undeclared, if_pos status]
    rw [← six]
    exact Reply.decode_short (by omega) s

/-- A status reply of the declared 42 bytes, with only zeros behind its bitmap, is refused. -/
theorem declared_status_is_refused :
    let frame := Checksum.sealed .sum
      (Wire.replyHeader ++ [0x52, 0x53, 0x30, 0x30] ++ [0x08, 0, 0, 0, 0] ++ .replicate 25 0x30)
    GpserCommand.readStatus.dataReply? {} = some (.status 42) ∧
      frame.length = GpserCommand.readStatus.replyLength {} ∧
      Reply.decode (.status 42) frame {} = .error (.insufficient 48 42) := by
  intro frame
  have length : frame.length = 42 := by simp [frame, Wire.replyHeader]
  have data : GpserCommand.readStatus.dataReply? {} = some (.status 42) := rfl
  have short := ((declared_length_suffices_iff data frame {}).2 length).2 rfl
  rw [length] at short
  exact ⟨data, length, short⟩

/-! ## Snapshots -/

namespace Monitor

variable {σ : Type} [Device σ]

theorem request_snapshot (m : Monitor σ) (command : Command) :
    (m.request command).2.snapshot = m.snapshot := by
  unfold request
  rw [carryOut_eq]
  cases (m.talk command).outcome with
  | ok | error => rfl

/-- Asking changes the snapshot by a reply that can be read, and otherwise not at all. -/
theorem ask_snapshot (m : Monitor σ) (command : Command) (kind : Reply) :
    (m.ask command kind).2.snapshot =
      match (m.request command).1 with
      | .ok frame => (kind.decode frame.bytes m.snapshot).toOption.getD m.snapshot
      | .error _ => m.snapshot := by
  have kept := m.request_snapshot command
  unfold ask
  generalize m.request command = got at kept ⊢
  obtain ⟨outcome, after⟩ := got
  cases outcome with
  | error fault => exact kept
  | ok frame =>
    change after.snapshot = m.snapshot at kept
    simp only [kept]
    cases kind.decode frame.bytes m.snapshot with
    | error fault => exact kept
    | ok s => rfl

end Monitor

/-- **Readers look at nothing beyond their frame, and fail as a whole.** A reply is read exactly if
its frame has the length that it needs, and then from the bytes of its extent alone; otherwise the
fault tells the length that is needed and the one that there is. The same holds of the choice of a
telemetry layout. Cursors end where the trailer of the shortest frame begins. A monitor keeps its
snapshot unless a reply can be read. -/
theorem read_within_frame {σ : Type} [Device σ] :
    (∀ kind : Reply, ∃ read : Bytes → Snapshot → Snapshot, ∀ frame s,
      kind.decode frame s =
        if kind.leastLength ≤ frame.length then .ok (read (frame.take kind.extent) s)
        else .error (.insufficient kind.leastLength frame.length)) ∧
    (∃ choose : Bytes → Extension, ∀ frame,
      Sentry.resolve frame =
        if 103 ≤ frame.length then .ok (choose (frame.take 103))
        else .error (.insufficient 103 frame.length)) ∧
    (∀ frame : Bytes,
      (NominalReply.payload (frame.drop 7)).2 = frame.drop Reply.nominal.extent ∧
      (ExtendedReply.payload (frame.drop 23)).2 = frame.drop Reply.extended.extent ∧
      ∀ code declared, (StatusReply.measurements code declared (frame.drop 12)).2 =
        frame.drop (Reply.status declared).extent) ∧
    ∀ (m : Monitor σ) (command : Command) (kind : Reply),
      (m.ask command kind).2.snapshot =
        match (m.request command).1 with
        | .ok frame => (kind.decode frame.bytes m.snapshot).toOption.getD m.snapshot
        | .error _ => m.snapshot := by
  refine ⟨fun kind => ⟨kind.readExtent, fun frame s => ?_⟩,
    ⟨fun bytes => (Sentry.resolve bytes).toOption.getD .only192, fun frame => ?_⟩,
    fun frame => ⟨?_, ?_, fun code declared => ?_⟩, Monitor.ask_snapshot⟩
  · split
    · next long => exact Reply.decode_long long s
    · next short => exact Reply.decode_short (Nat.lt_of_not_le short) s
  · split
    · next long =>
      change _ = Except.ok ((Sentry.resolve (frame.take 103)).toOption.getD .only192)
      rw [Sentry.resolve_take long, Sentry.resolve, dif_pos long]
      rfl
    · next short => exact Sentry.resolve_short (Nat.lt_of_not_le short)
  · rw [NominalReply.takes_payload.left, List.drop_drop]
    rfl
  · rw [ExtendedReply.takes_payload.left, List.drop_drop]
    rfl
  · have least := (StatusReply.needed_bounds declared).1
    have needs := StatusReply.needed_eq declared
    rw [(StatusReply.takes_measurements code declared).left, List.drop_drop]
    congr 1
    change 12 + (StatusReply.needed declared - 17) = (Reply.status declared).leastLength - 5
    rw [← Reply.needed_eq_leastLength]
    change _ = StatusReply.needed declared - 5
    omega

end UpsMonitor
