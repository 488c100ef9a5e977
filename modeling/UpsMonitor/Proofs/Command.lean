import Mathlib.Data.List.Basic
import UpsMonitor.Command.Instant
import UpsMonitor.Proofs.Checksum

/-!
# Commands on the wire

What a unit can tell about a command from its bytes alone. For each family there is a reader of the
layout, which takes the numbers in a command as the unit does. Main statements:

* `GpserCommand.wellFormed_encode`: a GPSER command is laid out as it should be, passes its check
  and is read back;
* `SentryCommand.wellFormed_encode`: so is a SENTRY command;
* `outgoing_command_is_readable`: so commands differ on the wire, and every frame of an instant
  command carries the delay of that command.
-/

namespace UpsMonitor

/-! ## GPSER commands -/

namespace GpserCommand

/-- Opcode and parameters of a GPSER command. Two decimal digits count the parameters. -/
def parts? : Bytes → Option (Bytes × Bytes)
  | 0x02 :: 0x20 :: 0x22 :: first :: second :: tens :: units :: rest =>
    let count := 10 * (tens.toNat - 0x30) + (units.toNat - 0x30)
    if rest.length = count + 5 ∧ rest.getLast? = some 0x03 then
      some ([first, second], rest.take count)
    else none
  | _ => none

/-- The delay among the parameters: all of those of CS, and the last four of those of CR. -/
def delayIn? (opcode parameters : Bytes) : Option UInt16 :=
  if opcode = [0x43, 0x53] then some (.ofNat (Nibble.value parameters))
  else if opcode = [0x43, 0x52] then some (.ofNat (Nibble.value (parameters.drop 4)))
  else none

/-- Opcode and delay, read from the bytes of a GPSER command. -/
def read? (bytes : Bytes) : Option (Bytes × Option UInt16) :=
  (parts? bytes).map fun (opcode, parameters) => (opcode, delayIn? opcode parameters)

/-- The delay that a command is given. -/
def delay? : GpserCommand → Option UInt16
  | shutdown delay | restart delay => some delay
  | _ => none

/-- The bytes and the mode of a GPSER command that is sent. -/
structure WellFormed (command : GpserCommand) (sent : Command) : Prop where
  layout : ∃ tens units guard, sent.bytes = [0x02, 0x20, 0x22] ++ command.opcode ++
      [tens, units] ++ command.parameters ++ guard ++ [0x03] ∧
    command.opcode.length = 2 ∧
    (0x30 ≤ tens ∧ tens ≤ 0x39) ∧ (0x30 ≤ units ∧ units ≤ 0x39) ∧
    10 * (tens.toNat - 0x30) + (units.toNat - 0x30) = command.parameters.length ∧
    guard.length = 4 ∧ ∀ char ∈ guard, 0x30 ≤ char ∧ char ≤ 0x3F
  short : sent.bytes.length ≤ 24
  starts_once : ∀ i : Nat, sent.bytes[i]? = some 0x02 ↔ i = 0
  ends_once : ∀ i : Nat, sent.bytes[i]? = some 0x03 ↔ i + 1 = sent.bytes.length
  passes : Checksum.verify .gpser sent.mode sent.bytes = true
  is_read : read? sent.bytes = some (command.opcode, command.delay?)

theorem opcode_delay_inj {a b : GpserCommand} (opcode : a.opcode = b.opcode)
    (delay : a.delay? = b.delay?) : a = b := by
  cases a <;> cases b <;> simp_all [GpserCommand.opcode, delay?]

theorem parameters_shutdown (delay : UInt16) :
    (shutdown delay).parameters = Nibble.encodeWord delay := rfl

theorem parameters_restart (delay : UInt16) :
    (restart delay).parameters = Nibble.encodeWord 0 ++ Nibble.encodeWord delay := rfl

theorem parameters_batteryTest : batteryTest.parameters = [0x30, 0x30, 0x35] := rfl

theorem length_parameters_le (command : GpserCommand) : command.parameters.length ≤ 8 := by
  cases command with
  | shutdown delay => simp [parameters_shutdown, Nibble.encodeWord]
  | restart delay => simp [parameters_restart, Nibble.encodeWord]
  | _ => decide

theorem length_opcode (command : GpserCommand) : command.opcode.length = 2 := by
  cases command <;> rfl

theorem delayIn?_parameters (command : GpserCommand) :
    delayIn? command.opcode command.parameters = command.delay? := by
  have zeros : (Nibble.encodeWord 0).length = 4 := Nibble.length_encode 4 0
  cases command with
  | restart delay =>
    have last : (restart delay).parameters.drop 4 = Nibble.encodeWord delay := by
      rw [parameters_restart, ← zeros, List.drop_left]
    simp [delayIn?, opcode, delay?, last, Nibble.value_encodeWord]
  | shutdown delay =>
    simp [delayIn?, opcode, delay?, parameters_shutdown, Nibble.value_encodeWord]
  | _ => rfl

/-- The two digits of the length field, and what they count. -/
theorem twoDigits_spec {count : Nat} (small : count < 100) :
    ∃ tens units, twoDigits count = [tens, units] ∧ (0x30 ≤ tens ∧ tens ≤ 0x39) ∧
      (0x30 ≤ units ∧ units ≤ 0x39) ∧
      10 * (tens.toNat - 0x30) + (units.toNat - 0x30) = count := by
  have digit : ∀ n < 10, (0x30 + UInt8.ofNat n).toNat = 0x30 + n := by decide
  have tens := digit (count / 10) (by omega)
  have units := digit (count % 10) (by omega)
  refine ⟨_, _, rfl, ?_, ?_, ?_⟩
  · simp only [UInt8.le_iff_toNat_le, tens]
    simp
    omega
  · simp only [UInt8.le_iff_toNat_le, units]
    simp
    omega
  · rw [tens, units]
    omega

theorem parts?_layout {first second tens units : UInt8} {parameters guard : Bytes}
    (count : 10 * (tens.toNat - 0x30) + (units.toNat - 0x30) = parameters.length)
    (four : guard.length = 4) :
    parts? ([0x02, 0x20, 0x22] ++ [first, second] ++ [tens, units] ++ parameters ++ guard ++
      [0x03]) = some ([first, second], parameters) := by
  simp [parts?, count, four]

/-- Nothing between the marks of a frame is one of them. -/
theorem marks_iff {inner : Bytes} (plain : ∀ byte ∈ inner, 0x20 ≤ byte) (i : Nat) :
    ((0x02 :: inner ++ [0x03])[i]? = some 0x02 ↔ i = 0) ∧
      ((0x02 :: inner ++ [0x03])[i]? = some 0x03 ↔ i = inner.length + 1) := by
  cases i with
  | zero => simp
  | succ k =>
    rw [List.cons_append, List.getElem?_cons_succ]
    rcases Nat.lt_trichotomy k inner.length with early | rfl | late
    · have here := plain _ (List.getElem_mem early)
      have other (mark : UInt8) (low : mark < 0x20) : inner[k] ≠ mark := by
        rintro rfl
        exact absurd here (UInt8.not_le.mpr low)
      simp [List.getElem?_append_left early, List.getElem?_eq_getElem early,
        other 0x02 (by decide), other 0x03 (by decide), Nat.ne_of_lt early]
    · simp
    · have none_left : (inner ++ [0x03])[k]? = none := by
        apply List.getElem?_eq_none
        rw [List.length_append, List.length_singleton]
        omega
      simp [none_left, Nat.ne_of_gt late]

theorem plain_opcode (command : GpserCommand) : ∀ byte ∈ command.opcode, 0x20 ≤ byte := by
  cases command <;> simp [opcode]

theorem nibble_range {value : UInt16} :
    ∀ char ∈ Nibble.encodeWord value, 0x30 ≤ char ∧ char ≤ 0x3F := by
  intro char member
  simpa [UInt8.le_iff_toNat_le] using Nibble.mem_encode member

theorem plain_word {value : UInt16} : ∀ char ∈ Nibble.encodeWord value, 0x20 ≤ char :=
  fun char member => UInt8.le_trans (by decide) (nibble_range char member).1

theorem plain_parameters (command : GpserCommand) : ∀ byte ∈ command.parameters, 0x20 ≤ byte := by
  cases command with
  | shutdown delay => exact plain_word
  | restart delay =>
    intro byte member
    rcases List.mem_append.mp member with first | last
    · exact plain_word byte first
    · exact plain_word byte last
  | batteryTest => simp [parameters_batteryTest]
  | _ =>
    intro byte member
    cases member

/-- A GPSER command is laid out as it should be, passes its check and is read back. -/
theorem wellFormed_encode (command : GpserCommand) (mode : CheckMode) :
    command.WellFormed (command.encode mode) := by
  let guard := Checksum.written .gpser
    (Checksum.word .gpser (command.effectiveMode mode) command.content)
  have four : guard.length = 4 := Checksum.length_written_gpser _
  have few := command.length_parameters_le
  have two := command.length_opcode
  obtain ⟨tens, units, digits, tens_digit, units_digit, count⟩ :=
    @twoDigits_spec command.parameters.length (by omega)
  let inner := [0x20, 0x22] ++ command.opcode ++ [tens, units] ++ command.parameters ++ guard
  have layout : (command.encode mode).bytes = 0x02 :: inner ++ [0x03] := by
    simp [encode, Checksum.append, content, Wire.commandHeader, Wire.stx, Wire.etx, digits, guard,
      inner]
  have length : inner.length = 10 + command.parameters.length := by
    simp only [inner, List.length_append, List.length_cons, List.length_nil, two, four]
    omega
  have plain : ∀ byte ∈ inner, 0x20 ≤ byte := by
    intro byte member
    simp only [inner, List.mem_append, List.mem_cons, List.not_mem_nil, or_false] at member
    rcases member with ((((rfl | rfl) | opcode) | rfl | rfl) | parameter) | checked
    · decide
    · decide
    · exact command.plain_opcode byte opcode
    · exact UInt8.le_trans (by decide) tens_digit.1
    · exact UInt8.le_trans (by decide) units_digit.1
    · exact command.plain_parameters byte parameter
    · exact plain_word byte checked
  constructor
  case layout =>
    exact ⟨tens, units, guard, layout, two, tens_digit, units_digit, count, four, nibble_range⟩
  case short =>
    rw [layout, List.length_append, List.length_cons, length, List.length_singleton]
    omega
  case starts_once =>
    intro i
    rw [layout]
    exact (marks_iff plain i).1
  case ends_once =>
    intro i
    rw [layout, (marks_iff plain i).2]
    simp
  case passes => exact Checksum.verify_append_gpser _ command.content Wire.etx
  case is_read =>
    obtain ⟨first, second, opcode⟩ := List.length_eq_two.mp two
    have parts : parts? (command.encode mode).bytes =
        some (command.opcode, command.parameters) := by
      rw [layout, opcode]
      simp only [inner, opcode]
      exact parts?_layout count four
    simp only [read?, parts, Option.map_some, delayIn?_parameters]

/-- Two commands differ on the wire. -/
theorem bytes_injective (mode : CheckMode) :
    Function.Injective fun command : GpserCommand => (command.encode mode).bytes := by
  intro a b same
  have reads : some (a.opcode, a.delay?) = some (b.opcode, b.delay?) := by
    rw [← (a.wellFormed_encode mode).is_read, ← (b.wellFormed_encode mode).is_read]
    exact congrArg read? same
  obtain ⟨opcode, delay⟩ := Prod.mk.inj (Option.some_inj.mp reads)
  exact opcode_delay_inj opcode delay

end GpserCommand

/-! ## SENTRY commands -/

namespace SentryCommand

/-- The second opcode of a SENTRY control command, and its parameter, which has its low byte
first. -/
def read? : Bytes → Option (UInt8 × UInt16)
  | [0xB0, sub, low, high, _] => some (sub, .ofNat (low.toNat + 256 * high.toNat))
  | _ => none

/-- The second opcode and the parameter of a command that is more than a request byte. -/
def order? : SentryCommand → Option (UInt8 × UInt16)
  | identify | request .only192 | request .also240 => none
  | request .ext176 => some (103, 1)
  | reboot delay => some (1, delay)
  | setReboot delay => some (2, delay)
  | batteryTest => some (4, 0)
  | cancel => some (5, 0)
  | shutdown delay => some (6, delay)

/-- The bytes of a SENTRY command that is sent. -/
structure WellFormed (command : SentryCommand) (sent : Command) : Prop where
  layout : match command.order? with
    | none => sent.bytes = [if command = request .also240 then 240 else 192]
    | some (sub, delay) =>
      let low := delay.toNat % 256
      let high := delay.toNat / 256
      sent.bytes = [176, sub, .ofNat low, .ofNat high,
        .ofNat ((176 + sub.toNat + low + high) % 256)]
  is_read : read? sent.bytes = command.order?

theorem sealed_eq (sub : UInt8) (parameter : UInt16) :
    let low := parameter.toNat % 256
    let high := parameter.toNat / 256
    sealed Wire.controlOpcode sub parameter = [176, sub, .ofNat low, .ofNat high,
        .ofNat ((176 + sub.toNat + low + high) % 256)] := by
  intro low high
  have sum : 0 + Wire.controlOpcode + sub + .ofNat low + .ofNat high =
      UInt8.ofNat ((176 + sub.toNat + low + high) % 256) := by
    simp only [← UInt8.toNat_inj, UInt8.toNat_add, UInt8.toNat_ofNat', Wire.controlOpcode]
    simp
  rw [sealed, Word.littleEndian_eq, ← sum]
  rfl

theorem read?_sealed (sub : UInt8) (parameter : UInt16) :
    read? (sealed Wire.controlOpcode sub parameter) = some (sub, parameter) := by
  have fits := parameter.toNat_lt
  have whole : UInt16.ofNat ((UInt8.ofNat (parameter.toNat % 256)).toNat +
      256 * (UInt8.ofNat (parameter.toNat / 256)).toNat) = parameter := by
    apply UInt16.toNat_inj.mp
    simp only [UInt16.toNat_ofNat', UInt8.toNat_ofNat']
    omega
  rw [sealed_eq, read?, whole]

/-- A SENTRY command is laid out as it should be and read back. -/
theorem wellFormed_encode (command : SentryCommand) : command.WellFormed command.encode := by
  cases command with
  | identify => exact ⟨rfl, rfl⟩
  | request level =>
    cases level with
    | only192 => exact ⟨rfl, rfl⟩
    | also240 => exact ⟨rfl, rfl⟩
    | ext176 => exact ⟨sealed_eq 103 1, read?_sealed 103 1⟩
  | shutdown delay => exact ⟨sealed_eq 6 delay, read?_sealed 6 delay⟩
  | cancel => exact ⟨sealed_eq 5 0, read?_sealed 5 0⟩
  | setReboot delay => exact ⟨sealed_eq 2 delay, read?_sealed 2 delay⟩
  | reboot delay => exact ⟨sealed_eq 1 delay, read?_sealed 1 delay⟩
  | batteryTest => exact ⟨sealed_eq 4 0, read?_sealed 4 0⟩

theorem order?_inj {a b : SentryCommand} (same : a.order? = b.order?) (control : a.order? ≠ none) :
    a = b := by
  rcases a with _ | (_ | _ | _) | _ | _ | _ | _ | _ <;>
    rcases b with _ | (_ | _ | _) | _ | _ | _ | _ | _ <;> simp_all [order?]

/-- Identification asks for what the basic layout asks for. All other commands differ on the
wire. -/
theorem bytes_inj {a b : SentryCommand} (same : a.encode.bytes = b.encode.bytes) :
    a = b ∨ a.encode.bytes = [192] := by
  obtain ⟨layout_a, is_read_a⟩ := a.wellFormed_encode
  obtain ⟨layout_b, is_read_b⟩ := b.wellFormed_encode
  rw [← same] at is_read_b layout_b
  have orders : a.order? = b.order? := is_read_a.symm.trans is_read_b
  cases order : a.order? with
  | some control => exact .inl (order?_inj orders (by simp [order]))
  | none =>
    simp only [order] at layout_a
    simp only [← orders, order] at layout_b
    by_cases long : a = request .also240
    · have other : b = request .also240 := by
        by_contra basic
        rw [layout_a, if_pos long, if_neg basic] at layout_b
        cases layout_b
      exact .inl (long.trans other.symm)
    · right
      rw [layout_a, if_neg long]

end SentryCommand

/-! ## Instant commands -/

namespace InstantCommand

/-- The delay of an instant command: at once, the configured number of seconds or minutes, or
none. -/
def delay? (command : InstantCommand) (delays : Delays) : Option UInt16 :=
  match command with
  | loadOff | loadOn => some 0
  | loadOffDelay | shutdownReturn => some delays.shutdown
  | loadOnDelay => some delays.reboot
  | shutdownStop | testPanelStart | testBatteryStart => none

theorem delay?_gpser (command : InstantCommand) (delays : Delays) :
    (command.gpser delays).delay? = command.delay? delays := by
  cases command <;> rfl

theorem order?_sentry {command : InstantCommand} {delays : Delays} {control : SentryCommand}
    (h : control ∈ command.sentry delays) :
    ∃ sub, control.order? = some (sub, (command.delay? delays).getD 0) := by
  cases command with
  | loadOn | loadOnDelay =>
    simp only [sentry, List.mem_cons, List.not_mem_nil, or_false] at h
    rcases h with rfl | rfl <;> exact ⟨_, rfl⟩
  | testPanelStart => cases h
  | _ =>
    rw [List.mem_singleton.mp h]
    exact ⟨_, rfl⟩

theorem frames_eq_nil {command : InstantCommand} {family : Family} {mode : CheckMode}
    {delays : Delays} :
    command.frames family mode delays = [] ↔ command = testPanelStart ∧ family = .sentry := by
  cases family <;> cases command <;> simp [frames, sentry]

end InstantCommand

/-- **Every outgoing command is well formed and tells from its bytes which command it is.** A GPSER
command passes its check in the mode that goes with it, which is the sum for identification whatever
was asked. The readers of both layouts give back opcode and delay, so in one mode no two GPSER
commands look alike; among SENTRY commands, identification looks like the basic request and no other
two look alike. So whatever frames an instant command is carried out with, they carry its delay. -/
theorem outgoing_command_is_readable :
    (∀ (command : GpserCommand) (mode : CheckMode),
      command.WellFormed (command.encode mode) ∧
        (command.encode mode).mode = if command = .identify then .sum else mode) ∧
    (∀ mode, Function.Injective fun command : GpserCommand => (command.encode mode).bytes) ∧
    (∀ command : SentryCommand, command.WellFormed command.encode) ∧
    (∀ a b : SentryCommand, a.encode.bytes = b.encode.bytes → a = b ∨ a.encode.bytes = [192]) ∧
    ∀ (command : InstantCommand) (mode : CheckMode) (delays : Delays),
      (∀ sent ∈ command.frames .gpser mode delays, ∃ opcode,
        GpserCommand.read? sent.bytes = some (opcode, command.delay? delays)) ∧
      (∀ sent ∈ command.frames .sentry mode delays, ∃ sub,
        SentryCommand.read? sent.bytes = some (sub, (command.delay? delays).getD 0)) ∧
      ∀ family, command.frames family mode delays = [] ↔
        command = .testPanelStart ∧ family = .sentry := by
  refine ⟨fun command mode => ⟨command.wellFormed_encode mode, ?_⟩, GpserCommand.bytes_injective,
    SentryCommand.wellFormed_encode, fun a b => SentryCommand.bytes_inj,
    fun command mode delays => ⟨?_, ?_, fun family => InstantCommand.frames_eq_nil⟩⟩
  · cases command <;> rfl
  · intro sent member
    obtain rfl := List.mem_singleton.mp member
    refine ⟨(command.gpser delays).opcode, ?_⟩
    rw [((command.gpser delays).wellFormed_encode mode).is_read, command.delay?_gpser]
  · intro sent member
    obtain ⟨control, among, rfl⟩ := List.mem_map.mp member
    rw [control.wellFormed_encode.is_read]
    exact InstantCommand.order?_sentry among

/-- The output is to come back after 276 minutes, and the frames of both families say so. -/
theorem restart_after_276_minutes :
    let delays : Delays := { reboot := 276 }
    let gpser := (GpserCommand.restart 276).encode .crc
    let sentry := (SentryCommand.reboot 276).encode
    gpser ∈ InstantCommand.loadOnDelay.frames .gpser .crc delays ∧
      (∃ opcode, GpserCommand.read? gpser.bytes = some (opcode, some 276)) ∧
      sentry ∈ InstantCommand.loadOnDelay.frames .sentry .crc delays ∧
      (∃ sub, SentryCommand.read? sentry.bytes = some (sub, 276)) ∧
      SentryCommand.identify.encode.bytes = [192] := by
  intro delays gpser sentry
  obtain ⟨-, -, -, alike, carried⟩ := outgoing_command_is_readable
  obtain ⟨by_gpser, by_sentry, -⟩ := carried .loadOnDelay .crc delays
  have one : gpser ∈ InstantCommand.loadOnDelay.frames .gpser .crc delays :=
    List.mem_singleton.mpr rfl
  have second : sentry ∈ InstantCommand.loadOnDelay.frames .sentry .crc delays :=
    List.mem_cons_of_mem _ (List.mem_singleton.mpr rfl)
  refine ⟨one, by_gpser gpser one, second, by_sentry sentry second, ?_⟩
  exact (alike .identify (.request .only192) rfl).resolve_left (by decide)

end UpsMonitor
