import UpsMonitor.Monitor.Publishing
import UpsMonitor.Proofs.Nibble
import UpsMonitor.Proofs.Store
import UpsMonitor.Proofs.Word
import UpsMonitor.Reply.Gpser

/-!
# What a GPSER unit's status is published as

The keys and texts that follow from a status reply and from an extended reply, and from nothing that
was known before. Main statements:

* `status_of_reply`, `status_of_replies`: these are what is published behind such replies;
* `keys_nodup`: no key is told twice.
-/

namespace UpsMonitor

/-- A count of tenths as a decimal number. -/
def decimal (tenths : Nat) : String := toString (tenths / 10) ++ "." ++ toString (tenths % 10)

namespace StatusReply

/-- The field for the run time, as it stands in a frame. -/
def runtimeField (frame : Bytes) : Nat := (Nibble.decode ((frame.drop 38).take 3)).toNat

/-- Minutes are published in seconds, but for the value that stands for an unknown run time. -/
def runtimeEntry (field : Nat) : List (String × String) :=
  if field = 0xFFF then [] else [("battery.runtime", toString (field * 60))]

/-- Frequencies have a second decimal place, which is zero. -/
def commonEntries (field : Nat) (reply : StatusReply) : List (String × String) :=
  [("input.frequency", decimal reply.inputFrequency.toNat ++ "0"),
    ("input.bypass.frequency", decimal reply.bypassFrequency.toNat ++ "0"),
    ("output.frequency", decimal reply.outputFrequency.toNat ++ "0"),
    ("battery.voltage", decimal reply.batteryVoltage.toNat),
    ("battery.charge", toString reply.charge.toNat)]
  ++ runtimeEntry field ++ [("ups.temperature", toString reply.temperature.toNat)]

def inputEntries (layout : PhaseLayout) (reply : StatusReply) : List (String × String) :=
  if layout.inputSingle then
    [("input.voltage", toString reply.inputVoltage.l1.toNat),
      ("input.bypass.voltage", toString reply.bypassVoltage.l1.toNat)]
  else
    [("input.L1-N.voltage", toString reply.inputVoltage.l1.toNat),
      ("input.L2-N.voltage", toString reply.inputVoltage.l2.toNat),
      ("input.L3-N.voltage", toString reply.inputVoltage.l3.toNat),
      ("input.bypass.L1-N.voltage", toString reply.bypassVoltage.l1.toNat),
      ("input.bypass.L2-N.voltage", toString reply.bypassVoltage.l2.toNat),
      ("input.bypass.L3-N.voltage", toString reply.bypassVoltage.l3.toNat)]

/-- The load of three phases is their mean, rounded down. -/
def outputEntries (layout : PhaseLayout) (reply : StatusReply) : List (String × String) :=
  if layout.outputSingle then
    [("output.voltage", toString reply.outputVoltage.l1.toNat),
      ("output.power.percent", toString reply.load.l1.toNat),
      ("ups.load", toString reply.load.l1.toNat)]
  else
    [("output.L1-N.voltage", toString reply.outputVoltage.l1.toNat),
      ("output.L2-N.voltage", toString reply.outputVoltage.l2.toNat),
      ("output.L3-N.voltage", toString reply.outputVoltage.l3.toNat),
      ("output.L1.power.percent", toString reply.load.l1.toNat),
      ("output.L2.power.percent", toString reply.load.l2.toNat),
      ("output.L3.power.percent", toString reply.load.l3.toNat),
      ("ups.load",
        toString ((reply.load.l1.toNat + reply.load.l2.toNat + reply.load.l3.toNat) / 3))]

/-- What a status reply is published as, under a layout of the phases and with its field for the
run time. -/
def entries (layout : PhaseLayout) (field : Nat) (reply : StatusReply) : List (String × String) :=
  reply.commonEntries field ++ reply.inputEntries layout ++ reply.outputEntries layout

/-! ## The run time -/

/-- Behind the status bytes, nine values with 26 characters precede the run time. -/
theorem runtime_measurements (code : StatusCode) (declared : Nat) (chars : Bytes) :
    (measurements code declared chars).1.runtime =
      runtimeOf (Word.clip (Nibble.decode ((chars.drop 26).take 3))) := by
  have step {α β : Type} (first : StateM Bytes α) (next : α → StateM Bytes β) (chars : Bytes) :
      (first >>= next) chars = next (first chars).1 (first chars).2 := rfl
  have left (width : Nat) (chars : Bytes) : (Gpser.word width chars).2 = chars.drop width := rfl
  simp only [measurements, step, left, List.drop_drop]
  rfl

theorem runtimeField_lt (frame : Bytes) : runtimeField frame < 16 ^ 3 :=
  Nat.lt_of_lt_of_le (Nibble.toNat_decode_lt _)
    (Nat.pow_le_pow_right (by decide) (List.length_take_le 3 _))

/-- Three characters are not clipped. -/
theorem toNat_clip_decode (frame : Bytes) :
    (Word.clip (Nibble.decode ((frame.drop 38).take 3))).toNat = runtimeField frame := by
  have low := runtimeField_lt frame
  rw [Word.toNat_clip]
  exact Nat.min_eq_right (Nat.le_of_lt (Nat.lt_trans low (by decide)))

/-- The run time of a reply is that of its field, or marked unknown. -/
theorem runtime_of_ofFrame {declared : Nat} {frame : Bytes} {reply : StatusReply}
    (read : ofFrame declared frame = .ok reply) :
    (reply.runtime = unknownWord ↔ runtimeField frame = 0xFFF) ∧
      (runtimeField frame ≠ 0xFFF → reply.runtime.toNat = runtimeField frame) := by
  have same : reply.runtime = runtimeOf (Word.clip (Nibble.decode ((frame.drop 38).take 3))) := by
    unfold ofFrame at read
    split at read
    · cases read
      rw [runtime_measurements, List.drop_drop]
    · cases read
  have low := runtimeField_lt frame
  have field := toNat_clip_decode frame
  generalize Word.clip (Nibble.decode ((frame.drop 38).take 3)) = value at same field
  rw [same, runtimeOf, ← field]
  by_cases unknown : value = runtimeUnknown
  · subst unknown
    exact ⟨by decide, fun known => absurd rfl known⟩
  · have known : value.toNat ≠ 0xFFF := fun top => unknown (UInt16.toNat_inj.mp top)
    rw [if_neg unknown]
    refine ⟨iff_of_false (fun marked => ?_) known, fun _ => rfl⟩
    have top : unknownWord.toNat = 0xFFFF := rfl
    rw [marked] at field
    omega

end StatusReply

namespace ExtendedReply

/-- What an extended reply is published as. -/
def entries (reply : ExtendedReply) : List (String × String) :=
  [("output.L1.power", toString reply.power.l1.toNat),
    ("output.L2.power", toString reply.power.l2.toNat),
    ("output.L3.power", toString reply.power.l3.toNat),
    ("output.L1.realpower", toString reply.realPower.l1.toNat),
    ("output.L2.realpower", toString reply.realPower.l2.toNat),
    ("output.L3.realpower", toString reply.realPower.l3.toNat),
    ("output.L1.current", toString reply.outputCurrent.l1.toNat),
    ("output.L2.current", toString reply.outputCurrent.l2.toNat),
    ("output.L3.current", toString reply.outputCurrent.l3.toNat)]

end ExtendedReply

namespace Publishing

theorem toNat_meanLoad (load : PerPhase UInt16) :
    (meanLoad load).toNat = (load.l1.toNat + load.l2.toNat + load.l3.toNat) / 3 := by
  have h1 := load.l1.toNat_lt
  have h2 := load.l2.toNat_lt
  have h3 := load.l3.toNat_lt
  have three : (3 : UInt32).toNat = 3 := rfl
  simp only [meanLoad, UInt32.toNat_div, UInt32.toNat_add, UInt16.toNat_toUInt32, three]
  omega

theorem input_of_reply (layout : PhaseLayout) (reply : StatusReply) (s : Snapshot) :
    input layout (reply.apply s) = (reply.inputEntries layout).map .ofEntry := by
  unfold input StatusReply.inputEntries
  split
  · rfl
  · rfl

theorem output_of_reply (layout : PhaseLayout) (reply : StatusReply) (s : Snapshot) :
    output layout (reply.apply s) = (reply.outputEntries layout).map .ofEntry := by
  unfold output StatusReply.outputEntries
  split
  · rfl
  · rw [← toNat_meanLoad]
    rfl

/-- The run time is published in seconds, unless the unit does not know it. -/
theorem runtime_of_reply {declared : Nat} {frame : Bytes} {reply : StatusReply}
    (read : StatusReply.ofFrame declared frame = .ok reply) :
    (if reply.runtime = unknownWord then []
      else [.info "battery.runtime" (long (reply.runtime.toUInt32 * 60))]) =
      (StatusReply.runtimeEntry (StatusReply.runtimeField frame)).map Notice.ofEntry := by
  obtain ⟨marked, known⟩ := StatusReply.runtime_of_ofFrame read
  unfold StatusReply.runtimeEntry
  by_cases unknown : reply.runtime = unknownWord
  · rw [if_pos unknown, if_pos (marked.mp unknown)]
    rfl
  · have field := mt marked.mpr unknown
    have seconds : (reply.runtime.toUInt32 * 60).toNat = reply.runtime.toNat * 60 := by
      have bound := reply.runtime.toNat_lt
      have sixty : (60 : UInt32).toNat = 60 := rfl
      rw [UInt32.toNat_mul, UInt16.toNat_toUInt32, sixty]
      omega
    rw [if_neg unknown, if_neg field, long, seconds, known field]
    rfl

theorem common_of_reply {declared : Nat} {frame : Bytes} {reply : StatusReply}
    (read : StatusReply.ofFrame declared frame = .ok reply) (s : Snapshot) :
    common (reply.apply s) =
      (reply.commonEntries (StatusReply.runtimeField frame)).map .ofEntry := by
  simp only [StatusReply.commonEntries, List.map_append, ← runtime_of_reply read]
  rfl

/-- **What is published behind a status reply** follows from the reply alone. -/
theorem status_of_reply {declared : Nat} {frame : Bytes} {reply : StatusReply}
    (read : StatusReply.ofFrame declared frame = .ok reply) (layout : PhaseLayout) (s : Snapshot) :
    status layout false (reply.apply s) =
      Notice.report (reply.entries layout (StatusReply.runtimeField frame)) reply.code.flags.tokens
        [] := by
  simp only [Notice.report, StatusReply.entries, List.map_append, ← common_of_reply read s,
    ← input_of_reply layout reply s, ← output_of_reply layout reply s]
  rfl

/-- **What is published behind both replies.** -/
theorem status_of_replies {declared : Nat} {frame : Bytes} {reply : StatusReply}
    (read : StatusReply.ofFrame declared frame = .ok reply) (powers : ExtendedReply)
    (layout : PhaseLayout) (s : Snapshot) :
    status layout true (powers.apply (reply.apply s)) =
      Notice.report (reply.entries layout (StatusReply.runtimeField frame)) reply.code.flags.tokens
        powers.entries := by
  simp only [Notice.report, StatusReply.entries, List.map_append, ← common_of_reply read s,
    ← input_of_reply layout reply s, ← output_of_reply layout reply s]
  rfl

/-! ## No key twice -/

/-- The keys that a status reply may be published under, whatever the layout. -/
def commonKeys : List String :=
  ["input.frequency", "input.bypass.frequency", "output.frequency", "battery.voltage",
    "battery.charge", "battery.runtime", "ups.temperature"]

def inputKeys : List String :=
  ["input.voltage", "input.bypass.voltage", "input.L1-N.voltage", "input.L2-N.voltage",
    "input.L3-N.voltage", "input.bypass.L1-N.voltage", "input.bypass.L2-N.voltage",
    "input.bypass.L3-N.voltage"]

def outputKeys : List String :=
  ["output.voltage", "output.power.percent", "output.L1-N.voltage", "output.L2-N.voltage",
    "output.L3-N.voltage", "output.L1.power.percent", "output.L2.power.percent",
    "output.L3.power.percent", "ups.load"]

/-- The keys of powers and currents. -/
def powerKeys : List String :=
  ["output.L1.power", "output.L2.power", "output.L3.power", "output.L1.realpower",
    "output.L2.realpower", "output.L3.realpower", "output.L1.current", "output.L2.current",
    "output.L3.current"]

theorem common_keys (field : Nat) (reply : StatusReply) :
    ((reply.commonEntries field).map Prod.fst).Sublist commonKeys := by
  unfold StatusReply.commonEntries StatusReply.runtimeEntry
  split
  · simp only [List.map_append, List.map_cons, List.map_nil]
    decide
  · simp only [List.map_append, List.map_cons, List.map_nil]
    decide

theorem input_keys (layout : PhaseLayout) (reply : StatusReply) :
    ((reply.inputEntries layout).map Prod.fst).Sublist inputKeys := by
  unfold StatusReply.inputEntries
  split
  · simp only [List.map_cons, List.map_nil]
    decide
  · simp only [List.map_cons, List.map_nil]
    decide

theorem output_keys (layout : PhaseLayout) (reply : StatusReply) :
    ((reply.outputEntries layout).map Prod.fst).Sublist outputKeys := by
  unfold StatusReply.outputEntries
  split
  · simp only [List.map_cons, List.map_nil]
    decide
  · simp only [List.map_cons, List.map_nil]
    decide

/-- No key is told twice. -/
theorem keys_nodup (layout : PhaseLayout) (field : Nat) (reply : StatusReply)
    {powers : List (String × String)} (fits : (powers.map Prod.fst).Sublist powerKeys) :
    ((reply.entries layout field ++ powers).map Prod.fst).Nodup := by
  have distinct : (commonKeys ++ inputKeys ++ outputKeys ++ powerKeys).Nodup := by
    decide +kernel
  refine distinct.sublist ?_
  simp only [StatusReply.entries, List.map_append]
  exact (((common_keys field reply).append (input_keys layout reply)).append
    (output_keys layout reply)).append fits

end Publishing

end UpsMonitor
