import UpsMonitor.Proofs.BitField
import UpsMonitor.Proofs.Reply.Arithmetic
import UpsMonitor.Proofs.Reply.Decoding
import UpsMonitor.Proofs.Status

/-!
# The alarms of a telemetry reply

A SENTRY unit scatters its alarms over five bytes of the reply, and the status is put together from
them. Main statements:

* `flags_statusOf`: reading the bitmap gives back the conditions that it was put together from;
* `status_tells_alarms`: so each condition is told by bits of the reply, and the words of the status
  are well formed.
-/

namespace UpsMonitor.Sentry

/-- The conditions of a unit, told by the bits of its reply. -/
structure Alarmed (frame : Bytes) (flags : StatusFlags) : Prop where
  overload : flags.overload = true ↔ byteAt frame 31 &&& 0x80 ≠ 0
  onBattery : flags.onBattery = true ↔ byteAt frame 31 &&& 0x08 ≠ 0
  lowBattery : flags.lowBattery = true ↔
    byteAt frame 31 &&& 0x08 ≠ 0 ∧ byteAt frame 31 &&& 0x10 ≠ 0
  replaceBattery : flags.replaceBattery = true ↔ byteAt frame 31 &&& 0x40 ≠ 0
  bypass : flags.bypass = true ↔ byteAt frame 34 &&& 0x08 = 0 ∧
    (byteAt frame 31 &&& 0x02 ≠ 0 ∨ byteAt frame 32 &&& 0x01 ≠ 0 ∨ byteAt frame 33 &&& 0x70 ≠ 0)
  standby : flags.standby = true ↔ byteAt frame 22 &&& 0x02 ≠ 0 ∨ byteAt frame 34 &&& 0x0C ≠ 0
  never : flags.buck = false ∧ flags.boost = false ∧ flags.charging = false

section
variable {frame : Bytes} (h : 103 ≤ frame.length)

/-- The bits of the longer field lie in its first two bytes. -/
theorem bypassRequested_iff :
    bypassRequested frame h = true ↔
      byteAt frame 31 &&& 0x02 ≠ 0 ∨ byteAt frame 32 &&& 0x01 ≠ 0 ∨
        byteAt frame 33 &&& 0x70 ≠ 0 := by
  have bit (index : Nat) : testBit (frame.drop 32) index = true ↔
      byteAt frame ((8 * 32 + index) / 8) &&& (1 <<< UInt8.ofNat ((8 * 32 + index) % 8)) ≠ 0 := by
    rw [testBit_drop, testBit_eq, bne_iff_ne, byteAt]
  have three : byteAt frame 33 &&& 0x70 ≠ 0 ↔
      byteAt frame 33 &&& 0x10 ≠ 0 ∨ byteAt frame 33 &&& 0x20 ≠ 0 ∨
        byteAt frame 33 &&& 0x40 ≠ 0 := by
    rw [← and_or_ne_zero, ← and_or_ne_zero]
    rfl
  simp only [bypassRequested, Bool.or_eq_true, bne_iff_ne, List.any_cons, List.any_nil,
    Bool.or_false, bit, ← byteAt_eq]
  rw [three]
  rfl

/-- **Reading the bitmap gives back the conditions that it was put together from,** since each sets
or clears a bit of its own. -/
theorem flags_statusOf :
    (statusOf frame h).flags =
      { onBattery := byteAt frame 31 &&& 0x08 != 0
        lowBattery := byteAt frame 31 &&& 0x08 != 0 && byteAt frame 31 &&& 0x10 != 0
        standby := byteAt frame 22 &&& 0x02 != 0 || byteAt frame 34 &&& 0x0C != 0
        bypass := bypassRequested frame h && byteAt frame 34 &&& 0x08 == 0
        overload := byteAt frame 31 &&& 0x80 != 0
        buck := false
        boost := false
        replaceBattery := byteAt frame 31 &&& 0x40 != 0
        charging := false } := by
  simp only [StatusCode.flags_eq, statusOf, ← byteAt_eq]
  -- Only which conditions hold matters from here on, not the bytes that tell them.
  generalize (byteAt frame 31 &&& 0x08 != 0) = battery, (byteAt frame 31 &&& 0x10 != 0) = low,
    (byteAt frame 22 &&& 0x02 != 0 || byteAt frame 34 &&& 0x0C != 0) = off,
    (bypassRequested frame h && byteAt frame 34 &&& 0x08 == 0) = bypass,
    (byteAt frame 31 &&& 0x40 != 0) = worn, (byteAt frame 31 &&& 0x80 != 0) = overload
  revert battery low off bypass worn overload
  decide

theorem alarmed_statusOf : Alarmed frame (statusOf frame h).flags := by
  rw [flags_statusOf h]
  constructor
  case bypass =>
    rw [Bool.and_eq_true, bypassRequested_iff, beq_iff_eq]
    exact and_comm
  case never => exact ⟨rfl, rfl, rfl⟩
  all_goals simp

end

/-- **The status tells the alarms of the reply.** Each condition is told by certain bits of the reply,
whatever its other bits are. The words are well formed, and the unit is not said to be on bypass
while it is switched off. Every layout that the reply is long enough for brings this status. -/
theorem status_tells_alarms {frame : Bytes} (h : 103 ≤ frame.length) :
    Alarmed frame (statusOf frame h).flags ∧
      WellFormedStatus (statusOf frame h).flags.tokens ∧
      (byteAt frame 34 &&& 0x08 ≠ 0 → "BYPASS" ∉ (statusOf frame h).flags.tokens) ∧
      ∀ (level : Extension) (s : Snapshot), level.replyLength ≤ frame.length →
        ∃ after, Reply.decode (.telemetry level) frame s = .ok after ∧
          after.status = statusOf frame h := by
  have alarmed := alarmed_statusOf h
  refine ⟨alarmed, StatusCode.tokens_wellFormed _, fun off told => ?_, fun level s long =>
    ⟨apply level frame long s, decode_eq_ok long s, rfl⟩⟩
  have bypass : (statusOf frame h).flags.bypass = true := by
    simpa [StatusFlags.conditions] using (StatusFlags.mem_tokens_iff (by decide)).mp told
  exact off (alarmed.bypass.mp bypass).1

/-- A unit that is switched off, with every alarm that it can raise. -/
theorem switched_off_is_not_bypassed :
    let frame := ((List.replicate 103 0x00).set 31 0xDA).set 34 0x08
    103 ≤ frame.length ∧
      ∃ after, Reply.decode (.telemetry .also240) frame {} = .ok after ∧
        after.flags.overload = true ∧ after.flags.lowBattery = true ∧
        after.flags.standby = true ∧ "BYPASS" ∉ after.flags.tokens := by
  intro frame
  obtain ⟨alarmed, -, silent, brought⟩ :=
    status_tells_alarms (by decide : 103 ≤ frame.length)
  obtain ⟨after, read, brings⟩ := brought .also240 {} (by decide)
  have flags : after.flags = (statusOf frame (by decide)).flags := congrArg StatusCode.flags brings
  rw [← flags] at alarmed silent
  exact ⟨by decide, after, read, alarmed.overload.mpr (by decide),
    alarmed.lowBattery.mpr (by decide), alarmed.standby.mpr (by decide), silent (by decide)⟩

end UpsMonitor.Sentry
