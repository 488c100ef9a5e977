import UpsMonitor.Proofs.Usb.Execution

/-!
# Answers

What is known of a frame because a command brought it. Main statement:

* `execute_frame`: a frame is judged in the family and mode of its command, and a SENTRY frame is as
  long as the basic reply at least.
-/

namespace UpsMonitor

/-- A frame with the judgements that its bytes call for. A SENTRY frame declares its length, and no
length that it may declare is less than that of the basic reply. -/
structure Frame.Judged (frame : Frame) (family : Family) (mode : CheckMode) : Prop where
  judged : frame = .ofBytes family mode frame.bytes
  whole : family = .sentry → 103 ≤ frame.bytes.length

theorem Frame.Judged.badChecksum {frame : Frame} {family : Family} {mode : CheckMode}
    (judged : frame.Judged family mode) :
    frame.badChecksum = !Checksum.verify family mode frame.bytes := by
  conv_lhs => rw [judged.judged]
  rfl

namespace Assembler

theorem frame_judged {family : Family} {mode : CheckMode} {stream : Bytes} {frame : Frame}
    (held : ((empty family mode).feedAll stream).frame? = some frame) :
    frame.Judged family mode := by
  rw [empty_feedAll] at held
  cases start : firstStart? family stream with
  | none =>
    rw [oneShot_idle start] at held
    cases held
  | some i =>
    cases family with
    | gpser =>
      cases ends : firstEnd? stream i with
      | none =>
        rw [oneShot_gpser_open start ends] at held
        cases held
      | some j =>
        rw [oneShot_gpser_ended start ends] at held
        cases held
        exact ⟨rfl, nofun⟩
    | sentry =>
      by_cases enough : (stream.getD i 0).toNat ≤ (stream.drop (i - 1)).length
      · rw [oneShot_sentry_ended start enough] at held
        cases held
        refine ⟨rfl, fun _ => ?_⟩
        have total := declared_length start
        rw [List.length_take]
        omega
      · rw [oneShot_sentry_open start (by omega)] at held
        cases held

end Assembler

theorem Exchange.Of.frame_judged {settings : Transport.Settings} {command : Command}
    {ex : Exchange} (of : ex.Of settings command) {frame : Frame}
    (answered : ex.outcome = .ok frame) : frame.Judged command.family command.mode := by
  cases of with
  | refused _ | unsent _ => cases answered
  | sent received =>
    cases received with
    | complete reports _ _ held =>
      cases answered
      exact Assembler.frame_judged held
    | failed | givenUp => cases answered

namespace Link

variable {σ : Type} [Device σ]

/-- **What a frame is that a command brings.** It is the reply of the last exchange, and that was
put together and judged as the command has it. -/
theorem execute_frame {link : Link σ} {command : Command} {frame : Frame}
    (answered : (link.execute command).1 = .ok frame) :
    frame.Judged command.family command.mode := by
  obtain ⟨fault, failed, -⟩ | ⟨opening, course, -, of, ends, -⟩ := link.execute_cases command
  · cases answered.symm.trans failed
  · exact of.last.frame_judged (answered ▸ ends).answered.1

end Link

end UpsMonitor
