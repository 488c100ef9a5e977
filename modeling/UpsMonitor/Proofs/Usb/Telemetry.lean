import UpsMonitor.Proofs.Usb.Delivery

/-!
# Telemetry replies

A SENTRY frame says how long it is, so it may hold any bytes. Main statement:

* `telemetry_survives`: a telemetry reply is received as it was sent, and can be read.
-/

namespace UpsMonitor

/-- A telemetry reply: the opcode and the length of its layout, any body, and the guard word. -/
def Extension.reply (level : Extension) (mode : CheckMode)
    (body : Vector UInt8 (level.replyLength - 4)) : Bytes :=
  Checksum.append .sentry mode (level.opcode :: UInt8.ofNat level.replyLength :: body.toList)

theorem Extension.length_reply (level : Extension) (mode : CheckMode)
    (body : Vector UInt8 (level.replyLength - 4)) :
    (level.reply mode body).length = level.replyLength := by
  have least := level.le_replyLength
  simp only [reply, Checksum.length_append_sentry, List.length_cons, Vector.length_toList]
  omega

/-- Opcode and length of every layout are a start pattern, and the length fits its byte. -/
theorem Extension.reply_starts (level : Extension) :
    StartPair .sentry level.opcode (UInt8.ofNat level.replyLength) ∧
      (UInt8.ofNat level.replyLength).toNat = level.replyLength := by
  cases level <;> decide

theorem Assembler.oneShot_reply (level : Extension) (mode sealing : CheckMode)
    (body : Vector UInt8 (level.replyLength - 4)) :
    oneShot .sentry mode (level.reply sealing body) = .complete {
      family := .sentry
      bytes := level.reply sealing body
      nak := false
      badChecksum := false } := by
  let content := level.opcode :: UInt8.ofNat level.replyLength :: body.toList
  let guard := Checksum.written .sentry (Checksum.word .sentry sealing content)
  have shape : level.reply sealing body =
      level.opcode :: UInt8.ofNat level.replyLength :: (body.toList ++ guard) := rfl
  obtain ⟨pair, total⟩ := level.reply_starts
  have whole : (level.opcode :: UInt8.ofNat level.replyLength :: (body.toList ++ guard)).length =
      (UInt8.ofNat level.replyLength).toNat := by
    rw [total, ← shape, level.length_reply]
  have parsed := oneShot_declared mode [] pair whole
  rw [List.append_nil, ← shape] at parsed
  have passes : Checksum.verify .sentry mode (level.reply sealing body) = true :=
    Checksum.verify_append_sentry mode sealing content
  simp [parsed, finished, passes]

namespace Transport

variable {σ : Type} [Device σ]

/-- **A telemetry reply comes through, whatever its body.** Idle reports may stand anywhere between
the reports that carry it, as long as all of them are read. -/
theorem telemetry_survives (settings : Settings) (level : Extension) (mode sealing : CheckMode)
    (bus : Bus σ) (body : Vector UInt8 (level.replyLength - 4)) (reports : List Bytes)
    (s : Snapshot)
    (interleaved : (reports.filter fun report => !Report.isIdle report) =
      Report.ofBytes (level.reply sealing body))
    (budget : reports.length ≤ settings.maxReports)
    (delivered : Delivers settings bus.device reports) :
    let bytes := level.reply sealing body
    bytes.length = level.replyLength ∧
      (receive settings (.empty .sentry mode) bus).1 =
        .ok { family := .sentry, bytes, nak := false, badChecksum := false } ∧
      ∃ after, Reply.decode (.telemetry level) bytes s = .ok after := by
  intro bytes
  have length : bytes.length = level.replyLength := level.length_reply sealing body
  have arrives : (reports.take settings.maxReports).flatMap Report.payload = bytes := by
    rw [List.take_of_length_le budget, ← Report.flatMap_payload_active, interleaved,
      Report.flatMap_payload_ofBytes]
  have short : bytes.length < 512 := by
    rw [length]
    cases level <;> decide
  refine ⟨length, receive_delivered delivered ?_ (.inr short), ?_⟩
  · rw [arrives]
    exact Assembler.oneShot_reply level mode sealing body
  · rw [Reply.decode, Sentry.decode, dif_pos (Nat.le_of_eq length.symm)]
    exact ⟨_, rfl⟩

/-- A long reply full of start patterns and of GPSER delimiters, with idle reports before it and
in it. -/
theorem delimiters_survive :
    let awkward : List UInt8 := [0x02, 0x03, 0xC0, 0x67, 0xB0, 0xA4, 0x15, 0x00]
    let bytes := Extension.ext176.reply .sum (.ofFn fun i => awkward.getD (i % 8) 0)
    let reports := Bench.idleReport :: (Report.ofBytes bytes).take 1 ++
      [Bench.idleReport, [0x38]] ++ (Report.ofBytes bytes).drop 1
    let bus : Bus Bench := { device := { reads := reports.map .ok } }
    bytes.length = 164 ∧
      (receive { maxReports := 27 } (.empty .sentry .crc) bus).1 =
        .ok { family := .sentry, bytes, nak := false, badChecksum := false } ∧
      ∃ after, Reply.decode (.telemetry .ext176) bytes {} = .ok after := by
  intro awkward bytes reports bus
  have length : bytes.length = 164 := Extension.length_reply _ _ _
  have silent : Report.isIdle Bench.idleReport = true ∧ Report.isIdle [0x38] = true := by decide
  have interleaved : (reports.filter fun report => !Report.isIdle report) =
      Report.ofBytes bytes := by
    simp only [reports, List.cons_append, List.nil_append, List.append_assoc, List.filter_append,
      List.filter_cons, silent, Bool.not_true, Bool.false_eq_true, ↓reduceIte]
    rw [← List.filter_append, List.take_append_drop, Report.filter_active_ofBytes]
  have budget : reports.length ≤ 27 := by
    simp [reports, Report.length_ofBytes, length]
  exact telemetry_survives { maxReports := 27 } .ext176 .crc .sum bus _ reports {} interleaved
    budget (delivers_bench _ (List.append_nil _).symm)

end Transport

end UpsMonitor
