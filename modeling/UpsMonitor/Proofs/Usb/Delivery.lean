import UpsMonitor.Proofs.Frame.Boundary
import UpsMonitor.Proofs.Reply.Status
import UpsMonitor.Proofs.Report
import UpsMonitor.Proofs.Usb.Reception
import UpsMonitor.Reply
import UpsMonitor.Usb.Bench

/-!
# Delivery

A frame that a device delivers in reports is received as it is. Main statements:

* `receive_same_content`: the upper bits of first bytes and idle reports make no difference;
* `receive_between_noise`: a GPSER frame between noise and trailing bytes, however they are spread
  over the reports;
* `status_survives_iff`: a status reply, unless one of its raw status bytes is an end byte.
-/

namespace UpsMonitor.Transport

variable {σ : Type} [Device σ]

/-- The device gives these reports next. -/
def Delivers (settings : Settings) (device : σ) (reports : List Bytes) : Prop :=
  ∀ k report, reports[k]? = some report → outcomes settings device k = .ok report

theorem delivers_succ {settings : Settings} {device : σ} {report : Bytes} {reports : List Bytes}
    (now : (Device.answer (reading settings) device).1 = .ok report)
    (later : Delivers settings (Device.answer (reading settings) device).2 reports) :
    Delivers settings device (report :: reports) := by
  intro k found at_k
  cases k with
  | zero =>
    cases at_k
    exact now
  | succ k => exact later k found at_k

/-- A bench gives the reports that are laid out on it. -/
theorem delivers_bench (settings : Settings) {bench : Bench} {reports : List Bytes}
    {rest : List (Except Fault Bytes)} (laid : bench.reads = reports.map .ok ++ rest) :
    Delivers settings bench reports := by
  induction reports generalizing bench with
  | nil =>
    intro k report none_left
    cases none_left
  | cons report reports ih =>
    apply delivers_succ
    · simp [Device.answer, Bench.answer, Bench.next, laid]
    · exact ih (by simp [Device.answer, Bench.answer, Bench.next, laid])

theorem stream_delivered {settings : Settings} {device : σ} {reports : List Bytes}
    (delivered : Delivers settings device reports) {count : Nat} (inside : count ≤ reports.length) :
    stream (outcomes settings device) count = (reports.take count).flatMap Report.payload := by
  induction count with
  | zero => rfl
  | succ count ih =>
    have found := List.getElem?_eq_getElem (Nat.lt_of_succ_le inside)
    have before := ih (Nat.le_of_succ_le inside)
    rw [stream] at before
    rw [stream, List.range_succ, List.flatMap_append, before, List.take_add_one, found,
      List.flatMap_append]
    simp only [List.flatMap_singleton, Option.toList_some, delivered count _ found, arrived]

/-- Delivered reports that hold a frame with its end byte, within the budget, give this frame. -/
theorem receive_delivered {settings : Settings} {family : Family} {mode : CheckMode} {bus : Bus σ}
    {reports : List Bytes} {frame : Frame} (delivered : Delivers settings bus.device reports)
    (held : Assembler.oneShot family mode
      ((reports.take settings.maxReports).flatMap Report.payload) = .complete frame)
    (ended : 0x03 ∈ frame.bytes ∨ frame.bytes.length < 512) :
    (receive settings (.empty family mode) bus).1 = .ok frame := by
  let count := min settings.maxReports reports.length
  have arrives : stream (outcomes settings bus.device) count =
      (reports.take settings.maxReports).flatMap Report.payload := by
    rw [stream_delivered delivered (Nat.min_le_right _ _)]
    by_cases enough : settings.maxReports ≤ reports.length
    · rw [Nat.min_eq_left enough]
    · have few : reports.length ≤ settings.maxReports := Nat.le_of_not_le enough
      rw [Nat.min_eq_right few, List.take_length, List.take_of_length_le few]
  have came : ∀ k, k < count → ∃ report, outcomes settings bus.device k = .ok report := by
    intro k inside
    have bound : k < reports.length := Nat.lt_of_lt_of_le inside (Nat.min_le_right _ _)
    exact ⟨_, delivered k _ (List.getElem?_eq_getElem bound)⟩
  have complete : ((Assembler.empty family mode).feedAll
      (stream (outcomes settings bus.device) count)).frame? = some frame := by
    rw [arrives, Assembler.empty_feedAll]
    simp only [Assembler.frame?, held]
  rcases receive_of_stream (Nat.min_le_left _ _) came complete with ok | ⟨_, length, no_end⟩
  · exact ok
  · rcases ended with member | short
    · exact absurd member no_end
    · omega

/-! ## First bytes and idle reports -/

/-- What comes of the payloads, read one after the other, if they decide it. -/
def settle? (settings : Settings) (asm : Assembler) : List Bytes → Option (Except Fault Frame)
  | [] => none
  | payload :: rest =>
    let held := asm.feedAll payload
    match held.frame? with
    | some frame => some (.ok frame)
    | none =>
      if held.isFull then some (.error (.timeout settings.maxReports))
      else settle? settings held rest

/-- Reports that decide the matter within the budget decide what is received. -/
theorem receiveWithin_settles {settings : Settings} {verdict : Except Fault Frame}
    {reports : List Bytes} {budget : Nat} (asm : Assembler) (bus : Bus σ)
    (delivered : Delivers settings bus.device reports) (inside : reports.length ≤ budget)
    (settles : settle? settings asm (reports.map Report.payload) = some verdict) :
    (receiveWithin settings budget asm bus).1 = verdict := by
  induction reports generalizing budget asm bus with
  | nil => cases settles
  | cons report rest ih =>
    cases budget with
    | zero => exact absurd inside (Nat.not_succ_le_zero _)
    | succ budget =>
      have step := receiveWithin_succ settings budget asm bus
      have now : outcomes settings bus.device 0 = .ok report := delivered 0 report rfl
      have first : stream (outcomes settings bus.device) 1 = Report.payload report := by
        simp [stream, now, arrived]
      simp only [verdict?, now, first, arrived, Assembler.take] at step
      simp only [List.map_cons, settle?] at settles
      cases held : (asm.feedAll (Report.payload report)).frame? with
      | some frame =>
        simp only [held] at step settles
        cases settles
        exact step.1
      | none =>
        simp only [held] at step settles
        by_cases full : (asm.feedAll (Report.payload report)).isFull = true
        · simp only [full, if_true] at step settles
          cases settles
          exact step.1
        · simp only [full] at step settles
          rw [step]
          exact ih _ _ (fun k found at_k => delivered (k + 1) found at_k)
            (Nat.le_of_succ_le_succ inside) settles

/-- Reports with the same content settle it alike: while no frame is held and there is room left, an
idle report changes nothing. -/
theorem settle?_same_content {settings : Settings} {asm : Assembler} {reports others : List Bytes}
    (same : Report.SameContent reports others) (waiting : asm.frame? = none)
    (room : asm.isFull = false) :
    settle? settings asm (others.map Report.payload) =
      settle? settings asm (reports.map Report.payload) := by
  induction same generalizing asm with
  | nil => rfl
  | header bits _ ih =>
    simp only [List.map_cons, settle?, Report.payload_header bits]
    split
    · rfl
    · next held =>
      split
      · rfl
      · next full => exact ih held (Bool.eq_false_of_not_eq_true full)
  | idle silent _ ih =>
    have nothing := List.isEmpty_iff.mp silent
    simp only [List.map_cons, settle?, nothing, Assembler.feedAll, List.foldl_nil, waiting, room]
    exact ih waiting room

/-- Reports that hold a frame settle the matter. -/
theorem settle?_ne_none {settings : Settings} {asm : Assembler} {payloads : List Bytes}
    {frame : Frame} (waiting : asm.frame? = none)
    (held : (asm.feedAll payloads.flatten).frame? = some frame) :
    settle? settings asm payloads ≠ none := by
  induction payloads generalizing asm with
  | nil =>
    rw [List.flatten_nil] at held
    cases waiting.symm.trans held
  | cons payload rest ih =>
    rw [List.flatten_cons, Assembler.feedAll_append] at held
    simp only [settle?]
    split
    · exact Option.some_ne_none _
    · next open_frame =>
      split
      · exact Option.some_ne_none _
      · exact ih open_frame held

/-- **The upper bits of first bytes and idle reports make no difference.** Where the reports of a
device hold a frame, receiving ends alike with another device whose reports differ in those bits
and have idle reports in between, provided the budget is enough for them. -/
theorem receive_same_content {τ : Type} [Device τ] {settings : Settings} {family : Family}
    {mode : CheckMode} {bus : Bus σ} {other : Bus τ} {reports others : List Bytes} {frame : Frame}
    (same : Report.SameContent reports others)
    (held : Assembler.oneShot family mode (reports.flatMap Report.payload) = .complete frame)
    (budget : reports.length ≤ settings.maxReports) (enough : others.length ≤ settings.maxReports)
    (delivered : Delivers settings bus.device reports)
    (other_delivered : Delivers settings other.device others) :
    (receive settings (.empty family mode) other).1 =
      (receive settings (.empty family mode) bus).1 := by
  have complete : ((Assembler.empty family mode).feedAll
      (reports.map Report.payload).flatten).frame? = some frame := by
    rw [← List.flatMap_def, Assembler.empty_feedAll]
    simp only [Assembler.frame?, held]
  have decided : settle? settings (.empty family mode) (reports.map Report.payload) ≠ none :=
    settle?_ne_none rfl complete
  obtain ⟨verdict, settles⟩ := Option.ne_none_iff_exists'.mp decided
  have also : settle? settings (.empty family mode) (others.map Report.payload) = some verdict :=
    (settle?_same_content same rfl rfl).trans settles
  rw [receive, receive, receiveWithin_settles _ _ delivered budget settles,
    receiveWithin_settles _ _ other_delivered enough also]

example : Report.SameContent [[0x32, 0x02, 0x22], [0x31, 0x03]]
    [Bench.idleReport, [0xFA, 0x02, 0x22], [0x08, 0x02], [0x01, 0x03]] :=
  .idle (by decide) (.header (by decide) (.idle (by decide) (.header (by decide) .nil)))

/-! ## Between noise -/

theorem finished_sealed (mode : CheckMode) (content : Bytes) :
    Assembler.finished .gpser mode (Checksum.sealed mode content) = .complete {
      family := .gpser
      bytes := Checksum.sealed mode content
      nak := (Checksum.sealed mode content)[3]? = some 0x15
      badChecksum := false } := by
  simp [Assembler.finished, Checksum.verify_sealed]

/-- A sealed frame that the delivered reports hold within the budget is received whole. -/
theorem receive_sealed {settings : Settings} {mode : CheckMode} {bus : Bus σ}
    {noise body rest : Bytes} {second : UInt8} {reports : List Bytes}
    (quiet : firstStart? .gpser noise = none) (visible : 0x20 < second) (open_body : 0x03 ∉ body)
    (fits : (Checksum.sealed mode (0x02 :: second :: body)).length ≤ 512)
    (within : (reports.take settings.maxReports).flatMap Report.payload =
      noise ++ Checksum.sealed mode (0x02 :: second :: body) ++ rest)
    (delivered : Delivers settings bus.device reports) :
    (receive settings (.empty .gpser mode) bus).1 = .ok {
      family := .gpser
      bytes := Checksum.sealed mode (0x02 :: second :: body)
      nak := (Checksum.sealed mode (0x02 :: second :: body))[3]? = some 0x15
      badChecksum := false } := by
  let guard := Checksum.written .gpser (Checksum.word .gpser mode (0x02 :: second :: body))
  have shape : Checksum.sealed mode (0x02 :: second :: body) =
      0x02 :: second :: ((body ++ guard) ++ [0x03]) := by
    simp [guard, Checksum.sealed, Checksum.append, Wire.etx]
  have open_inside : 0x03 ∉ body ++ guard := by
    intro member
    rcases List.mem_append.mp member with inside | inside
    · exact open_body inside
    · exact Checksum.etx_not_mem_guard _ inside
  apply receive_delivered delivered
  · rw [within, shape, Assembler.oneShot_between mode quiet visible open_inside, ← shape,
      List.take_of_length_le fits]
    exact finished_sealed mode _
  · exact .inl (by simp [shape])

/-- **Noise and trailing bytes do not touch a GPSER frame.** However they and the frame are spread
over reports, the frame is received whole, provided it ends within the budget. -/
theorem receive_between_noise (settings : Settings) (mode : CheckMode) (bus : Bus σ)
    (noise body trailing : Bytes) (second : UInt8) (reports : List Bytes)
    (quiet : firstStart? .gpser noise = none) (visible : 0x20 < second) (open_body : 0x03 ∉ body)
    (fits : (Checksum.sealed mode (0x02 :: second :: body)).length ≤ 512)
    (spread : reports.flatMap Report.payload =
      noise ++ Checksum.sealed mode (0x02 :: second :: body) ++ trailing)
    (ends : (noise ++ Checksum.sealed mode (0x02 :: second :: body)).length ≤
      ((reports.take settings.maxReports).flatMap Report.payload).length)
    (delivered : Delivers settings bus.device reports) :
    let frame := Checksum.sealed mode (0x02 :: second :: body)
    (receive settings (.empty .gpser mode) bus).1 = .ok {
      family := .gpser
      bytes := frame
      nak := frame[3]? = some 0x15
      badChecksum := false } := by
  have begins : (reports.take settings.maxReports).flatMap Report.payload <+:
      noise ++ Checksum.sealed mode (0x02 :: second :: body) ++ trailing := by
    rw [← spread]
    refine ⟨(reports.drop settings.maxReports).flatMap Report.payload, ?_⟩
    rw [← List.flatMap_append, List.take_append_drop]
  obtain ⟨rest, within⟩ :=
    List.prefix_of_prefix_length_le (List.prefix_append _ trailing) begins ends
  exact receive_sealed quiet visible open_body fits within.symm delivered

/-- A refusal over four reports, the last that are read, with a byte that begins no frame before it
and half a start pattern behind it. -/
theorem refusal_between_noise :
    let reports : List Bytes := [[0xF1, 0x41], Bench.idleReport,
      [0x37, 0x02, 0x02, 0x22, 0x20, 0x15, 0x02, 0x30], [0x36, 0x30, 0x35, 0x39, 0x03, 0x02, 0x41]]
    let bus : Bus Bench := { device := { reads := reports.map .ok } }
    (receive { maxReports := 4 } (.empty .gpser .sum) bus).1 = .ok {
      family := .gpser
      bytes := [0x02, 0x22, 0x20, 0x15, 0x02, 0x30, 0x30, 0x35, 0x39, 0x03]
      nak := true
      badChecksum := false } := by
  intro reports bus
  exact receive_between_noise { maxReports := 4 } .sum bus [0x41, 0x02] [0x20, 0x15, 0x02]
    [0x02, 0x41] 0x22 reports (by decide) (by decide) (by decide) (by decide) (by decide)
    (by decide) (delivers_bench _ (List.append_nil _).symm)

/-! ## Status replies -/

/-- A status reply whose bitmap holds no end byte is received whole. -/
theorem receive_status {settings : Settings} {declared : Nat} {mode : CheckMode} {bus : Bus σ}
    {reply : StatusReply} (open_code : 0x03 ∉ reply.code.bytes)
    (budget : (Report.ofBytes (reply.wire declared mode)).length ≤ settings.maxReports)
    (delivered : Delivers settings bus.device (Report.ofBytes (reply.wire declared mode))) :
    (receive settings (.empty .gpser mode) bus).1 = .ok {
      family := .gpser
      bytes := reply.wire declared mode
      nak := false
      badChecksum := false } := by
  let body := [0x20, 0x52, 0x53, 0x30, 0x30] ++ reply.encode declared
  have shape : reply.wire declared mode = Checksum.sealed mode (0x02 :: 0x22 :: body) := rfl
  have open_body : 0x03 ∉ body := by
    simp only [body, List.mem_append, StatusReply.etx_mem_encode]
    rintro (head | code)
    · exact absurd head (by decide)
    · exact open_code code
  have fits : (Checksum.sealed mode (0x02 :: 0x22 :: body)).length ≤ 512 := by
    have most := (StatusReply.needed_bounds declared).2
    rw [← shape, StatusReply.length_wire]
    omega
  have within : ((Report.ofBytes (reply.wire declared mode)).take settings.maxReports).flatMap
      Report.payload = [] ++ Checksum.sealed mode (0x02 :: 0x22 :: body) ++ [] := by
    rw [List.take_of_length_le budget, Report.flatMap_payload_ofBytes, shape]
    simp
  rw [receive_sealed rfl (by decide) open_body fits within delivered, shape]
  rfl

/-- A status reply whose bitmap holds an end byte is cut off there. -/
theorem receive_cut_status {settings : Settings} {declared : Nat} {mode : CheckMode} {bus : Bus σ}
    {reply : StatusReply} (ends : 0x03 ∈ reply.code.bytes)
    (budget : (Report.ofBytes (reply.wire declared mode)).length ≤ settings.maxReports)
    (delivered : Delivers settings bus.device (Report.ofBytes (reply.wire declared mode))) :
    ∃ frame, (receive settings (.empty .gpser mode) bus).1 = .ok frame ∧
      frame.bytes = (reply.wire declared mode).take (8 + reply.code.bytes.idxOf 0x03) ∧
      frame.bytes.length ≤ 12 := by
  obtain ⟨before, after, code, first⟩ := List.eq_append_cons_of_mem ends
  have five : (before ++ 0x03 :: after).length = 5 := code ▸ rfl
  let inner := [0x20, 0x52, 0x53, 0x30, 0x30] ++ before
  let cut : Bytes := 0x02 :: 0x22 :: (inner ++ [0x03])
  have length : cut.length = 8 + before.length := by simp [cut, inner]; omega
  obtain ⟨rest, shape⟩ : ∃ rest, reply.wire declared mode = [] ++ cut ++ rest := by
    have content : Wire.replyHeader ++ [0x52, 0x53, 0x30, 0x30] ++ reply.encode declared =
        cut ++ (after ++ StatusReply.written (reply.slots declared)) := by
      simp [cut, inner, StatusReply.encode, code, Wire.replyHeader, Wire.stx]
    rw [StatusReply.wire, Checksum.sealed, Checksum.append, content]
    simp only [List.nil_append, List.append_assoc]
    exact ⟨_, rfl⟩
  have open_inside : 0x03 ∉ inner := by
    intro member
    rcases List.mem_append.mp member with head | inside
    · exact absurd head (by decide)
    · exact first inside
  have short : cut.length ≤ 12 := by
    rw [length]
    simp only [List.length_append, List.length_cons] at five
    omega
  have place : 8 + reply.code.bytes.idxOf 0x03 = cut.length := by
    rw [code, List.idxOf_append, if_neg first, List.idxOf_cons_self, Nat.zero_add, length]
  have held : Assembler.oneShot .gpser mode (((Report.ofBytes (reply.wire declared mode)).take
      settings.maxReports).flatMap Report.payload) = Assembler.finished .gpser mode cut := by
    rw [List.take_of_length_le budget, Report.flatMap_payload_ofBytes, shape,
      Assembler.oneShot_between mode rfl (by decide) open_inside, List.take_of_length_le]
    exact Nat.le_trans short (by decide)
  have got := receive_delivered delivered held (.inr (Nat.lt_of_le_of_lt short (by decide)))
  refine ⟨_, got, ?_, short⟩
  rw [place, shape, List.nil_append, List.take_left]

/-- **A status reply comes through just when its bitmap holds no end byte.** One that holds an end
byte is cut off there and is then too short to be read. -/
theorem status_survives_iff (settings : Settings) (layout : PhaseLayout) (mode : CheckMode)
    (bus : Bus σ) (reply : StatusReply) (s : Snapshot)
    (fits : StatusReply.AllFit (reply.slots layout.statusLength))
    (budget : (Report.ofBytes (reply.wire layout.statusLength mode)).length ≤ settings.maxReports)
    (delivered : Delivers settings bus.device
      (Report.ofBytes (reply.wire layout.statusLength mode))) :
    let declared := layout.statusLength
    let got := (receive settings (.empty .gpser mode) bus).1
    ((∃ frame, got = .ok frame ∧ frame.nak = false ∧ frame.badChecksum = false ∧
        Reply.decode (.status declared) frame.bytes s = .ok ((reply.seen declared).apply s)) ↔
      0x03 ∉ reply.code.bytes) ∧
    (0x03 ∈ reply.code.bytes → ∃ frame, got = .ok frame ∧
      frame.bytes = (reply.wire declared mode).take (8 + reply.code.bytes.idxOf 0x03) ∧
      Reply.decode (.status declared) frame.bytes s =
        .error (.insufficient (StatusReply.needed declared) frame.bytes.length)) := by
  intro declared got
  have cut : 0x03 ∈ reply.code.bytes → ∃ frame, got = .ok frame ∧
      frame.bytes = (reply.wire declared mode).take (8 + reply.code.bytes.idxOf 0x03) ∧
      Reply.decode (.status declared) frame.bytes s =
        .error (.insufficient (StatusReply.needed declared) frame.bytes.length) := by
    intro ends
    obtain ⟨frame, received, bytes, short⟩ := receive_cut_status ends budget delivered
    have least := (StatusReply.needed_bounds declared).1
    have refused : StatusReply.ofFrame declared frame.bytes =
        .error (.insufficient (StatusReply.needed declared) frame.bytes.length) :=
      StatusReply.ofFrame_short (by omega)
    refine ⟨frame, received, bytes, ?_⟩
    rw [Reply.decode, refused]
    rfl
  refine ⟨⟨?_, fun open_code => ?_⟩, cut⟩
  · rintro ⟨frame, received, -, -, read⟩ ends
    obtain ⟨other, same, -, refused⟩ := cut ends
    cases received.symm.trans same
    rw [refused] at read
    cases read
  · refine ⟨_, receive_status open_code budget delivered, rfl, rfl, ?_⟩
    have read : StatusReply.ofFrame declared (reply.wire declared mode) =
        .ok (reply.seen declared) := StatusReply.ofFrame_wire fits mode
    rw [Reply.decode, read]
    rfl

/-- A unit on line with its second status byte set to 3. -/
def onLine : StatusReply where
  code := ⟨0x0C, 0x03, 0x04, 0, 0⟩
  inputFrequency := 500
  inputVoltage := ⟨230, 0, 0⟩
  outputFrequency := 500
  outputVoltage := ⟨229, 0, 0⟩
  load := ⟨25, 0, 0⟩
  bypassFrequency := 499
  bypassVoltage := ⟨231, 0, 0⟩
  batteryVoltage := 435
  charge := 100
  runtime := 45
  temperature := 28

/-- Nine bytes are left of its reply. -/
theorem onLine_is_cut :
    let bus : Bus Bench := { device := Bench.queueReply {} (onLine.wire 42 .sum) }
    ∃ frame, (receive {} (.empty .gpser .sum) bus).1 = .ok frame ∧
      frame.bytes = [0x02, 0x22, 0x20, 0x52, 0x53, 0x30, 0x30, 0x0C, 0x03] ∧
      Reply.decode (.status 42) frame.bytes {} = .error (.insufficient 48 frame.bytes.length) := by
  intro bus
  have budget : (Report.ofBytes (onLine.wire 42 .sum)).length ≤ 300 := by
    rw [Report.length_ofBytes, StatusReply.length_wire]
    decide
  exact (status_survives_iff {} {} .sum bus onLine {} (by decide) budget
    (delivers_bench _ (List.append_nil _).symm)).2 (by decide)

end UpsMonitor.Transport
