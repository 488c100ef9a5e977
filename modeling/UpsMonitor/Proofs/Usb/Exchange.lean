import UpsMonitor.Proofs.Frame.Boundary
import UpsMonitor.Proofs.Usb.Reception
import UpsMonitor.Usb.Link

/-!
# Exchanges

What one exchange of a command for its reply does, as the log of calls shows it. Main statements:

* `exchange_shown`: the reports of the command are written, and if all of them went out reports are
  read, within the budget;
* `Exchange.Of.orderly`, `Exchange.Of.frame_infix`: so they are written in order, nothing is read
  before the last of them, and a frame is a run of the bytes that were read.
-/

namespace UpsMonitor

/-- One exchange: what was written and what came of each write, what the reads gave, and what came
of the whole. -/
structure Exchange where
  writes : List (Bytes × Except Fault Unit)
  reads : List (Except Fault Bytes)
  outcome : Except Fault Frame

theorem Bus.calls_of_call {σ : Type} [Device σ] {bus next : Bus σ} {call : Call}
    {outcome : Except Fault call.Answer} (h : bus.call call = (outcome, next)) :
    next.calls = ⟨call, outcome⟩ :: bus.calls := by
  have logged := bus.calls_call call
  rwa [h] at logged

namespace Transport

/-! ## Writing and reading -/

/-- The calls that write reports, in order. -/
def writings (settings : Settings) (writes : List (Bytes × Except Fault Unit)) : List Done :=
  writes.map fun write => ⟨.write outEndpoint write.1 settings.timeout, write.2⟩

/-- The calls that read reports, in order. -/
def readings (settings : Settings) (reads : List (Except Fault Bytes)) : List Done :=
  reads.map fun outcome => ⟨reading settings, outcome⟩

/-- Reports that all went out. -/
def sent (reports : List Bytes) : List (Bytes × Except Fault Unit) := reports.map (·, .ok ())

theorem sent_reports (reports : List Bytes) : (sent reports).map (·.1) = reports := by
  rw [sent, List.map_map]
  exact List.map_id reports

theorem ok_of_mem_sent {reports : List Bytes} {write : Bytes × Except Fault Unit}
    (h : write ∈ sent reports) : write.2 = .ok () := by
  obtain ⟨report, -, rfl⟩ := List.mem_map.mp h
  rfl

/-- How reports are written: all of them, or up to the first whose write fails. -/
inductive Written : List Bytes → List (Bytes × Except Fault Unit) → Except Fault Unit → Prop
  | whole (reports : List Bytes) : Written reports (sent reports) (.ok ())
  | cut (before rest : List Bytes) (report : Bytes) (fault : Fault) :
      Written (before ++ report :: rest) (sent before ++ [(report, .error fault)]) (.error fault)

/-- How reading into an assembler ends: with a failure, with a complete frame, or with neither when
the budget is spent or the buffer is full. -/
inductive Received (settings : Settings) (budget : Nat) (asm : Assembler) :
    List (Except Fault Bytes) → Except Fault Frame → Prop
  | failed (reports : List Bytes) (fault : Fault) (within : reports.length < budget) :
      Received settings budget asm (reports.map .ok ++ [.error fault]) (.error fault)
  | complete (reports : List Bytes) (frame : Frame) (within : reports.length ≤ budget)
      (held : (asm.feedAll (reports.flatMap Report.payload)).frame? = some frame) :
      Received settings budget asm (reports.map .ok) (.ok frame)
  | givenUp (reports : List Bytes) (within : reports.length ≤ budget)
      (silent : (asm.feedAll (reports.flatMap Report.payload)).frame? = none)
      (spent : reports.length = budget ∨
        (asm.feedAll (reports.flatMap Report.payload)).isFull = true) :
      Received settings budget asm (reports.map .ok) (.error (.timeout settings.maxReports))

theorem Written.cons {reports : List Bytes} {writes : List (Bytes × Except Fault Unit)}
    {outcome : Except Fault Unit} (report : Bytes) (h : Written reports writes outcome) :
    Written (report :: reports) ((report, .ok ()) :: writes) outcome := by
  cases h with
  | whole => exact .whole (report :: reports)
  | cut before rest refused fault => exact .cut (report :: before) rest refused fault

theorem Written.eq_whole {reports : List Bytes} {writes : List (Bytes × Except Fault Unit)}
    (h : Written reports writes (.ok ())) : writes = sent reports := by
  cases h
  rfl

/-- A failure to write is the failure of some write. -/
theorem Written.ne_nil {reports : List Bytes} {writes : List (Bytes × Except Fault Unit)}
    {fault : Fault} (h : Written reports writes (.error fault)) : writes ≠ [] := by
  cases h with
  | cut before rest report => simp

theorem Written.in_order {reports : List Bytes} {writes : List (Bytes × Except Fault Unit)}
    {outcome : Except Fault Unit} (h : Written reports writes outcome) :
    writes.map (·.1) <+: reports := by
  cases h with
  | whole => exact (sent_reports reports).symm ▸ List.prefix_rfl
  | cut before rest report fault => exact ⟨rest, by simp [sent_reports]⟩

theorem Written.stops {reports : List Bytes} {writes : List (Bytes × Except Fault Unit)}
    {outcome : Except Fault Unit} (h : Written reports writes outcome) :
    ∀ write ∈ writes.dropLast, write.2 = .ok () := by
  intro write early
  cases h with
  | whole => exact ok_of_mem_sent (List.dropLast_subset _ early)
  | cut before rest report fault =>
    rw [List.dropLast_concat] at early
    exact ok_of_mem_sent early

theorem Written.whole_of_ok {reports : List Bytes} {writes : List (Bytes × Except Fault Unit)}
    {outcome : Except Fault Unit} (h : Written reports writes outcome)
    (ok : ∀ write ∈ writes, write.2 = .ok ()) : writes.map (·.1) = reports := by
  cases h with
  | whole => exact sent_reports reports
  | cut before rest report fault =>
    have failed := ok (report, .error fault) (by simp)
    cases failed

theorem Received.cons {settings : Settings} {budget : Nat} {asm : Assembler} {report : Bytes}
    {reads : List (Except Fault Bytes)} {outcome : Except Fault Frame}
    (h : Received settings budget (asm.feedAll (Report.payload report)) reads outcome) :
    Received settings (budget + 1) asm (.ok report :: reads) outcome := by
  cases h with
  | failed reports fault within =>
    exact .failed (report :: reports) fault (Nat.succ_lt_succ within)
  | complete reports frame within held =>
    rw [← Assembler.feedAll_append] at held
    exact .complete (report :: reports) frame (Nat.succ_le_succ within) held
  | givenUp reports within silent spent =>
    rw [← Assembler.feedAll_append] at silent spent
    exact .givenUp (report :: reports) (Nat.succ_le_succ within) silent
      (spent.imp_left (congrArg Nat.succ))

theorem Received.length_le {settings : Settings} {budget : Nat} {asm : Assembler}
    {reads : List (Except Fault Bytes)} {outcome : Except Fault Frame}
    (h : Received settings budget asm reads outcome) : reads.length ≤ budget := by
  cases h with
  | failed reports fault within => simpa using Nat.succ_le_of_lt within
  | complete reports frame within _ => simpa using within
  | givenUp reports within _ _ => simpa using within

section
variable {σ : Type} [Device σ]

theorem sendReports_written (settings : Settings) (reports : List Bytes) (bus : Bus σ) :
    ∃ writes, Written reports writes (sendReports settings reports bus).1 ∧
      (sendReports settings reports bus).2.calls =
        (writings settings writes).reverse ++ bus.calls := by
  fun_induction sendReports settings reports bus with
  | case1 bus => exact ⟨[], .whole [], rfl⟩
  | case2 report rest bus _ next sent ih =>
    obtain ⟨writes, written, calls⟩ := ih
    refine ⟨(report, .ok ()) :: writes, written.cons report, calls.trans ?_⟩
    rw [Bus.calls_pause, Bus.calls_of_call sent]
    simp [writings]
  | case3 report rest bus fault next refused =>
    exact ⟨[(report, .error fault)], .cut [] rest report fault, Bus.calls_of_call refused⟩

theorem receiveWithin_received (settings : Settings) (budget : Nat) {asm : Assembler}
    (fresh : asm.frame? = none) (bus : Bus σ) :
    let got := receiveWithin settings budget asm bus
    ∃ reads, Received settings budget asm reads got.1 ∧
      got.2.2.calls = (readings settings reads).reverse ++ bus.calls := by
  dsimp only
  fun_induction receiveWithin settings budget asm bus with
  | case1 asm bus => exact ⟨[], .givenUp [] (Nat.le_refl 0) fresh (.inl rfl), rfl⟩
  | case2 budget asm bus fault next failed =>
    exact ⟨[.error fault], .failed [] fault (Nat.succ_pos budget), Bus.calls_of_call failed⟩
  | case3 budget asm bus report next arrived fed frame held =>
    have one : [report].length ≤ budget + 1 := Nat.succ_pos budget
    exact ⟨[.ok report], .complete [report] frame one (by simpa using held),
      Bus.calls_of_call arrived⟩
  | case4 budget asm bus report next arrived fed silent full =>
    have one : [report].length ≤ budget + 1 := Nat.succ_pos budget
    exact ⟨[.ok report], .givenUp [report] one (by simpa using silent) (.inr (by simpa using full)),
      Bus.calls_of_call arrived⟩
  | case5 budget asm bus report next arrived fed silent room ih =>
    -- No frame yet, so the rest of the reads starts as these did.
    obtain ⟨reads, received, calls⟩ := ih silent
    refine ⟨.ok report :: reads, received.cons, calls.trans ?_⟩
    rw [Bus.calls_pause, Bus.calls_of_call arrived]
    simp [readings]

end

end Transport

namespace Exchange

open Transport (Written Received sent writings readings)

/-- The calls of an exchange, in order. -/
def calls (settings : Transport.Settings) (ex : Exchange) : List Done :=
  writings settings ex.writes ++ readings settings ex.reads

/-- The bytes that an exchange brings in. -/
def incoming (ex : Exchange) : Bytes := ex.reads.flatMap Transport.arrived

/-- What an exchange of a command can be. Nothing is read unless the whole command went out. -/
inductive Of (settings : Transport.Settings) (command : Command) : Exchange → Prop
  | refused (empty : command.bytes = []) :
      Of settings command ⟨[], [], .error (.usb .invalidInput "empty frame")⟩
  | unsent {writes : List (Bytes × Except Fault Unit)} {fault : Fault}
      (written : Written (Report.ofBytes command.bytes) writes (.error fault)) :
      Of settings command ⟨writes, [], .error fault⟩
  | sent {reads : List (Except Fault Bytes)} {outcome : Except Fault Frame}
      (received : Received settings settings.maxReports (.empty command.family command.mode) reads
        outcome) :
      Of settings command ⟨sent (Report.ofBytes command.bytes), reads, outcome⟩

/-- How an exchange of a command goes about it. -/
structure Orderly (settings : Transport.Settings) (command : Command) (ex : Exchange) : Prop where
  /-- The reports of the command are written in order. -/
  in_order : ex.writes.map (·.1) <+: Report.ofBytes command.bytes
  /-- All of them are written, unless a write fails. -/
  whole : (∀ write ∈ ex.writes, write.2 = .ok ()) →
    ex.writes.map (·.1) = Report.ofBytes command.bytes
  /-- Nothing is written behind a write that failed. -/
  stops : ∀ write ∈ ex.writes.dropLast, write.2 = .ok ()
  /-- Nothing is read unless all of them went out. -/
  read_behind : ex.reads ≠ [] → ex.writes = sent (Report.ofBytes command.bytes)
  budget : ex.reads.length ≤ settings.maxReports

section
variable {settings : Transport.Settings} {command : Command} {ex : Exchange}

theorem Of.written (h : ex.Of settings command) :
    ∃ outcome, Written (Report.ofBytes command.bytes) ex.writes outcome ∧
      (ex.reads ≠ [] → outcome = .ok ()) ∧ ex.reads.length ≤ settings.maxReports := by
  cases h with
  | refused empty =>
    have nothing : Report.ofBytes command.bytes = [] := by rw [empty, Report.ofBytes]
    rw [nothing]
    exact ⟨.ok (), .whole [], fun _ => rfl, Nat.zero_le _⟩
  | unsent written => exact ⟨_, written, fun read => absurd rfl read, Nat.zero_le _⟩
  | sent received => exact ⟨.ok (), .whole _, fun _ => rfl, received.length_le⟩

theorem Of.orderly (h : ex.Of settings command) : ex.Orderly settings command := by
  obtain ⟨outcome, written, read, budget⟩ := h.written
  refine ⟨written.in_order, written.whole_of_ok, written.stops, fun reads => ?_, budget⟩
  rw [read reads] at written
  exact written.eq_whole

/-- At least the first report of a command is written, whatever comes of it. -/
theorem Of.calls_ne_nil (h : ex.Of settings command) (something : command.bytes ≠ []) :
    ex.calls settings ≠ [] := by
  have reports : Report.ofBytes command.bytes ≠ [] := by
    obtain ⟨byte, rest, shape⟩ := List.exists_cons_of_ne_nil something
    rw [shape, Report.ofBytes]
    exact List.cons_ne_nil _ _
  intro none_made
  obtain ⟨unwritten, -⟩ := List.append_eq_nil_iff.mp none_made
  cases h with
  | refused empty => exact something empty
  | unsent written => exact written.ne_nil (List.map_eq_nil_iff.mp unwritten)
  | sent => exact reports (by simpa [writings, Transport.sent] using unwritten)

/-- **A frame is a run of the bytes that its exchange read.** -/
theorem Of.frame_infix (h : ex.Of settings command) {frame : Frame}
    (answered : ex.outcome = .ok frame) : frame.bytes <:+: ex.incoming := by
  cases h with
  | refused _ | unsent _ => cases answered
  | sent received =>
    cases received with
    | complete reports _ _ held =>
      cases answered
      simpa [incoming, List.flatMap_map, Transport.arrived] using Assembler.frame_infix held
    | failed | givenUp => cases answered

end

end Exchange

namespace Link

variable {σ : Type} [Device σ]

/-- **What an exchange does.** Its calls are those of one of the exchanges there can be, and it
gives the outcome of that one. -/
theorem exchange_shown (link : Link σ) (command : Command) :
    let got := link.exchange command
    ∃ ex : Exchange, ex.Of link.settings command ∧ got.1 = ex.outcome ∧
      got.2.bus.calls = (ex.calls link.settings).reverse ++ link.bus.calls := by
  rw [exchange, Transport.send]
  by_cases empty : command.bytes = []
  · rw [if_pos empty]
    exact ⟨_, .refused empty, rfl, rfl⟩
  · rw [if_neg empty]
    obtain ⟨writes, written, sent⟩ :=
      Transport.sendReports_written link.settings (Report.ofBytes command.bytes) link.bus
    generalize Transport.sendReports link.settings (Report.ofBytes command.bytes) link.bus =
      result at written sent ⊢
    obtain ⟨outcome, bus⟩ := result
    cases outcome with
    | error fault =>
      refine ⟨_, .unsent written, rfl, sent.trans ?_⟩
      simp [Exchange.calls, Transport.readings]
    | ok _ =>
      have fresh : (link.assembler.configure command.family command.mode).frame? = none := rfl
      obtain ⟨reads, received, calls⟩ :=
        Transport.receiveWithin_received link.settings link.settings.maxReports fresh bus
      refine ⟨_, .sent received, rfl, calls.trans ?_⟩
      rw [sent, written.eq_whole, Exchange.calls, List.reverse_append, List.append_assoc]

/-- An exchange changes nothing but the assembler and the device. -/
theorem exchange_keeps (link : Link σ) (command : Command) :
    ∃ assembler bus, (link.exchange command).2 = { link with assembler, bus } := by
  rw [exchange]
  split
  · exact ⟨_, _, rfl⟩
  · exact ⟨_, _, rfl⟩

end Link

end UpsMonitor
