import UpsMonitor.Command.Gpser
import UpsMonitor.Usb.Bench
import UpsMonitor.Usb.Link

/-!
# Independence of earlier commands

Nothing of a reply that was cut short reaches the next command. Main statements:

* `exchange_residue`: what an assembler still holds is forgotten by the next exchange;
* `execute_forgets`: links that agree on all but the assembler and the log carry out a command
  alike, call by call.
-/

namespace UpsMonitor

variable {σ : Type}

/-! ## What is left of earlier commands -/

/-- The bus with an older past below its log. -/
def Bus.withPast (bus : Bus σ) (past : List Event) : Bus σ := { bus with log := bus.log ++ past }

/-- The link with an older past below the log of its bus. -/
def Link.withPast (link : Link σ) (past : List Event) : Link σ :=
  { link with bus := link.bus.withPast past }

/-- The link with something else left over in its assembler. -/
def Link.withResidue (link : Link σ) (residue : Assembler) : Link σ :=
  { link with assembler := residue }

/-- Links that agree on all but what the assembler holds and what was done before. -/
structure Link.Agree (a b : Link σ) : Prop where
  device : a.bus.device = b.bus.device
  connection : a.connection = b.connection
  matcher : a.matcher = b.matcher
  settings : a.settings = b.settings
  reopened : a.reopened = b.reopened

/-- Two links that agree are one link with different pasts and residues. -/
theorem Link.Agree.common {a b : Link σ} (h : a.Agree b) :
    ∃ (link : Link σ) (past past' : List Event) (residue : Assembler), link.bus.log = [] ∧
      a = link.withPast past ∧ b = (link.withResidue residue).withPast past' := by
  obtain ⟨⟨device, log⟩, matcher, settings, connection, assembler, reopened⟩ := a
  obtain ⟨⟨_, log'⟩, _, _, _, assembler', _⟩ := b
  obtain ⟨rfl, rfl, rfl, rfl, rfl⟩ := h
  exact ⟨⟨⟨device, []⟩, matcher, settings, connection, assembler, reopened⟩, log, log', assembler',
    rfl, rfl, rfl⟩

variable [Device σ]

/-! ## The past of a bus

The log is written and never read, so an older past below it changes nothing. -/

theorem Bus.call_withPast (bus : Bus σ) (past : List Event) (call : Call) :
    (bus.withPast past).call call = ((bus.call call).1, (bus.call call).2.withPast past) :=
  rfl

namespace Transport

theorem sendReports_withPast (settings : Settings) (reports : List Bytes) (bus : Bus σ)
    (past : List Event) :
    sendReports settings reports (bus.withPast past) =
      ((sendReports settings reports bus).1,
        (sendReports settings reports bus).2.withPast past) := by
  fun_induction sendReports settings reports bus with
  | case1 => rfl
  | case2 report rest bus _ next written ih =>
    rw [sendReports, Bus.call_withPast, written]
    exact ih
  | case3 report rest bus fault next refused =>
    rw [sendReports, Bus.call_withPast, refused]

theorem send_withPast (settings : Settings) (bytes : Bytes) (bus : Bus σ) (past : List Event) :
    send settings bytes (bus.withPast past) =
      ((send settings bytes bus).1, (send settings bytes bus).2.withPast past) := by
  rw [send, send, sendReports_withPast]
  split
  · rfl
  · rfl

theorem receiveWithin_withPast (settings : Settings) (budget : Nat) (asm : Assembler)
    (bus : Bus σ) (past : List Event) :
    receiveWithin settings budget asm (bus.withPast past) =
      ((receiveWithin settings budget asm bus).1, (receiveWithin settings budget asm bus).2.1,
        (receiveWithin settings budget asm bus).2.2.withPast past) := by
  fun_induction receiveWithin settings budget asm bus with
  | case1 => rfl
  | case2 budget asm bus fault next failed =>
    rw [receiveWithin, Bus.call_withPast, failed]
  | case3 budget asm bus report next arrived fed frame held =>
    rw [receiveWithin, Bus.call_withPast, arrived]
    simp only [fed, held]
  | case4 budget asm bus report next arrived fed none_yet full =>
    rw [receiveWithin, Bus.call_withPast, arrived]
    simp only [fed, none_yet, if_pos full]
  | case5 budget asm bus report next arrived fed none_yet room ih =>
    rw [receiveWithin, Bus.call_withPast, arrived]
    simp only [fed, none_yet, if_neg room]
    exact ih

end Transport

namespace Link

theorem ensureOpen_withPast (link : Link σ) (past : List Event) :
    (link.withPast past).ensureOpen = (link.ensureOpen.1, link.ensureOpen.2.withPast past) := by
  fun_cases ensureOpen link with
  | case1 held =>
    have same : (link.withPast past).isOpen = true := held
    rw [ensureOpen, if_pos same]
  | case2 down fault bus refused =>
    have same : ¬(link.withPast past).isOpen = true := down
    rw [ensureOpen, if_neg same]
    simp only [withPast, Bus.call_withPast, refused]
  | case3 down device bus found =>
    have same : ¬(link.withPast past).isOpen = true := down
    rw [ensureOpen, if_neg same]
    simp only [withPast, Bus.call_withPast, found]
    rfl

theorem ensureOpen_residue (link : Link σ) (residue : Assembler) :
    (link.withResidue residue).ensureOpen =
      (link.ensureOpen.1, link.ensureOpen.2.withResidue residue) := by
  fun_cases ensureOpen link with
  | case1 held =>
    have same : (link.withResidue residue).isOpen = true := held
    rw [ensureOpen, if_pos same]
  | case2 down fault bus refused =>
    have same : ¬(link.withResidue residue).isOpen = true := down
    rw [ensureOpen, if_neg same]
    simp only [withResidue, refused]
  | case3 down device bus found =>
    have same : ¬(link.withResidue residue).isOpen = true := down
    rw [ensureOpen, if_neg same]
    simp only [withResidue, found]
    rfl

theorem exchange_withPast (link : Link σ) (past : List Event) (command : Command) :
    (link.withPast past).exchange command =
      ((link.exchange command).1, (link.exchange command).2.withPast past) := by
  rw [exchange, exchange]
  simp only [withPast, Transport.send_withPast]
  generalize Transport.send link.settings command.bytes link.bus = result
  obtain ⟨outcome, bus⟩ := result
  cases outcome with
  | error fault => rfl
  | ok _ => simp only [Transport.receive, Transport.receiveWithin_withPast]

/-- **What an assembler still holds is forgotten by the next exchange.** -/
theorem exchange_residue (link : Link σ) (residue : Assembler) (command : Command) :
    (link.withResidue residue).exchange command = link.exchange command :=
  rfl

theorem attempt_withPast (command : Command) (retries : Nat) (link : Link σ)
    (past : List Event) :
    attempt command retries (link.withPast past) =
      ((attempt command retries link).1, (attempt command retries link).2.withPast past) := by
  fun_induction attempt command retries link with
  | case1 retries link frame after shown =>
    rw [attempt, exchange_withPast, shown]
  | case2 retries link fault after shown treated | case6 retries link fault after shown treated
  | case7 retries link fault after shown treated =>
    rw [attempt, exchange_withPast, shown]
    simp only [treated]
    rfl
  | case3 retries link fault after shown treated refusal bus refused =>
    rw [attempt, exchange_withPast, shown]
    simp only [treated, withPast, Bus.call_withPast, refused]
    rfl
  | case4 link fault after shown treated _ bus cleared =>
    rw [attempt, exchange_withPast, shown]
    simp only [treated, withPast, Bus.call_withPast, cleared]
  | case5 link fault after shown treated _ bus cleared retries ih =>
    rw [attempt, exchange_withPast, shown]
    simp only [treated, withPast, Bus.call_withPast, cleared]
    exact ih
  | case8 retries link fault after shown treated =>
    rw [attempt, exchange_withPast, shown]
    simp only [treated]

theorem attempt_residue (command : Command) (retries : Nat) (link : Link σ)
    (residue : Assembler) :
    attempt command retries (link.withResidue residue) = attempt command retries link := by
  cases retries with
  | zero => rw [attempt, attempt, exchange_residue]
  | succ retries => rw [attempt, attempt, exchange_residue]

theorem execute_withPast (link : Link σ) (past : List Event) (command : Command) :
    (link.withPast past).execute command =
      ((link.execute command).1, (link.execute command).2.withPast past) := by
  rw [execute, execute, ensureOpen_withPast]
  generalize link.ensureOpen = result
  obtain ⟨outcome, opened⟩ := result
  cases outcome with
  | error fault => rfl
  | ok _ => exact attempt_withPast command 1 opened past

/-- Only a link that cannot be opened keeps what its assembler holds. -/
theorem execute_residue (link : Link σ) (residue : Assembler) (command : Command) :
    ∃ kept, (link.withResidue residue).execute command =
      ((link.execute command).1, (link.execute command).2.withResidue kept) := by
  rw [execute, execute, ensureOpen_residue]
  generalize link.ensureOpen = result
  obtain ⟨outcome, opened⟩ := result
  cases outcome with
  | error fault => exact ⟨residue, rfl⟩
  | ok _ => exact ⟨_, attempt_residue command 1 opened residue⟩

/-- **A command does not depend on what came before it.** Whatever two assemblers hold, links that
otherwise agree give the same result, make the same calls and pauses in the same order, and agree
again afterwards. -/
theorem execute_forgets {a b : Link σ} (agree : a.Agree b) (command : Command) :
    let left := a.execute command
    let right := b.execute command
    left.1 = right.1 ∧ left.2.Agree right.2 ∧
      ∃ done, left.2.bus.log = done ++ a.bus.log ∧ right.2.bus.log = done ++ b.bus.log := by
  obtain ⟨link, past, past', residue, fresh, rfl, rfl⟩ := agree.common
  obtain ⟨kept, forgets⟩ := link.execute_residue residue command
  rw [execute_withPast, execute_withPast, forgets]
  refine ⟨rfl, ⟨rfl, rfl, rfl, rfl, rfl⟩, (link.execute command).2.bus.log, ?_, ?_⟩
  · simp [withPast, Bus.withPast, fresh]
  · simp [withPast, withResidue, Bus.withPast, fresh]

/-- The beginning of a reply that was never finished is not joined to the next reply, whose end
would complete it. -/
theorem half_reply_is_forgotten :
    let refusal : Bytes := [0x02, 0x22, 0x20, 0x15, 0x02, 0x30, 0x30, 0x35, 0x39, 0x03]
    let bench : Bench := ({} : Bench).queueReply refusal
    let clean : Link Bench :=
      { bus := { device := bench }, matcher := ⟨0x04B4, 0x5500, none, none⟩, connection := .opened }
    let soiled : Link Bench :=
      { clean with
        bus := { device := bench, log := [.paused 10000] }
        assembler := (Assembler.empty .gpser .sum).feedAll [0x02, 0x22, 0x20, 0x52, 0x53] }
    let left := clean.execute (GpserCommand.identify.encode .crc)
    let right := soiled.execute (GpserCommand.identify.encode .crc)
    soiled.assembler.frame? = none ∧ (soiled.assembler.feedAll refusal).frame?.isSome = true ∧
      left.1.toOption = some
        { family := .gpser, bytes := refusal, nak := true, badChecksum := false } ∧
      left.1 = right.1 ∧ left.2.Agree right.2 ∧
      ∃ done,
        left.2.bus.log = done ++ clean.bus.log ∧ right.2.bus.log = done ++ soiled.bus.log := by
  intro refusal bench clean soiled left right
  have agree : clean.Agree soiled := ⟨rfl, rfl, rfl, rfl, rfl⟩
  exact ⟨by decide, by decide, by decide +kernel,
    execute_forgets agree (GpserCommand.identify.encode .crc)⟩

end Link

end UpsMonitor
