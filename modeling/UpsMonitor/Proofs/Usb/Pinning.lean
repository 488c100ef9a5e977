import UpsMonitor.Command.Sentry
import UpsMonitor.Proofs.Usb.Handles
import UpsMonitor.Proofs.Usb.Run
import UpsMonitor.Usb.Bench

/-!
# Pinning

A link that has opened a unit never opens another. Every open narrows the matcher to the unit that
it found, and whatever is opened later has to pass it. Main statements:

* `accepts_of_pin`, `accepts_pin`: pinning takes nothing in, and leaves in what it pins to;
* `perform_pins`: what one operation does to the matcher;
* `run_opens_one_unit`: so in any run all units that are opened are the same.
-/

namespace UpsMonitor

/-- Only devices that pass the matcher are opened. This is what a link relies on. -/
def Device.Honest (σ : Type) [Device σ] : Prop :=
  ∀ (matcher : Matcher) (device after : σ) (found : Identity),
    Device.answer (.opening matcher) device = (.ok found, after) → matcher.accepts found = true

theorem Device.Honest.accepts_of_call {σ : Type} [Device σ] (honest : Device.Honest σ)
    {bus after : Bus σ} {matcher : Matcher} {found : Identity}
    (opened : bus.call (.opening matcher) = (.ok found, after)) : matcher.accepts found = true := by
  apply honest matcher bus.device after.device
  obtain ⟨outcome, rfl⟩ := Prod.mk.inj opened
  exact Prod.ext outcome rfl

/-- A device that is known by its serial keeps it. One without a serial is known by its place. -/
structure Identity.SameUnit (later earlier : Identity) : Prop where
  vendor : later.vendor = earlier.vendor
  product : later.product = earlier.product
  bus : later.bus = earlier.bus
  serial : ∀ serial, earlier.serial = some serial → later.serial = some serial

/-! ## The matcher -/

namespace Matcher

theorem accepts_iff (matcher : Matcher) (device : Identity) :
    matcher.accepts device = true ↔
      device.vendor = matcher.vendor ∧ device.product = matcher.product ∧
      (∀ serial, matcher.serial = some serial → device.serial = some serial) ∧
      ∀ bus, matcher.bus = some bus → device.bus = bus := by
  obtain ⟨vendor, product, serial, bus⟩ := matcher
  cases serial <;> cases bus <;> simp [accepts, and_assoc]

variable {matcher : Matcher} {unit : Identity}

/-- A unit that was accepted is still accepted when the matcher is pinned to it. -/
theorem accepts_pin (accepted : matcher.accepts unit = true) :
    (matcher.pin unit.serial unit.bus).accepts unit = true := by
  rw [accepts_iff] at accepted ⊢
  obtain ⟨vendor, product, serial, bus⟩ := accepted
  refine ⟨vendor, product, ?_, ?_⟩
  · cases told : unit.serial with
    | none => simpa [pin, told] using serial
    | some text => simp [pin]
  · simp [pin]

/-- A matcher that is pinned to a unit accepts no other. -/
theorem sameUnit_of_pin {device : Identity} (accepted : matcher.accepts unit = true)
    (pinned : (matcher.pin unit.serial unit.bus).accepts device = true) :
    device.SameUnit unit := by
  rw [accepts_iff] at accepted pinned
  constructor
  · exact pinned.1.trans accepted.1.symm
  · exact pinned.2.1.trans accepted.2.1.symm
  · exact pinned.2.2.2 unit.bus rfl
  · intro text told
    exact pinned.2.2.1 text (by simp [pin, told])

/-- A matcher that is pinned to a unit it accepts accepts nothing new. -/
theorem accepts_of_pin {device : Identity} (accepted : matcher.accepts unit = true)
    (pinned : (matcher.pin unit.serial unit.bus).accepts device = true) :
    matcher.accepts device = true := by
  have same := sameUnit_of_pin accepted pinned
  rw [accepts_iff] at accepted ⊢
  obtain ⟨vendor, product, serial, bus⟩ := accepted
  refine ⟨same.vendor.trans vendor, same.product.trans product, ?_, ?_⟩
  · intro text told
    exact same.serial text (serial text told)
  · intro place told
    exact same.bus.trans (bus place told)

end Matcher

/-! ## Operations -/

/-- The device that a call opened. -/
def openedBy : Done → Option Identity
  | ⟨.opening _, .ok found⟩ => some found
  | _ => none

theorem opensHandle_eq (done : Done) : opensHandle done = (openedBy done).isSome := by
  obtain ⟨call, outcome⟩ := done
  cases call with
  | opening => cases outcome <;> rfl
  | control | write | read | clearHalt | reset => rfl

namespace Link

variable {σ : Type}

/-- Every device that was opened so far, the latest first. -/
def openings (link : Link σ) : List Identity := link.bus.calls.filterMap openedBy

/-- What an operation does to the matcher: nothing, unless it opened a unit. -/
inductive Pins (link after : Link σ) : Prop
  | kept (opened : after.openings = link.openings) (same : after.matcher = link.matcher)
  | narrowed {unit : Identity} (opened : after.openings = unit :: link.openings)
      (was : link.matcher.accepts unit = true) (still : after.matcher.accepts unit = true)
      (narrower : ∀ device, after.matcher.accepts device = true →
        link.matcher.accepts device = true ∧ device.SameUnit unit)

variable [Device σ]

theorem ensureOpen_pins (honest : Device.Honest σ) (link : Link σ) :
    link.Pins link.ensureOpen.2 := by
  fun_cases ensureOpen link with
  | case1 held => exact .kept rfl rfl
  | case2 down fault bus refused =>
    refine .kept ?_ rfl
    rw [openings, Bus.calls_of_call refused]
    rfl
  | case3 down unit bus found pinned again =>
    have was := honest.accepts_of_call found
    refine .narrowed ?_ was (Matcher.accepts_pin was) ?_
    · simp only [openings, configureBridge, pinned, Bus.calls_call, Bus.calls_of_call found]
      rfl
    · intro device accepted
      exact ⟨Matcher.accepts_of_pin was accepted, Matcher.sameUnit_of_pin was accepted⟩

omit [Device σ] in
/-- What neither opens a unit nor touches the matcher may follow. -/
theorem Pins.goes_on {link before after : Link σ} (pins : link.Pins before)
    (opened : after.openings = before.openings) (same : after.matcher = before.matcher) :
    link.Pins after := by
  cases pins with
  | kept opened' same' => exact .kept (opened.trans opened') (same.trans same')
  | narrowed opened' was still narrower =>
    rw [← same] at still narrower
    exact .narrowed (opened.trans opened') was still narrower

theorem attempt_openings (command : Command) (retries : Nat) {link : Link σ}
    (held : link.connection = .opened) :
    (attempt command retries link).2.openings = link.openings := by
  obtain ⟨course, -, ends, calls⟩ := attempt_course command retries held
  have none_opened : (course.calls link.settings).filterMap openedBy = [] := by
    have count := Course.countP_opensHandle ends link.settings
    rw [List.countP_eq_zero] at count
    rw [List.filterMap_eq_nil_iff]
    intro done member
    have closed := count done member
    rw [opensHandle_eq] at closed
    simpa using closed
  rw [openings, calls, List.filterMap_append, List.filterMap_reverse, none_opened]
  rfl

theorem perform_pins (honest : Device.Honest σ) (operation : Operation) (link : Link σ) :
    link.Pins (operation.perform link) := by
  cases operation with
  | ensureOpen => exact ensureOpen_pins honest link
  | close => exact .kept rfl rfl
  | takeReopened => exact .kept rfl rfl
  | execute command =>
    have opening := ensureOpen_pins honest link
    cases opened : link.ensureOpen with | mk outcome before
    rw [opened] at opening
    cases outcome with
    | error fault =>
      have ends : link.execute command = (.error fault, before) := by
        simp only [Link.execute, opened]
      rw [Operation.perform, ends]
      exact opening
    | ok =>
      have ends : link.execute command = attempt command 1 before := by
        simp only [Link.execute, opened]
      have held := (holds_of_ok opened).1
      obtain ⟨assembler, bus, connection, kept⟩ := attempt_keeps command 1 before
      rw [Operation.perform, ends]
      exact opening.goes_on (attempt_openings command 1 held) (by rw [kept])

/-! ## Runs -/

/-- **A link opens one unit.** Every operation keeps to what the matcher accepts: one that opens a
unit narrows it to that unit, and any other leaves it as it is. So whatever is opened after a unit
is that unit again. -/
theorem run_opens_one_unit (honest : Device.Honest σ) {first link : Link σ}
    (run : first.Run link) :
    (∀ operation : Operation, link.Pins (operation.perform link)) ∧
    ∃ opened, link.openings = opened ++ first.openings ∧
      opened.Pairwise Identity.SameUnit ∧
      ∀ unit ∈ opened, ∀ device, link.matcher.accepts device = true → device.SameUnit unit := by
  refine ⟨fun operation => perform_pins honest operation link, ?_⟩
  -- What the matcher accepts is the unit that was opened, so the next to be opened is that unit.
  induction run with
  | start => exact ⟨[], rfl, List.Pairwise.nil, by simp⟩
  | meddled run device ih => exact ih
  | @step link run operation ih =>
    obtain ⟨opened, all, pairwise, only⟩ := ih
    cases perform_pins honest operation link with
    | kept same matcher =>
      rw [same, matcher]
      exact ⟨opened, all, pairwise, only⟩
    | @narrowed unit next was still narrower =>
      refine ⟨unit :: opened, by rw [next, all]; rfl, ?_, ?_⟩
      · apply List.pairwise_cons.mpr
        exact ⟨fun earlier member => only earlier member unit was, pairwise⟩
      · intro earlier member device accepted
        obtain ⟨before, same⟩ := narrower device accepted
        cases member with
        | head => exact same
        | tail _ member => exact only earlier member device before

end Link

theorem Bench.honest : Device.Honest Bench := by
  intro matcher bench after found opened
  change bench.opening matcher = (.ok found, after) at opened
  unfold opening at opened
  split at opened
  · cases opened
  · split at opened
    · next passes =>
      cases opened
      exact (Bool.and_eq_true_iff.mp passes).2
    · cases opened

/-- A unit is lost and another is found in its place, which is not opened. When the first unit is
back, it is. -/
theorem Link.waits_for_its_unit :
    let unit (serial : String) : Identity :=
      { vendor := 0x04B4, product := 0x5500, serial := some serial, bus := 4 }
    let lost : Except Fault Bytes := .error (.usb .noDevice "gone")
    let device : Bench := { attached := unit "one", reads := [lost] }
    let first : Link Bench := { bus := { device }, matcher := ⟨0x04B4, 0x5500, none, none⟩ }
    let failed := (Operation.execute SentryCommand.identify.encode).perform first
    let refused := Operation.ensureOpen.perform (failed.withDevice { attached := unit "two" })
    let link := Operation.ensureOpen.perform (refused.withDevice { attached := unit "one" })
    Device.Honest Bench ∧ first.Run link ∧ refused.connection = .reconnecting ∧
      refused.openings = [unit "one"] ∧ link.openings = [unit "one", unit "one"] ∧
      link.openings.Pairwise Identity.SameUnit := by
  intro unit lost device first failed refused link
  have run : first.Run link := .step (.meddled (.step (.meddled (.step .start _) _) _) _) _
  obtain ⟨-, opened, all, pairwise, -⟩ := run_opens_one_unit Bench.honest run
  have none_before : first.openings = [] := rfl
  rw [none_before, List.append_nil] at all
  refine ⟨Bench.honest, run, by decide +kernel, by decide +kernel, by decide +kernel, ?_⟩
  rw [all]
  exact pairwise

end UpsMonitor
