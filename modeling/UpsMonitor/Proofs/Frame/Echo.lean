import UpsMonitor.Proofs.Command
import UpsMonitor.Proofs.Frame.Boundary

/-!
# Echoed commands

Commands that come back before their reply are passed over: nothing in a GPSER command looks like
the start of a reply, not its parameters, not its checksum, and not the seam between two commands.
Main statements:

* `feedAll_command`: an assembler that waits for a frame still waits behind a command;
* `feedAll_reply`: such an assembler takes a reply as a whole;
* `echo_is_passed_over`: so it takes the reply behind any number of commands.
-/

namespace UpsMonitor

/-- The bytes of commands that come back, each in the mode that it was sent in. -/
def echo (sent : List (GpserCommand × CheckMode)) : Bytes :=
  sent.flatMap fun (command, mode) => (command.encode mode).bytes

namespace Assembler

variable {family : Family} {mode : CheckMode}

/-- Of what was passed over, an assembler that waits for a frame knows the last byte only. -/
theorem idle_feedAll (previous : UInt8) (bytes : Bytes) :
    ({ family, mode, progress := .idle previous } : Assembler).feedAll bytes =
      { family, mode, progress := oneShot family mode (previous :: bytes) } := by
  have seen : oneShot family mode [previous] = .idle previous := by
    cases family <;> rfl
  rw [← seen]
  exact feedAll_oneShot family mode [previous] bytes

/-- The one start byte of a command is followed by a blank, and no byte before it matters. -/
theorem firstStart?_command (previous : UInt8) (command : GpserCommand) (sent : CheckMode) :
    firstStart? .gpser (previous :: (command.encode sent).bytes) = none := by
  have formed := command.wellFormed_encode sent
  have second : (command.encode sent).bytes[1]? = some 0x20 := by
    obtain ⟨tens, units, guard, layout, -⟩ := formed.layout
    rw [layout]
    rfl
  refine List.find?_eq_none.mpr fun i _ starts => ?_
  obtain ⟨positive, _, current, before, here, rfl, visible⟩ := startsAt_iff.mp starts
  have low (byte : UInt8) (blank : byte ≤ 0x20) : current ≠ byte := by
    rintro rfl
    exact absurd visible (UInt8.not_lt.mpr blank)
  match i with
  | 1 =>
    have first := (formed.starts_once 0).mpr rfl
    exact low 0x02 (by decide) (Option.some.inj (here.symm.trans first))
  | j + 2 =>
    obtain rfl : j = 0 := (formed.starts_once j).mp before
    exact low 0x20 (by decide) (Option.some.inj (here.symm.trans second))

/-- **A command is passed over.** -/
theorem feedAll_command (previous : UInt8) (command : GpserCommand) (sent : CheckMode) :
    ∃ last, ({ family := .gpser, mode, progress := .idle previous } : Assembler).feedAll
      (command.encode sent).bytes = { family := .gpser, mode, progress := .idle last } := by
  rw [idle_feedAll, oneShot_idle (firstStart?_command previous command sent)]
  exact ⟨_, rfl⟩

theorem feedAll_echo (previous : UInt8) (sent : List (GpserCommand × CheckMode)) :
    ∃ last, ({ family := .gpser, mode, progress := .idle previous } : Assembler).feedAll
      (echo sent) = { family := .gpser, mode, progress := .idle last } := by
  induction sent generalizing previous with
  | nil => exact ⟨previous, rfl⟩
  | cons first rest ih =>
    obtain ⟨between, passed⟩ := feedAll_command previous first.1 first.2
    rw [echo, List.flatMap_cons, feedAll_append, passed]
    exact ih between

/-- **A reply is taken as a whole,** whatever byte came before it. -/
theorem feedAll_reply (previous : UInt8) {second : UInt8} {inner : Bytes}
    (visible : 0x20 < second) (open_inside : 0x03 ∉ inner)
    (fits : (0x02 :: second :: (inner ++ [0x03])).length ≤ 512) :
    let reply := 0x02 :: second :: (inner ++ [0x03])
    ({ family := .gpser, mode, progress := .idle previous } : Assembler).feedAll reply =
      { family := .gpser, mode, progress := .complete (.ofBytes .gpser mode reply) } := by
  intro reply
  have parsed := @oneShot_between [previous] inner [] second mode rfl visible open_inside
  rw [List.append_nil, List.take_of_length_le fits] at parsed
  rw [idle_feedAll]
  exact congrArg (Assembler.mk .gpser mode) parsed

/-- **Commands that come back are never taken for a reply.** Whatever commands they are, with
whatever delays and in whatever modes, a fresh assembler still waits for a frame behind them and has
collected nothing. The reply that comes next, whose start byte is followed by a visible byte and
whose only end byte is its last, is the frame that it completes. -/
theorem echo_is_passed_over (mode : CheckMode) (sent : List (GpserCommand × CheckMode))
    {second : UInt8} {inner : Bytes} (visible : 0x20 < second) (open_inside : 0x03 ∉ inner)
    (fits : (0x02 :: second :: (inner ++ [0x03])).length ≤ 512) :
    let reply := 0x02 :: second :: (inner ++ [0x03])
    let waiting := (empty .gpser mode).feedAll (echo sent)
    (∃ last, waiting.progress = .idle last) ∧ waiting.buffered = [] ∧
      (waiting.feedAll reply).frame? = some (.ofBytes .gpser mode reply) ∧
      (waiting.feedAll reply).buffered = reply := by
  intro reply waiting
  obtain ⟨last, passed⟩ := @feedAll_echo mode 0 sent
  have idle : waiting = { family := .gpser, mode, progress := .idle last } := passed
  rw [idle, feedAll_reply last visible open_inside fits]
  exact ⟨⟨last, rfl⟩, rfl, rfl, rfl⟩

/-- Two restarts, whose delays hold the bytes 2 and 3, come back before the acknowledgement. -/
theorem acknowledgement_behind_echo :
    let sent : List (GpserCommand × CheckMode) :=
      [(.restart 0x0203, .sum), (.restart 0x0223, .crc), (.batteryTest, .crc)]
    let reply : Bytes := [0x02, 0x22, 0x20, 0x4F, 0x4B, 0x30, 0x30, 0x31, 0x33, 0x3C, 0x03]
    reply.length ≤ 512 ∧
      (((empty .gpser .sum).feedAll (echo sent)).feedAll reply).buffered = reply := by
  intro sent reply
  have fits : reply.length ≤ 512 := by decide
  have passed_over := @echo_is_passed_over .sum sent 0x22
    [0x20, 0x4F, 0x4B, 0x30, 0x30, 0x31, 0x33, 0x3C] (by decide) (by decide) fits
  exact ⟨fits, passed_over.2.2.2⟩

end Assembler

end UpsMonitor
