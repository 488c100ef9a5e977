import UpsMonitor.Frame

/-!
# Frame assembly

A byte stream is turned into one frame, a byte at a time. Whatever precedes the start pattern is
dropped, and whatever follows the end waits for the next frame. The assembler keeps no time; who
feeds it bounds how much it is fed.
-/

namespace UpsMonitor

/-- How a frame that has begun will end. -/
inductive Ending
  | etx
  | length (total : Nat)
  deriving DecidableEq

/-- The start pattern: two neighbouring bytes, the second of which tells how the frame ends. -/
def Ending.ofStart? (family : Family) (previous current : UInt8) : Option Ending :=
  match family with
  | .gpser => if previous = Wire.stx ∧ 0x20 < current then some .etx else none
  | .sentry =>
    if (192 ≤ previous ∧ current = Wire.shortReply) ∨
        (previous = Wire.controlOpcode ∧ current = Wire.longReply)
    then some (.length current.toNat)
    else none

/-- Whether the frame is over, given what is collected and the byte that came last. -/
def Ending.met (ending : Ending) (buffer : Bytes) (last : UInt8) : Bool :=
  match ending with
  | .etx => last = Wire.etx
  | .length total => total ≤ buffer.length

/-- How far a frame has come. -/
inductive Assembler.Progress
  /-- No start pattern yet; the byte seen last may begin one. -/
  | idle (previous : UInt8)
  | collecting (ending : Ending) (buffer : Bytes)
  | complete (frame : Frame)
  deriving DecidableEq

structure Assembler where
  family : Family
  mode : CheckMode
  progress : Assembler.Progress := .idle 0
  deriving DecidableEq

namespace Assembler

def empty (family : Family) (mode : CheckMode) : Assembler := { family, mode }

def reset (asm : Assembler) : Assembler := empty asm.family asm.mode

/-- Another family and mode, from a fresh start. -/
def configure (asm : Assembler) (family : Family) (mode : CheckMode) : Assembler :=
  { asm with family, mode }.reset

/-- One more byte of a frame that has begun. A full buffer takes no more but still sees the end. -/
def extend (asm : Assembler) (ending : Ending) (buffer : Bytes) (byte : UInt8) : Progress :=
  let buffer := if buffer.length < Wire.maxFrame then buffer ++ [byte] else buffer
  if ending.met buffer byte then .complete (.ofBytes asm.family asm.mode buffer)
  else .collecting ending buffer

/-- A complete frame stays as it is until it is taken. -/
def feed (asm : Assembler) (byte : UInt8) : Assembler :=
  match asm.progress with
  | .idle previous =>
    match Ending.ofStart? asm.family previous byte with
    | some ending => { asm with progress := asm.extend ending [previous] byte }
    | none => { asm with progress := .idle byte }
  | .collecting ending buffer => { asm with progress := asm.extend ending buffer byte }
  | .complete _ => asm

def feedAll (asm : Assembler) (bytes : Bytes) : Assembler := bytes.foldl feed asm

def frame? (asm : Assembler) : Option Frame :=
  match asm.progress with
  | .complete frame => some frame
  | _ => none

/-- Hands over a complete frame and starts anew; without one nothing changes. -/
def take (asm : Assembler) : Option Frame × Assembler :=
  match asm.frame? with
  | some frame => (some frame, asm.reset)
  | none => (none, asm)

def isComplete (asm : Assembler) : Bool := asm.frame?.isSome

/-- The bytes collected so far. -/
def buffered (asm : Assembler) : Bytes :=
  match asm.progress with
  | .idle _ => []
  | .collecting _ buffer => buffer
  | .complete frame => frame.bytes

/-- Collecting, with no room left for the end. -/
def isFull (asm : Assembler) : Bool :=
  match asm.progress with
  | .collecting _ buffer => Wire.maxFrame ≤ buffer.length
  | _ => false

theorem feedAll_append (asm : Assembler) (a b : Bytes) :
    asm.feedAll (a ++ b) = (asm.feedAll a).feedAll b := List.foldl_append

theorem feed_complete {asm : Assembler} {frame : Frame} (h : asm.frame? = some frame)
    (byte : UInt8) : asm.feed byte = asm := by
  unfold frame? at h
  unfold feed
  split at h
  · next held => simp only [held]
  · cases h

/-- What follows a complete frame does not matter. -/
theorem feedAll_complete {asm : Assembler} {frame : Frame} (h : asm.frame? = some frame)
    (bytes : Bytes) : asm.feedAll bytes = asm := by
  induction bytes with
  | nil => rfl
  | cons byte rest ih => simpa only [feedAll, List.foldl_cons, feed_complete h byte] using ih

@[simp] theorem feed_reset (asm : Assembler) (byte : UInt8) : (asm.feed byte).reset = asm.reset := by
  unfold feed
  split
  · split <;> rfl
  · rfl
  · rfl

@[simp] theorem feedAll_reset (asm : Assembler) (bytes : Bytes) :
    (asm.feedAll bytes).reset = asm.reset := by
  induction bytes generalizing asm with
  | nil => rfl
  | cons byte rest ih => exact (ih (asm.feed byte)).trans (feed_reset asm byte)

end Assembler

end UpsMonitor
