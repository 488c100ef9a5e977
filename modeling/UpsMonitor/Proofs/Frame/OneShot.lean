import UpsMonitor.Frame.Assembler

/-!
# One-shot parsing

What a byte stream holds can be read off in one go, from the places of its first start pattern and
of the end behind it. Main statements:

* `feed_oneShot`: one more byte is one step of the assembler;
* `feedAll_oneShot`: however a stream is cut, the assembler ends where the one-shot parse does;
* `assembly_is_oneShot`: so it does after any operations, on what it was fed since it last started.
-/

namespace UpsMonitor

/-! ## Places in a stream -/

/-- Two neighbouring bytes that begin a frame. -/
def StartPair : Family → UInt8 → UInt8 → Prop
  | .gpser, previous, current => previous = 0x02 ∧ 0x20 < current
  | .sentry, previous, current =>
    (192 ≤ previous ∧ current = 103) ∨ (previous = 176 ∧ current = 164)

instance : (family : Family) → (previous current : UInt8) →
    Decidable (StartPair family previous current)
  | .gpser, _, _ => inferInstanceAs (Decidable (_ ∧ _))
  | .sentry, _, _ => inferInstanceAs (Decidable (_ ∧ _ ∨ _ ∧ _))

/-- Whether a start pattern ends at a place. -/
def startsAt (family : Family) (stream : Bytes) : Nat → Bool
  | 0 => false
  | i + 1 =>
    match stream[i]?, stream[i + 1]? with
    | some previous, some current => StartPair family previous current
    | _, _ => false

/-- The least place at which a start pattern ends. -/
def firstStart? (family : Family) (stream : Bytes) : Option Nat :=
  (List.range stream.length).find? (startsAt family stream)

/-- The least place behind `start` that holds the end byte. -/
def firstEnd? (stream : Bytes) (start : Nat) : Option Nat :=
  (List.range stream.length).find? fun j => start < j && stream[j]? = some 0x03

theorem find?_range_succ {p q : Nat → Bool} {n : Nat} (agree : ∀ i, i < n → q i = p i) :
    (List.range (n + 1)).find? q =
      ((List.range n).find? p).or (if q n then some n else none) := by
  have same : (List.range n).find? q = (List.range n).find? p := by
    apply Option.ext
    intro i
    simp only [List.find?_range_eq_some, List.mem_range]
    grind
  rw [List.range_succ, List.find?_append, same, List.find?_singleton]

theorem startsAt_iff {family : Family} {stream : Bytes} {i : Nat} :
    startsAt family stream i = true ↔ 0 < i ∧ ∃ previous current,
      stream[i - 1]? = some previous ∧ stream[i]? = some current ∧
        StartPair family previous current := by
  cases i with
  | zero => simp [startsAt]
  | succ i =>
    simp only [startsAt, Nat.succ_pos, true_and, Nat.add_sub_cancel]
    cases stream[i]? <;> cases stream[i + 1]? <;> simp

theorem startsAt_append (family : Family) (stream more : Bytes) {i : Nat}
    (inside : i < stream.length) :
    startsAt family (stream ++ more) i = startsAt family stream i := by
  cases i with
  | zero => rfl
  | succ i =>
    have before : i < stream.length := by omega
    simp only [startsAt, List.getElem?_append_left inside, List.getElem?_append_left before]

theorem firstStart?_snoc (family : Family) (stream : Bytes) (byte : UInt8) :
    firstStart? family (stream ++ [byte]) = (firstStart? family stream).or
      (if startsAt family (stream ++ [byte]) stream.length then some stream.length else none) := by
  simp only [firstStart?, List.length_append, List.length_singleton]
  exact find?_range_succ fun i inside => startsAt_append family stream [byte] inside

theorem firstEnd?_snoc (stream : Bytes) (byte : UInt8) (start : Nat) :
    firstEnd? (stream ++ [byte]) start = (firstEnd? stream start).or
      (if start < stream.length ∧ byte = 0x03 then some stream.length else none) := by
  have step := find?_range_succ (n := stream.length)
    (p := fun j => start < j && decide (stream[j]? = some (0x03 : UInt8)))
    (q := fun j => start < j && decide ((stream ++ [byte])[j]? = some (0x03 : UInt8)))
    (fun j inside => by simp only [List.getElem?_append_left inside])
  simpa [firstEnd?] using step

theorem firstStart?_eq_some {family : Family} {stream : Bytes} {i : Nat} :
    firstStart? family stream = some i ↔
      startsAt family stream i = true ∧ ∀ k, k < i → startsAt family stream k = false := by
  have inside : startsAt family stream i = true → i < stream.length := by
    intro h
    obtain ⟨_, _, _, _, second, _⟩ := startsAt_iff.mp h
    exact (List.getElem?_eq_some_iff.mp second).1
  simp only [firstStart?, List.find?_range_eq_some, List.mem_range, Bool.not_eq_true']
  grind

theorem firstEnd?_eq_some {stream : Bytes} {start j : Nat} :
    firstEnd? stream start = some j ↔
      start < j ∧ stream[j]? = some 0x03 ∧
        ∀ k, start < k → k < j → stream[k]? ≠ some 0x03 := by
  have inside : stream[j]? = some 0x03 → j < stream.length := fun h =>
    (List.getElem?_eq_some_iff.mp h).1
  simp only [firstEnd?, List.find?_range_eq_some, List.mem_range, Bool.and_eq_true,
    decide_eq_true_eq, Bool.not_eq_true', Bool.and_eq_false_iff, decide_eq_false_iff_not]
  grind

/-! ## The parse -/

namespace Assembler

/-- A complete frame, with the judgements on its bytes. -/
def finished (family : Family) (mode : CheckMode) (bytes : Bytes) : Progress :=
  .complete {
    family
    bytes
    nak := family = .gpser && bytes[3]? = some 0x15
    badChecksum := !Checksum.verify family mode bytes }

/-- What a stream holds, read off at once. A GPSER frame keeps its first 512 bytes. A SENTRY frame
has as many bytes as its second byte says. -/
def oneShot (family : Family) (mode : CheckMode) (stream : Bytes) : Progress :=
  match firstStart? family stream with
  | none => .idle (stream.getLastD 0)
  | some i =>
    let found := stream.drop (i - 1)
    match family with
    | .gpser =>
      match firstEnd? stream i with
      | none => .collecting .etx (found.take 512)
      | some j => finished .gpser mode ((found.take (j - i + 2)).take 512)
    | .sentry =>
      let total := (stream.getD i 0).toNat
      if total ≤ found.length then finished .sentry mode (found.take total)
      else .collecting (.length total) found

section
variable {family : Family} {mode : CheckMode} {stream : Bytes} {i j : Nat}

theorem oneShot_idle (h : firstStart? family stream = none) :
    oneShot family mode stream = .idle (stream.getLastD 0) := by
  simp only [oneShot, h]

theorem oneShot_gpser_open (h : firstStart? .gpser stream = some i)
    (still : firstEnd? stream i = none) :
    oneShot .gpser mode stream = .collecting .etx ((stream.drop (i - 1)).take 512) := by
  simp only [oneShot, h, still]

theorem oneShot_gpser_ended (h : firstStart? .gpser stream = some i)
    (ends : firstEnd? stream i = some j) :
    oneShot .gpser mode stream =
      finished .gpser mode (((stream.drop (i - 1)).take (j - i + 2)).take 512) := by
  simp only [oneShot, h, ends]

theorem oneShot_sentry_open (h : firstStart? .sentry stream = some i)
    (short : (stream.drop (i - 1)).length < (stream.getD i 0).toNat) :
    oneShot .sentry mode stream =
      .collecting (.length (stream.getD i 0).toNat) (stream.drop (i - 1)) := by
  simp only [oneShot, h, if_neg (Nat.not_le_of_lt short)]

theorem oneShot_sentry_ended (h : firstStart? .sentry stream = some i)
    (enough : (stream.getD i 0).toNat ≤ (stream.drop (i - 1)).length) :
    oneShot .sentry mode stream =
      finished .sentry mode ((stream.drop (i - 1)).take (stream.getD i 0).toNat) := by
  simp only [oneShot, h, if_pos enough]

/-! ## One more byte -/

theorem firstStart?_bounds (h : firstStart? family stream = some i) :
    0 < i ∧ i < stream.length := by
  exact ⟨(startsAt_iff.mp (firstStart?_eq_some.mp h).1).1,
    List.mem_range.mp (List.mem_of_find?_eq_some h)⟩

theorem firstStart?_pair {previous : UInt8} {init : Bytes} (current : UInt8)
    (h : firstStart? family (init ++ [previous]) = none) :
    firstStart? family (init ++ [previous, current]) =
      if StartPair family previous current then some (init.length + 1) else none := by
  have next := firstStart?_snoc family (init ++ [previous]) current
  rw [h, Option.none_or, List.append_assoc] at next
  rw [List.cons_append, List.nil_append] at next
  rw [next]
  simp [startsAt]

/-- The second byte of a SENTRY frame is one of the two lengths. -/
theorem declared_length (h : firstStart? .sentry stream = some i) :
    (stream.getD i 0).toNat = 103 ∨ (stream.getD i 0).toNat = 164 := by
  obtain ⟨_, previous, current, _, second, pair⟩ :=
    startsAt_iff.mp (firstStart?_eq_some.mp h).1
  rcases pair with ⟨_, rfl⟩ | ⟨_, rfl⟩ <;> simp [List.getD, second]

end

/-- Filling a buffer up byte by byte is cutting the run of bytes off at its capacity. -/
theorem take_snoc {α : Type} (run : List α) (last : α) (capacity : Nat) :
    (if (run.take capacity).length < capacity then run.take capacity ++ [last]
      else run.take capacity) = (run ++ [last]).take capacity := by
  simp only [List.length_take]
  by_cases room : run.length < capacity
  · rw [if_pos (by omega), List.take_of_length_le (by omega),
      List.take_of_length_le (by simp; omega)]
  · rw [if_neg (by omega), List.take_append_of_le_length (by omega)]

theorem ofStart?_eq (family : Family) (previous current : UInt8) :
    Ending.ofStart? family previous current =
      if StartPair family previous current then
        some (match family with
          | .gpser => .etx
          | .sentry => .length current.toNat)
      else none := by
  cases family <;> rfl

theorem firstEnd?_last {stream : Bytes} {start : Nat} (last : stream.length ≤ start + 1) :
    firstEnd? stream start = none := by
  simp only [firstEnd?, List.find?_eq_none, List.mem_range, Bool.and_eq_true, decide_eq_true_eq]
  omega

theorem feed_idle {family : Family} {mode : CheckMode} {stream : Bytes} (byte : UInt8)
    (h : firstStart? family stream = none) :
    ({ family, mode, progress := oneShot family mode stream } : Assembler).feed byte =
      { family, mode, progress := oneShot family mode (stream ++ [byte]) } := by
  rw [oneShot_idle h]
  rcases List.eq_nil_or_concat stream with rfl | ⟨init, previous, rfl⟩
  · have alone : firstStart? family [byte] = none := by simp [firstStart?, startsAt]
    have silent : ¬ StartPair family 0 byte := by cases family <;> simp [StartPair]
    rw [List.nil_append, oneShot_idle alone]
    simp [feed, ofStart?_eq, silent]
  · rw [List.concat_eq_append] at h ⊢
    have next := firstStart?_pair byte h
    rw [List.append_assoc, List.cons_append, List.nil_append]
    by_cases pair : StartPair family previous byte
    · rw [if_pos pair] at next
      cases family with
      | gpser =>
        have still : firstEnd? (init ++ [previous, byte]) (init.length + 1) = none :=
          firstEnd?_last (by simp)
        have no_end : byte ≠ 0x03 := by
          rintro rfl
          exact absurd pair.2 (by decide)
        rw [oneShot_gpser_open next still]
        simp [feed, ofStart?_eq, pair, extend, Wire.maxFrame, Ending.met, Wire.etx, no_end]
      | sentry =>
        have long : 2 < byte.toNat := by
          rcases pair with ⟨_, rfl⟩ | ⟨_, rfl⟩ <;> decide
        rw [oneShot_sentry_open next (by simpa [List.getD] using long)]
        simp [feed, ofStart?_eq, pair, extend, Wire.maxFrame, Ending.met, long]
    · rw [if_neg pair] at next
      rw [oneShot_idle next]
      simp [feed, ofStart?_eq, pair]

theorem extend_etx (asm : Assembler) (run : Bytes) (byte : UInt8) :
    asm.extend .etx (run.take 512) byte =
      if byte = 0x03 then finished asm.family asm.mode ((run ++ [byte]).take 512)
      else .collecting .etx ((run ++ [byte]).take 512) := by
  have grown : (if (run.take 512).length < Wire.maxFrame then run.take 512 ++ [byte]
      else run.take 512) = (run ++ [byte]).take 512 := take_snoc run byte 512
  simp only [extend, grown, Ending.met, decide_eq_true_eq]
  rfl

theorem extend_length (asm : Assembler) {run : Bytes} {total : Nat} (byte : UInt8)
    (short : run.length < total) (room : total ≤ 512) :
    asm.extend (.length total) run byte =
      if total ≤ run.length + 1 then finished asm.family asm.mode (run ++ [byte])
      else .collecting (.length total) (run ++ [byte]) := by
  have fits : run.length < Wire.maxFrame := by simp only [Wire.maxFrame]; omega
  simp only [extend, if_pos fits, Ending.met, decide_eq_true_eq, List.length_append,
    List.length_singleton]
  rfl

theorem feed_gpser {mode : CheckMode} {stream : Bytes} {i : Nat} (byte : UInt8)
    (h : firstStart? .gpser stream = some i) :
    ({ family := .gpser, mode, progress := oneShot .gpser mode stream } : Assembler).feed byte =
      { family := .gpser, mode, progress := oneShot .gpser mode (stream ++ [byte]) } := by
  obtain ⟨positive, inside⟩ := firstStart?_bounds h
  have next := firstStart?_snoc .gpser stream byte
  rw [h, Option.some_or] at next
  have grown : (stream ++ [byte]).drop (i - 1) = stream.drop (i - 1) ++ [byte] :=
    List.drop_append_of_le_length (by omega)
  have ends := firstEnd?_snoc stream byte i
  cases before : firstEnd? stream i with
  | none =>
    rw [before, Option.none_or] at ends
    rw [oneShot_gpser_open h before]
    by_cases last : byte = 0x03
    · rw [if_pos ⟨inside, last⟩] at ends
      have whole : (stream.drop (i - 1) ++ [byte]).length ≤ stream.length - i + 2 := by
        simp only [List.length_append, List.length_drop, List.length_singleton]; omega
      rw [oneShot_gpser_ended next ends, grown, List.take_of_length_le whole]
      simp only [feed, extend_etx, if_pos last]
    · rw [if_neg (fun both => last both.2)] at ends
      rw [oneShot_gpser_open next ends, grown]
      simp only [feed, extend_etx, if_neg last]
  | some j =>
    rw [before, Option.some_or] at ends
    have ended : j < stream.length := List.mem_range.mp (List.mem_of_find?_eq_some before)
    have same : (stream.drop (i - 1) ++ [byte]).take (j - i + 2) =
        (stream.drop (i - 1)).take (j - i + 2) :=
      List.take_append_of_le_length (by simp only [List.length_drop]; omega)
    rw [oneShot_gpser_ended h before, oneShot_gpser_ended next ends, grown, same]
    rfl

theorem feed_sentry {mode : CheckMode} {stream : Bytes} {i : Nat} (byte : UInt8)
    (h : firstStart? .sentry stream = some i) :
    ({ family := .sentry, mode, progress := oneShot .sentry mode stream } : Assembler).feed byte =
      { family := .sentry, mode, progress := oneShot .sentry mode (stream ++ [byte]) } := by
  obtain ⟨positive, inside⟩ := firstStart?_bounds h
  have next := firstStart?_snoc .sentry stream byte
  rw [h, Option.some_or] at next
  have grown : (stream ++ [byte]).drop (i - 1) = stream.drop (i - 1) ++ [byte] :=
    List.drop_append_of_le_length (by omega)
  have declared : (stream ++ [byte]).getD i 0 = stream.getD i 0 := by
    simp only [List.getD_eq_getElem?_getD, List.getElem?_append_left inside]
  have room : (stream.getD i 0).toNat ≤ 512 := by
    rcases declared_length h with total | total <;> omega
  by_cases enough : (stream.getD i 0).toNat ≤ (stream.drop (i - 1)).length
  · have still : (stream.getD i 0).toNat ≤ (stream.drop (i - 1) ++ [byte]).length := by
      simp only [List.length_append]; omega
    rw [oneShot_sentry_ended h enough,
      oneShot_sentry_ended next (by rw [declared, grown]; exact still), declared, grown,
      List.take_append_of_le_length enough]
    rfl
  · have short : (stream.drop (i - 1)).length < (stream.getD i 0).toNat := by omega
    rw [oneShot_sentry_open h short]
    simp only [feed, extend_length _ _ short room]
    split
    · next complete =>
      have exact_length : (stream.drop (i - 1) ++ [byte]).length = (stream.getD i 0).toNat := by
        simp only [List.length_append, List.length_singleton]; omega
      rw [oneShot_sentry_ended next (by rw [declared, grown]; omega), declared, grown,
        List.take_of_length_le (by omega)]
    · next incomplete =>
      rw [oneShot_sentry_open next (by
        simp only [declared, grown, List.length_append, List.length_singleton]; omega),
        declared, grown]

/-- **One more byte is one step.** The assembler that holds the parse of a stream holds, after a
byte, the parse of the stream with that byte. -/
theorem feed_oneShot (family : Family) (mode : CheckMode) (stream : Bytes) (byte : UInt8) :
    ({ family, mode, progress := oneShot family mode stream } : Assembler).feed byte =
      { family, mode, progress := oneShot family mode (stream ++ [byte]) } := by
  cases h : firstStart? family stream with
  | none => exact feed_idle byte h
  | some i =>
    cases family with
    | gpser => exact feed_gpser byte h
    | sentry => exact feed_sentry byte h

theorem feedAll_oneShot (family : Family) (mode : CheckMode) (stream bytes : Bytes) :
    ({ family, mode, progress := oneShot family mode stream } : Assembler).feedAll bytes =
      { family, mode, progress := oneShot family mode (stream ++ bytes) } := by
  induction bytes generalizing stream with
  | nil => simp [feedAll]
  | cons byte rest ih =>
    have step := ih (stream ++ [byte])
    simp only [feedAll, List.foldl_cons, feed_oneShot] at step ⊢
    simpa using step

theorem empty_feedAll (family : Family) (mode : CheckMode) (bytes : Bytes) :
    (empty family mode).feedAll bytes =
      { family, mode, progress := oneShot family mode bytes } := by
  have start : oneShot family mode [] = .idle 0 := rfl
  have run := feedAll_oneShot family mode [] bytes
  rwa [start] at run

/-! ## A full buffer -/

/-- Before its end is found, a GPSER frame holds no end byte. -/
theorem open_without_end {stream : Bytes} {i : Nat} (h : firstStart? .gpser stream = some i)
    (still : firstEnd? stream i = none) : 0x03 ∉ stream.drop (i - 1) := by
  intro member
  obtain ⟨k, found⟩ := List.mem_iff_getElem?.mp member
  rw [List.getElem?_drop] at found
  obtain ⟨positive, previous, current, first, second, stx, visible⟩ :=
    startsAt_iff.mp (firstStart?_eq_some.mp h).1
  rcases k with _ | _ | k
  · rw [Nat.add_zero, first, Option.some_inj, stx] at found
    exact absurd found (by decide)
  · rw [Nat.zero_add, Nat.sub_add_cancel positive, second, Option.some_inj] at found
    subst found
    exact absurd visible (by decide)
  · have inside := (List.getElem?_eq_some_iff.mp found).1
    have no_end := List.find?_eq_none.mp still _ (List.mem_range.mpr inside)
    have behind : i < i - 1 + (k + 1 + 1) := by omega
    simp [found, behind] at no_end

/-- Only a GPSER frame without an end can fill the buffer. -/
theorem full_oneShot {family : Family} {mode : CheckMode} {stream : Bytes}
    (full : isFull { family, mode, progress := oneShot family mode stream } = true) :
    ∃ buffer, oneShot family mode stream = .collecting .etx buffer ∧ buffer.length = 512 ∧
      0x03 ∉ buffer := by
  cases start : firstStart? family stream with
  | none =>
    rw [oneShot_idle start] at full
    cases full
  | some i =>
    cases family with
    | gpser =>
      cases ends : firstEnd? stream i with
      | none =>
        have whole := open_without_end start ends
        rw [oneShot_gpser_open start ends] at full ⊢
        refine ⟨_, rfl, ?_, fun member => whole (List.mem_of_mem_take member)⟩
        have length : 512 ≤ ((stream.drop (i - 1)).take 512).length := of_decide_eq_true full
        have bound := List.length_take_le 512 (stream.drop (i - 1))
        omega
      | some j =>
        rw [oneShot_gpser_ended start ends] at full
        cases full
    | sentry =>
      by_cases enough : (stream.getD i 0).toNat ≤ (stream.drop (i - 1)).length
      · rw [oneShot_sentry_ended start enough] at full
        cases full
      · rw [oneShot_sentry_open start (by omega)] at full
        have length : 512 ≤ (stream.drop (i - 1)).length := of_decide_eq_true full
        rcases declared_length start with total | total <;> omega

/-- A full buffer is what the frame will hold. -/
theorem feedAll_full {asm : Assembler} {ending : Ending} {buffer bytes : Bytes} {frame : Frame}
    (held : asm.progress = .collecting ending buffer) (full : 512 ≤ buffer.length)
    (complete : (asm.feedAll bytes).frame? = some frame) : frame.bytes = buffer := by
  induction bytes generalizing asm with
  | nil => simp [feedAll, frame?, held] at complete
  | cons byte rest ih =>
    have same : (asm.feed byte).progress =
        if ending.met buffer byte then .complete (.ofBytes asm.family asm.mode buffer)
        else .collecting ending buffer := by
      have no_room : ¬ buffer.length < Wire.maxFrame := Nat.not_lt_of_le full
      simp only [feed, held, extend, if_neg no_room]
    change ((asm.feed byte).feedAll rest).frame? = some frame at complete
    by_cases met : ending.met buffer byte = true
    · have done : (asm.feed byte).frame? = some (.ofBytes asm.family asm.mode buffer) := by
        simp only [frame?, same, if_pos met]
      rw [feedAll_complete done, done] at complete
      cases complete
      rfl
    · exact ih (same.trans (if_neg met)) complete

/-- **A frame that outgrew its buffer has lost its end.** -/
theorem full_then_complete {family : Family} {mode : CheckMode} {before after : Bytes}
    {frame : Frame} (full : ((empty family mode).feedAll before).isFull = true)
    (complete : ((empty family mode).feedAll (before ++ after)).frame? = some frame) :
    frame.bytes.length = 512 ∧ 0x03 ∉ frame.bytes := by
  rw [feedAll_append] at complete
  rw [empty_feedAll] at full complete
  obtain ⟨buffer, held, length, no_end⟩ := full_oneShot full
  have bytes := @feedAll_full _ .etx buffer after frame held (Nat.le_of_eq length.symm) complete
  exact bytes ▸ ⟨length, no_end⟩

/-! ## Any run of operations -/

/-- What is done with an assembler. -/
inductive Op
  | new (family : Family) (mode : CheckMode)
  | feed (byte : UInt8)
  | feedAll (bytes : Bytes)
  | reset
  | configure (family : Family) (mode : CheckMode)
  | take

/-- An assembler, the family and mode it was given last, and the bytes it was fed since it last
started anew. -/
structure Session where
  asm : Assembler
  family : Family
  mode : CheckMode
  fed : Bytes

namespace Session

def new (family : Family) (mode : CheckMode) : Session := ⟨.empty family mode, family, mode, []⟩

/-- Taking starts anew only when there is a frame to take. -/
def step (s : Session) : Op → Session
  | .new family mode => .new family mode
  | .feed byte => { s with asm := s.asm.feed byte, fed := s.fed ++ [byte] }
  | .feedAll bytes => { s with asm := s.asm.feedAll bytes, fed := s.fed ++ bytes }
  | .reset => { s with asm := s.asm.reset, fed := [] }
  | .configure family mode => ⟨s.asm.configure family mode, family, mode, []⟩
  | .take =>
    match s.asm.take with
    | (some _, asm) => { s with asm, fed := [] }
    | (none, asm) => { s with asm }

/-- The assembler holds the parse of what it was fed. -/
def Parsed (s : Session) : Prop :=
  s.asm = { family := s.family, mode := s.mode, progress := oneShot s.family s.mode s.fed }

theorem new_parsed (family : Family) (mode : CheckMode) : (new family mode).Parsed := rfl

theorem step_parsed {s : Session} (h : s.Parsed) (op : Op) : (s.step op).Parsed := by
  obtain ⟨asm, family, mode, fed⟩ := s
  simp only [Parsed] at h
  subst h
  cases op with
  | new family mode => exact new_parsed family mode
  | feed byte => exact feed_oneShot family mode fed byte
  | feedAll bytes => exact feedAll_oneShot family mode fed bytes
  | reset => exact new_parsed family mode
  | configure family mode => exact new_parsed family mode
  | take =>
    simp only [step, take]
    cases frame? { family, mode, progress := oneShot family mode fed } with
    | none => rfl
    | some frame => exact new_parsed family mode

end Session

/-- **Assembling byte by byte is parsing at once.** After any operations the assembler is the
one-shot parse of the bytes that it was fed since it was last new, reset, configured or emptied of
its frame. -/
theorem assembly_is_oneShot (family : Family) (mode : CheckMode) (ops : List Op) :
    let s := ops.foldl Session.step (.new family mode)
    s.asm = { family := s.family, mode := s.mode, progress := oneShot s.family s.mode s.fed } := by
  have run (ops : List Op) (s : Session) (h : s.Parsed) : (ops.foldl Session.step s).Parsed := by
    induction ops generalizing s with
    | nil => exact h
    | cons op rest ih => exact ih (s.step op) (Session.step_parsed h op)
  exact run ops (.new family mode) (Session.new_parsed family mode)

end Assembler

end UpsMonitor
