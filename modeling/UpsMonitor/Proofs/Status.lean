import UpsMonitor.Status

/-!
# Status words

What the words of a status can be, whatever its bitmap. Main statements:

* `StatusCode.flags_eq`: each condition is a mask on one byte of the bitmap;
* `StatusCode.tokens_eq_words`: so the words are told by the bits;
* `StatusFlags.mem_tokens_iff`: each word but the first stands for its condition;
* `StatusCode.tokens_wellFormed`: the words of every bitmap are well formed.
-/

namespace UpsMonitor

theorem StatusCode.flags_eq (code : StatusCode) :
    code.flags =
      { onBattery := code.byte0 &&& 0x02 != 0
        lowBattery := code.byte0 &&& 0x02 != 0 && code.byte0 &&& 0x01 != 0
        standby := !(code.byte0 &&& 0x08 != 0)
        bypass := code.byte1 &&& 0x08 != 0
        overload := code.byte4 &&& 0x04 != 0
        buck := code.byte1 &&& 0x01 != 0
        boost := code.byte1 &&& 0x02 != 0
        replaceBattery := code.byte2 &&& 0x01 != 0
        charging := code.byte2 &&& 0x04 != 0 } := rfl

/-- The words of a bitmap, told by its bits. -/
def StatusCode.words (code : StatusCode) : List String :=
  (if code.byte0 &&& 0x02 != 0 then "OB" else "OL") ::
    ([(code.byte0 &&& 0x02 != 0 && code.byte0 &&& 0x01 != 0, "LB"),
      (code.byte0 &&& 0x08 == 0, "OFF"), (code.byte1 &&& 0x08 != 0, "BYPASS"),
      (code.byte4 &&& 0x04 != 0, "OVER"), (code.byte1 &&& 0x01 != 0, "TRIM"),
      (code.byte1 &&& 0x02 != 0, "BOOST"), (code.byte2 &&& 0x01 != 0, "RB"),
      (code.byte2 &&& 0x04 != 0, "CHRG")].filter (·.1)).map (·.2)

theorem StatusCode.tokens_eq_words (code : StatusCode) : code.flags.tokens = code.words := by
  rw [flags_eq]
  simp [StatusFlags.tokens, words, bne]

/-- One of OL and OB comes first and the other nowhere, no word is repeated, and a battery is called
low only when the unit runs on it. -/
structure WellFormedStatus (words : List String) : Prop where
  begins : ∃ rest, (words = "OL" :: rest ∨ words = "OB" :: rest) ∧ "OL" ∉ rest ∧ "OB" ∉ rest
  nodup : words.Nodup
  low : "LB" ∈ words → "OB" ∈ words

namespace StatusFlags

/-- The conditions that have a word, each with its word. -/
def conditions (flags : StatusFlags) : List (Bool × String) :=
  [(flags.lowBattery, "LB"), (flags.standby, "OFF"), (flags.bypass, "BYPASS"),
    (flags.overload, "OVER"), (flags.buck, "TRIM"), (flags.boost, "BOOST"),
    (flags.replaceBattery, "RB"), (flags.charging, "CHRG")]

/-- The words behind the first. -/
def furtherTokens (flags : StatusFlags) : List String :=
  (flags.conditions.filter (·.1)).map (·.2)

theorem tokens_eq (flags : StatusFlags) :
    flags.tokens = (if flags.onBattery then "OB" else "OL") :: flags.furtherTokens := rfl

/-- The words come in one order, in which each stands once. -/
theorem furtherTokens_sublist (flags : StatusFlags) :
    flags.furtherTokens.Sublist ["LB", "OFF", "BYPASS", "OVER", "TRIM", "BOOST", "RB", "CHRG"] := by
  have kept : (flags.conditions.filter (·.1)).Sublist flags.conditions := List.filter_sublist
  exact kept.map Prod.snd

theorem not_mem_furtherTokens {flags : StatusFlags} {word : String}
    (other : word ∉ ["LB", "OFF", "BYPASS", "OVER", "TRIM", "BOOST", "RB", "CHRG"]) :
    word ∉ flags.furtherTokens :=
  fun member => other (flags.furtherTokens_sublist.mem member)

/-- A word other than the first stands for its condition. -/
theorem mem_tokens_iff {flags : StatusFlags} {word : String} (further : word ∉ ["OL", "OB"]) :
    word ∈ flags.tokens ↔ (true, word) ∈ flags.conditions := by
  have first : word ≠ if flags.onBattery then "OB" else "OL" := by
    rintro rfl
    apply further
    split <;> decide
  rw [tokens_eq, List.mem_cons, or_iff_right first]
  simp [furtherTokens]

/-- The words of conditions under which a low battery is one that the unit runs on. -/
theorem wellFormed_tokens {flags : StatusFlags}
    (low : flags.lowBattery = true → flags.onBattery = true) : WellFormedStatus flags.tokens where
  begins := by
    refine ⟨flags.furtherTokens, ?_, not_mem_furtherTokens (by decide),
      not_mem_furtherTokens (by decide)⟩
    rw [tokens_eq]
    cases flags.onBattery with
    | true => exact .inr rfl
    | false => exact .inl rfl
  nodup := by
    have further : flags.furtherTokens.Nodup := flags.furtherTokens_sublist.nodup (by decide)
    rw [tokens_eq, List.nodup_cons]
    refine ⟨?_, further⟩
    split
    · exact not_mem_furtherTokens (by decide)
    · exact not_mem_furtherTokens (by decide)
  low := by
    intro told
    have battery : flags.onBattery = true := low (by
      simpa [conditions] using (mem_tokens_iff (by decide)).mp told)
    rw [tokens_eq, if_pos battery]
    exact List.mem_cons_self

end StatusFlags

/-- **The words of every bitmap are well formed.** -/
theorem StatusCode.tokens_wellFormed (code : StatusCode) : WellFormedStatus code.flags.tokens :=
  StatusFlags.wellFormed_tokens fun low => (Bool.and_eq_true_iff.mp low).1

end UpsMonitor
