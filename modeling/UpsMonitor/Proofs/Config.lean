import Mathlib.Data.List.Nodup
import UpsMonitor.Config.Reading
import UpsMonitor.Proofs.FailureCounter
import UpsMonitor.Proofs.Report
import UpsMonitor.Proofs.Usb.Pinning

/-!
# Accepted configurations

A configuration is accepted if it keeps all rules, and otherwise the first rule that it breaks is
the reason. Main statements:

* `validate_eq_ok_iff`, `validate_eq_error_iff`: what is accepted, and why something is refused;
* `safe_of_rules`: what the rules make sure of in the settings of the parts;
* `accepted_configuration_is_safe`: so whatever text is accepted, by whatever reader, its settings
  are safe to run.
-/

namespace UpsMonitor.Config

namespace Rule

/-- What a rule asks of a configuration. -/
def Asks (config : Config) : Rule → Prop
  | timeout => 1 ≤ config.usb.timeout ∧ config.usb.timeout ≤ 60000
  | writeDelay => config.usb.writeDelay.toNat ≤ 10000
  | readInterval => config.usb.readInterval ≤ 1000
  | maxReports => 1 ≤ config.usb.maxReports ∧ config.usb.maxReports ≤ 10000
  | interval => 1 ≤ config.polling.interval ∧ config.polling.interval ≤ 3600
  | countlost => 1 ≤ config.polling.countlost.toNat
  | retries => 1 ≤ config.shutdown.retries.toNat ∧ config.shutdown.retries.toNat ≤ 10
  | folder => config.telemetry.enabled = true → config.telemetry.folder ≠ ""
  | maxRecords => 1 ≤ config.telemetry.maxRecords
  | maxFiles => 1 ≤ config.telemetry.maxFiles

/-- Which rule is heard first if several are broken. -/
def place : Rule → Nat
  | timeout => 0
  | writeDelay => 1
  | readInterval => 2
  | maxReports => 3
  | interval => 4
  | countlost => 5
  | retries => 6
  | folder => 7
  | maxRecords => 8
  | maxFiles => 9

theorem mem_all (rule : Rule) : rule ∈ all := by
  cases rule <;> decide

theorem all_in_order : all.Pairwise (·.place < ·.place) := by decide

/-- No two rules are refused in the same words. -/
theorem message_injective {rule other : Rule} (same : rule.message = other.message) :
    rule = other := by
  have apart : (all.map message).Nodup := by decide
  exact List.inj_on_of_nodup_map apart rule.mem_all other.mem_all same

theorem keptBy_iff (config : Config) (rule : Rule) :
    rule.keptBy config = true ↔ rule.Asks config := by
  cases rule with
  | timeout | readInterval | maxReports | interval | maxRecords | maxFiles =>
    simp [keptBy, Asks]
  | writeDelay | countlost | retries =>
    simp [keptBy, Asks, UInt32.le_iff_toNat_le]
  | folder => simp [keptBy, Asks, imp_iff_not_or]

instance (config : Config) (rule : Rule) : Decidable (rule.Asks config) :=
  decidable_of_iff _ (keptBy_iff config rule)

end Rule

/-! ## What is accepted -/

/-- A rule that is broken, with all rules before it kept. -/
structure FirstBroken (config : Config) (rule : Rule) : Prop where
  broken : ¬rule.Asks config
  earlier : ∀ other : Rule, other.place < rule.place → other.Asks config

theorem broken?_eq_none_iff {config : Config} :
    config.broken? = none ↔ ∀ rule : Rule, rule.Asks config := by
  simp only [broken?, List.find?_eq_none, Rule.mem_all, forall_const, Bool.not_eq_true',
    Bool.not_eq_false, Rule.keptBy_iff]

theorem broken?_eq_some_iff {config : Config} {rule : Rule} :
    config.broken? = some rule ↔ config.FirstBroken rule := by
  simp only [broken?, List.find?_eq_some_iff_append, Bool.not_eq_true', Bool.not_not,
    ← Bool.not_eq_true, Rule.keptBy_iff]
  constructor
  · rintro ⟨broken, before, behind, split, kept⟩
    refine ⟨broken, fun other lt => ?_⟩
    have ordered := split ▸ Rule.all_in_order
    obtain ⟨later, -⟩ := List.pairwise_cons.mp (List.pairwise_append.mp ordered).2.1
    rcases List.mem_append.mp (split ▸ other.mem_all) with earlier | rest
    · exact kept other earlier
    · rcases List.mem_cons.mp rest with rfl | beyond
      · exact absurd lt (Nat.lt_irrefl _)
      · exact absurd (later other beyond) (Nat.lt_asymm lt)
  · rintro ⟨broken, earlier⟩
    obtain ⟨before, behind, split⟩ := List.append_of_mem rule.mem_all
    have ordered := split ▸ Rule.all_in_order
    refine ⟨broken, before, behind, split, fun other member => earlier other ?_⟩
    exact (List.pairwise_append.mp ordered).2.2 other member rule List.mem_cons_self

theorem validate_eq_ok_iff {config accepted : Config} :
    config.validate = .ok accepted ↔ accepted = config ∧ ∀ rule : Rule, rule.Asks config := by
  rw [← broken?_eq_none_iff, validate]
  cases config.broken? with
  | none => simp [eq_comm]
  | some rule => simp

theorem validate_eq_error_iff {config : Config} {problem : Problem} :
    config.validate = .error problem ↔
      ∃ rule, config.FirstBroken rule ∧ problem = .refused rule := by
  simp only [← broken?_eq_some_iff, validate]
  cases config.broken? with
  | none => simp
  | some rule => simp [eq_comm]

/-- However it was read, a configuration was checked before it is given away. -/
theorem validate_of_parseBy {read? : String → Option Config} {text : String} {config : Config}
    (read : parseBy read? text = .ok config) : config.validate = .ok config := by
  unfold parseBy at read
  split at read
  · next given _ =>
    obtain ⟨rfl, kept⟩ := validate_eq_ok_iff.mp read
    exact read
  · cases read

theorem validate_default : ({} : Config).validate = .ok {} :=
  validate_eq_ok_iff.mpr ⟨rfl, fun rule => by cases rule <;> decide⟩

/-! ## What the parts are told -/

/-- What the parts of the monitor count on in their settings. Times are in microseconds. -/
structure Safe (config : Config) : Prop where
  timeout : 1000 ≤ config.transport.timeout ∧ config.transport.timeout ≤ 60000000
  writeDelay : 400 ≤ config.transport.writeDelay ∧ config.transport.writeDelay ≤ 10000000
  reports : 1 ≤ config.transport.maxReports
  /-- The limit is the one configured, and not one that it was raised to. -/
  failures : ∀ {σ : Type} (link : Link σ),
    (Monitor.ofLink link config.monitor).failures = { limit := config.polling.countlost }
  attempts : 1 ≤ config.monitor.shutdownRetries
  /-- A device passes if it passes the filters that are configured. -/
  filters : ∀ device : Identity, config.matcher.accepts device = true ↔
    device.vendor = config.usb.vendor ∧ device.product = config.usb.product ∧
    (∀ serial, config.usb.serial = some serial → device.serial = some serial) ∧
    ∀ bus, config.usb.bus = some bus → device.bus = bus

theorem safe_of_rules {config : Config} (kept : ∀ rule : Rule, rule.Asks config) :
    config.Safe where
  timeout := by
    obtain ⟨least, most⟩ := kept .timeout
    simp only [transport]
    omega
  writeDelay := Report.pause_bounds (by decide) (kept .writeDelay)
  reports := (kept .maxReports).1
  failures := fun _ => FailureCounter.ofLimit_of_pos (kept .countlost)
  attempts := (kept .retries).1
  filters := Matcher.accepts_iff config.matcher

/-- **An accepted configuration is safe to run.** It is accepted exactly if it keeps all rules, and
otherwise the first that it breaks is the reason. The settings that follow from it are then all in
the ranges that the parts count on; so they are for every text that is accepted, whatever reader the
text was given to. A longer write delay never follows from a smaller number. -/
theorem accepted_configuration_is_safe (config : Config) :
    (∀ accepted, config.validate = .ok accepted ↔
      accepted = config ∧ ∀ rule : Rule, rule.Asks config) ∧
    (∀ problem, config.validate = .error problem ↔
      ∃ rule, config.FirstBroken rule ∧ problem = .refused rule) ∧
    (config.validate = .ok config → config.Safe) ∧
    (∀ read? text, parseBy read? text = .ok config → config.Safe) ∧
    ∀ other : Config, config.usb.writeDelay ≤ other.usb.writeDelay →
      config.transport.writeDelay ≤ other.transport.writeDelay := by
  have safe (valid : config.validate = .ok config) : config.Safe :=
    safe_of_rules (validate_eq_ok_iff.mp valid).2
  refine ⟨fun accepted => validate_eq_ok_iff, fun problem => validate_eq_error_iff, safe, ?_, ?_⟩
  · intro read? text read
    exact safe (validate_of_parseBy read)
  · intro other le
    exact Report.pause_mono le

/-- The shortest pause and a filter on the bus. -/
theorem text_with_short_pause_is_safe :
    let config : Config := { usb := { bus := some 3, writeDelay := 1 } }
    parse "usb.bus = 3\nusb.write_delay = 1\n" = .ok config ∧ config.validate = .ok config ∧
      config.Safe ∧ config.transport.writeDelay ≤ ({} : Config).transport.writeDelay := by
  intro config
  have read : parse "usb.bus = 3\nusb.write_delay = 1\n" = .ok config := by decide +kernel
  obtain ⟨-, -, -, safe, longer⟩ := accepted_configuration_is_safe config
  exact ⟨read, validate_of_parseBy read, safe ofText? _ read, longer {} (by decide)⟩

/-- Of several rules that are broken the first is the reason. -/
example : ({ usb := { timeout := 0 }, polling := { countlost := 0 } } : Config).validate =
    .error (.refused .timeout) := by rfl

end UpsMonitor.Config
