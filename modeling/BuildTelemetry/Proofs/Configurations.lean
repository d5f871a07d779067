import BuildTelemetry.Proofs.Accounting
import BuildTelemetry.Proofs.Feeding
import BuildTelemetry.Proofs.Quantiles
import BuildTelemetry.Proofs.Reports
import BuildTelemetry.Proofs.WholeNames

/-!
# Configurations come into force as a whole

A configuration that is not valid changes nothing, so whatever is in force is valid.

1. What makes a configuration valid, and what it is rejected for (`Config.Valid`,
   `Config.RejectedFor`). The first fault counts, the period before the quantiles and these before
   the patterns (`Settings.of_eq_error_iff`).
2. What an exporter does with a configuration (`Exporter.Takes`).
3. After any operations the settings in force are those of the last valid configuration
   (`LastValid`).
4. Summaries of meters that are made under validated settings have just the configured quantiles
   (`Settings.AnswersQuantiles`).
5. All of this at any time of an exporter (`configurations_all_or_nothing`).
-/

namespace BuildTelemetry

/-! ## 1. Valid configurations -/

/-- A share of observations. It is a number. -/
def InUnitInterval (q : Float) : Prop := 0.0 ≤ q ∧ q ≤ 1.0

theorem quantileInRange_iff {q : Float} : quantileInRange q ↔ InUnitInterval q := by
  simp [quantileInRange, InUnitInterval]

section NotANumber

open Float Float.Model

/-- Nothing is at most what is not a number. -/
theorem not_le_of_isNaN {a b : Float} (h : b.isNaN) : ¬a ≤ b := by
  intro hle
  have hmodel : a.toModel ≤ b.toModel := of_decide_eq_true (hle : Float.le a b = true)
  have hunpacked : a.toModel.unpack.le b.toModel.unpack = true := hmodel
  have hnan : b.toModel.unpack.isNaN = true := h
  cases hb : b.toModel.unpack with
  | notANumber =>
    rw [hb] at hunpacked
    cases ha : a.toModel.unpack <;> rw [ha] at hunpacked <;> cases hunpacked
  | _ =>
    rw [hb] at hnan
    cases hnan

end NotANumber

theorem InUnitInterval.isNaN_eq_false {q : Float} (h : InUnitInterval q) : q.isNaN = false :=
  Bool.eq_false_iff.mpr fun hnan => not_le_of_isNaN hnan h.1

/-- A pattern of which whole names can be told. -/
def Pattern.Compiles (pattern : String) : Prop :=
  ∃ node, Pattern.compile? (Pattern.wholeText pattern) = some node

namespace Config

/-- All patterns of a configuration, in the order of its rules. -/
def patterns (c : Config) : List String := c.rules.filterMap Rule.pattern?

/-- A configuration that can come into force. -/
structure Valid (c : Config) : Prop where
  period : c.period ≠ 0
  quantiles : ∀ q ∈ c.quantiles, InUnitInterval q
  patterns : ∀ pattern ∈ c.patterns, Pattern.Compiles pattern

end Config

/-- What a configuration is rejected for. -/
inductive Config.RejectedFor (c : Config) : ConfigError → Prop
  | period : c.period = 0 → RejectedFor c .invalidPeriod
  | quantile {q : Float} : c.period ≠ 0 → IsFirstWithout InUnitInterval c.quantiles q →
      RejectedFor c (.invalidQuantile q)
  | pattern {pattern : String} : c.period ≠ 0 → (∀ q ∈ c.quantiles, InUnitInterval q) →
      IsFirstWithout Pattern.Compiles c.patterns pattern → RejectedFor c (.invalidPattern pattern)

/-- A configuration is rejected unless it is valid. -/
theorem Config.exists_rejectedFor_iff {c : Config} : (∃ error, c.RejectedFor error) ↔ ¬c.Valid := by
  constructor
  · rintro ⟨_, hperiod | ⟨-, hfirst⟩ | ⟨-, -, hfirst⟩⟩ hvalid
    · exact hvalid.period hperiod
    · exact exists_isFirstWithout_iff.mp ⟨_, hfirst⟩ hvalid.quantiles
    · exact exists_isFirstWithout_iff.mp ⟨_, hfirst⟩ hvalid.patterns
  · intro hinvalid
    by_cases hperiod : c.period = 0
    · exact ⟨_, .period hperiod⟩
    by_cases hquantiles : ∀ q ∈ c.quantiles, InUnitInterval q
    · obtain ⟨pattern, hfirst⟩ := exists_isFirstWithout_iff.mpr fun hpatterns =>
        hinvalid ⟨hperiod, hquantiles, hpatterns⟩
      exact ⟨_, .pattern hperiod hquantiles hfirst⟩
    · obtain ⟨q, hfirst⟩ := exists_isFirstWithout_iff.mpr hquantiles
      exact ⟨_, .quantile hperiod hfirst⟩

/-- The quantile that is found is the first that is out of range. -/
theorem firstOutOfRange?_eq_some_iff {quantiles : List Float} {q : Float} :
    firstOutOfRange? quantiles = some q ↔ IsFirstWithout InUnitInterval quantiles q := by
  induction quantiles with
  | nil => simp [firstOutOfRange?, not_isFirstWithout_nil]
  | cons head tail ih =>
    rw [firstOutOfRange?, List.find?_cons, ← firstOutOfRange?]
    cases hhead : quantileInRange head with
    | true =>
      rw [isFirstWithout_cons_of_pos (quantileInRange_iff.mp hhead), ← ih]
      rfl
    | false =>
      have hout : ¬InUnitInterval head := by
        rw [← quantileInRange_iff, hhead]
        exact Bool.false_ne_true
      rw [isFirstWithout_cons_of_neg hout, eq_comm (a := q)]
      exact Option.some_inj

theorem firstOutOfRange?_eq_none_iff {quantiles : List Float} :
    firstOutOfRange? quantiles = none ↔ ∀ q ∈ quantiles, InUnitInterval q := by
  rw [← not_iff_not, ← exists_isFirstWithout_iff, ← ne_eq, Option.ne_none_iff_exists']
  simp only [firstOutOfRange?_eq_some_iff]

/-- A rule is read if its pattern, where it has one, can be compiled. -/
theorem exists_compile_of_compiles (rule : Rule)
    (h : ∀ pattern ∈ rule.pattern?, Pattern.Compiles pattern) :
    ∃ compiled, rule.compile = .ok compiled := by
  cases rule with
  | metricName name => exact ⟨_, rfl⟩
  | metricPattern pattern | jobPattern pattern =>
    obtain ⟨node, hnode⟩ := h pattern rfl
    rw [Rule.compile, Rule.compile.compilePattern, hnode]
    exact ⟨_, rfl⟩

theorem compile_of_not_compiles {rule : Rule} {pattern : String}
    (hpattern : rule.pattern? = some pattern) (h : ¬Pattern.Compiles pattern) :
    rule.compile = .error pattern := by
  have hnone : Pattern.compile? (Pattern.wholeText pattern) = none :=
    Option.eq_none_iff_forall_ne_some.mpr fun node hnode => h ⟨node, hnode⟩
  cases rule with
  | metricName name => cases hpattern
  | metricPattern written | jobPattern written =>
    cases hpattern
    rw [Rule.compile, Rule.compile.compilePattern, hnone]
    rfl

/-- Rules are read up to the first pattern that cannot be compiled. -/
theorem mapM_compile_eq_error_iff {rules : List Rule} {pattern : String} :
    rules.mapM Rule.compile = .error pattern ↔
      IsFirstWithout Pattern.Compiles (rules.filterMap Rule.pattern?) pattern := by
  induction rules with
  | nil => exact iff_of_false (fun h => nomatch h) not_isFirstWithout_nil
  | cons rule rules ih =>
    -- a rule that can be read leaves the answer to the rules behind it
    have hread {compiled : CompiledRule} (h : rule.compile = .ok compiled) :
        (rule :: rules).mapM Rule.compile = .error pattern ↔
          rules.mapM Rule.compile = .error pattern := by
      rw [List.mapM_cons, h]
      change (rules.mapM Rule.compile).bind _ = _ ↔ _
      cases rules.mapM Rule.compile with
      | ok rest => exact iff_of_false (fun h => nomatch h) (fun h => nomatch h)
      | error other => exact Iff.rfl
    cases hpattern : rule.pattern? with
    | none =>
      obtain ⟨compiled, hcompiled⟩ := exists_compile_of_compiles rule (by simp [hpattern])
      rw [hread hcompiled, List.filterMap_cons_none hpattern, ih]
    | some written =>
      rw [List.filterMap_cons_some hpattern]
      by_cases hwritten : Pattern.Compiles written
      · obtain ⟨compiled, hcompiled⟩ :=
          exists_compile_of_compiles rule (by simpa [hpattern] using hwritten)
        rw [hread hcompiled, isFirstWithout_cons_of_pos hwritten, ih]
      · rw [isFirstWithout_cons_of_neg hwritten, List.mapM_cons,
          compile_of_not_compiles hpattern hwritten]
        change Except.error written = Except.error pattern ↔ _
        rw [Except.error.injEq, eq_comm]

theorem Policy.compile_eq_error_iff {rules : List Rule} {pattern : String} :
    Policy.compile rules = .error pattern ↔
      IsFirstWithout Pattern.Compiles (rules.filterMap Rule.pattern?) pattern := by
  rw [← mapM_compile_eq_error_iff, Policy.compile]
  cases rules.mapM Rule.compile with
  | ok compiled =>
    change Except.ok _ = Except.error pattern ↔ _
    simp
  | error other =>
    change Except.error other = Except.error pattern ↔ _
    rw [Except.error.injEq, Except.error.injEq]

namespace Settings

variable {environment : Option String} {config : Config}

/-- A configuration is rejected for its first fault. -/
theorem of_eq_error_iff {error : ConfigError} :
    of environment config = .error error ↔ config.RejectedFor error := by
  unfold of
  constructor
  · intro h
    split at h
    · next hperiod =>
      cases h
      exact .period hperiod
    next hperiod =>
    split at h
    · next q hq =>
      cases h
      exact .quantile hperiod (firstOutOfRange?_eq_some_iff.mp hq)
    next hquantiles =>
    split at h
    · next pattern hpattern =>
      cases h
      exact .pattern hperiod (firstOutOfRange?_eq_none_iff.mp hquantiles)
        (Policy.compile_eq_error_iff.mp hpattern)
    · cases h
  · rintro (hperiod | ⟨hperiod, hfirst⟩ | ⟨hperiod, hquantiles, hfirst⟩)
    · rw [if_pos hperiod]
    · rw [if_neg hperiod, firstOutOfRange?_eq_some_iff.mpr hfirst]
    · rw [if_neg hperiod, firstOutOfRange?_eq_none_iff.mpr hquantiles,
        Policy.compile_eq_error_iff.mpr hfirst]

theorem exists_of_eq_ok_iff : (∃ s, of environment config = .ok s) ↔ config.Valid := by
  have hrejected : (∃ error, of environment config = .error error) ↔ ¬config.Valid := by
    rw [← Config.exists_rejectedFor_iff]
    exact exists_congr fun _ => of_eq_error_iff
  rw [← not_iff_not, ← hrejected]
  cases of environment config with
  | ok s => simp
  | error error => simp

end Settings

/-! ## 2. One configuration -/

namespace Exporter

/-- Puts a configuration into force, or says why it is rejected. -/
def configure (e : Exporter) (config : Config) : Exporter × Except ConfigError Unit :=
  match e.apply config with
  | .ok e => (e, .ok ())
  | .error error => (e, .error error)

/-- What an exporter does with a configuration. -/
structure Takes (e : Exporter) (config : Config) : Prop where
  accepts_iff : (e.configure config).2 = .ok () ↔ config.Valid
  rejects_iff : ∀ error, (e.configure config).2 = .error error ↔ config.RejectedFor error
  /-- Nothing but the settings in force changes. -/
  store : config.Valid → ∃ s, Settings.of e.active.environment config = .ok s ∧
    (e.configure config).1 = { e with active := e.active.store s }
  unchanged : ¬config.Valid → (e.configure config).1 = e

theorem configure_of_ok {e : Exporter} {config : Config} {s : Settings}
    (h : Settings.of e.active.environment config = .ok s) :
    e.configure config = ({ e with active := e.active.store s }, .ok ()) := by
  rw [configure, apply, ActiveSettings.apply, h]
  rfl

theorem configure_of_error {e : Exporter} {config : Config} {error : ConfigError}
    (h : Settings.of e.active.environment config = .error error) :
    e.configure config = (e, .error error) := by
  rw [configure, apply, ActiveSettings.apply, h]
  rfl

theorem takes (e : Exporter) (config : Config) : e.Takes config := by
  cases h : Settings.of e.active.environment config with
  | ok s =>
    have hvalid : config.Valid := Settings.exists_of_eq_ok_iff.mp ⟨s, h⟩
    have hconfigure := configure_of_ok h
    exact {
      accepts_iff := by simp [hconfigure, hvalid]
      rejects_iff := fun error => by
        rw [hconfigure, ← Settings.of_eq_error_iff, h]
        simp
      store := fun _ => ⟨s, h, by rw [hconfigure]⟩
      unchanged := fun hinvalid => absurd hvalid hinvalid }
  | error error =>
    have hinvalid : ¬config.Valid := fun hvalid => by
      obtain ⟨s, hs⟩ := Settings.exists_of_eq_ok_iff.mpr hvalid
      rw [h] at hs
      cases hs
    have hconfigure := configure_of_error h
    exact {
      accepts_iff := by simp [hconfigure, hinvalid]
      rejects_iff := fun other => by
        rw [hconfigure, ← Settings.of_eq_error_iff, h]
        simp
      store := fun hvalid => absurd hvalid hinvalid
      unchanged := fun _ => by rw [hconfigure] }

end Exporter

/-! ## 3. Runs -/

/-- What others do to an exporter. -/
inductive Operation where
  | configure (config : Config)
  | complete (c : Build)
  /-- The host changes, its jobs included. -/
  | change (host : Host)
  | collect (collectors : List Collector) (now : Int64)

namespace Exporter

/-- The state after an operation. -/
def perform (e : Exporter) : Operation → Exporter
  | .configure config => (e.configure config).1
  | .complete c => e.complete c
  | .change host => { e with host }
  | .collect collectors now => (e.collect collectors now).1

/-- The state after some operations. -/
def performAll (e : Exporter) (operations : List Operation) : Exporter :=
  operations.foldl perform e

theorem active_collect (e : Exporter) (collectors : List Collector) (now : Int64) :
    (e.collect collectors now).1.active = e.active := by
  have hscrape := (active_host_scrape e collectors now).1
  unfold collect
  cases h : e.scrape collectors now with
  | mk after result => cases result <;> (rw [h] at hscrape; exact hscrape)

end Exporter

/-- The settings of the last valid configuration among some operations, or else the first ones. -/
inductive LastValid (environment : Option String) (first : Settings) :
    List Operation → Settings → Prop
  | first {operations : List Operation} :
      (∀ config, .configure config ∈ operations → ¬config.Valid) →
      LastValid environment first operations first
  | last {before after : List Operation} {config : Config} {s : Settings} :
      config.Valid → Settings.of environment config = .ok s →
      (∀ other, .configure other ∈ after → ¬other.Valid) →
      LastValid environment first (before ++ .configure config :: after) s

section LastValid

variable {environment : Option String} {first s : Settings} {operations : List Operation}

/-- Operations that put nothing into force do not count. -/
theorem LastValid.concat (h : LastValid environment first operations s) {op : Operation}
    (hop : ∀ config, op = .configure config → ¬config.Valid) :
    LastValid environment first (operations ++ [op]) s := by
  have hlast (config : Config) (hmem : .configure config ∈ [op]) : ¬config.Valid :=
    hop config (List.mem_singleton.mp hmem).symm
  obtain hnone | ⟨hvalid, hs, hafter⟩ := h
  · refine .first fun config hmem => ?_
    exact (List.mem_append.mp hmem).elim (hnone config) (hlast config)
  · rw [List.append_assoc, List.cons_append]
    refine .last hvalid hs fun other hmem => ?_
    exact (List.mem_append.mp hmem).elim (hafter other) (hlast other)

end LastValid

/-- Settings are stored after they were validated. -/
def ActiveSettings.Validated (a : ActiveSettings) : Prop :=
  ∀ s ∈ a.stored, ∃ config, Settings.of a.environment config = .ok s

/-- The settings of an operator who configures nothing are those of a configuration. -/
theorem Settings.of_initial (environment : Option String) :
    of environment .initial = .ok (initial environment) := rfl

theorem ActiveSettings.Validated.valid_load {a : ActiveSettings} (h : a.Validated) :
    a.load.config.Valid := by
  have hload : ∃ config, Settings.of a.environment config = .ok a.load := by
    unfold load
    cases hstored : a.stored with
    | none => exact ⟨_, Settings.of_initial a.environment⟩
    | some s => exact h s hstored
  obtain ⟨config, hconfig⟩ := hload
  rw [(Settings.of_eq_ok hconfig).1]
  exact Settings.exists_of_eq_ok_iff.mp ⟨_, hconfig⟩

/-- What holds of the settings after some operations. -/
structure Exporter.InForce (first : ActiveSettings) (operations : List Operation) (e : Exporter) :
    Prop where
  environment : e.active.environment = first.environment
  validated : e.active.Validated
  lastValid : LastValid first.environment first.load operations e.active.load

namespace Exporter

variable {first : ActiveSettings} {operations : List Operation} {e : Exporter}

theorem InForce.of_active_eq (h : e.InForce first operations) {op : Operation}
    (hactive : (e.perform op).active = e.active)
    (hop : ∀ config, op = .configure config → ¬config.Valid) :
    (e.perform op).InForce first (operations ++ [op]) := by
  refine ⟨?_, ?_, ?_⟩
  · rw [hactive]
    exact h.environment
  · rw [hactive]
    exact h.validated
  · rw [hactive]
    exact h.lastValid.concat hop

theorem InForce.perform (h : e.InForce first operations) (op : Operation) :
    (e.perform op).InForce first (operations ++ [op]) := by
  cases op with
  | complete c => exact h.of_active_eq rfl (by rintro _ ⟨⟩)
  | change host => exact h.of_active_eq rfl (by rintro _ ⟨⟩)
  | collect collectors now =>
    exact h.of_active_eq (active_collect e collectors now) (by rintro _ ⟨⟩)
  | configure config =>
    by_cases hvalid : config.Valid
    · obtain ⟨s, hs, hstore⟩ := (e.takes config).store hvalid
      have hperform : (e.perform (.configure config)).active = e.active.store s :=
        congrArg active hstore
      rw [h.environment] at hs
      refine ⟨?_, ?_, ?_⟩
      · rw [hperform]
        exact h.environment
      · rw [hperform]
        rintro _ ⟨⟩
        exact ⟨config, by rw [← hs, ← h.environment]; rfl⟩
      · rw [hperform]
        exact .last hvalid hs fun _ hmem => absurd hmem List.not_mem_nil
    · refine h.of_active_eq (congrArg active ((e.takes config).unchanged hvalid)) ?_
      rintro _ ⟨⟩
      exact hvalid

theorem inForce_performAll (hfirst : first.Validated) (host : Host) (operations : List Operation) :
    ((start first host).performAll operations).InForce first operations := by
  -- from the end, because the last operation decides whether others still count
  induction operations using List.reverseRecOn with
  | nil => exact ⟨rfl, hfirst, .first fun _ hmem => absurd hmem List.not_mem_nil⟩
  | append_singleton operations op ih =>
    rw [performAll, List.foldl_append]
    exact ih.perform op

end Exporter

/-! ## 4. Quantiles -/

namespace Settings

/-- Summaries of the meters that are made under some settings have just the configured quantiles. -/
structure AnswersQuantiles (s : Settings) : Prop where
  /-- A new summary has the configured quantiles, so it is no plain one in their place. -/
  fresh : ∀ {subject kind names qualifier m t}, s.meterFor? subject kind names qualifier = some m →
    m.series.fresh = .summary t →
    Summary.withQuantiles s.config.quantiles Summary.scrapeError = .ok t
  /-- A summary that is shown has the configured quantiles and a value for each of them. -/
  shown : ∀ {subject kind names qualifier m}, s.meterFor? subject kind names qualifier = some m →
    ∀ feedings values t, (m.feedAll feedings).series.get? values = some (.summary t) →
      t.quantiles = s.config.quantiles ∧ t.quantileValues.map Prod.fst = s.config.quantiles

variable {s : Settings} {subject : Subject} {kind : MetricKind} {names : List String}
  {qualifier : Option String} {m : Meter}

theorem eq_freshMeter_of_meterFor? (h : s.meterFor? subject kind names qualifier = some m) :
    m = s.freshMeter ⟨⟨kind, qualifier⟩, names⟩ := by
  unfold meterFor? meter? at h
  split at h
  · split at h
    · exact (Option.some.inj h).symm
    · cases h
  · cases h

/-- A counter has no summaries, and the marks of all other metrics have values. -/
theorem value_of_mem_measure_of_summary {now : Int64} {entity : Entity} {mark : Mark}
    (hkind : kind.type = .summary) (h : mark ∈ (kind.measure now entity).notes) :
    mark.value.isSome := by
  refine value_of_mem_measure (fun hcounter => ?_) h
  obtain ⟨counter, hmem, rfl⟩ := List.mem_map.mp hcounter
  rw [type_counter counter hmem] at hkind
  cases hkind

theorem answersQuantiles (h : s.config.Valid) : s.AnswersQuantiles where
  fresh hmeter hfresh := by
    rw [eq_freshMeter_of_meterFor? hmeter] at hfresh
    change MetricKind.freshInstrument _ _ = _ at hfresh
    unfold MetricKind.freshInstrument at hfresh
    split at hfresh
    · cases hfresh
    · cases hfresh
      rw [Summary.forScrape_eq (firstOutOfRange?_eq_none_iff.mpr h.quantiles),
        Summary.withQuantiles, firstOutOfRange?_eq_none_iff.mpr h.quantiles]
    · cases hfresh
  shown := by
    intro subject kind names qualifier m hmeter feedings values t hget
    obtain ⟨rs, hrs, hmarks⟩ := m.exists_feedAll_eq_record feedings
    obtain rfl := eq_freshMeter_of_meterFor? hmeter
    rw [hrs] at hget
    have htype : kind.type = .summary := by
      have htyped := ((Meter.typed_new kind s.nameSpace qualifier names
        s.config.quantiles).record rs).get values _ hget
      rw [Meter.descriptor_record] at htyped
      exact htyped.symm
    obtain ⟨vs, hvs, rfl⟩ := observed_planned (fun r hr => by
      obtain ⟨now, entity, hmark⟩ := hmarks r hr
      exact value_of_mem_measure_of_summary htype hmark) hget
    have hquantiles := firstOutOfRange?_eq_none_iff.mpr h.quantiles
    refine ⟨?_, Summary.quantiles_of_observed hquantiles hvs⟩
    rw [Summary.quantiles_foldl_observe, Summary.forScrape_eq hquantiles]

end Settings

/-! ## 5. After any operations -/

/-- An exporter that starts with the settings of an operator who configures nothing, or with
validated ones, accepts a configuration exactly if it is valid, at any time. What is no number is no
quantile. A configuration that is rejected changes nothing. The settings in force are those of the
last valid configuration, and their summaries answer just their quantiles. -/
theorem configurations_all_or_nothing {first : ActiveSettings} (hfirst : first.Validated)
    (host : Host) (operations : List Operation) :
    let e := (Exporter.start first host).performAll operations
    (∀ config, e.Takes config ∧ ((∃ q ∈ config.quantiles, q.isNaN) → ¬config.Valid)) ∧
    LastValid first.environment first.load operations e.active.load ∧
    e.active.load.config.Valid ∧ e.active.load.AnswersQuantiles := by
  have hforce := Exporter.inForce_performAll hfirst host operations
  have hvalid := hforce.validated.valid_load
  refine ⟨fun config => ⟨Exporter.takes _ config, ?_⟩, hforce.lastValid, hvalid,
    Settings.answersQuantiles hvalid⟩
  rintro ⟨q, hq, hnan⟩ hconfig
  rw [(hconfig.quantiles q hq).isNaN_eq_false] at hnan
  cases hnan

/-- A median. -/
def medianConfig : Config := { Config.initial with quantiles := [0.5] }

/-- A quantile that is no number and a group that is never closed. -/
def brokenConfig : Config :=
  { Config.initial with quantiles := [0.5, notANumber, 2.0], rules := [.jobPattern "("] }

/-- A configuration with several faults leaves the median in force. -/
theorem configurations_all_or_nothing_of_median :
    (ActiveSettings.empty none).Validated ∧
    let e := (Exporter.start (.empty none) .empty).performAll
      [.configure medianConfig, .configure brokenConfig]
    (e.configure brokenConfig).2 = .error (.invalidQuantile notANumber) ∧
      (e.configure brokenConfig).1 = e ∧ e.active.load.config.quantiles = [0.5] ∧
      e.active.load.AnswersQuantiles := by
  have hvalidated : (ActiveSettings.empty none).Validated := by
    rintro s ⟨⟩
  have hnan : ¬InUnitInterval notANumber := by
    unfold InUnitInterval
    decide
  have hrejected : brokenConfig.RejectedFor (.invalidQuantile notANumber) := by
    refine .quantile (by decide) ⟨[0.5], [2.0], rfl, ?_, hnan⟩
    simp [InUnitInterval]
    decide
  obtain ⟨htakes, -, -, hanswers⟩ := configurations_all_or_nothing hvalidated .empty
    [.configure medianConfig, .configure brokenConfig]
  obtain ⟨htakes, hinvalid⟩ := htakes brokenConfig
  have hquantile : notANumber ∈ brokenConfig.quantiles := by
    simp [brokenConfig]
  have hunchanged := htakes.unchanged (hinvalid ⟨notANumber, hquantile, by decide⟩)
  exact ⟨hvalidated, (htakes.rejects_iff _).mpr hrejected, hunchanged, rfl, hanswers⟩

end BuildTelemetry
