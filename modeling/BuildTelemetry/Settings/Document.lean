import BuildTelemetry.Settings.Basic
import BuildTelemetry.Toml.Document

/-!
# Configuration documents

A configuration is written as a TOML document. Every key is optional, and no other key is allowed.

* `Config.ofToml`: reads a document.
* `Config.ofFile`: reads the contents of a file.
-/

namespace BuildTelemetry

open Toml (Value)

namespace Config

def text? : Value → Option String
  | .string s => some s
  | _ => none

/-- A number, which may be written without a point. -/
def number? : Value → Option Float
  | .float x => some x
  | .integer n => some (Float.ofInt n)
  | _ => none

/-- The items of an array, read one by one. -/
def items? {α : Type} (item? : Value → Option α) : Value → Option (List α)
  | .array items => items.mapM item?
  | _ => none

def ruleOfType? (type : String) (field? : String → Option Value) : Option Rule :=
  match type with
  | "name" => (field? "name" >>= text?).map .metricName
  | "regex" => (field? "pattern" >>= text?).map .metricPattern
  | "job_regex" => (field? "pattern" >>= text?).map .jobPattern
  | _ => none

/-- Reads a rule: a table with its type and one field, or an array of just these two. -/
def rule? : Value → Option Rule
  | .table entries => do
    let type ← Toml.find? entries "type" >>= text?
    ruleOfType? type (Toml.find? entries)
  | .array [type, field] => do ruleOfType? (← text? type) fun _ => some field
  | _ => none

def set? (c : Config) (key : String) (value : Value) : Option Config :=
  match key, value with
  | "namespace", .string s => some { c with nameSpace := some s }
  | "job_attribute_name", .string s => some { c with jobLabel := s }
  | "count_successful_builds", .boolean b => some { c with countSuccessful := b }
  | "count_unstable_builds", .boolean b => some { c with countUnstable := b }
  | "count_failed_builds", .boolean b => some { c with countFailed := b }
  | "count_not_built_builds", .boolean b => some { c with countNotBuilt := b }
  | "count_aborted_builds", .boolean b => some { c with countAborted := b }
  | "per_build_metrics", .boolean b => some { c with perBuild := b }
  | "append_param_label", .boolean b => some { c with parametersLabel := b }
  | "append_status_label", .boolean b => some { c with statusLabel := b }
  | "labeled_build_parameter_names", value =>
    (items? text? value).map fun names => { c with labelledParameters := names }
  | "process_disabled_jobs", .boolean b => some { c with includeDisabledJobs := b }
  | "collect_disk_usage", .boolean b => some { c with collectDiskUsage := b }
  | "collect_coverage", .boolean b => some { c with collectCoverage := b }
  | "collecting_metrics_period_in_seconds", .integer n =>
    if 0 ≤ n ∧ n < UInt64.size then some { c with period := .ofNat n.toNat } else none
  | "summary_quantiles", value =>
    (items? number? value).map fun quantiles => { c with quantiles }
  | "disabled_metrics", value => (items? rule? value).map fun rules => { c with rules }
  | _, _ => none

def ofToml (text : String) : Except ConfigError Config :=
  match Toml.document? text with
  | none => .error .malformed
  | some entries =>
    match entries.foldlM (fun c entry => c.set? entry.1 entry.2) initial with
    | some c => .ok c
    | none => .error .malformed

/-- Reads a configuration from the bytes of a file. There are none if the file does not exist. -/
def ofFile (contents : Option ByteArray) : Except ConfigError Config :=
  match contents.bind String.fromUTF8? with
  | some text => ofToml text
  | none => .error .unreadable

end Config

end BuildTelemetry
