import BuildTelemetry.Settings.Config
import BuildTelemetry.Pattern.Document

/-!
# Suppression policy

The rules of a configuration with their patterns read. A name is suppressed if any rule that
applies to it matches.

* `Policy.compile`: reads the patterns of all rules, and fails with the first that is invalid.
* `Policy.allowsMetric`, `Policy.allowsJob`: whether no rule matches a name.
-/

namespace BuildTelemetry

/-- A rule whose pattern was read. -/
inductive CompiledRule where
  | metricName (name : String)
  | metricPattern (pattern : Pattern.Node)
  | jobPattern (pattern : Pattern.Node)
deriving DecidableEq, Repr

/-- Equality of names up to the case of ASCII letters. -/
def sameNameIgnoringCase (a b : String) : Bool :=
  a.toList.map Char.toLower == b.toList.map Char.toLower

namespace CompiledRule

def deniesMetric (name : String) : CompiledRule → Bool
  | metricName denied => sameNameIgnoringCase denied name
  | metricPattern pattern => pattern.occursIn name
  | jobPattern _ => false

def deniesJob (name : String) : CompiledRule → Bool
  | jobPattern pattern => pattern.occursIn name
  | _ => false

end CompiledRule

/-- Reads the pattern of a rule. It has to match whole names. It fails with the pattern as it was
written. -/
def Rule.compile : Rule → Except String CompiledRule
  | metricName name => .ok (.metricName name)
  | metricPattern pattern => do .ok (.metricPattern (← compilePattern pattern))
  | jobPattern pattern => do .ok (.jobPattern (← compilePattern pattern))
where
  compilePattern (pattern : String) : Except String Pattern.Node :=
    match Pattern.compile? (Pattern.wholeText pattern) with
    | some node => .ok node
    | none => .error pattern

/-- The rules in force. -/
structure Policy where
  rules : List CompiledRule
deriving DecidableEq, Repr

namespace Policy

def allowAll : Policy := ⟨[]⟩

/-- Reads rules in order, up to the first with an invalid pattern. -/
def compile (rules : List Rule) : Except String Policy :=
  Policy.mk <$> rules.mapM Rule.compile

/-- Whether a metric may be exposed. -/
def allowsMetric (p : Policy) (name : String) : Bool := !p.rules.any (·.deniesMetric name)

/-- Whether a job may contribute samples. -/
def allowsJob (p : Policy) (name : String) : Bool := !p.rules.any (·.deniesJob name)

end Policy

end BuildTelemetry
