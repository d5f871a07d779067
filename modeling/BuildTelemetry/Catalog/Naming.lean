import BuildTelemetry.Catalog.Kind

/-!
# Names of metrics

A metric has two full names. The qualified name is the one that rules are written against; the
exposed name also carries a group and a qualifier, such as `last` for the metrics of a last build.

* `qualifiedName`: namespace, subsystem and short name.
* `exposedName`: namespace, subsystem, group, qualifier and short name.
* `Descriptor.of`: how a metric is announced.
-/

namespace BuildTelemetry

/-- The subsystem that every metric name is placed under. -/
def subsystem : String := "jenkins"

/-- The group in the exposed names of build and job metrics. -/
def buildsGroup : String := "builds"

namespace MetricKind

def group : MetricKind → Option String
  | build _ => some buildsGroup
  | job _ => some buildsGroup
  | _ => none

/-- The name that rules are written against. -/
def qualifiedName (k : MetricKind) (nameSpace : String) : String :=
  nameSpace ++ "_" ++ subsystem ++ "_" ++ k.name

/-- The name that a metric is exposed under. An empty qualifier is left out. -/
def exposedName (k : MetricKind) (nameSpace : String) (qualifier : Option String) : String :=
  let parts := k.group.toList ++ (qualifier.filter fun q => !q.isEmpty).toList
  nameSpace ++ "_" ++ subsystem ++ String.join (parts.map ("_" ++ ·)) ++ "_" ++ k.name

end MetricKind

/-- How a metric is announced: its exposed name, help, type and unit. -/
structure Descriptor where
  name : String
  help : String
  type : MetricType
  unit : Option MetricUnit
deriving DecidableEq, Repr

/-- The descriptor of a metric. The help text ends with a full stop. -/
def Descriptor.of (k : MetricKind) (nameSpace : String) (qualifier : Option String) : Descriptor :=
  ⟨k.exposedName nameSpace qualifier, k.help ++ ".", k.type, k.unit⟩

end BuildTelemetry
