import BuildTelemetry.Settings.Basic
import BuildTelemetry.Exposition.Text

/-!
# Registry

What a scrape exposes of the families that were collected: those with samples whose exposed name is
not suppressed.

* `isExposed`: whether a family is exposed.
* `exposed`: the exposed families, in their order.
-/

namespace BuildTelemetry

/-- Whether a family is exposed. Without settings nothing is suppressed. -/
def isExposed (settings : Option Settings) (f : MetricFamily) : Bool :=
  !f.isEmpty && settings.all fun s => s.policy.allowsMetric f.name

def exposed (settings : Option Settings) (families : List MetricFamily) : List MetricFamily :=
  families.filter (isExposed settings)

end BuildTelemetry
