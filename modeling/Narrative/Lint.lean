import Narrative.Lint.Flow
import Narrative.Lint.Quality
import Narrative.Lint.References
import Narrative.Lint.Wiring

/-!
# Lint

The lint looks for what would go wrong in play before anybody plays. It reports the issues of
each area in turn.
-/

namespace Narrative.Lint

/-- What the lint has found. -/
structure Report where
  /-- The issues in the order in which they were found. -/
  issues : List Issue
  deriving DecidableEq, Repr

namespace Report

/-- The number of issues of a severity. -/
def count (report : Report) (severity : Severity) : Nat :=
  report.issues.countP fun issue => issue.severity == severity

/-- Whether anything must be mended. -/
def hasErrors (report : Report) : Bool := 0 < report.count .error

/-- Whether nothing was found. -/
def isClean (report : Report) : Bool := report.issues.isEmpty

/-- The issues of the area of a name. -/
def inArea (report : Report) (name : String) : List Issue :=
  report.issues.filter fun issue => Enumerated.name issue.area == name

/-- The stored form. -/
def document (report : Report) : Json :=
  .object
    [("issues", .ofList Issue.document report.issues),
      ("error_count", .ofNat (report.count .error)),
      ("warning_count", .ofNat (report.count .warning)),
      ("info_count", .ofNat (report.count .info))]

end Report

/-- Look for issues in a bundle. -/
def report (settings : Settings) (bundle : Bundle) : Report :=
  ⟨(if settings.wiring.enabled then wiringIssues settings.wiring bundle else [])
    ++ (if settings.references.enabled then referenceIssues settings.references bundle else [])
    ++ (if settings.flow.enabled then flowIssues settings.flow bundle else [])
    ++ if settings.quality.enabled then qualityIssues settings.quality bundle else []⟩

end Narrative.Lint
