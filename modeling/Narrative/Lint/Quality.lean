import Narrative.Lint.Issue
import Narrative.Lint.Settings
import Narrative.Text.Blank

/-!
# Quality

Lines are not too long, what the player reads is not blank, and no branch is empty.
-/

namespace Narrative.Lint

/-- Whether a text shows nothing. -/
def isBlankText (text : String) : Bool := text.toList.all Text.isBlank

/-- What is wrong with a line. -/
def lineFaults (settings : QualitySettings) (line : Line) : List Fault :=
  if settings.longest < line.text.length then [.lineLong line.text.length settings.longest]
  else if isBlankText line.text then [.lineBlank]
  else []

/-- A branch without options. -/
def emptyFaults {α : Type} (options : List α) : List Fault :=
  if options.isEmpty then [.branchEmpty] else []

/-- Options that show nothing. -/
def blankFaults (options : List DialogOption) : List Fault :=
  options.zipIdx.filterMap fun (option, index) =>
    if isBlankText option.text then some (.optionBlank index) else none

/-- What is wrong with the texts of a node of a dialog. -/
def dialogQuality (settings : QualitySettings) : DialogNode → List Fault
  | .line line => lineFaults settings line
  | .branch _ options => emptyFaults options ++ blankFaults options
  | _ => []

/-- What is wrong with a node of the scenario, if it is a branch. -/
def scenarioQuality : ScenarioNode → List Fault
  | .branch options => emptyFaults options
  | _ => []

/-- What is wrong with a node of an offer graph, if it is a branch. -/
def offerQuality : OfferNode → List Fault
  | .branch options => emptyFaults options
  | _ => []

/-- What is wrong with the texts of a bundle. -/
def qualityIssues (settings : QualitySettings) (bundle : Bundle) : List Issue :=
  bundle.dialogs.toList.flatMap (fun (key, dialog) =>
      atNodes (.dialog key) dialog.graph fun node => dialogQuality settings node.kind)
    ++ bundle.scenario.elim [] (fun scenario =>
      atNodes (.scenario scenario.name) scenario fun node => scenarioQuality node.kind)
    ++ bundle.offers.toList.flatMap fun (key, offers) =>
      atNodes (.offers key) offers fun node => offerQuality node.kind

end Narrative.Lint
