import Narrative.Dialog.Graph

/-!
# Offer graphs

An offer graph says which dialog a character offers as the story goes on. It is a graph whose
content nodes name dialogs; it is stored among the dialog states of a bundle.
-/

namespace Narrative

/-- A node of an offer graph. -/
inductive OfferNode where
  /-- Where the walk starts. -/
  | start
  /-- A dialog to offer once its guard holds. -/
  | content (dialog : String) (guard : Option Condition)
  /-- A branch that the conditions decide. -/
  | branch (options : List BranchOption)
  /-- Where nothing further is offered. -/
  | finish
  deriving DecidableEq

namespace OfferNode

instance : NodeKind OfferNode where
  isStart
    | start => true
    | _ => false
  label
    | start => "Start"
    | content .. => "Content"
    | branch _ => "Branch"
    | finish => "End"

/-- The stored form. -/
def format : Format OfferNode :=
  Format.tagged "type"
    [.plain "Start" start (· == start),
      .record "Content"
        (.field (.required "dialog" Format.text) <|
          .field (.optional "guard" Condition.format) .done)
        (fun (dialog, guard, ()) => content dialog guard) fun
        | content dialog guard => some (dialog, guard, ())
        | _ => none,
      .record "Branch" (.field (.required "options" (Format.list BranchOption.format)) .done)
        (fun (options, ()) => branch options) fun
        | branch options => some (options, ())
        | _ => none,
      .plain "End" finish (· == finish)]

end OfferNode

/-- A graph of the dialogs a character offers. -/
abbrev OfferGraph := Graph OfferNode

end Narrative
