import Narrative.Format.Document
import Narrative.Format.Record

/-!
# Settings of the lint

Each area can be switched off as a whole, and some of its checks by themselves.
-/

namespace Narrative.Lint

/-- The settings of the checks on wiring. -/
structure WiringSettings where
  /-- Whether the area is looked at. -/
  enabled : Bool
  /-- Whether a port that a walk follows has to be wired. -/
  unconnectedPorts : Bool
  deriving DecidableEq, Repr

namespace WiringSettings

/-- All checks. -/
def standard : WiringSettings := ⟨true, true⟩

/-- The stored form. -/
def format : Format WiringSettings :=
  Format.record
    (.field (.withDefault "enabled" Format.boolean standard.enabled) <|
      .field (.withDefault "check_unconnected_ports" Format.boolean standard.unconnectedPorts)
      .done)
    (fun (enabled, unconnectedPorts, ()) => ⟨enabled, unconnectedPorts⟩)
    fun settings => (settings.enabled, settings.unconnectedPorts, ())

end WiringSettings

/-- The settings of the checks on references. -/
structure ReferenceSettings where
  /-- Whether the area is looked at. -/
  enabled : Bool
  /-- Whether cells have to be declared. -/
  states : Bool
  /-- Whether graphs have to exist. -/
  graphs : Bool
  /-- Whether declared cells have to be used. -/
  unused : Bool
  deriving DecidableEq, Repr

namespace ReferenceSettings

/-- All checks but that for unused cells, which the host may read by itself. -/
def standard : ReferenceSettings := ⟨true, true, true, false⟩

/-- The stored form. -/
def format : Format ReferenceSettings :=
  Format.record
    (.field (.withDefault "enabled" Format.boolean standard.enabled) <|
      .field (.withDefault "check_states" Format.boolean standard.states) <|
      .field (.withDefault "check_graphs" Format.boolean standard.graphs) <|
      .field (.withDefault "check_unused" Format.boolean standard.unused) .done)
    (fun (enabled, states, graphs, unused, ()) => ⟨enabled, states, graphs, unused⟩)
    fun settings => (settings.enabled, settings.states, settings.graphs, settings.unused, ())

end ReferenceSettings

/-- The settings of the checks on the flow. -/
structure FlowSettings where
  /-- Whether the area is looked at. -/
  enabled : Bool
  /-- Whether every node has to be reachable. -/
  reachability : Bool
  /-- Whether every branch has to have an option that is always open. -/
  fallback : Bool
  deriving DecidableEq, Repr

namespace FlowSettings

/-- All checks. -/
def standard : FlowSettings := ⟨true, true, true⟩

/-- The stored form. -/
def format : Format FlowSettings :=
  Format.record
    (.field (.withDefault "enabled" Format.boolean standard.enabled) <|
      .field (.withDefault "check_reachability" Format.boolean standard.reachability) <|
      .field (.withDefault "check_fallback" Format.boolean standard.fallback) .done)
    (fun (enabled, reachability, fallback, ()) => ⟨enabled, reachability, fallback⟩)
    fun settings => (settings.enabled, settings.reachability, settings.fallback, ())

end FlowSettings

/-- The settings of the checks on quality. -/
structure QualitySettings where
  /-- Whether the area is looked at. -/
  enabled : Bool
  /-- The number of characters a line should not exceed. -/
  longest : Nat
  deriving DecidableEq, Repr

namespace QualitySettings

/-- All checks, with lines of up to two hundred characters. -/
def standard : QualitySettings := ⟨true, 200⟩

/-- The stored form. -/
def format : Format QualitySettings :=
  Format.record
    (.field (.withDefault "enabled" Format.boolean standard.enabled) <|
      .field (.withDefault "max_text_length" Format.natural standard.longest) .done)
    (fun (enabled, longest, ()) => ⟨enabled, longest⟩)
    fun settings => (settings.enabled, settings.longest, ())

end QualitySettings

/-- What is looked for. -/
structure Settings where
  /-- The checks on wiring. -/
  wiring : WiringSettings
  /-- The checks on references. -/
  references : ReferenceSettings
  /-- The checks on the flow. -/
  flow : FlowSettings
  /-- The checks on quality. -/
  quality : QualitySettings
  deriving DecidableEq, Repr

namespace Settings

/-- The settings in use where none are given. -/
def standard : Settings := ⟨.standard, .standard, .standard, .standard⟩

instance : Inhabited Settings := ⟨standard⟩

/-- The stored form. -/
def format : Format Settings :=
  Format.record
    (.field (.withDefault "structure" WiringSettings.format standard.wiring) <|
      .field (.withDefault "references" ReferenceSettings.format standard.references) <|
      .field (.withDefault "flow" FlowSettings.format standard.flow) <|
      .field (.withDefault "quality" QualitySettings.format standard.quality) .done)
    (fun (wiring, references, flow, quality, ()) => ⟨wiring, references, flow, quality⟩)
    fun settings => (settings.wiring, settings.references, settings.flow, settings.quality, ())

/-- The settings of a text. -/
def ofText (source : String) : Except DocumentError Settings := format.ofText source

end Settings

end Narrative.Lint
