import DeviceCatalog.Directory.Request
import DeviceCatalog.Substrate.Link

/-!
# Deployments

A directory keeps no state of its own beyond its layout and its clock, so any number of them can
work over one substrate. A deployment is such a group: the shared link and, for each directory,
the layout and the clock that it works with.
-/

namespace DeviceCatalog

/-- A directory in a log, where only its layout is shown; the substrate and the clock are not. -/
def Directory.describe (layout : Layout) : String :=
  "DeviceStore \x7b layout: " ++ layout.describe ++ ", .. \x7d"

/-- One directory of a deployment. -/
structure Station (source : Type) where
  layout : Layout
  clock : source

/-- Directories over one substrate. -/
structure Deployment (source : Type) where
  link : Link
  stations : List (Station source)

namespace Deployment

variable {source : Type}

/-- Directories over an empty substrate. -/
def start (stations : List (Station source)) : Deployment source := ⟨.empty, stations⟩

/-- Carries out an action at one station; there is no result when there is no such station. -/
def perform [Clock source] {result : Type} (deployment : Deployment source) (index : Nat)
    (action : Layout → Directory.Action result) :
    Option (Except Error result × Deployment source) :=
  deployment.stations[index]?.map fun station =>
    match (action station.layout).run.run deployment.link station.clock with
    | (outcome, link, clock) =>
      (outcome,
        { link := link
          stations := deployment.stations.set index { station with clock := clock } })

end Deployment

end DeviceCatalog
