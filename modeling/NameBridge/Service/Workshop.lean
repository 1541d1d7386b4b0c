import NameBridge.Service.Reading
import NameBridge.Service.State

/-!
The workshop: a service together with the files its builds read.

A build opens the files of its two sides one by one. A location may be held; then a build that comes
to it waits until it is let go. Builds make progress only in `Workshop.wait`, where every task runs
as far as it can, in the order in which the tasks were started.
-/

namespace NameBridge

/-- A service and the files it reads. -/
structure Workshop where
  service : Service := .initial
  files : FileTree := .empty
  /-- Where relative locations start. -/
  base : Option String := none
  options : ReadOptions := {}
  /-- The locations that cannot be opened for now. -/
  held : List String := []
  /-- The locations that have been opened, or could not be, the latest first. -/
  openings : List String := []
  /-- The builds that wait, by profile. -/
  readings : List (Profile × PairReading) := []

namespace Workshop

def request (w : Workshop) (profile : Option Profile) : LoadStatus × Workshop :=
  let (status, service) := w.service.request profile
  (status, { w with service })

def hold (w : Workshop) (location : String) : Workshop := { w with held := location :: w.held }

def letGo (w : Workshop) (location : String) : Workshop :=
  { w with held := w.held.filter (· != location) }

/-- Open up to `count` locations of one side, as far as none is held. -/
def readSide (w : Workshop) (r : SideReading) : Nat → Workshop × SideReading
  | 0 => (w, r)
  | count + 1 =>
    match r.next? with
    | none => (w, r)
    | some location =>
      if location ∈ w.held then (w, r)
      else
        let path := Path.ofLocation w.base location
        let file := (w.files.openFile path).map (FileReading.ofSource path)
        readSide { w with openings := location :: w.openings } (r.take file) count

/-- Go on with the build of a profile, and give its outcome if it ends. -/
def readPair (w : Workshop) (p : Profile) : Workshop × Option (Except TableError (Table × Table)) :=
  let r := (w.readings.lookup p).getD (.ofProfile p)
  let (w, community) := w.readSide r.community p.community.locations.length
  let (w, canonical) := w.readSide r.canonical p.canonical.locations.length
  let r : PairReading :=
    ⟨community.settle w.files w.options, canonical.settle w.files w.options⟩
  let others := w.readings.filter (·.1 ≠ p)
  match r.outcome? with
  | some outcome => ({ w with readings := others }, some outcome)
  | none => ({ w with readings := (p, r) :: others }, none)

/-- Run the tasks from task `i` on, each as far as it can go, in at most `fuel` steps. -/
def runTasks (w : Workshop) (i : Nat) : Nat → Workshop
  | 0 => w
  | fuel + 1 =>
    match w.service.tasks[i]? with
    | none => w
    | some (.building p) =>
      match w.readPair p with
      | (w, none) => runTasks w (i + 1) fuel
      | (w, some outcome) => runTasks { w with service := w.service.finish i outcome } i fuel
    | some (.built _) => runTasks { w with service := w.service.release i } i fuel
    | some (.released _) => runTasks { w with service := w.service.decide i } i fuel
    | some (.superseded _) => runTasks { w with service := w.service.reclaim i } i fuel

/-- Enough steps for all tasks: a task ends after one build, or builds the requested profile next and
ends after that. -/
def enoughSteps (w : Workshop) : Nat := 8 * w.service.tasks.length + 1

/-- Wait for the builds of some ids: if one of them is in flight, run all tasks as far as they can
go. -/
def wait (w : Workshop) (ids : List String) : Workshop :=
  if ids.any (· ∈ w.service.claimed) then w.runTasks 0 w.enoughSteps else w

end Workshop

end NameBridge
