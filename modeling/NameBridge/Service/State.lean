import NameBridge.Load

/-!
The service that keeps the tables of the requested profile at hand.

Builds run in the background. A request starts one unless the pair it asks for is published already
or a build of the same id is in flight. A build that ends publishes its pair only if its profile is
the one requested at that moment; then it gives up its claim on the id, and goes on with the profile
requested by now if that has the same id and other sources.

The state changes in small steps: requests, and for each running task the end of its build, the
release of its claim, the decision whether to go on, and the new claim. `Service.step` takes them in
any order.
-/

namespace NameBridge

/-- The answer to a request. -/
inductive LoadStatus where
  /-- The pair of the profile is published. -/
  | availableNow
  /-- A build is in flight. -/
  | pending
  /-- Nothing is requested any more. -/
  | disabled
  deriving DecidableEq, Repr

/-- Where a background task stands. -/
inductive Task where
  /-- It builds the pair of this profile and holds a claim on its id. -/
  | building (profile : Profile)
  /-- The build has ended; the claim is still held. -/
  | built (profile : Profile)
  /-- The claim is given up. -/
  | released (profile : Profile)
  /-- It will build this profile next if nobody else claims the id first. -/
  | superseded (next : Profile)
  deriving DecidableEq, Repr

structure Service where
  /-- The pair that readers see. -/
  published : Option MappingPair := none
  /-- The profile asked for most recently. -/
  requested : Option Profile := none
  /-- The ids with a build in flight. -/
  claimed : List String := []
  /-- The background tasks, in the order they were started. -/
  tasks : List Task := []
  /-- Why the most recent failed build failed; forgotten when a pair is published. -/
  lastError : Option TableError := none
  /-- How often the published pair has changed. -/
  generation : Nat := 0

namespace Service

def initial : Service := {}

/-- Whether the published pair is that of the profile, in every field. -/
def publishes (s : Service) (profile : Profile) : Bool :=
  s.published.any (·.profile == profile)

/-! ## Requests -/

/-- Withdraw the request and the published pair. -/
def clear (s : Service) : Service :=
  match s.published with
  | some _ => { s with requested := none, published := none, generation := s.generation + 1 }
  | none => { s with requested := none }

/-- Ask for the pair of a profile, or for none. -/
def request (s : Service) : Option Profile → LoadStatus × Service
  | none => (.disabled, s.clear)
  | some profile =>
    let s := { s with requested := some profile }
    if s.publishes profile then (.availableNow, s)
    else if profile.id ∈ s.claimed then (.pending, s)
    else
      (.pending,
        { s with claimed := profile.id :: s.claimed, tasks := s.tasks ++ [.building profile] })

/-! ## Builds -/

/-- Publish a pair if its profile is the one requested. -/
def publish (s : Service) (pair : MappingPair) : Service :=
  if s.requested = some pair.profile then
    { s with published := some pair, lastError := none, generation := s.generation + 1 }
  else s

/-- Take the outcome of a build. -/
def conclude (s : Service) : Except TableError MappingPair → Service
  | .ok pair => s.publish pair
  -- noted even if the profile is no longer wanted
  | .error e => { s with lastError := some e }

/-- The requested profile, if it has the id of the one built, other sources, and is not published. -/
def successor? (s : Service) (built : Profile) : Option Profile :=
  match s.requested with
  | none => none
  | some next =>
    if next.id ≠ built.id ∨ next = built ∨ s.publishes next then none else some next

def moveTask (s : Service) (i : Nat) (task : Task) : Service := { s with tasks := s.tasks.set i task }

def endTask (s : Service) (i : Nat) : Service := { s with tasks := s.tasks.eraseIdx i }

/-- The tables of task `i` are built, or one of them has failed. -/
def finish (s : Service) (i : Nat) (outcome : Except TableError (Table × Table)) : Service :=
  match s.tasks[i]? with
  | some (.building profile) =>
    (s.conclude (outcome.map fun (community, canonical) => ⟨profile, community, canonical⟩)).moveTask i
      (.built profile)
  | _ => s

/-- Task `i` gives up its claim. -/
def release (s : Service) (i : Nat) : Service :=
  match s.tasks[i]? with
  | some (.built profile) =>
    { s with claimed := s.claimed.erase profile.id }.moveTask i (.released profile)
  | _ => s

/-- Task `i` looks whether there is something to build in place of what it has built. -/
def decide (s : Service) (i : Nat) : Service :=
  match s.tasks[i]? with
  | some (.released profile) =>
    match s.successor? profile with
    | some next => s.moveTask i (.superseded next)
    | none => s.endTask i
  | _ => s

/-- Task `i` claims the id again. -/
def reclaim (s : Service) (i : Nat) : Service :=
  match s.tasks[i]? with
  | some (.superseded next) =>
    -- a request that came in between may have claimed it
    if next.id ∈ s.claimed then s.endTask i
    else { s with claimed := next.id :: s.claimed }.moveTask i (.building next)
  | _ => s

inductive Event where
  | request (profile : Option Profile)
  | finish (i : Nat) (outcome : Except TableError (Table × Table))
  | release (i : Nat)
  | decide (i : Nat)
  | reclaim (i : Nat)

def step (s : Service) : Event → Service
  | .request profile => (s.request profile).2
  | .finish i outcome => s.finish i outcome
  | .release i => s.release i
  | .decide i => s.decide i
  | .reclaim i => s.reclaim i

def run (s : Service) (events : List Event) : Service := events.foldl step s

end Service

end NameBridge
