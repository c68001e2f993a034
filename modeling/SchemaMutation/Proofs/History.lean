import SchemaMutation.Proofs.Assembly
import SchemaMutation.Registry

/-!
# The history of a registry

What a registry answers in a run of requests. Every answer is given from the snapshot that was published last, whole; a
refresh that fails changes nothing; and the snapshots that were replaced, with the one in force behind them, are all
that were published, in their order (`Registry.run_recorded`).
-/

namespace SchemaMutation

open Schema (Snapshot)
open Catalog (Source Engine)

namespace Registry

inductive Request where
  | publish (s : Snapshot)
  | refresh (source : Source) (engine : Engine) (blockList : BlockList)
  | read

inductive Reply where
  | replaced (s : Snapshot)
  | refreshed (changed : Bool)
  | failed (e : Error)
  | snapshot (s : Snapshot)

def answer (r : Registry) : Request → Registry × Reply
  | .publish s =>
    let (next, replaced) := r.publish s
    (next, .replaced replaced)
  | .refresh source engine blockList =>
    match r.refresh source engine blockList with
    | (next, .ok changed) => (next, .refreshed changed)
    | (next, .error e) => (next, .failed e)
  | .read => (r, .snapshot r.current)

/-- A request with its answer, and the registry before and after it. -/
structure Event where
  before : Registry
  request : Request
  reply : Reply
  after : Registry

def event (r : Registry) (request : Request) : Event := ⟨r, request, (r.answer request).2, (r.answer request).1⟩

def events (r : Registry) : List Request → List Event
  | [] => []
  | request :: rest => r.event request :: (r.event request).after.events rest

def after (r : Registry) (requests : List Request) : Registry :=
  requests.foldl (fun r request => (r.event request).after) r

/-- The snapshot that a request publishes: the one that it brings along, or the one that is discovered for it. -/
def Request.published? : Request → Option Snapshot
  | .publish s => some s
  | .refresh source engine blockList => (Schema.Discovery.snapshot source engine blockList).toOption
  | .read => none

def published (requests : List Request) : List Snapshot := requests.filterMap Request.published?

/-- The snapshot that is published last, which is the first one if none is published after it. -/
def latest (first : Snapshot) (requests : List Request) : Snapshot := (published requests).getLastD first

theorem latest_cons (first : Snapshot) (request : Request) (rest : List Request) :
    latest first (request :: rest) = latest (request.published?.getD first) rest := by
  unfold latest published
  cases offered : request.published? with
  | none => rw [List.filterMap_cons_none offered, Option.getD_none]
  | some s => rw [List.filterMap_cons_some offered, List.getLastD_cons, Option.getD_some]

/-- The answers that are right, each with what becomes of the registry. -/
inductive Event.Right : Event → Prop
  | published {r : Registry} {s : Snapshot} : Right ⟨r, .publish s, .replaced r.current, .new s⟩
  /-- A refresh whose queries are answered tells whether the hash of what it discovered is another one. -/
  | refreshed {r : Registry} {source : Source} {engine : Engine} {blockList : BlockList} {s : Snapshot} {changed : Bool}
      (answered : source.fault? = none) (discovered : Schema.Discovery.snapshot source engine blockList = .ok s)
      (differs : changed = true ↔ s.hash ≠ r.current.hash) :
      Right ⟨r, .refresh source engine blockList, .refreshed changed, .new s⟩
  /-- A refresh with a query that fails reports it and leaves everything as it was. -/
  | failed {r : Registry} {source : Source} {engine : Engine} {blockList : BlockList} {e : Error}
      (fault : source.fault? = some e) : Right ⟨r, .refresh source engine blockList, .failed e, r⟩
  | read {r : Registry} : Right ⟨r, .read, .snapshot r.current, r⟩

def Event.replaced? (e : Event) : Option Snapshot :=
  match e.reply with
  | .replaced s => some s
  | .refreshed _ => some e.before.current
  | .failed _ => none
  | .snapshot _ => none

section
variable (r : Registry) {source : Source} {engine : Engine} {blockList : BlockList}

theorem event_of_failure {e : Error} (refused : Schema.Discovery.snapshot source engine blockList = .error e) :
    r.event (.refresh source engine blockList) = ⟨r, .refresh source engine blockList, .failed e, r⟩ := by
  simp only [event, answer, refresh, refused]

theorem event_of_discovery {s : Snapshot} (discovered : Schema.Discovery.snapshot source engine blockList = .ok s) :
    r.event (.refresh source engine blockList) =
      ⟨r, .refresh source engine blockList, .refreshed (r.current.hash != s.hash), .new s⟩ := by
  simp only [event, answer, refresh, discovered, publish, new]

end

/-- The answer to a request is right, puts in force what the request publishes, and replaces a snapshot exactly when the
    request publishes another one. -/
theorem event_spec (r : Registry) (request : Request) :
    (r.event request).Right ∧ (r.event request).after.current = request.published?.getD r.current ∧
      (r.event request).replaced? = request.published?.map fun _ => r.current := by
  cases request with
  | publish s => exact ⟨.published, rfl, rfl⟩
  | read => exact ⟨.read, rfl, rfl⟩
  | refresh source engine blockList =>
    rcases Schema.Discovery.snapshot_cases source engine blockList with
      ⟨e, fault, refused⟩ | ⟨answered, s, discovered⟩
    · rw [r.event_of_failure refused, Request.published?, refused]
      exact ⟨.failed fault, rfl, rfl⟩
    · rw [r.event_of_discovery discovered, Request.published?, discovered]
      exact ⟨.refreshed answered discovered (bne_iff_ne.trans ne_comm), rfl, rfl⟩

theorem events_append (r : Registry) (requests more : List Request) :
    r.events (requests ++ more) = r.events requests ++ (r.after requests).events more := by
  induction requests generalizing r with
  | nil => rfl
  | cons request rest ih => exact congrArg (r.event request :: ·) (ih (r.event request).after)

theorem after_current (r : Registry) (requests : List Request) :
    (r.after requests).current = latest r.current requests := by
  induction requests generalizing r with
  | nil => rfl
  | cons request rest ih =>
    rw [latest_cons, ← (r.event_spec request).2.1]
    exact ih (r.event request).after

theorem events_requests (r : Registry) (requests : List Request) :
    (r.events requests).map (·.request) = requests := by
  induction requests generalizing r with
  | nil => rfl
  | cons request rest ih => exact congrArg (request :: ·) (ih (r.event request).after)

theorem eq_event_of_split {r : Registry} {requests : List Request} {earlier later : List Event} {e : Event}
    (split : r.events requests = earlier ++ e :: later) :
    e = (r.after (earlier.map (·.request))).event e.request := by
  induction earlier generalizing r requests with
  | nil =>
    cases requests with
    | nil => cases split
    | cons request rest =>
      obtain ⟨same, _⟩ := List.cons.inj split
      rw [← same]
      rfl
  | cons first earlier ih =>
    cases requests with
    | nil => cases split
    | cons request rest =>
      obtain ⟨same, others⟩ := List.cons.inj split
      rw [← same]
      exact ih others

/-- Every snapshot that is published is replaced by the next one, but for the last. -/
theorem events_replaced (r : Registry) (requests : List Request) :
    (r.events requests).filterMap Event.replaced? ++ [(r.after requests).current] =
      r.current :: published requests := by
  induction requests generalizing r with
  | nil => rfl
  | cons request rest ih =>
    obtain ⟨_, inForce, replaced⟩ := r.event_spec request
    have later : ((r.event request).after.events rest).filterMap Event.replaced? ++
        [(r.after (request :: rest)).current] = (r.event request).after.current :: published rest :=
      ih (r.event request).after
    have events : r.events (request :: rest) = r.event request :: (r.event request).after.events rest := rfl
    rw [inForce] at later
    rw [events]
    cases offered : request.published? with
    | none =>
      rw [offered, Option.map_none] at replaced
      rw [List.filterMap_cons_none replaced, later, published, published, List.filterMap_cons_none offered, offered,
        Option.getD_none]
    | some s =>
      rw [offered, Option.map_some] at replaced
      rw [List.filterMap_cons_some replaced, List.cons_append, later, published, published,
        List.filterMap_cons_some offered, offered, Option.getD_some]

/-- What the events of a run tell. -/
structure History (first : Snapshot) (requests : List Request) (events : List Event) (last : Registry) : Prop where
  asked : events.map (·.request) = requests
  right : ∀ e ∈ events, e.Right
  inForce : ∀ earlier e later, events = earlier ++ e :: later →
    e.before.current = latest first (earlier.map (·.request))
  ended : last.current = latest first requests
  replaced : events.filterMap Event.replaced? ++ [last.current] = first :: published requests
  /-- Whatever is asked for later, all answers that were given stay as they are. -/
  kept : ∀ more, events <+: (new first).events (requests ++ more)

theorem run_history (first : Snapshot) (requests : List Request) :
    History first requests ((new first).events requests) ((new first).after requests) where
  asked := events_requests (new first) requests
  right := by
    intro e member
    obtain ⟨earlier, later, split⟩ := List.append_of_mem member
    rw [eq_event_of_split split]
    exact (event_spec _ _).1
  inForce := by
    intro earlier e later split
    rw [eq_event_of_split split]
    exact after_current (new first) _
  ended := after_current (new first) requests
  replaced := events_replaced (new first) requests
  kept := fun more => ⟨_, (events_append (new first) requests more).symm⟩

/-- What a registry is made of: a snapshot, or a catalog that the first snapshot is discovered from. -/
inductive Origin where
  | snapshot (s : Snapshot)
  | catalog (source : Source) (engine : Engine) (blockList : BlockList)

namespace Origin

def registry : Origin → Except Error Registry
  | .snapshot s => .ok (new s)
  | .catalog source engine blockList => load source engine blockList

def fault? : Origin → Option Error
  | .snapshot _ => none
  | .catalog source _ _ => source.fault?

def first? : Origin → Option Snapshot
  | .snapshot s => some s
  | .catalog source engine blockList => (Schema.Discovery.snapshot source engine blockList).toOption

end Origin

def run (origin : Origin) (requests : List Request) : Except Error (List Event × Registry) :=
  origin.registry.map fun r => (r.events requests, r.after requests)

inductive Recorded (origin : Origin) (requests : List Request) : Except Error (List Event × Registry) → Prop
  | unmade {e : Error} (fault : origin.fault? = some e) : Recorded origin requests (.error e)
  | made {first : Snapshot} {events : List Event} {last : Registry} (sound : origin.fault? = none)
      (begins : origin.first? = some first) (history : History first requests events last) :
      Recorded origin requests (.ok (events, last))

/-- A registry is made unless a query for its first snapshot fails. From then on every answer is given from the snapshot
    that was published last; a publication gives what it replaces, and a refresh tells whether the hash is another one;
    a refresh fails exactly when one of its queries does, and then changes nothing; and what was replaced, with what is
    in force behind it, is what was published. An answer that was given never changes. -/
theorem run_recorded (origin : Origin) (requests : List Request) :
    Recorded origin requests (run origin requests) := by
  cases origin with
  | snapshot s => exact .made rfl rfl (run_history s requests)
  | catalog source engine blockList =>
    rcases Schema.Discovery.snapshot_cases source engine blockList with
      ⟨e, fault, refused⟩ | ⟨answered, s, discovered⟩
    · simp only [run, Origin.registry, load, refused]
      exact .unmade fault
    · have begins : (Origin.catalog source engine blockList).first? = some s := by
        simp only [Origin.first?, discovered, Except.toOption]
      simp only [run, Origin.registry, load, discovered]
      exact .made answered begins (run_history s requests)

end Registry

end SchemaMutation
