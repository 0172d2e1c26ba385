import TieredCache.Session.DiskSteps
import TieredCache.Session.FrontSteps
import TieredCache.Session.LayerSteps
import TieredCache.Session.Lookups
import TieredCache.Time.Clock

/-!
Taking the steps of a session. After a step's own work the requests that it sent are answered, then
the clean checks run that have become due, and then the files that were used get their time.
-/

namespace TieredCache.Session

/-- Shuts down the front of assembled caches, and then the tiers that it may not reach. -/
def shutDownAll (session : Session) : List Job :=
  match session.tiers with
  | none => []
  | some tiers =>
      let reached := match session.front? tiers.front with
        | some (.single _ layer) => [layer]
        | some (.tiered _ first second) => [first, second]
        | none => []
      works ((reached ++ tiers.disk.toList ++ tiers.remote.toList).map .shutDown)

def start (session : Session) (default : String) (step : Step) : Started :=
  let label := step.label?.getD default
  let clock : Clock := ⟨session.now⟩
  let setClock (clock : Clock) : Started :=
    { session with stack := { session.stack with now := clock.now } }.answered (.time clock.now)
  match step.action with
  | .advance span => setClock (clock.advance span)
  | .setTime time => setClock (clock.set time)
  | .disk action => session.startDisk action
  | .service action => session.startService action
  | .layer index action => session.startLayer label step.further index action
  | .front place action => session.startFront label step.further place action
  | .listTiers =>
      session.answered (session.tiers.elim .nothing fun tiers =>
        .flags [tiers.disk.isSome, tiers.remote.isSome])
  | .flush | .nothing => session.answered .nothing
  | .shutDownAll => ⟨session, session.shutDownAll, fun _ => .nothing⟩

/-- Does one job. -/
def perform (session : Session) : Job → Session × List Job
  | .work (.inform callback lookup) => session.inform callback lookup
  | .work (.forget callback) => (session.forget callback, [])
  | .work work =>
      let (stack, more) := session.stack.perform work
      ({ session with stack }, works more)
  | .find place key hooks next => (session, session.find place key hooks next)
  | .conclude next outcome => session.conclude next outcome
  | .begin label step =>
      let started := session.start label step
      (started.session, started.jobs ++ [.finish label started.reply])
  | .finish label reply => (session.note (.further label (reply session)), [])

/-- Does the jobs and all that comes of them. -/
def run (session : Session) (jobs : List Job) : Session :=
  let (credit, ran) := Agenda.run perform session.credit session jobs
  { ran with credit }

/-! ### Requests under way -/

/-- The object store answers a request. -/
def serve (session : Session) (departure : Departure) : Session :=
  let service := session.service
  let request := departure.request
  let (store, response) := service.store.respond request.url.target request.exchange
  { session with service := { service with store } }.run [.work (.arrive departure response)]

/-- A request arrives at the object store, or fails on its way. -/
def deliver (session : Session) (departure : Departure) : Session :=
  let service := session.service
  if !departure.request.destination.isRequestable then
    session.run [.work (.arrive departure .unsendable)]
  else if service.isAt departure.request.url then
    let received := { service with received := service.received ++ [departure.request.text] }
    if service.store.mode = .holding then
      { session with
        service := { received with waiting := received.waiting ++ [departure] } }
    else { session with service := received }.serve departure
  else session.run [.work (.arrive departure .unreachable)]

/-- Delivers requests until none is under way; answers may lead to further requests. -/
def deliverAll : Nat → Session → Session
  | 0, session => session
  | rounds + 1, session =>
      match session.stack.departures with
      | [] => session
      | departure :: rest =>
          deliverAll rounds
            ({ session with stack := { session.stack with departures := rest } }.deliver departure)

/-- Answers the requests that were held back, if requests are served again. -/
def serveWaiting (session : Session) : Session :=
  if session.service.store.mode = .holding then session
  else
    session.service.waiting.foldl serve
      { session with service := { session.service with waiting := [] } }

/-! ### Whole steps -/

/-- A time later than all others, which marks the files used in the present step. -/
def present : FileTime := Nat.pow 10 30

/-- Gives the files used in the present step their time. -/
def stampTree (tree : FileTree) (time : FileTime) : FileTree where
  entries := tree.entries.map fun (path, entry) =>
    (path, match entry with
      | .file content accessed modified =>
          .file content (if accessed = present then time else accessed) modified
      | .directory modified => .directory modified)

/-- The time of the files used in a step. -/
def timeOf (number : Nat) : FileTime := (1500000000 + number) * 1000000000

/-- Pieces of work that each lookup of a step pays for. -/
def workPerLookup (session : Session) : Nat := 40 * (session.stack.layers.length + 4)

/-- Takes the step of the given number. -/
def take (session : Session) (number : Nat) (step : Step) : Session × StepReport :=
  let prepared : Session :=
    { session with
      credit := session.credit + step.weight * session.workPerLookup
      stack := { session.stack with present } }
  let started := prepared.start ("s" ++ toString number) step
  let ran := started.session.run started.jobs
  let delivered := (ran.deliverAll ran.credit).serveWaiting
  let settled := delivered.deliverAll delivered.credit
  let checked := { settled with stack := settled.stack.runChecks }
  let tree := stampTree checked.stack.tree (timeOf number)
  let events := checked.events.reverse
  let report : StepReport :=
    { reply := started.reply checked
      events := if step.reportsUnordered then Event.sorted events else events
      requests := checked.service.received.drop session.service.received.length
      signals := checked.stack.signals.reverse }
  ({ checked with
      events := []
      stack := { checked.stack with tree, signals := [] }.tidy }, report)

end TieredCache.Session
