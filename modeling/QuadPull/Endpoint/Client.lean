import QuadPull.Endpoint.Basic
/-!
The clients that send queries to an endpoint (`_get_client`, `aclose`, `__aexit__`). A client that was
given is used for every request and is never closed here. Without one, a client is made when a request is
due and none is open, and it is closed at the end of use.
-/

namespace QuadPull

inductive ClientId where
  | given
  | made (number : Nat)
  deriving DecidableEq, Repr

structure Request where
  client : ClientId
  query : String
  head : Head
  deriving DecidableEq, Repr

inductive Event where
  /-- A request is due: the client taken for it, and whether that one was made for it. -/
  | taken (client : ClientId) (isNew : Bool)
  | sent (request : Request)
  | closed (client : ClientId)
  | ended
  deriving DecidableEq, Repr

def Event.request? : Event → Option Request
  | .sent request => some request
  | _ => none

structure Clients where
  owns : Bool
  current : Option ClientId
  givenClosed : Bool := false
  closed : List Bool := []
  deriving DecidableEq, Repr

namespace Clients

def start (isGiven : Bool) : Clients :=
  { owns := !isGiven, current := if isGiven then some .given else none }

def acquire (c : Clients) : ClientId × Bool × Clients :=
  match c.current with
  | some client => (client, false, c)
  | none =>
    let client := .made c.closed.length
    (client, true, { c with closed := c.closed ++ [false], current := some client })

def shut (c : Clients) : ClientId → Clients
  | .given => { c with givenClosed := true }
  | .made n => { c with closed := c.closed.set n true }

/-- Closes the current client if it is one of those made (`aclose`). -/
def release (c : Clients) : List Event × Clients :=
  match c.current with
  | some client =>
    if c.owns then ([.closed client], { c.shut client with current := none }) else ([], c)
  | none => ([], c)

end Clients

structure Exchange (α : Type) where
  result : Except Error α
  events : List Event := []
  clients : Clients

namespace Exchange

variable {α β : Type}

def sent (x : Exchange α) : List Request := x.events.filterMap Event.request?

def done (x : Exchange α) : Exchange Unit := { x with result := x.result.map fun _ => () }

def bind (x : Exchange α) (next : α → Clients → Exchange β) : Exchange β :=
  match x.result with
  | .error fault => { x with result := .error fault }
  | .ok a =>
    let y := next a x.clients
    { y with events := x.events ++ y.events }

def finish (x : Exchange α) : Exchange α :=
  let (events, clients) := x.clients.release
  { x with events := x.events ++ events ++ [.ended], clients }

end Exchange

namespace Endpoint

/-- Sends a query (`select`). A client is taken for it before it turns out whether a request can be made.
-/
def sendQuery (e : Endpoint) (clients : Clients) (query : String) : Exchange (List Solution) :=
  let (client, isNew, clients) := clients.acquire
  match e.headFor query with
  | .error fault => { result := .error fault, events := [.taken client isNew], clients }
  | .ok head =>
    let request : Request := { client, query, head }
    { result := e.solutions head query, events := [.taken client isNew, .sent request], clients }

def sendPattern (e : Endpoint) (clients : Clients) (p : Pattern) : Exchange (List Quad) :=
  if unaskable p then { result := .ok [], clients }
  else
    match e.queryFor p with
    | .error fault => { result := .error fault, clients }
    | .ok query =>
      let exchange := e.sendQuery clients query
      { exchange with result := exchange.result.bind (e.quadsOf p) }

def sendPatternOnce (e : Endpoint) (clients : Clients) (p : Pattern) : Exchange (List Quad) :=
  (e.sendPattern clients p).finish

end Endpoint

/-- The uses of a graph. Each request comes with the endpoint as it stands then, as an endpoint may
answer one query differently from time to time. -/
inductive Use where
  | find (e : Endpoint) (p : Pattern)
  | quads (e : Endpoint)
  | select (e : Endpoint) (query : String)
  | close
  | fail (fault : Error)
  | block (body : List Use)
  | attempt (body : List Use)

mutual

def Use.run (clients : Clients) : Use → Exchange Unit
  | .find e p => (e.sendPattern clients p).done
  | .quads e => (e.sendPattern clients {}).done
  | .select e query => (e.sendQuery clients query).done
  | .close => ({ result := .ok (), clients } : Exchange Unit).finish
  | .fail fault => { result := .error fault, clients }
  | .block body => (Use.runAll clients body).finish
  | .attempt body => { Use.runAll clients body with result := .ok () }

def Use.runAll (clients : Clients) : List Use → Exchange Unit
  | [] => { result := .ok (), clients }
  | u :: rest => (u.run clients).bind fun _ clients => Use.runAll clients rest

end

end QuadPull
