import QuadPull.Endpoint.Client
/-!
Without a client that was given, what was done so far says which clients are open: none, or the one made
last.
-/

namespace QuadPull

namespace Event

def isTaken : Event → Bool
  | .taken .. => true
  | _ => false

def new? : Event → Option ClientId
  | .taken client true => some client
  | _ => none

def made (past : List Event) : List ClientId := past.filterMap new?

def openAfter (clients : List ClientId) : Event → List ClientId
  | .taken client true => clients ++ [client]
  | .closed client => clients.erase client
  | _ => clients

def opened (past : List Event) : List ClientId := past.foldl openAfter []

@[simp] theorem made_append_single (past : List Event) (event : Event) :
    made (past ++ [event]) = made past ++ event.new?.toList := by
  cases isNew : event.new? <;> simp [made, isNew]

@[simp] theorem opened_append_single (past : List Event) (event : Event) :
    opened (past ++ [event]) = openAfter (opened past) event := by
  simp [opened]

def ByGiven : Event → Prop
  | .taken client isNew => client = .given ∧ isNew = false
  | .sent request => request.client = .given
  | .closed _ => False
  | .ended => True

/-- What is done is due after what was done before: a client is made if none is open and then has a number
of its own, a request goes through the open client that was just taken for it, only the open client is
closed, and none is open at an end of use. -/
def Timely (past : List Event) : Event → Prop
  | .taken client isNew =>
    (isNew = true ↔ opened past = []) ∧
      if isNew then client = .made (made past).length else opened past = [client]
  | .sent request =>
    (∃ isNew, past.getLast? = some (.taken request.client isNew)) ∧ opened past = [request.client]
  | .closed client => opened past = [client]
  | .ended => opened past = []

def Tidy (past : List Event) : Prop :=
  opened past = [] ∨ ∃ client, (made past).getLast? = some client ∧ opened past = [client]

def Orderly (past : List Event) : List Event → Prop
  | [] => True
  | event :: rest => event.Timely past ∧ Tidy (past ++ [event]) ∧ Orderly (past ++ [event]) rest

theorem orderly_append (past first second : List Event) :
    Orderly past (first ++ second) ↔ Orderly past first ∧ Orderly (past ++ first) second := by
  induction first generalizing past with
  | nil => simp [Orderly]
  | cons event rest ih => simp [Orderly, ih, and_assoc]

end Event

namespace Clients

structure Follows (c : Clients) (past : List Event) : Prop where
  owns : c.owns = true
  made : Event.made past = (List.range c.closed.length).map .made
  opened : Event.opened past = c.current.toList
  last : ∀ client, c.current = some client → ∃ n, client = .made n ∧ c.closed.length = n + 1
  flag : ∀ n, c.closed[n]? = some false ↔ c.current = some (.made n)

variable {c : Clients} {past : List Event}

theorem start_follows : (start false).Follows [] := by
  constructor <;> simp [start, Event.made, Event.opened]

theorem Follows.tidy (follows : c.Follows past) : Event.Tidy past := by
  cases current : c.current with
  | none => exact .inl (by simp [follows.opened, current])
  | some client =>
    obtain ⟨n, rfl, length⟩ := follows.last client current
    refine .inr ⟨.made n, ?_, by simp [follows.opened, current]⟩
    simp [follows.made, length, List.range_succ]

theorem Follows.pass (follows : c.Follows past) (event : Event) (isOld : event.new? = none)
    (stays : ∀ clients, Event.openAfter clients event = clients) : c.Follows (past ++ [event]) where
  owns := follows.owns
  made := by simpa [isOld] using follows.made
  opened := by simpa [stays] using follows.opened
  last := follows.last
  flag := follows.flag

theorem Follows.acquire (follows : c.Follows past) :
    (Event.taken c.acquire.1 c.acquire.2.1).Timely past ∧
      c.acquire.2.2.Follows (past ++ [.taken c.acquire.1 c.acquire.2.1]) ∧
      c.acquire.2.2.current = some c.acquire.1 := by
  cases current : c.current with
  | some client =>
    simp only [Clients.acquire, current]
    refine ⟨by simp [Event.Timely, follows.opened, current], ?_, trivial⟩
    exact follows.pass _ rfl fun _ => rfl
  | none =>
    simp only [Clients.acquire, current]
    refine ⟨by simp [Event.Timely, follows.opened, follows.made, current], ?_, trivial⟩
    refine ⟨follows.owns, ?_, ?_, ?_, ?_⟩
    · simp [Event.new?, List.range_succ, ← follows.made]
    · simp [Event.openAfter, follows.opened, current]
    · simp
    · intro n
      have shut : c.closed[n]? ≠ some false := by simp [follows.flag, current]
      by_cases last : c.closed.length = n
      · simp [← last]
      · have same : (c.closed ++ [false])[n]? = c.closed[n]? ∨ (c.closed ++ [false])[n]? = none := by
          grind
        rcases same with same | same <;> simp [same, shut, last]

theorem Follows.shut {client : ClientId} (follows : c.Follows past) (current : c.current = some client) :
    Follows { c.shut client with current := none } (past ++ [.closed client]) := by
  obtain ⟨n, rfl, -⟩ := follows.last client current
  refine ⟨follows.owns, ?_, ?_, by simp, ?_⟩
  · simpa [Event.new?, Clients.shut] using follows.made
  · simp [Event.openAfter, follows.opened, current]
  · intro m
    have only : c.closed[m]? = some false ↔ n = m := by simp [follows.flag, current]
    by_cases same : n = m
    · simp [Clients.shut, List.getElem?_set, same]
    · simpa [Clients.shut, List.getElem?_set, same] using only

theorem Follows.release (follows : c.Follows past) :
    Event.Orderly past (c.release.1 ++ [.ended]) ∧
      c.release.2.Follows (past ++ (c.release.1 ++ [.ended])) ∧ c.release.2.current = none := by
  cases current : c.current with
  | none =>
    simp only [Clients.release, current, List.nil_append]
    have ended := follows.pass .ended rfl fun _ => rfl
    exact ⟨⟨by simp [Event.Timely, follows.opened, current], ended.tidy, trivial⟩, ended, trivial⟩
  | some client =>
    simp only [Clients.release, current, follows.owns, if_true]
    have shut := follows.shut current
    have ended := shut.pass .ended rfl fun _ => rfl
    refine ⟨⟨?_, shut.tidy, ?_, ended.tidy, trivial⟩, by simpa using ended, trivial⟩
    · simp [Event.Timely, follows.opened, current]
    · simpa [Event.Timely] using shut.opened

theorem Follows.open_iff (follows : c.Follows past) (n : Nat) :
    c.closed[n]? = some false ↔ .made n ∈ Event.opened past := by
  simp [follows.flag, follows.opened]

theorem Follows.none_open (follows : c.Follows past) (n : Nat) :
    c.release.2.closed[n]? ≠ some false := by
  have ⟨_, ended, isNone⟩ := follows.release
  simp [ended.flag, isNone]

/-- How clients get from one state to another, and what is done on the way: requests that come to nothing,
requests that are sent, and ends of use. -/
inductive Moves : Clients → List Event → Clients → Prop where
  | still (c : Clients) : Moves c [] c
  | due (c : Clients) : Moves c [.taken c.acquire.1 c.acquire.2.1] c.acquire.2.2
  | asked (c : Clients) (request : Request) (own : request.client = c.acquire.1) :
    Moves c [.taken c.acquire.1 c.acquire.2.1, .sent request] c.acquire.2.2
  | finished (c : Clients) : Moves c (c.release.1 ++ [.ended]) c.release.2
  | onward {c d f : Clients} {first second : List Event} (before : Moves c first d)
    (after : Moves d second f) : Moves c (first ++ second) f

variable {d : Clients} {events : List Event}

theorem Moves.byGiven (moves : c.Moves events d) (isGiven : c = start true) :
    d = start true ∧ ∀ event ∈ events, event.ByGiven := by
  induction moves with
  | still c => exact ⟨isGiven, by simp⟩
  | due c =>
    subst isGiven
    exact ⟨rfl, by simp [start, acquire, Event.ByGiven]⟩
  | asked c request own =>
    subst isGiven
    exact ⟨rfl, by simpa [start, acquire, Event.ByGiven] using own⟩
  | finished c =>
    subst isGiven
    exact ⟨rfl, by simp [start, release, Event.ByGiven]⟩
  | onward _ _ first second =>
    obtain ⟨same, before⟩ := first isGiven
    obtain ⟨same, after⟩ := second same
    exact ⟨same, fun event member => (List.mem_append.1 member).elim (before event) (after event)⟩

theorem Moves.orderly (moves : c.Moves events d) (follows : c.Follows past) :
    Event.Orderly past events ∧ d.Follows (past ++ events) := by
  induction moves generalizing past with
  | still c => exact ⟨trivial, by simpa using follows⟩
  | due c =>
    obtain ⟨timely, taken, -⟩ := follows.acquire
    exact ⟨⟨timely, taken.tidy, trivial⟩, taken⟩
  | asked c request own =>
    obtain ⟨timely, taken, current⟩ := follows.acquire
    have sent := taken.pass (.sent request) rfl fun _ => rfl
    refine ⟨⟨timely, taken.tidy, ?_, sent.tidy, trivial⟩, by simpa using sent⟩
    exact ⟨⟨c.acquire.2.1, by simp [own]⟩, by simp [taken.opened, current, own]⟩
  | finished c => exact ⟨follows.release.1, follows.release.2.1⟩
  | onward _ _ first second =>
    obtain ⟨before, follows⟩ := first follows
    obtain ⟨after, follows⟩ := second follows
    exact ⟨(Event.orderly_append _ _ _).2 ⟨before, after⟩, by simpa using follows⟩

end Clients

namespace Endpoint

variable (e : Endpoint) (c : Clients)

theorem sendQuery_moves (query : String) :
    c.Moves (e.sendQuery c query).events (e.sendQuery c query).clients := by
  unfold sendQuery
  cases e.headFor query with
  | error fault => exact .due c
  | ok head => exact .asked c _ rfl

theorem sendQuery_result (query : String) :
    (e.sendQuery c query).result = (e.headFor query).bind fun head => e.solutions head query := by
  unfold sendQuery
  cases e.headFor query <;> rfl

theorem sendPattern_moves (p : Pattern) :
    c.Moves (e.sendPattern c p).events (e.sendPattern c p).clients := by
  unfold sendPattern
  split
  · exact .still c
  cases e.queryFor p with
  | error fault => exact .still c
  | ok query => exact e.sendQuery_moves c query

theorem sendPattern_result (p : Pattern) : (e.sendPattern c p).result = e.find p := by
  unfold sendPattern find
  split
  · rfl
  cases e.queryFor p with
  | error fault => rfl
  | ok query =>
    simp only [e.sendQuery_result c query]
    cases head : e.headFor query <;> simp [head, Except.bind, Bind.bind]

def isDue (p : Pattern) : Bool := !unaskable p && (e.queryFor p).toOption.isSome

theorem sendQuery_taken (query : String) : (e.sendQuery c query).events.countP Event.isTaken = 1 := by
  unfold sendQuery
  cases e.headFor query <;> rfl

theorem sendPattern_taken (p : Pattern) :
    (e.sendPattern c p).events.countP Event.isTaken = if e.isDue p then 1 else 0 := by
  unfold sendPattern isDue
  split
  · rename_i unable
    simp [unable]
  · rename_i able
    cases written : e.queryFor p with
    | error fault => simp [Except.toOption]
    | ok query => simpa [able, Except.toOption] using e.sendQuery_taken c query

end Endpoint

mutual

theorem Use.run_moves (c : Clients) : (u : Use) → c.Moves (u.run c).events (u.run c).clients
  | .find e p => by simpa [Use.run, Exchange.done] using e.sendPattern_moves c p
  | .quads e => by simpa [Use.run, Exchange.done] using e.sendPattern_moves c {}
  | .select e query => by simpa [Use.run, Exchange.done] using e.sendQuery_moves c query
  | .close => by simpa [Use.run, Exchange.finish] using .finished c
  | .fail fault => by simpa [Use.run] using .still c
  | .block body => by
    simpa [Use.run, Exchange.finish] using (Use.runAll_moves c body).onward (.finished _)
  | .attempt body => by simpa [Use.run] using Use.runAll_moves c body

theorem Use.runAll_moves (c : Clients) : (uses : List Use) →
    c.Moves (Use.runAll c uses).events (Use.runAll c uses).clients
  | [] => by simpa [Use.runAll] using .still c
  | u :: rest => by
    simp only [Use.runAll, Exchange.bind]
    split
    · exact Use.run_moves c u
    · exact (Use.run_moves c u).onward (Use.runAll_moves _ rest)

end

theorem Clients.release_taken (c : Clients) : c.release.1.countP Event.isTaken = 0 := by
  unfold Clients.release
  cases c.current with
  | none => rfl
  | some client =>
    simp only
    split <;> rfl

theorem Exchange.finish_taken {α : Type} (x : Exchange α) :
    x.finish.events.countP Event.isTaken = x.events.countP Event.isTaken := by
  simp [Exchange.finish, x.clients.release_taken, Event.isTaken]

def Use.fails (u : Use) : Bool := !(u.run (.start true)).result.toOption.isSome

mutual

/-- The requests that are due in a use, up to where it fails. -/
def Use.due : Use → Nat
  | .find e p => if e.isDue p then 1 else 0
  | .quads e => if e.isDue {} then 1 else 0
  | .select .. => 1
  | .close | .fail _ => 0
  | .block body | .attempt body => Use.dueInAll body

def Use.dueInAll : List Use → Nat
  | [] => 0
  | u :: rest => u.due + if u.fails then 0 else Use.dueInAll rest

end

mutual

theorem Use.run_result (c d : Clients) : (u : Use) → (u.run c).result = (u.run d).result
  | .find e p => by simp only [Use.run, Exchange.done, e.sendPattern_result]
  | .quads e => by simp only [Use.run, Exchange.done, e.sendPattern_result]
  | .select e query => by simp only [Use.run, Exchange.done, e.sendQuery_result]
  | .close => by simp only [Use.run, Exchange.finish]
  | .fail fault => by simp only [Use.run]
  | .block body => by simpa only [Use.run, Exchange.finish] using Use.runAll_result c d body
  | .attempt body => by simp only [Use.run]

theorem Use.runAll_result (c d : Clients) : (uses : List Use) →
    (Use.runAll c uses).result = (Use.runAll d uses).result
  | [] => by simp only [Use.runAll]
  | u :: rest => by
    simp only [Use.runAll, Exchange.bind, Use.run_result c d u]
    split
    · rfl
    · exact Use.runAll_result _ _ rest

end

mutual

theorem Use.run_taken (c : Clients) : (u : Use) → (u.run c).events.countP Event.isTaken = u.due
  | .find e p => by simpa only [Use.run, Exchange.done, Use.due] using e.sendPattern_taken c p
  | .quads e => by simpa only [Use.run, Exchange.done, Use.due] using e.sendPattern_taken c {}
  | .select e query => by simpa only [Use.run, Exchange.done, Use.due] using e.sendQuery_taken c query
  | .close => by simp only [Use.run, Exchange.finish_taken, List.countP_nil, Use.due]
  | .fail fault => by simp only [Use.run, List.countP_nil, Use.due]
  | .block body => by simp only [Use.run, Exchange.finish_taken, Use.runAll_taken c body, Use.due]
  | .attempt body => by simp only [Use.run, Use.runAll_taken c body, Use.due]

theorem Use.runAll_taken (c : Clients) : (uses : List Use) →
    (Use.runAll c uses).events.countP Event.isTaken = Use.dueInAll uses
  | [] => by simp only [Use.runAll, List.countP_nil, Use.dueInAll]
  | u :: rest => by
    have result := Use.run_result (.start true) c u
    simp only [Use.runAll, Exchange.bind, Use.dueInAll, Use.fails, result]
    cases ended : (u.run c).result with
    | error fault => simpa [Except.toOption] using Use.run_taken c u
    | ok => simp [Except.toOption, Use.run_taken c u, Use.runAll_taken _ rest]

end

/-- Over any uses, a client that was given sends every request and stays open. Without one the clients that
are made are taken, used and closed in order, and after a close or a block all of them are closed. Either way
a client is taken once for each request that is due. -/
theorem Use.clients_kept (uses : List Use) :
    (let x := Use.runAll (.start true) uses;
      x.clients = .start true ∧ (∀ event ∈ x.events, event.ByGiven) ∧
        x.events.countP Event.isTaken = Use.dueInAll uses) ∧
    (let x := Use.runAll (.start false) uses;
      Event.Orderly [] x.events ∧ x.events.countP Event.isTaken = Use.dueInAll uses ∧
        Event.made x.events = (List.range x.clients.closed.length).map .made ∧
        (∀ n : Nat, x.clients.closed[n]? = some false ↔ .made n ∈ Event.opened x.events) ∧
        (∀ n : Nat, (Use.close.run x.clients).clients.closed[n]? ≠ some false) ∧
        ∀ body, ∀ n : Nat, ((Use.block body).run x.clients).clients.closed[n]? ≠ some false) := by
  obtain ⟨same, events⟩ := (Use.runAll_moves (.start true) uses).byGiven rfl
  obtain ⟨orderly, follows⟩ := (Use.runAll_moves (.start false) uses).orderly Clients.start_follows
  refine ⟨⟨same, events, Use.runAll_taken _ uses⟩, orderly, Use.runAll_taken _ uses, follows.made,
    follows.open_iff, ?_, fun body => ?_⟩
  · simpa [Use.run, Exchange.finish] using follows.none_open
  · have after := ((Use.runAll_moves _ body).orderly follows).2
    simpa [Use.run, Exchange.finish] using after.none_open

def Endpoint.unresponsive : Endpoint :=
  ⟨.defaultGraph, { url := .text "http://h/" }, [], .failure "ReadTimeout"⟩

def twoVisits : List Use :=
  [.attempt [.block [.attempt [.find .unresponsive {}], .select .unresponsive "ASK", .quads .unresponsive]],
    .attempt [.quads .unresponsive], .find .unresponsive { subject := some (.blank "b") }, .close]

theorem Use.kept_over_twoVisits :
    (∃ event ∈ (Use.runAll (.start true) twoVisits).events, event.ByGiven) ∧
      Event.Orderly [] (Use.runAll (.start false) twoVisits).events ∧
      (Use.runAll (.start false) twoVisits).events.countP Event.isTaken = 3 ∧
      Event.made (Use.runAll (.start false) twoVisits).events = [.made 0, .made 1] ∧
      (Use.runAll (.start false) twoVisits).clients.closed = [true, true] := by
  obtain ⟨⟨-, given, -⟩, orderly, taken_once, -⟩ := clients_kept twoVisits
  have taken : .taken .given false ∈ (Use.runAll (.start true) twoVisits).events := by decide +kernel
  have due : Use.dueInAll twoVisits = 3 := by decide +kernel
  exact ⟨⟨_, taken, given _ taken⟩, orderly, taken_once.trans due, by decide +kernel, by decide +kernel⟩

end QuadPull
