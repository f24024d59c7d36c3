/-! The pages and services, and how requests come to them. -/

namespace TankArena.Playground

/-- The pages and services. -/
inductive Route
  | index | state | examples | program | step | reset
  deriving DecidableEq, Repr

def Route.path : Route → String
  | .index => "/"
  | .state => "/api/state"
  | .examples => "/api/examples"
  | .program => "/api/program"
  | .step => "/api/step"
  | .reset => "/api/reset"

def Route.all : List Route := [.index, .state, .examples, .program, .step, .reset]

/-- Places that are only looked at. -/
def Route.isRead : Route → Bool
  | .index | .state | .examples => true
  | _ => false

def Route.method (r : Route) : String := if r.isRead then "GET" else "POST"

/-- What is made of a request before a route works on it. -/
inductive Dispatch
  /-- The route answers it. -/
  | view (route : Route)
  /-- The route answers it, and the reply is sent without its body. -/
  | head (route : Route)
  /-- It is answered with a status and comes to no route. -/
  | bare (status : Nat)
  deriving DecidableEq, Repr

/-- What brings requests to the routes. A route gets what is sent to its path with its method, and only
a route that is looked at is asked for the head of its reply. Paths and methods may be written in other
ways too, which is up to the router. -/
structure Router where
  dispatch : (method path : String) → Dispatch
  dispatch_route : ∀ route : Route, dispatch route.method route.path = .view route
  isRead_of_head : ∀ method path route, dispatch method path = .head route → route.isRead = true

end TankArena.Playground
