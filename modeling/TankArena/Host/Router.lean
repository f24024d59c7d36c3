import TankArena.Host.Address
import TankArena.Playground.Session
import TankArena.Text.Letter

/-! The router of the page: which methods a place takes, and under which paths it is found. -/

namespace TankArena.Host

open Playground Text

inductive Method
  | get | head | post | options | other
  deriving DecidableEq, Repr

/-- The method of a name, in any letter case. -/
def Method.ofName (name : String) : Method :=
  match String.ofList (name.toList.flatMap upperForm) with
  | "GET" => .get
  | "HEAD" => .head
  | "POST" => .post
  | "OPTIONS" => .options
  | _ => .other

/-- What a path leads to: a route, or a file below the directory of assets. -/
inductive Place
  | route (r : Route)
  | asset
  deriving DecidableEq, Repr

namespace Place

/-- The name of an asset: it starts with no slash, and no line ends in it. -/
def isAssetName : List Char → Bool
  | [] => false
  | c :: t => c != '/' && !t.contains '\n'

def assetDirectory : List Char := "/static/".toList

def ofPath? (path : List Char) : Option Place :=
  match Route.all.find? (·.path.toList = path) with
  | some r => some (.route r)
  | none =>
    if assetDirectory.isPrefixOf path && isAssetName (path.drop assetDirectory.length) then
      some .asset
    else none

def isRead : Place → Bool
  | .route r => r.isRead
  | .asset => true

def allows (p : Place) : Method → Bool
  | .get | .head => p.isRead
  | .post => !p.isRead
  | .options => true
  | .other => false

/-- What becomes of a request that a place takes. There are no assets. -/
def dispatch (p : Place) (method : Method) : Dispatch :=
  match method, p with
  | .options, _ => .bare 200
  | _, .asset => .bare 404
  | .head, .route r => .head r
  | _, .route r => .view r

end Place

/-- Every run of slashes as one slash. -/
def joinSlashes : List Char → List Char
  | '/' :: '/' :: t => joinSlashes ('/' :: t)
  | c :: t => c :: joinSlashes t
  | [] => []

/-- What a place answers before it is asked; `done` is the answer to a method that it takes. -/
def Place.finding (p : Place) (method : Method) (isSocket : Bool) (done : Dispatch) : Dispatch :=
  if !p.allows method then .bare 405 else if isSocket then .bare 400 else done

/-- Looks for a path. An empty one leads to the index, and one with slashes too many to the path
without them. -/
def findPath (path : List Char) (method : Method) (isSocket : Bool) : Dispatch :=
  if path = [] then
    if (Place.route .index).allows method && !isSocket then .bare 308 else .bare 404
  else
    match Place.ofPath? path with
    | some place => place.finding method isSocket (place.dispatch method)
    | none =>
      match Place.ofPath? (joinSlashes path) with
      | some place => place.finding method isSocket (.bare 308)
      | none => .bare 404

/-- Looks for an address. -/
def Address.find (a : Address) (method : Method) : Dispatch :=
  if a.hasHostName then findPath a.path method a.isSocket else .bare 400

/-- Finds the place of a request by its path. A path that is no address is not sent at all. -/
def dispatch (method path : String) : Dispatch :=
  match Address.parse path.toList with
  | .ok address => address.find (.ofName method)
  | .error _ => .bare 400

/-! ## What the router keeps to -/

theorem Place.eq_of_dispatch_head {p : Place} {method : Method} {route : Route}
    (h : p.dispatch method = .head route) : method = .head ∧ p = .route route := by
  cases p with
  | asset => cases method <;> cases h
  | route r =>
      cases method with
      | head => cases h; exact ⟨rfl, rfl⟩
      | _ => cases h

theorem Place.isRead_of_finding {p : Place} {method : Method} {isSocket : Bool} {route : Route}
    (h : p.finding method isSocket (p.dispatch method) = .head route) : route.isRead = true := by
  unfold Place.finding at h
  split at h
  · cases h
  · rename_i hallows
    split at h
    · cases h
    · obtain ⟨rfl, rfl⟩ := Place.eq_of_dispatch_head h
      simpa [Place.allows, Place.isRead] using hallows

theorem isRead_of_findPath {path : List Char} {method : Method} {isSocket : Bool} {route : Route}
    (h : findPath path method isSocket = .head route) : route.isRead = true := by
  unfold findPath at h
  split at h
  · split at h <;> cases h
  · split at h
    · exact Place.isRead_of_finding h
    · split at h
      · unfold Place.finding at h
        split at h
        · cases h
        · split at h <;> cases h
      · cases h

def router : Router where
  dispatch := dispatch
  dispatch_route route := by cases route <;> decide +kernel
  isRead_of_head method path route h := by
    unfold dispatch at h
    split at h
    · unfold Address.find at h
      split at h
      · exact isRead_of_findPath h
      · cases h
    · cases h

end TankArena.Host
