import TankArena.Match.Simulation
import TankArena.Playground.Route
import TankArena.Script.Bundled
import TankArena.Settings.Basic
import TankArena.Text.Json

/-! A page on which a program is edited and its match stepped: requests, replies and what is kept
between them. -/

namespace TankArena.Playground

open Arena Match Script Text

/-- The log keeps this many of its last lines. -/
def maxLog : Nat := 200

/-- Pixels per cell on the page. -/
def cellSize : Int := 28

/-- What is kept between requests: the text in the editor, the match and its log. -/
structure Session where
  source : List Symbol
  simulation : Simulation
  log : List String := []
  deriving Inhabited

/-- What the page runs on: its settings, the router, and how much room there is for reading a script.
The sample program can be read. -/
structure Server where
  settings : Settings := {}
  router : Router
  room : (source : String) → Nat
  sample : Program
  parse_sample : Program.parse (room sampleSource) sampleSource = .ok sample

/-- A server with so much room that it reads the sample program. -/
def Server.ofRoom (settings : Settings) (router : Router) (room : String → Nat)
    (h : (Program.parse (room sampleSource) sampleSource).toOption.isSome) : Server where
  settings := settings
  router := router
  room := room
  sample := (Program.parse (room sampleSource) sampleSource).toOption.get h
  parse_sample := by
    revert h
    cases Program.parse (room sampleSource) sampleSource with
    | error e => exact nofun
    | ok p => exact fun _ => rfl

def Server.parse (server : Server) (source : String) : Except ReadError Program :=
  Program.parse (server.room source) source

/-- A session starts with the sample program. -/
def Session.initial (server : Server) : Session where
  source := sampleSource.toList.map .char
  simulation := { program := server.sample }

/-- Adds a line to the log and drops the oldest beyond the limit. -/
def addLog (log : List String) (line : String) : List String :=
  let log := log ++ [line]
  log.drop (log.length - maxLog)

def Session.note (s : Session) (line : String) : Session := { s with log := addLog s.log line }

structure Request where
  method : String
  path : String
  contentType : String := ""
  body : List UInt8 := []

/-- The texts on the page. -/
structure Page where
  grid : Int
  cell : Int
  tickMs : Int
  source : String

inductive Reply
  | page (page : Page)
  | state (session : Session) (executed : Option Bool)
  | examples (programs : Table String)
  | loaded (program : Program)
  | refused (reason : String)
  /-- A status without more. -/
  | bare (status : Nat)
  /-- The request could not be worked on to its end. -/
  | failed

def Reply.status : Reply → Nat
  | .refused _ => 400
  | .bare status => status
  | .failed => 500
  | _ => 200

/-- A character as it stands in the text of a page. -/
def escapeHtml (c : Char) : List Char :=
  if c = '&' then "&amp;".toList
  else if c = '<' then "&lt;".toList
  else if c = '>' then "&gt;".toList
  else if c = doubleQuote then "&#34;".toList
  else if c = apostrophe then "&#39;".toList
  else [c]

/-- The width and height of the board on the page. -/
def Page.canvas (p : Page) : String :=
  let size := decimal (p.grid * p.cell)
  "width=\"" ++ size ++ "\" height=\"" ++ size ++ "\""

def Page.editor (p : Page) : String := String.ofList (p.source.toList.flatMap escapeHtml)

/-- Blanks around a content type. -/
def isHeaderBlank (c : Char) : Bool := c == ' ' || c == '\t'

/-- Whether a content type announces JSON; parameters and letter case do not matter. -/
def isJsonType (contentType : String) : Bool :=
  let kind := (contentType.toList.takeWhile (· ≠ ';')).dropWhile isHeaderBlank
  let kind := (kind.reverse.dropWhile isHeaderBlank).reverse.map Char.toLower
  kind = "application/json".toList ||
    ("application/".toList.isPrefixOf kind && "+json".toList.isSuffixOf kind)

/-- Whether a content type announces a form in parts, in exactly these letters. -/
def isFormType (contentType : String) : Bool :=
  trim (contentType.toList.takeWhile (· ≠ ';')) = "multipart/form-data".toList

/-- Whether nothing is sent. A form in parts is closed by a mark, so even an empty one is sent. -/
def Request.isEmpty (r : Request) : Bool := r.body.isEmpty && !isFormType r.contentType

/-- The fields of the JSON object in a body. An empty body has none, whatever its type. -/
def Request.fields (r : Request) : Except JsonError (List (String × Json)) :=
  if r.isEmpty then .ok []
  else if isJsonType r.contentType then do
    match ← Json.ofBytes r.body with
    | .object fields => .ok fields
    | _ => .error .malformed
  else .error .malformed

/-- The page. A text with half a surrogate pair cannot be shown. -/
def Session.page (s : Session) (settings : Settings) : Reply :=
  match s.source.mapM Symbol.char? with
  | some source =>
    .page { grid := gridSize, cell := cellSize, tickMs := settings.tickMs
            source := String.ofList source }
  | none => .failed

/-- Takes another program; the match goes on where it is. -/
def Session.submit (s : Session) (server : Server) (r : Request) : Reply × Session :=
  let refused : Reply × Session := (.refused "Expected JSON body with a 'source' string", s)
  match r.fields with
  | .error .tooDeep => (.failed, s)
  | .error .malformed => refused
  | .ok fields =>
    match Json.field? fields "source" with
    | some (.string source) =>
      match server.parse (Symbol.text source) with
      | .error _ => (.failed, s)
      | .ok program =>
        let s := { s with source, simulation := s.simulation.load program }
        (.loaded program, s.note ("Program loaded: " ++ decimal program.main.length ++
          " statements, " ++ decimal program.functions.size ++ " functions"))
    | _ => refused

/-- The state of the match. A clock with too many digits cannot be shown. -/
def Session.show (s : Session) (executed : Option Bool) : Reply :=
  if isWritable s.simulation.world.tick then .state s executed else .failed

/-- The line that a tick leaves in the log. -/
def tickLine (w : World) : String :=
  "Tick " ++ decimal w.tick ++ ": " ++ if w.message.isEmpty then "(idle)" else w.message

/-- Logs a tick that was just played, unless its clock cannot be written. -/
def Session.noteTick (s : Session) : Session :=
  if isWritable s.simulation.world.tick then
    let s := s.note (tickLine s.simulation.world)
    if s.simulation.isOver then s.note "Match over" else s
  else s

/-- Plays one tick. After the end of a match nothing is logged any more. -/
def Session.step (s : Session) : Reply × Session :=
  match s.simulation.tick with
  | .error fault => (.failed, { s with simulation := s.simulation.afterFault fault })
  | .ok (executed, simulation) =>
    let next := { s with simulation }
    let next := if s.simulation.isOver then next else next.noteTick
    (next.show (some executed), next)

/-- Starts the match over and empties the log. -/
def Session.restart (s : Session) : Reply × Session :=
  let s := { s with simulation := s.simulation.reset, log := ["Reset"] }
  (s.show none, s)

/-- Starts over, with another program if the body has one. -/
def Session.reset (s : Session) (server : Server) (r : Request) : Reply × Session :=
  match r.fields with
  | .error .tooDeep => (.failed, s)
  | .error .malformed => (.refused "Expected an empty body or a JSON object", s)
  | .ok fields =>
    match Json.field? fields "source" with
    | none | some .null => s.restart
    | some (.string source) =>
      let s := { s with source }
      match server.parse (Symbol.text source) with
      | .error _ => (.failed, s)
      | .ok program => { s with simulation := s.simulation.load program }.restart
    | some _ => (.refused "'source' must be a string", s)

/-- What a route answers. -/
def Session.serve (s : Session) (server : Server) (r : Request) : Route → Reply × Session
  | .index => (s.page server.settings, s)
  | .state => (s.show none, s)
  | .examples => (.examples bundled, s)
  | .program => s.submit server r
  | .step => s.step
  | .reset => s.reset server r

/-- A reply without its body. -/
def Reply.head : Reply → Reply
  | .failed => .failed
  | reply => .bare reply.status

/-- Answers a request. -/
def Session.handle (s : Session) (server : Server) (r : Request) : Reply × Session :=
  match server.router.dispatch r.method r.path with
  | .view route => s.serve server r route
  | .head route => ((s.serve server r route).1.head, (s.serve server r route).2)
  | .bare status => (.bare status, s)

end TankArena.Playground
