/-
# The bridge

A request is a line of JSON with an id, an action and a query; the answer is a line of JSON with
the same id and either the tree or the error.  A line that is not a request is answered under id 0,
a blank line not at all.

Three layers, named as the source names them: `handle_request` answers a request (`answer`),
`handle_line` reads a line and answers it (`answerLine`), and `serve` answers a stream of lines in
order.  It stops at a line that is not UTF-8, after the answers to the lines before it, because
each answer is written and flushed before the next line is read.

What reads the queries is a parameter, as `StatementParser` makes it one.  A configuration is one
way to read them, and the one the program serves with; nothing here depends on that.

A stream is a list of lines here, and a line that is no text is `none`.  Cutting bytes into lines
is `Text.textLines`; `serveBytes` puts the two together.
-/
import HexadQuery.Config.Json
import HexadQuery.Grammar.Action
import HexadQuery.Statement.Wire
import HexadQuery.Text.Blank
import HexadQuery.Text.Lines

namespace HexadQuery.Bridge

open Json

/-! ## 1. Requests -/

structure Request where
  id : UInt64
  action : String
  query : String
  deriving DecidableEq

/-- The members of a request read so far. -/
structure RequestFields where
  id : Option UInt64 := none
  action : Option String := none
  query : Option String := none

namespace RequestFields

/-- Read one member: by its key, with a refusal of a second member with the same key.  A key
nobody knows is skipped with its value. -/
def member (fields : RequestFields) (key : String) : Reader RequestFields := fun cs =>
  if key = "id" then do
    let (id, rest) ← readField key fields.id readUnsigned cs
    return ({ fields with id := some id }, rest)
  else if key = "action" then do
    let (action, rest) ← readField key fields.action (readString "a string") cs
    return ({ fields with action := some action }, rest)
  else if key = "query" then do
    let (query, rest) ← readField key fields.query (readString "a string") cs
    return ({ fields with query := some query }, rest)
  else do
    let (_, rest) ← skipField cs
    return (fields, rest)

/-- The request with this query; the id defaults to 0 and the action to reading a query. -/
def request (fields : RequestFields) (query : String) : Request :=
  ⟨fields.id.getD 0, fields.action.getD Action.query.name, query⟩

/-- The object form, after its brace.  Only the query has no default; that it is missing is
reported at the closing brace, after the faults of all the members. -/
def ofObject : Reader Request := fun cs => do
  let (fields, rest) ← readMembers member true {} cs
  match fields.query with
  | none => .error (.missingField "query")
  | some query => return (fields.request query, ← closeObject rest)

/-- The array form, after its bracket; the query is its third element. -/
def ofArray : Reader Request := fun cs => do
  let short : JsonFault := .tooShort 2 "struct Request with 3 elements"
  match ← nextItem true cs with
  | none => .error short
  | some cs =>
    let (id, cs) ← readUnsigned cs
    match ← nextItem false cs with
    | none => .error short
    | some cs =>
      let (action, cs) ← readString "a string" cs
      match ← nextItem false cs with
      | none => .error short
      | some cs =>
        let (query, cs) ← readString "a string" cs
        return (⟨id, action, query⟩, ← closeArray cs)

end RequestFields

/-- Read a request from a JSON text. -/
def Request.ofJson (text : String) : Except JsonFault Request :=
  readText (readRecord "struct Request" RequestFields.ofObject RequestFields.ofArray) text

/-! ## 2. Responses -/

inductive Response where
  | tree (id : UInt64) (parsed : Parsed)
  | error (id : UInt64) (message : String)
  deriving DecidableEq

namespace Response

def id : Response → UInt64
  | tree id _ => id
  | error id _ => id

def isTree : Response → Bool
  | tree .. => true
  | error .. => false

def toJson : Response → Json
  | tree id parsed => .obj [("id", .num id.toNat), ("ok", parsed.toJson)]
  | error id message => .obj [("id", .num id.toNat), ("error", .str message)]

/-- The response as a line. -/
def line (response : Response) : String := response.toJson.compact

end Response

/-! ## 3. Answering -/

/-- Whatever reads a text with the entry grammar of an action. -/
structure Parser where
  parse : Action → String → Outcome Parsed

/-- A configuration reads texts with the grammar of this library. -/
instance : Coe Config Parser := ⟨fun config => ⟨parse config⟩⟩

/-- A response and what was logged on the way to it. -/
structure Answer where
  response : Response
  log : List LogEntry

/-- Answer a request. -/
def answer (parser : Parser) (request : Request) : Answer :=
  match Action.ofName? request.action with
  | none => ⟨.error request.id (Action.unknownMessage request.action), []⟩
  | some action =>
    let outcome := parser.parse action request.query
    let received : LogEntry :=
      ⟨.debug, String.join ["Bridge request ", request.id.toNat.repr, " (", action.name, ")"]⟩
    let response :=
      match outcome.result with
      | .ok parsed => .tree request.id parsed
      | .error error => .error request.id error.message
    ⟨response, received :: outcome.events.map Event.entry⟩

/-- Answer a line; a blank line gets no answer. -/
def answerLine (parser : Parser) (line : String) : Option Answer :=
  let line := Text.trim line
  if line = "" then none
  else
    match Request.ofJson line with
    | .ok request => some (answer parser request)
    | .error fault =>
      some
        ⟨.error 0 ("Invalid JSON: " ++ fault.message),
          [⟨.warn, String.join ["Rejected bridge line: ", fault.message]⟩]⟩

/-- The answers to a stream, and whether the stream was read to its end. -/
structure Service where
  answers : List Answer
  complete : Bool

/-- Answer lines in order, up to the first that is not a text.  Blank lines have no answer, so
the answers are fewer than the lines. -/
def serve (parser : Parser) : List (Option String) → Service
  | [] => ⟨[], true⟩
  | none :: _ => ⟨[], false⟩
  | some line :: lines =>
    let later := serve parser lines
    ⟨(answerLine parser line).toList ++ later.answers, later.complete⟩

/-- The reason a stream is not read to its end. -/
def notText : String := "stream did not contain valid UTF-8"

/-- What is logged at the end of a stream. -/
def closing (answered : Nat) : LogEntry :=
  ⟨.debug, String.join ["Bridge input closed after ", answered.repr, " responses"]⟩

namespace Service

/-- The response lines. -/
def lines (service : Service) : List String := service.answers.map (·.response.line)

/-- What was logged, ending with the number of answers if the stream was read to its end. -/
def log (service : Service) : List LogEntry :=
  service.answers.flatMap (·.log) ++
    if service.complete then [closing service.answers.length] else []

end Service

/-- Answer a byte stream. -/
def serveBytes (parser : Parser) (bytes : List UInt8) : Service :=
  serve parser (Text.textLines bytes)

end HexadQuery.Bridge
