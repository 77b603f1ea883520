import GatewaySession.Gateway.Message
import GatewaySession.Text.Blank

/-!
# Scripted gateways

A gateway that plays back what it was told to. Routes are parts of URLs, in the order in which they
were first named. A request is answered by the first route that occurs in its URL and has an answer
left: first those in its queue, each once, then the one it gives always. Without such a route the
answer is a 404. Every request is recorded, and so is every connection made.

## Main definitions

* `Rehearsal.Gateway` — routes and records
* `Gateway.respond`, `Gateway.respondAlways`, `Gateway.failOnce` — what routes are told
* `Gateway.answer` — the answer to a request
* `Reply.token`, `Reply.error`, `Reply.registration` — usual responses
-/

namespace GatewaySession

namespace Rehearsal

/-! ### Usual responses -/

namespace Reply

/-- A successful grant. -/
def token (accessToken : String) (expiresIn : Int64) (refreshToken : Option String) : Response :=
  let body : Json.Value := .object
    ([("access_token", .string accessToken), ("expires_in", .integer expiresIn.toInt)] ++
      (refreshToken.map fun token => ("refresh_token", Json.Value.string token)).toList ++
      [("token_type", .string "Bearer")])
  Response.withHeader { status := 200, body := body.encode } "content-type" "application/json"

/-- A refusal with an error code. -/
def error (status : UInt16) (code : UInt64) : Response :=
  Response.withHeader
    { status, body := Utf8.encode ("\x7b\"error\":\"gateway error " ++ toString code ++ "\"\x7d") }
    "x-ca-err" (toString code)

/-- A successful registration. -/
def registration (certificatePem magIdentifier : String) : Response :=
  Response.withHeader { status := 200, body := Utf8.encode certificatePem } "mag-identifier"
    magIdentifier

end Reply

/-! ### Routes -/

/-- The answers of a part of URLs. -/
structure Route where
  /-- The part of the URL. -/
  path : String
  /-- Answers that are given once, in order: a response, or the text of a failure. -/
  queued : List (Except String Response) := []
  /-- The answer that is given when the queue is empty. -/
  always : Option Response := none

namespace Route

/-- Whether a URL is on the route. -/
def covers (route : Route) (url : String) : Bool := Text.contains url route.path

/-- The next answer of a route and what is left of it. -/
def next? (route : Route) : Option (Except String Response × Route) :=
  match route.queued with
  | answer :: rest => some (answer, { route with queued := rest })
  | [] => route.always.map fun response => (.ok response, route)

end Route

/-- A gateway that plays back answers. -/
structure Gateway where
  /-- Routes in the order in which they were first named. -/
  routes : List Route := []
  /-- The requests that arrived. -/
  requests : List Request := []
  /-- For each connection made, the identifier of the registration it was made with. -/
  built : List (Option String) := []
  /-- How many of the next connections fail. -/
  failing : Nat := 0

namespace Gateway

/-- Changes the route of a path, which is named last if it is new. -/
def changeRoute (path : String) (change : Route → Route) : List Route → List Route
  | [] => [change { path }]
  | route :: rest =>
    if route.path = path then change route :: rest else route :: changeRoute path change rest

/-- Queues an answer for a path. -/
def enqueue (gateway : Gateway) (path : String) (answer : Except String Response) : Gateway :=
  let change (route : Route) : Route := { route with queued := route.queued ++ [answer] }
  { gateway with routes := changeRoute path change gateway.routes }

/-- Queues a response for a path. -/
def respond (gateway : Gateway) (path : String) (response : Response) : Gateway :=
  gateway.enqueue path (.ok response)

/-- Queues a failure for a path. -/
def failOnce (gateway : Gateway) (path text : String) : Gateway :=
  gateway.enqueue path (.error text)

/-- Sets the response that a path gives when its queue is empty. -/
def respondAlways (gateway : Gateway) (path : String) (response : Response) : Gateway :=
  let change (route : Route) : Route := { route with always := some response }
  { gateway with routes := changeRoute path change gateway.routes }

/-- The answer of the first route that has one for a URL, and the routes afterwards. -/
def answerFrom? (url : String) : List Route → Option (Except String Response × List Route)
  | [] => none
  | route :: rest =>
    match if route.covers url then route.next? else none with
    | some (answer, route) => some (answer, route :: rest)
    | none => (answerFrom? url rest).map fun (answer, rest) => (answer, route :: rest)

/-- The response to a URL that no route answers. -/
def unscripted (url : String) : Response where
  status := 404
  body := Utf8.encode s!"no scripted response for {url}"

/-- Records a request and answers it. -/
def answer (gateway : Gateway) (request : Request) : Except Error Response × Gateway :=
  let gateway := { gateway with requests := gateway.requests ++ [request] }
  match answerFrom? request.url gateway.routes with
  | some (.ok response, routes) => (.ok response, { gateway with routes })
  | some (.error text, routes) => (.error (.transport text), { gateway with routes })
  | none => (.ok (unscripted request.url), gateway)

/-- Makes a connection, recorded by the identifier of its registration, unless it is to fail. -/
def connect (gateway : Gateway) (identifier : Option String) : Except Error Unit × Gateway :=
  if gateway.failing = 0 then (.ok (), { gateway with built := gateway.built ++ [identifier] })
  else (.error (.transport "no connection"), { gateway with failing := gateway.failing - 1 })

/-- The requests whose URL has a part. -/
def requestsTo (gateway : Gateway) (path : String) : List Request :=
  gateway.requests.filter fun request => Text.contains request.url path

end Gateway

end Rehearsal

end GatewaySession
