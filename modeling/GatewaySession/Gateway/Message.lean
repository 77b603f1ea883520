import GatewaySession.Error
import GatewaySession.Gateway.Form
import GatewaySession.Json.Basic
import GatewaySession.Number.Decimal
import GatewaySession.Table
import GatewaySession.Text.Blank

/-!
# Requests and responses

What goes to the gateway and what comes back. Header names are compared without regard to the case
of ASCII letters. A request keeps its headers in order and under the names they were given; setting
one removes every other spelling of it and appends. A response keeps one value for each name, and
names are in lower case.

## Main definitions

* `Request`, `Request.setHeader`, `Request.withForm`
* `Response`, `Response.header?`, `Response.errorCode?`
* `Response.refusal` — the error of a response that is not a success
-/

namespace GatewaySession

/-- Request methods. -/
inductive Method where
  | get
  | post
  | put
  | delete
  deriving DecidableEq

/-- The method as it stands in a request line. -/
def Method.name : Method → String
  | get => "GET"
  | post => "POST"
  | put => "PUT"
  | delete => "DELETE"

namespace Header

/-- A header name in lower case; letters outside ASCII stay as they are. -/
def lower (name : String) : String := String.ofList (name.toList.map Char.toLower)

/-- Whether two spellings name one header. -/
def same (a b : String) : Bool := lower a == lower b

end Header

/-! ### Requests -/

/-- A request to the gateway. -/
structure Request where
  /-- The method. -/
  method : Method
  /-- The absolute URL. -/
  url : String
  /-- Names and values in the order in which they were set. -/
  headers : List (String × String) := []
  /-- The body, if there is one. -/
  body : Option Bytes := none
  /-- Whether the request goes without an access token. -/
  isPublic : Bool := false
  deriving DecidableEq

namespace Request

/-- Sets a header: every header of that name goes, and the new one comes last. -/
def setHeader (request : Request) (name value : String) : Request :=
  let others := request.headers.filter fun header => !Header.same header.1 name
  { request with headers := others ++ [(name, value)] }

/-- The value of the first header of that name. -/
def header? (request : Request) (name : String) : Option String :=
  (request.headers.find? fun header => Header.same header.1 name).map (·.2)

/-- Sets the body. -/
def withBody (request : Request) (body : Bytes) : Request := { request with body := some body }

/-- Makes the request a form. -/
def withForm (request : Request) (params : Form.Params) : Request :=
  (request.setHeader "content-type" "application/x-www-form-urlencoded").withBody
    (Form.encode params)

/-- Marks the request as one that goes without an access token. -/
def makePublic (request : Request) : Request := { request with isPublic := true }

end Request

/-! ### Responses -/

/-- A response of the gateway. -/
structure Response where
  /-- The status code. -/
  status : UInt16
  /-- Values by header name in lower case. -/
  headers : Table String := .empty
  /-- The body. -/
  body : Bytes := []

namespace Response

/-- Adds a header, replacing one of the same name. -/
def withHeader (response : Response) (name value : String) : Response :=
  { response with headers := response.headers.insert (Header.lower name) value }

/-- The value of a header. -/
def header? (response : Response) (name : String) : Option String :=
  response.headers.get? (Header.lower name)

/-- Whether the status is one of success. -/
def isSuccess (response : Response) : Bool := 200 ≤ response.status && response.status < 300

/-- The body as text. -/
def text (response : Response) : String := Utf8.decodeLossy response.body

/-- The error code that the gateway put into a header. -/
def errorCode? (response : Response) : Option UInt64 :=
  (response.header? "x-ca-err").bind fun value => Decimal.readUInt64? (Text.trim value)

/-- The error that a response other than a success stands for. -/
def refusal (response : Response) : Error :=
  Error.ofReply response.status response.errorCode? response.text

/-- The response if it is a success, else its error. -/
def checked (response : Response) : Except Error Response :=
  if response.isSuccess then .ok response else .error response.refusal

end Response

end GatewaySession
