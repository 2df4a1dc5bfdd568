import Converge.Data.Value
import Converge.Http.Url
import Converge.Log.Basic
import Converge.Program
/-!
# Requests and responses

What is sent to the control plane and what comes back, and what a client asks of its
surroundings: to send a request, to wait, and to write to the log.
-/

namespace Converge.Http

/-- What a request wants. -/
inductive Method where
  | get
  | post
  | put
  | patch
  | delete
  deriving DecidableEq, Repr, Inhabited

/-- The word for a method. -/
def Method.word : Method → String
  | .get => "GET"
  | .post => "POST"
  | .put => "PUT"
  | .patch => "PATCH"
  | .delete => "DELETE"

/-- A request.  Names of headers are in small letters. -/
structure Request where
  method : Method
  url : Url
  headers : List (String × String)
  body : Option Value
  deriving Repr, Inhabited

/-- The answer to a request. -/
structure Response where
  status : UInt16
  headers : List (String × String)
  body : String
  deriving DecidableEq, Repr, Inhabited

namespace Response

/-- Cuts spaces and tabs off both ends. -/
def trimField (s : String) : String :=
  let isSpace := fun c => c = ' ' || c = '\t'
  String.ofList ((s.toList.dropWhile isSpace).reverse.dropWhile isSpace).reverse

/-- The value of a header, whose name is given in small letters. -/
def header? (r : Response) (name : String) : Option String :=
  (r.headers.find? fun h => h.1.toLower = name).map fun h => trimField h.2

/-- Whether the request was carried out. -/
def isSuccess (r : Response) : Bool := 200 ≤ r.status && r.status < 300

end Response

/-- What a client asks. -/
inductive Question where
  | send (r : Request)
  | sleep (milliseconds : Nat)
  | log (level : Level) (text : String)
  deriving Repr

/-- What a client is answered with; a request that got no answer has no response. -/
@[reducible] def Question.Reply : Question → Type
  | .send _ => Option Response
  | .sleep _ => Unit
  | .log _ _ => Unit

/-- What clients ask, and what they are answered with. -/
@[reducible] def interface : Interface := ⟨Question, Question.Reply⟩

end Converge.Http
