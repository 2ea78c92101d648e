import GuardedDispatch.Trace

/-! # Dispatch events

One request on its way through the pipeline: the request and the response under construction, the
matched route, the view pages, the parameters, and what every guard has done so far. The error of an
event is one of its parameters, so that pages can show it (`Event.error`). -/

namespace GuardedDispatch

/-- An HTTP **request** as the pipeline sees it. -/
structure HttpRequest where
  method : Value := .str "GET"
  path : String := "/"
  headers : List (String × String) := []
  query : List (String × String) := []

/-- What came in. Only HTTP requests are guarded. -/
inductive Request where
  /-- A request of no particular kind. -/
  | plain
  /-- An invocation from a command line. -/
  | console (arguments : List String)
  /-- An HTTP request. -/
  | http (request : HttpRequest)

/-- An HTTP **response** under construction: header lines by name, in the order in which the names
were first used. -/
structure HttpResponse where
  status : Value := .int 200
  headers : List (String × List Value) := []
  content : Value := .null

namespace HttpResponse

/-- Add a header line behind those of the same name. -/
def addHeader (response : HttpResponse) (name : String) (value : Value) : HttpResponse :=
  { response with
    headers := putField name ((lookupField name response.headers).getD [] ++ [value])
      response.headers }

/-- The first value of a header. -/
def header? (response : HttpResponse) (name : String) : Option Value :=
  (lookupField name response.headers).bind (·.head?)

/-- Header lines as the fields of a map. -/
def toFields (headers : List (String × List Value)) : Fields :=
  headers.map fun line => (.str line.1, .list line.2)

/-- The header lines among the fields of a map. -/
def ofFields (fields : Fields) : List (String × List Value) :=
  fields.filterMap fun
    | (.str name, .list values) => some (name, values)
    | _ => none

@[simp] theorem ofFields_toFields (headers : List (String × List Value)) :
    ofFields (toFields headers) = headers := by
  induction headers with
  | nil => rfl
  | cons line rest ih =>
    simp only [toFields, ofFields, List.map_cons, List.filterMap_cons] at ih ⊢
    rw [ih]

/-- The response as a value. -/
def toValue (response : HttpResponse) : Value :=
  .http response.status (toFields response.headers) response.content

/-- The HTTP response that a value is, if it is one. -/
def ofValue? : Value → Option HttpResponse
  | .http status headers content => some ⟨status, ofFields headers, content⟩
  | _ => none

@[simp] theorem ofValue?_toValue (response : HttpResponse) :
    ofValue? response.toValue = some response := by
  simp [toValue, ofValue?]

end HttpResponse

/-- The **route** that the router resolved: its name, if it has one, and the parameters found. -/
structure RouteMatch where
  name : Value := .null
  params : List (String × Value) := []

/-- What builds the **address** of a named route; it may leave a trace. -/
structure Router where
  address : Value → Asking Value

/-- The address of a name in a table. -/
def addressIn (table : List (String × Value)) (name : Value) : Except Failure Value :=
  match name, name.unhashable? with
  | _, some kind => .error (.type (.unhashable kind))
  | .str key, none =>
    match lookupField key table with
    | some url => .ok url
    | none => .error .key
  | _, none => .error .key

/-- A router that knows addresses by route name and **notes** each question. -/
def Router.ofTable (table : List (String × Value)) : Router where
  address name := do
    note (.address name)
    liftM (addressIn table name)

/-- A **page** of the view: a template and the values it is shown with. -/
structure Page where
  template : Value
  values : List (String × Value) := []

/-- A reference to a bus. -/
abbrev BusRef := Nat

/-- The **event** of one request. Its response is whatever a listener left as the answer. -/
structure Event where
  name : String := "route"
  id : String := "req_1"
  request : Option Request := none
  response : Value := .null
  routeMatch : Option RouteMatch := none
  router : Option Router := none
  result : Value := .null
  pages : List Page := []
  params : List (String × Value) := []
  bus : Option BusRef := none
  outcomes : List (String × Outcome) := []
  stopped : Bool := false

/-- The error kinds of an event that no guard sets. -/
inductive ErrorMark where
  /-- The application raised an error. -/
  | exception
  /-- No route matched. -/
  | noMatch
  deriving DecidableEq, Repr

/-- The printed name of an error kind. -/
def ErrorMark.name : ErrorMark → String
  | .exception => "error-exception"
  | .noMatch => "error-router-no-match"

/-- The **stages** of the pipeline. -/
inductive Stage where
  /-- The router has resolved the target. -/
  | route
  /-- The request is allowed, and its endpoint has not run. -/
  | dispatch
  /-- Something went wrong. -/
  | dispatchError
  /-- The response is chosen. -/
  | finish
  deriving DecidableEq, Repr

/-- The name of a stage. -/
def Stage.name : Stage → String
  | .route => "route"
  | .dispatch => "dispatch"
  | .dispatchError => "dispatch.error"
  | .finish => "finish"

/-- All stages, in the order of a request. -/
def Stage.all : List Stage := [.route, .dispatch, .dispatchError, .finish]

namespace Event

/-- The parameter of a name, or the absent value. -/
def param (event : Event) (name : String) : Value :=
  (lookupField name event.params).getD .null

/-- Write a parameter. -/
def setParam (event : Event) (name : String) (value : Value) : Event :=
  { event with params := putField name value event.params }

/-- The **error** of an event, absent while all is well. -/
def error (event : Event) : Value := event.param "error"

/-- Write the error. -/
def setError (event : Event) (value : Value) : Event := event.setParam "error" value

/-- Whether the event has an error. -/
def isError (event : Event) : Bool := event.error.truthy

/-- The response, if it is an HTTP response. -/
def httpResponse? (event : Event) : Option HttpResponse := HttpResponse.ofValue? event.response

/-- What a guard has done with the event so far. -/
def outcome (event : Event) (guard : String) : Outcome :=
  (lookupField guard event.outcomes).getD .unchecked

/-- **Move** a guard's outcome along an edge. -/
def transition (event : Event) (guard : String) (target : Outcome) : Except Failure Event :=
  if (event.outcome guard).precedes target then
    .ok { event with outcomes := putField guard target event.outcomes }
  else
    .error (.transition guard (event.outcome guard) target)

@[simp] theorem param_setParam_self (event : Event) (name : String) (value : Value) :
    (event.setParam name value).param name = value := by
  simp [param, setParam]

theorem param_setParam_of_ne {name other : String} (h : other ≠ name) (event : Event)
    (value : Value) : (event.setParam name value).param other = event.param other := by
  simp [param, setParam, lookupField_putField_of_ne h]

@[simp] theorem error_setError (event : Event) (value : Value) :
    (event.setError value).error = value := by
  simp [error, setError]

/-- A move that succeeds sets the outcome of its guard. -/
theorem outcome_of_transition {event after : Event} {guard : String} {target : Outcome}
    (h : event.transition guard target = .ok after) : after.outcome guard = target := by
  unfold transition at h
  split at h
  · simp only [Except.ok.injEq] at h
    subst h
    simp [outcome]
  · simp at h

/-- A move leaves the outcomes of other guards alone. -/
theorem outcome_of_transition_of_ne {event after : Event} {guard other : String} {target : Outcome}
    (h : event.transition guard target = .ok after) (ne : other ≠ guard) :
    after.outcome other = event.outcome other := by
  unfold transition at h
  split at h
  · simp only [Except.ok.injEq] at h
    subst h
    simp [outcome, lookupField_putField_of_ne ne]
  · simp at h

end Event

end GuardedDispatch
