import GuardedDispatch.Dispatch.Event
import GuardedDispatch.Json.Printer
import GuardedDispatch.Strategy
import GuardedDispatch.Text.Percent
import GuardedDispatch.Text.Utf8
import GuardedDispatch.Value.Order

/-! # Replies

The answers that go out to clients: a status, header lines and a body. A reply states the length of
its body first, unless its status forbids one, then the type of its content, then all other lines.

An event's HTTP response becomes a reply in one of three ways (`Event.reply`): a **redirection** if
its status is one and it names a location, the **rendered page** added last to the view if there is
one, and otherwise its own **content**. Its header lines follow, but a location that the reply
already has is not repeated. An event without an HTTP response is answered 403. -/

namespace GuardedDispatch

/-- A **reply**: status, header lines in order with lower-case names, octets of the body. -/
structure Reply where
  status : Value
  headers : List (String × String)
  body : List UInt8

namespace Reply

/-- Whether replies of a status state no length; only numbers can tell. -/
def hidesLength (status : Value) : Except Failure Bool :=
  match status.extent? with
  | some extent => .ok (extent.below (.ofInt 200) || [.int 204, .int 304].any (status == ·))
  | none => if status.isNumber then .ok false else .error (.type .unordered)

/-- The line that states the length of a body, if the status allows one. -/
def lengthLine (status : Value) (body : List UInt8) : Except Failure (List (String × String)) :=
  (hidesLength status).map fun hides =>
    if hides then [] else [("content-length", toString body.length)]

/-- The content type of JSON. -/
def jsonType : String := "application/json"

/-- The content type of pages. -/
def htmlType : String := "text/html; charset=utf-8"

/-- A reply with given lines in front of its own. -/
def of (status : Value) (front : List (String × String)) (contentType : Option String)
    (body : List UInt8) : Except Failure Reply :=
  (lengthLine status body).map fun line =>
    { status
      headers := front ++ line ++ (contentType.map fun type => ("content-type", type)).toList
      body }

/-- A reply with a JSON body. -/
def json (status : Value) (front : List (String × String)) (value : Value) :
    Except Failure Reply := do
  of status front (some jsonType) (Text.Utf8.encode (← Json.write value))

/-- The octets of a raw content. -/
def contentOctets : Value → Except Failure (List UInt8)
  | .null => .ok []
  | .bytes octets => .ok octets
  | .str s => .ok (Text.Utf8.encode s)
  | .codes .. => .error .unencodable
  | _ => .error .attribute

/-- The characters of an address that a redirection leaves as they are. -/
def addressMarks : List Char := ":/%#?=@[]!$&'()*+,;".toList

/-- The text of an address; a text that has no octets is none. -/
def addressText : Value → Except Failure String
  | .codes .. => .error .unencodable
  | url => url.print

/-- An address as a redirection writes it. -/
def quoteAddress (url : String) : String := Text.Percent.encode addressMarks url

/-- A reply that **redirects**. -/
def redirect (status : Value) (url : String) : Except Failure Reply :=
  (Reply.of status [] none []).map fun reply =>
    { reply with headers := reply.headers ++ [("location", quoteAddress url)] }

/-- The statuses that redirect. -/
def redirectStatuses : List Int := [301, 302, 303, 307, 308]

/-- Whether a status redirects; one that is not fixed cannot be asked. -/
def isRedirectStatus (status : Value) : Except Failure Bool :=
  match status.unhashable? with
  | some kind => .error (.type (.unhashable kind))
  | none => .ok (redirectStatuses.any fun code => status == .int code)

/-- Whether a text has octets in the header encoding, one for each character. -/
def isHeaderText (s : String) : Bool := s.toList.all (·.toNat < 256)

/-- Whether a reply has a line of a name. -/
def hasHeader (reply : Reply) (name : String) : Bool := reply.headers.any (·.1 == name)

/-- Add a header line of two texts; its name is lower-cased. -/
def addText (reply : Reply) (name value : String) : Except Failure Reply :=
  let name := Text.lowercase name
  if isHeaderText name && isHeaderText value then
    .ok { reply with headers := reply.headers ++ [(name, value)] }
  else
    .error .unencodable

/-- Add a header line; its value must be a text. -/
def addHeader (reply : Reply) (name : String) : Value → Except Failure Reply
  | .str value => reply.addText name value
  | .codes .. => .error .unencodable
  | _ => if isHeaderText (Text.lowercase name) then .error .attribute else .error .unencodable

/-- Add the lines of one header of a response; a location that is there is not repeated. -/
def addLines (reply : Reply) (name : String) (values : List Value) : Except Failure Reply :=
  if Text.lowercase name == "location" && reply.hasHeader "location" then .ok reply
  else values.foldlM (·.addHeader name ·) reply

/-- Add the header lines of a response. -/
def addResponseLines (reply : Reply) (headers : List (String × List Value)) :
    Except Failure Reply :=
  headers.foldlM (fun reply line => reply.addLines line.1 line.2) reply

end Reply

/-- What a page is **rendered** to: a text is HTML, anything else is JSON. -/
abbrev Renderer := Page → Except Failure Value

/-- A value of a page as JSON shows it: the identity becomes text. -/
def Page.jsonValue (name : String) (value : Value) : Except Failure Value :=
  if name = "identity" ∧ value.isNull = false then value.printed else .ok value

/-- A page as JSON: its template and its values. -/
def Page.toJson : Renderer := fun page => do
  let values ← page.values.mapM fun entry =>
    (Page.jsonValue entry.1 entry.2).map fun value => (entry.1, value)
  return .map (values.foldl (fun fields entry => putField (.str entry.1) entry.2 fields)
    [(.str "template", page.template)])

/-- The reply that shows a page. -/
def Renderer.reply (renderer : Renderer) (status : Value) (page : Page) : Except Failure Reply := do
  match ← renderer page with
  | .str html => Reply.of status [] (some Reply.htmlType) (Text.Utf8.encode html)
  | value => Reply.json status [] value

/-- The reply of a response, before its own header lines. -/
def HttpResponse.baseReply (renderer : Renderer) (pages : List Page) (response : HttpResponse) :
    Except Failure Reply := do
  let redirects ← Reply.isRedirectStatus response.status
  match (response.header? "Location").filter (·.truthy) with
  | some url =>
    if redirects then Reply.redirect response.status (← Reply.addressText url) else other
  | none => other
where
  /-- A rendered page, or the raw content. -/
  other : Except Failure Reply :=
    match pages.getLast? with
    | some page => renderer.reply response.status page
    | none => do Reply.of response.status [] none (← Reply.contentOctets response.content)

/-- The **reply** of an event. That there is no response is put on record first, and the record
names the error. -/
def Event.reply (renderer : Renderer) (event : Event) : Except Failure Reply :=
  match event.httpResponse? with
  | none => do
    discard event.error.print
    Reply.json (.int 403) [] (.map [(.str "detail", .str "Forbidden"), (.str "error", event.error)])
  | some response => do
    (← response.baseReply renderer event.pages).addResponseLines response.headers

end GuardedDispatch
