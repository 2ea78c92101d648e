import GuardedDispatch.Proofs.Web.Heading

/-! # What a reply conveys of a response

A response is answered in one of three ways, all of which keep its status (`HttpResponse.Answers`):
it redirects, or its last page is rendered, or its content goes out as it is. The header lines of
the response follow. A reply is there exactly if one of the answers can be given and all lines that
are copied can be sent (`Event.reply_eq_ok_iff`).

* **`Event.reply_of_none`**: an event without a response is forbidden, and its error is shown.
* **`Event.reply_conveys`**: where everything has a form, nothing but locations is lost. -/

namespace GuardedDispatch

/-! ## Ways to answer -/

/-- How a value that a page was rendered to is **shown**: a text is HTML, all else is JSON. -/
inductive Value.Shows : Value → String → List UInt8 → Prop where
  /-- A text. -/
  | text (html : String) : Shows (.str html) Reply.htmlType (Text.Utf8.encode html)
  /-- What has a JSON form. -/
  | data {value : Value} {text : String} (other : ∀ html, value ≠ .str html)
    (written : Json.write value = .ok text) : Shows value Reply.jsonType (Text.Utf8.encode text)

namespace HttpResponse

/-- A response that **redirects** to an address: its status says so, and its first location is that
address and is not empty. -/
structure RedirectsTo (response : HttpResponse) (url : String) : Prop where
  status : Reply.isRedirectStatus response.status = .ok true
  location : ∃ location, response.header? "Location" = some location ∧ location.truthy = true ∧
    Reply.addressText location = .ok url

/-- A response that **stays**. -/
inductive Stays (response : HttpResponse) : Prop where
  /-- Its status is not that of a redirection. -/
  | status (other : Reply.isRedirectStatus response.status = .ok false)
  /-- It has no location, or an empty one. -/
  | location {redirects : Bool} (known : Reply.isRedirectStatus response.status = .ok redirects)
    (empty : ∀ location, response.header? "Location" = some location → location.truthy = false)

/-- What a response is **answered** with in front of its own header lines: the lines of the
framework, and the body. -/
inductive Answers (renderer : Renderer) (pages : List Page) (response : HttpResponse) :
    List (String × String) → List UInt8 → Prop where
  /-- A redirection has no body. -/
  | redirection {url : String} {length : List (String × String)}
    (redirects : response.RedirectsTo url)
    (measured : Reply.lengthLine response.status [] = .ok length) :
    Answers renderer pages response (length ++ [("location", Reply.quoteAddress url)]) []
  /-- The last page is rendered. -/
  | page {page : Page} {shown : Value} {type : String} {body : List UInt8}
    {length : List (String × String)} (stays : response.Stays)
    (last : pages.getLast? = some page) (rendered : renderer page = .ok shown)
    (shows : shown.Shows type body)
    (measured : Reply.lengthLine response.status body = .ok length) :
    Answers renderer pages response (length ++ [("content-type", type)]) body
  /-- Without a page, the content goes out as it is. -/
  | content {body : List UInt8} {length : List (String × String)} (stays : response.Stays)
    (noPage : pages = []) (octets : Reply.contentOctets response.content = .ok body)
    (measured : Reply.lengthLine response.status body = .ok length) :
    Answers renderer pages response length body

end HttpResponse

/-- **Making a reply** states the length of its body, if that can be stated. -/
theorem Reply.of_eq_ok_iff {status : Value} {type : Option String} {body : List UInt8}
    {reply : Reply} :
    Reply.of status [] type body = .ok reply ↔
      ∃ length, lengthLine status body = .ok length ∧
        reply = ⟨status, length ++ (type.map fun type => ("content-type", type)).toList, body⟩ := by
  unfold Reply.of
  cases measured : lengthLine status body with
  | error failure =>
    constructor
    · rintro ⟨⟩
    · rintro ⟨_, ⟨⟩, -⟩
  | ok length =>
    constructor
    · rintro ⟨⟩
      exact ⟨length, rfl, rfl⟩
    · rintro ⟨_, ⟨⟩, rfl⟩
      rfl

/-- **Redirecting** names the address behind the length. -/
theorem Reply.redirect_eq_ok_iff {status : Value} {url : String} {reply : Reply} :
    Reply.redirect status url = .ok reply ↔
      ∃ length, lengthLine status [] = .ok length ∧
        reply = ⟨status, length ++ [("location", quoteAddress url)], []⟩ := by
  unfold Reply.redirect
  constructor
  · intro made
    cases based : Reply.of status [] none [] with
    | error failure =>
      rw [based] at made
      cases made
    | ok base =>
      rw [based] at made
      cases made
      obtain ⟨length, measured, rfl⟩ := Reply.of_eq_ok_iff.1 based
      exact ⟨length, measured, by simp⟩
  · rintro ⟨length, measured, rfl⟩
    rw [Reply.of_eq_ok_iff.2 ⟨length, measured, rfl⟩]
    simp [Except.map]

/-- **Rendering a page** shows what it is rendered to. -/
theorem Renderer.reply_eq_ok_iff {renderer : Renderer} {status : Value} {page : Page}
    {reply : Reply} :
    renderer.reply status page = .ok reply ↔
      ∃ shown type body length, renderer page = .ok shown ∧ Value.Shows shown type body ∧
        Reply.lengthLine status body = .ok length ∧
        reply = ⟨status, length ++ [("content-type", type)], body⟩ := by
  constructor
  · intro made
    obtain ⟨shown, rendered, made⟩ := exists_ok_of_bind made
    split at made
    · next html =>
      obtain ⟨length, measured, rfl⟩ := Reply.of_eq_ok_iff.1 made
      exact ⟨_, _, _, length, rendered, .text html, measured, rfl⟩
    · next other =>
      obtain ⟨text, written, made⟩ := exists_ok_of_bind made
      obtain ⟨length, measured, rfl⟩ := Reply.of_eq_ok_iff.1 made
      exact ⟨_, _, _, length, rendered, .data other written, measured, rfl⟩
  · rintro ⟨shown, type, body, length, rendered, shows, measured, rfl⟩
    unfold Renderer.reply
    rw [rendered]
    cases shows with
    | text html => exact Reply.of_eq_ok_iff.2 ⟨length, measured, rfl⟩
    | data other written =>
      dsimp only [bind, Except.bind]
      split
      · next html => exact absurd rfl (other html)
      · unfold Reply.json
        rw [written]
        exact Reply.of_eq_ok_iff.2 ⟨length, measured, rfl⟩

/-- The line that states a length is no location. -/
theorem Reply.any_location_of_lengthLine {status : Value} {body : List UInt8}
    {length : List (String × String)} (measured : lengthLine status body = .ok length) :
    length.any (·.1 == "location") = false := by
  unfold lengthLine at measured
  cases hides : hidesLength status with
  | error failure =>
    rw [hides] at measured
    cases measured
  | ok isHidden =>
    rw [hides] at measured
    cases isHidden <;> cases measured <;> rfl

namespace HttpResponse

variable {renderer : Renderer} {pages : List Page} {response : HttpResponse}

/-- A response that stays does not redirect. -/
theorem Stays.not_redirectsTo (stays : response.Stays) (url : String) :
    ¬ response.RedirectsTo url := by
  rintro ⟨status, location, first, truthy, -⟩
  cases stays with
  | status other =>
    rw [status] at other
    cases other
  | location _ empty =>
    rw [empty location first] at truthy
    cases truthy

/-- Whoever does not stay has the status of a redirection, and a location. -/
theorem exists_location_of_not_stays {redirects : Bool}
    (known : Reply.isRedirectStatus response.status = .ok redirects) (leaves : ¬ response.Stays) :
    redirects = true ∧ ∃ location, response.header? "Location" = some location ∧
      location.truthy = true := by
  by_contra other
  cases redirects with
  | false => exact leaves (.status known)
  | true =>
    refine leaves (.location known fun location first => ?_)
    by_contra truthy
    exact other ⟨rfl, location, first, by simpa using truthy⟩

/-- What stays is answered by its last page or its content. -/
theorem Stays.other_eq_ok_iff (stays : response.Stays) {base : Reply} :
    baseReply.other renderer pages response = .ok base ↔
      ∃ own body, response.Answers renderer pages own body ∧
        base = ⟨response.status, own, body⟩ := by
  unfold baseReply.other
  cases last : pages.getLast? with
  | some page =>
    constructor
    · intro made
      obtain ⟨shown, type, body, length, rendered, shows, measured, rfl⟩ :=
        Renderer.reply_eq_ok_iff.1 made
      exact ⟨_, body, .page stays last rendered shows measured, rfl⟩
    · rintro ⟨own, body, answers, rfl⟩
      cases answers with
      | redirection redirects _ => exact absurd redirects (stays.not_redirectsTo _)
      | page _ last' rendered shows measured =>
        cases last.symm.trans last'
        exact Renderer.reply_eq_ok_iff.2 ⟨_, _, _, _, rendered, shows, measured, rfl⟩
      | content _ noPage =>
        rw [noPage] at last
        cases last
  | none =>
    have noPage : pages = [] := List.getLast?_eq_none_iff.1 last
    constructor
    · intro made
      obtain ⟨body, octets, made⟩ := exists_ok_of_bind made
      obtain ⟨length, measured, rfl⟩ := Reply.of_eq_ok_iff.1 made
      refine ⟨length, body, .content stays noPage octets measured, ?_⟩
      simp
    · rintro ⟨own, body, answers, rfl⟩
      cases answers with
      | redirection redirects _ => exact absurd redirects (stays.not_redirectsTo _)
      | page _ last' => cases last.symm.trans last'
      | content _ _ octets measured =>
        show (Reply.contentOctets response.content >>= fun body => _) = _
        rw [octets]
        exact Reply.of_eq_ok_iff.2 ⟨_, measured, by simp⟩

/-- A response that stays is not sent on. -/
theorem Stays.baseReply_eq (stays : response.Stays) :
    response.baseReply renderer pages = baseReply.other renderer pages response := by
  unfold baseReply
  cases stays with
  | status other =>
    rw [other]
    cases (response.header? "Location").filter (·.truthy) <;> rfl
  | location known empty =>
    have none : (response.header? "Location").filter (·.truthy) = none := by
      rw [Option.filter_eq_none_iff]
      intro location first
      rw [empty location first]
      exact Bool.false_ne_true
    rw [known, none]
    rfl

/-- A response with a location and the status of a redirection is sent on to that location. -/
theorem baseReply_of_location {location : Value}
    (status : Reply.isRedirectStatus response.status = .ok true)
    (first : response.header? "Location" = some location) (truthy : location.truthy = true) :
    response.baseReply renderer pages =
      Reply.addressText location >>= Reply.redirect response.status := by
  unfold baseReply
  rw [status, first, Option.filter_some, if_pos truthy]
  rfl

/-- **The reply of a response before its own header lines** is what it is answered with, under its
status. -/
theorem baseReply_eq_ok_iff {base : Reply} :
    response.baseReply renderer pages = .ok base ↔
      ∃ own body, response.Answers renderer pages own body ∧
        base = ⟨response.status, own, body⟩ := by
  by_cases stays : response.Stays
  · rw [stays.baseReply_eq, stays.other_eq_ok_iff]
  cases known : Reply.isRedirectStatus response.status with
  | error failure =>
    constructor
    · intro made
      unfold baseReply at made
      rw [known] at made
      cases made
    · rintro ⟨own, body, answers, -⟩
      cases answers with
      | redirection redirects _ => rw [redirects.status] at known; cases known
      | page stays' => exact absurd stays' stays
      | content stays' => exact absurd stays' stays
  | ok redirects =>
    obtain ⟨rfl, location, first, truthy⟩ := exists_location_of_not_stays known stays
    rw [baseReply_of_location known first truthy]
    constructor
    · intro made
      obtain ⟨url, isUrl, made⟩ := exists_ok_of_bind made
      obtain ⟨length, measured, rfl⟩ := Reply.redirect_eq_ok_iff.1 made
      exact ⟨_, [], .redirection ⟨known, location, first, truthy, isUrl⟩ measured, rfl⟩
    · rintro ⟨own, body, answers, rfl⟩
      cases answers with
      | redirection redirects measured =>
        obtain ⟨-, location', first', -, isUrl⟩ := redirects
        cases first.symm.trans first'
        rw [isUrl]
        exact Reply.redirect_eq_ok_iff.2 ⟨_, measured, rfl⟩
      | page stays' => exact absurd stays' stays
      | content stays' => exact absurd stays' stays

/-- **What a response is answered with has a location iff it redirects.** -/
theorem Answers.any_location_iff {own : List (String × String)} {body : List UInt8}
    (answers : response.Answers renderer pages own body) :
    own.any (·.1 == "location") = true ↔ ∃ url, response.RedirectsTo url := by
  cases answers with
  | redirection redirects measured => exact iff_of_true (by simp) ⟨_, redirects⟩
  | page stays _ _ _ measured =>
    refine iff_of_false ?_ fun ⟨url, redirects⟩ => stays.not_redirectsTo url redirects
    simp [List.any_append, Reply.any_location_of_lengthLine measured]
  | content stays _ _ measured =>
    refine iff_of_false ?_ fun ⟨url, redirects⟩ => stays.not_redirectsTo url redirects
    rw [Reply.any_location_of_lengthLine measured]
    exact Bool.false_ne_true

end HttpResponse

/-- **The reply of an event with an HTTP response** is what that is answered with, followed by the
header lines that are copied. There is none if one of these lines cannot be sent. -/
theorem Event.reply_eq_ok_iff {renderer : Renderer} {event : Event} {response : HttpResponse}
    (there : event.httpResponse? = some response) {reply : Reply} :
    event.reply renderer = .ok reply ↔
      ∃ own body sent, response.Answers renderer event.pages own body ∧
        List.Forall₂ Reply.Sends
          (Reply.copied (own.any (·.1 == "location")) response.headers) sent ∧
        reply = ⟨response.status, own ++ sent, body⟩ := by
  unfold Event.reply
  rw [there]
  constructor
  · intro made
    obtain ⟨base, based, made⟩ := exists_ok_of_bind made
    obtain ⟨own, body, answers, rfl⟩ := HttpResponse.baseReply_eq_ok_iff.1 based
    obtain ⟨sent, all, rfl⟩ := Reply.addResponseLines_eq_ok_iff.1 made
    exact ⟨own, body, sent, answers, all, rfl⟩
  · rintro ⟨own, body, sent, answers, all, rfl⟩
    show response.baseReply renderer event.pages >>= _ = _
    rw [HttpResponse.baseReply_eq_ok_iff.2 ⟨own, body, answers, rfl⟩]
    exact Reply.addResponseLines_eq_ok_iff.2 ⟨sent, all, rfl⟩

/-! ## Responses that are answered -/

/-- Headers that **can be encoded**: their names and values are texts in the header encoding. -/
def Reply.Encodable (headers : List (String × List Value)) : Prop :=
  ∀ line ∈ linesOf headers, isHeaderText line.1 = true ∧
    ∃ text, line.2 = .str text ∧ isHeaderText text = true

/-- Lines of headers that can be encoded are sent. -/
theorem Reply.exists_forall₂_sends : ∀ {lines : List (String × Value)},
    (∀ line ∈ lines, isHeaderText line.1 = true ∧
      ∃ text, line.2 = .str text ∧ isHeaderText text = true) →
    ∃ sent, List.Forall₂ Sends lines sent
  | [], _ => ⟨[], .nil⟩
  | (name, value) :: rest, encoded => by
    obtain ⟨isName, text, isText, isEncoded⟩ := encoded _ List.mem_cons_self
    obtain ⟨sent, all⟩ := Reply.exists_forall₂_sends fun line mem =>
      encoded line (List.mem_cons_of_mem _ mem)
    obtain ⟨first, sends⟩ := exists_sends isName isEncoded
    obtain ⟨rfl⟩ : value = .str text := isText
    exact ⟨first :: sent, .cons sends all⟩

/-- A response that **can be shown**: its content is nothing, octets or a text with octets, and the
page to show is rendered to something that has a form. -/
structure HttpResponse.Presentable (renderer : Renderer) (pages : List Page)
    (response : HttpResponse) : Prop where
  content : ∃ octets, Reply.contentOctets response.content = .ok octets
  page : ∀ page, pages.getLast? = some page →
    ∃ shown type body, renderer page = .ok shown ∧ Value.Shows shown type body

/-- The length of a body can be stated for numbers, and whether they redirect can be told. -/
theorem Value.exists_of_isNumber {status : Value} (isNumber : status.isNumber = true) :
    (∃ redirects, Reply.isRedirectStatus status = .ok redirects) ∧
      ∀ body, ∃ length, Reply.lengthLine status body = .ok length := by
  constructor
  · have fixed : status.unhashable? = none := by
      cases status <;> first | rfl | cases isNumber
    exact ⟨_, by rw [Reply.isRedirectStatus, fixed]⟩
  · intro body
    obtain ⟨hides, known⟩ : ∃ hides, Reply.hidesLength status = .ok hides := by
      unfold Reply.hidesLength
      cases status.extent? with
      | some extent => exact ⟨_, rfl⟩
      | none => exact ⟨false, if_pos isNumber⟩
    exact ⟨_, by rw [Reply.lengthLine, known]; rfl⟩

/-- A first value is one of the lines. -/
theorem HttpResponse.mem_linesOf_of_header? {response : HttpResponse} {name : String}
    {value : Value} (first : response.header? name = some value) :
    (name, value) ∈ Reply.linesOf response.headers := by
  obtain ⟨values, found, isFirst⟩ := Option.bind_eq_some_iff.1 first
  exact List.mem_flatMap.2 ⟨(name, values), mem_of_lookupField found,
    List.mem_map_of_mem (List.mem_of_head? isFirst)⟩

/-- **A response that can be shown is answered**, if its headers can be encoded. -/
theorem HttpResponse.exists_answers {renderer : Renderer} {pages : List Page}
    {response : HttpResponse} (isNumber : response.status.isNumber = true)
    (encodable : Reply.Encodable response.headers)
    (presentable : response.Presentable renderer pages) :
    ∃ own body, response.Answers renderer pages own body := by
  obtain ⟨⟨redirects, known⟩, measured⟩ := Value.exists_of_isNumber isNumber
  by_cases stays : response.Stays
  · cases last : pages.getLast? with
    | some page =>
      obtain ⟨shown, type, body, rendered, shows⟩ := presentable.page page last
      obtain ⟨length, measured⟩ := measured body
      exact ⟨_, body, .page stays last rendered shows measured⟩
    | none =>
      obtain ⟨body, octets⟩ := presentable.content
      obtain ⟨length, measured⟩ := measured body
      exact ⟨length, body, .content stays (List.getLast?_eq_none_iff.1 last) octets measured⟩
  · obtain ⟨rfl, location, first, truthy⟩ := exists_location_of_not_stays known stays
    obtain ⟨-, url, isText, -⟩ := encodable _ (mem_linesOf_of_header? first)
    obtain ⟨length, measured⟩ := measured []
    have isUrl : Reply.addressText location = .ok url := by
      obtain ⟨rfl⟩ : location = .str url := isText
      exact Value.print_str url
    exact ⟨_, [], .redirection ⟨known, location, first, truthy, isUrl⟩ measured⟩

/-! ## Without a response -/

/-- What an event without a response **is told** in JSON, given the text of its error. -/
def Reply.forbiddenText (error : String) : String :=
  "\x7b" ++ ",".intercalate [Json.writeText "detail" ++ ":" ++ Json.writeText "Forbidden",
    Json.writeText "error" ++ ":" ++ error] ++ "\x7d"

namespace Json

/-- An integer that is written is not long. -/
theorem short_of_writeInt {i : Int} {text : String} (written : writeInt i = .ok text) :
    Decimal.isLong i = false := by
  unfold writeInt at written
  split at written
  · cases written
  · exact Bool.eq_false_iff.2 ‹_›

/-- Neither is a key. -/
theorem short_of_writeKey {v : Value} {text : String} (written : writeKey v = .ok text) :
    v.holdsLong = false := by
  cases v with
  | int i =>
    rw [writeKey] at written
    obtain ⟨digits, written, -⟩ := exists_ok_of_map written
    exact short_of_writeInt written
  | list _ | tuple _ | set _ | map _ | http _ _ _ | knot _ _ => cases written
  | _ => rfl

mutual

/-- **What has a JSON form can be printed**: it holds no integer of too many digits. -/
theorem short_of_write {v : Value} {text : String} (written : write v = .ok text) :
    v.holdsLong = false := by
  cases v with
  | int i =>
    rw [write] at written
    exact short_of_writeInt written
  | list items | tuple items =>
    rw [write] at written
    obtain ⟨parts, written, -⟩ := exists_ok_of_map written
    exact short_of_writeItems written
  | map fields =>
    rw [write] at written
    obtain ⟨parts, written, -⟩ := exists_ok_of_map written
    exact short_of_writeFields written
  | set _ | http _ _ _ | knot _ _ => cases written
  | _ => rfl

/-- Written items are not long. -/
theorem short_of_writeItems : ∀ {items : List Value} {parts : List String},
    writeItems items = .ok parts → Value.holdsLongItem items = false
  | [], _, _ => rfl
  | _ :: _, _, written => by
    obtain ⟨first, written, rest⟩ := exists_ok_of_bind written
    obtain ⟨parts, writtenRest, -⟩ := exists_ok_of_bind rest
    rw [Value.holdsLongItem, short_of_write written, short_of_writeItems writtenRest]
    rfl

/-- Written fields are not long. -/
theorem short_of_writeFields : ∀ {fields : Fields} {parts : List String},
    writeFields fields = .ok parts → Value.holdsLongField fields = false
  | [], _, _ => rfl
  | _ :: _, _, written => by
    obtain ⟨key, writtenKey, rest⟩ := exists_ok_of_bind written
    obtain ⟨text, written, rest⟩ := exists_ok_of_bind rest
    obtain ⟨parts, writtenRest, -⟩ := exists_ok_of_bind rest
    rw [Value.holdsLongField, short_of_writeKey writtenKey, short_of_write written,
      short_of_writeFields writtenRest]
    rfl

end

end Json

/-- **Without a response an event is forbidden**, and its error is shown. There is no reply if the
error cannot be printed or has no JSON form. -/
theorem Event.reply_of_none {renderer : Renderer} {event : Event}
    (none : event.httpResponse? = none) :
    event.reply renderer = event.error.print.bind fun _ =>
      (Json.write event.error).bind fun text => Reply.of (.int 403) [] (some Reply.jsonType)
        (Text.Utf8.encode (Reply.forbiddenText text)) := by
  have written :
      Json.write (.map [(.str "detail", .str "Forbidden"), (.str "error", event.error)]) =
        (Json.write event.error).map Reply.forbiddenText := by
    rw [Json.write, Json.writeFields, Json.writeFields, Json.writeFields, Json.writeKey,
      Json.writeKey, Json.write]
    cases Json.write event.error <;> rfl
  unfold Event.reply Reply.json
  rw [none]
  dsimp only
  rw [written]
  cases event.error.print <;> cases Json.write event.error <;> rfl

/-! ## The reply of any event -/

/-- **A reply conveys its response**, whatever the event and the renderer are. Without a response
the event is forbidden, if its error has a JSON form. A response whose status is a number, whose
headers can be encoded and which can be shown has a reply: it keeps the status, has the body of one
of the three answers, and behind the lines of this answer has every line that is no location, in
order. -/
theorem Event.reply_conveys (renderer : Renderer) (event : Event) :
    (event.httpResponse? = none →
      (∀ text, Json.write event.error = .ok text →
        ∃ reply, event.reply renderer = .ok reply ∧ reply.status = .int 403 ∧
          reply.body = Text.Utf8.encode (Reply.forbiddenText text)) ∧
      ∀ failure, Json.write event.error = .error failure → ∃ raised,
        event.reply renderer = .error raised ∧
          (event.error.holdsLong = false → raised = failure)) ∧
    ∀ response, event.httpResponse? = some response → response.status.isNumber = true →
      Reply.Encodable response.headers → response.Presentable renderer event.pages →
      ∃ reply own sent, event.reply renderer = .ok reply ∧ reply.status = response.status ∧
        response.Answers renderer event.pages own reply.body ∧ reply.headers = own ++ sent ∧
        List.Forall₂ Reply.Sends
          ((Reply.linesOf response.headers).filter fun line => !Reply.isLocation line.1)
          (sent.filter fun line => line.1 != "location") := by
  refine ⟨fun none => ⟨fun text written => ?_, fun failure fails => ?_⟩, ?_⟩
  · rw [Event.reply_of_none none, written, Value.print,
      Value.unlessLong_of_short (Json.short_of_write written)]
    exact ⟨_, rfl, rfl, rfl⟩
  · rw [Event.reply_of_none none, fails]
    cases size : event.error.holdsLong with
    | true =>
      rw [Value.print, Value.unlessLong_of_long size]
      exact ⟨_, rfl, fun short => absurd short (by decide)⟩
    | false =>
      rw [Value.print, Value.unlessLong_of_short size]
      exact ⟨failure, rfl, fun _ => rfl⟩
  · intro response there isNumber encodable presentable
    obtain ⟨own, body, answers⟩ := HttpResponse.exists_answers isNumber encodable presentable
    obtain ⟨sent, all⟩ := Reply.exists_forall₂_sends fun line mem =>
      encodable line ((Reply.copied_sublist (own.any (·.1 == "location")) _).subset mem)
    refine ⟨⟨response.status, own ++ sent, body⟩, own, sent,
      (Event.reply_eq_ok_iff there).2 ⟨own, body, sent, answers, all, rfl⟩, rfl, answers, rfl, ?_⟩
    rw [← Reply.filter_copied]
    exact Reply.filter_of_sends not all

/-- The last of two pages is shown with all lines, and a header that has two lines keeps both. -/
theorem Event.reply_conveys_pages :
    let response : HttpResponse :=
      { status := .int 404, headers := [("X-Mark", [.str "a", .str "b"]), ("Vary", [.str "c"])] }
    let event : Event :=
      { response := response.toValue, pages := [⟨.str "first", []⟩, ⟨.str "last", []⟩] }
    ∃ reply own sent, event.reply (fun page => .ok page.template) = .ok reply ∧
      reply.status = .int 404 ∧ reply.body = Text.Utf8.encode "last" ∧
      reply.headers = own ++ sent ∧
      List.Forall₂ Reply.Sends [("X-Mark", .str "a"), ("X-Mark", .str "b"), ("Vary", .str "c")]
        (sent.filter fun line => line.1 != "location") := by
  intro response event
  have encodable : Reply.Encodable response.headers := by
    intro line mem
    have cases : line = ("X-Mark", .str "a") ∨ line = ("X-Mark", .str "b") ∨
        line = ("Vary", .str "c") := by simpa [Reply.linesOf, response] using mem
    rcases cases with rfl | rfl | rfl <;> exact ⟨by decide, _, rfl, by decide⟩
  have presentable : response.Presentable (fun page => .ok page.template) event.pages :=
    ⟨⟨[], rfl⟩, by rintro page ⟨⟩; exact ⟨_, _, _, rfl, .text "last"⟩⟩
  obtain ⟨reply, own, sent, isReply, status, answers, headers, all⟩ :=
    (Event.reply_conveys (fun page => .ok page.template) event).2 response rfl rfl encodable
      presentable
  refine ⟨reply, own, sent, isReply, status, ?_, headers, all⟩
  generalize reply.body = body at answers ⊢
  cases answers with
  | redirection redirects => cases redirects.status
  | page _ last rendered shows =>
    cases last
    cases rendered
    cases shows with
    | text => rfl
    | data other => exact absurd rfl (other "last")
  | content _ noPage => cases noPage

/-- There is no reply about an error that is an exception, and none with a text that has no
octets. -/
theorem Event.reply_of_boom :
    let raised : Event := { params := [("error", .error ⟨.runtime, "boom"⟩)] }
    let half : Value := .codes [0xD800] (by decide)
    let unpaired : Event := { response := HttpResponse.toValue { content := half } }
    raised.httpResponse? = none ∧ raised.reply Page.toJson = .error (.type .notJson) ∧
      unpaired.httpResponse? = some { content := half } ∧
      unpaired.reply Page.toJson = .error .unencodable := by
  exact ⟨rfl, rfl, rfl, rfl⟩

end GuardedDispatch
