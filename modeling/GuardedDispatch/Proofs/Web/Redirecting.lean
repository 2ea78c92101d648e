import GuardedDispatch.Proofs.Resolving.Acting
import GuardedDispatch.Proofs.Web.Conveying

/-! # Where clients are redirected

A redirection puts its address behind the locations that a response has, and the reply leads to the
first of them (`HttpResponse.header?_addHeader`). So a client is sent where the strategy says if no
location was there before, and otherwise to what somebody else has left
(`Run.leadsTo_of_redirect`). -/

namespace GuardedDispatch

namespace Reply

/-- The **locations** of a reply. -/
def locations (reply : Reply) : List String :=
  (reply.headers.filter (·.1 == "location")).map (·.2)

/-- The locations of a reply stand in its own lines, and in what was sent. -/
theorem locations_append (status : Value) (own sent : List (String × String)) (body : List UInt8) :
    locations ⟨status, own ++ sent, body⟩ = (own.filter (·.1 == "location")).map (·.2) ++
      (sent.filter (·.1 == "location")).map (·.2) := by
  rw [locations, List.filter_append, List.map_append]

/-- A result that **leads to one address**, with the other lines of a response: there is a reply iff
these can be sent, its status is 302, and it has one location. -/
structure LeadsTo (others : List (String × Value)) (address : String)
    (result : Except Failure Reply) : Prop where
  sendable : (∃ reply, result = .ok reply) ↔ ∃ sent, List.Forall₂ Sends others sent
  status : ∀ reply, result = .ok reply → reply.status = .int 302
  locations : ∀ reply, result = .ok reply → reply.locations = [quoteAddress address]

end Reply

namespace HttpResponse

/-- **The first value of a header stays the first** if another is added. -/
theorem header?_addHeader (response : HttpResponse) (name : String) (value : Value) :
    (response.addHeader name value).header? name = some ((response.header? name).getD value) := by
  unfold header? addHeader
  dsimp only
  rw [lookupField_putField_self]
  cases lookupField name response.headers with
  | none => rfl
  | some values => cases values <;> rfl

/-- A response that redirects does so to its first location only. -/
theorem RedirectsTo.eq {response : HttpResponse} {url address : String} {first : Value}
    (redirects : response.RedirectsTo url) (isFirst : response.header? "Location" = some first)
    (isAddress : Reply.addressText first = .ok address) : url = address := by
  obtain ⟨-, location, isFirst', -, isUrl⟩ := redirects
  cases isFirst.symm.trans isFirst'
  exact Except.ok.inj (isUrl.symm.trans isAddress)

end HttpResponse

/-- **The reply to the first location**: nothing but the length of the body and that location is in
front of the other lines. -/
theorem Event.reply_of_location {renderer : Renderer} {event : Event} {response : HttpResponse}
    {first : Value} {address : String} (there : event.httpResponse? = some response)
    (status : response.status = .int 302)
    (isFirst : response.header? "Location" = some first) (truthy : first.truthy = true)
    (isAddress : Reply.addressText first = .ok address) (reply : Reply) :
    event.reply renderer = .ok reply ↔ ∃ sent,
      List.Forall₂ Reply.Sends
        ((Reply.linesOf response.headers).filter fun line => !Reply.isLocation line.1) sent ∧
      reply = ⟨.int 302,
        [("content-length", "0"), ("location", Reply.quoteAddress address)] ++ sent, []⟩ := by
  have redirects : response.RedirectsTo address :=
    ⟨by rw [status]; rfl, first, isFirst, truthy, isAddress⟩
  have measured : Reply.lengthLine response.status [] = .ok [("content-length", "0")] := by
    rw [status]
    rfl
  rw [Event.reply_eq_ok_iff there, ← Reply.copied_true, status]
  constructor
  · rintro ⟨own, body, sent, answers, all, rfl⟩
    cases answers with
    | redirection redirects' measured' =>
      cases measured.symm.trans measured'
      obtain rfl := redirects'.eq isFirst isAddress
      exact ⟨sent, all, rfl⟩
    | page stays => exact absurd redirects (stays.not_redirectsTo _)
    | content stays => exact absurd redirects (stays.not_redirectsTo _)
  · rintro ⟨sent, all, rfl⟩
    exact ⟨_, [], sent, .redirection redirects measured, all, rfl⟩

/-- **The reply leads to the first location**, if that is not empty. -/
theorem Event.leadsTo_of_location {renderer : Renderer} {event : Event} {response : HttpResponse}
    {first : Value} {address : String} (there : event.httpResponse? = some response)
    (status : response.status = .int 302)
    (isFirst : response.header? "Location" = some first) (truthy : first.truthy = true)
    (isAddress : Reply.addressText first = .ok address) :
    Reply.LeadsTo ((Reply.linesOf response.headers).filter fun line => !Reply.isLocation line.1)
      address (event.reply renderer) := by
  have replies := @Event.reply_of_location renderer event response first address there status
    isFirst truthy isAddress
  refine ⟨⟨?_, ?_⟩, ?_, ?_⟩
  · rintro ⟨reply, made⟩
    obtain ⟨sent, all, -⟩ := (replies reply).1 made
    exact ⟨sent, all⟩
  · rintro ⟨sent, all⟩
    exact ⟨_, (replies _).2 ⟨sent, all, rfl⟩⟩
  · intro reply made
    obtain ⟨sent, -, rfl⟩ := (replies reply).1 made
    rfl
  · intro reply made
    obtain ⟨sent, all, rfl⟩ := (replies reply).1 made
    -- none of the other lines is a location
    have none := Reply.filter_of_sends (fun located => located) all
    rw [← Reply.copied_true, Reply.filter_location_copied_true, List.forall₂_nil_left_iff] at none
    rw [Reply.locations_append, none]
    rfl

/-- **Where the first location is empty**, the reply has those of the first header that is a
location, as they are. -/
theorem Event.locations_of_empty {renderer : Renderer} {event : Event} {response : HttpResponse}
    {first : Value} {reply : Reply} (there : event.httpResponse? = some response)
    (isFirst : response.header? "Location" = some first) (empty : first.truthy = false)
    (made : event.reply renderer = .ok reply) :
    reply.status = response.status ∧ reply.locations.map Value.str =
      (Reply.linesOf (Reply.location? response.headers).toList).map (·.2) := by
  obtain ⟨own, body, sent, answers, all, rfl⟩ := (Event.reply_eq_ok_iff there).1 made
  have noLocation : own.any (·.1 == "location") = false := by
    rw [← Bool.not_eq_true, answers.any_location_iff]
    rintro ⟨url, -, location, isFirst', truthy, -⟩
    cases isFirst.symm.trans isFirst'
    rw [empty] at truthy
    cases truthy
  refine ⟨rfl, ?_⟩
  rw [noLocation] at all
  have located := Reply.map_str_of_sends (Reply.filter_of_sends (fun located => located) all)
  rw [Reply.filter_location_copied] at located
  rw [Reply.locations_append, List.filter_eq_nil_iff.2 (by simpa using noLocation),
    List.map_nil, List.nil_append, List.map_map]
  exact located

namespace Run

/-- **Where a redirection leads**, whatever headers a response has and whatever renders the pages. A
redirection that acts with an address that is not empty returns. If no line stood under "Location"
before, the reply leads to that address. Otherwise the first of these lines goes before it: the
reply leads there, or, if that line is empty, has the lines of the first location as they are. -/
theorem leadsTo_of_redirect {ref : StrategyRef} {scene : Scene} {route uri url : Value}
    {response : HttpResponse} {calls : List Call}
    (redirects : (scene.site.strategies.get ref).strategy = .redirect route uri)
    (acts : ¬ (Strategy.redirect route uri).Abstains scene.event)
    (opens : scene.event.Opens response)
    (finds : (Strategy.address route uri scene.event).outcome = (.ok url, calls))
    (nonempty : url.truthy = true) :
    ∃ after, settle (strategy ref) scene = (.ok (), after) ∧ ∀ renderer : Renderer,
      let result := after.event.reply renderer
      let others := (Reply.linesOf response.headers).filter fun line => !Reply.isLocation line.1
      (response.header? "Location" = none → ∀ address, Reply.addressText url = .ok address →
        Reply.LeadsTo others address result) ∧
      (∀ earlier, response.header? "Location" = some earlier → earlier.truthy = true →
        ∀ address, Reply.addressText earlier = .ok address →
          Reply.LeadsTo others address result) ∧
      (∀ earlier, response.header? "Location" = some earlier → earlier.truthy = false →
        ∀ reply, result = .ok reply → reply.status = .int 302 ∧
          reply.locations.map Value.str = (Reply.linesOf
            (Reply.location? (response.addHeader "Location" url).headers).toList).map (·.2)) := by
  have ends := settle_strategy_of_redirect redirects acts opens finds
  let answer : HttpResponse := { response.addHeader "Location" url with status := .int 302 }
  have there : Event.httpResponse? { scene.event with response := answer.toValue } = some answer :=
    HttpResponse.ofValue?_toValue answer
  have isFirst : answer.header? "Location" = some ((response.header? "Location").getD url) :=
    response.header?_addHeader "Location" url
  have others : (Reply.linesOf answer.headers).filter (fun line => !Reply.isLocation line.1) =
      (Reply.linesOf response.headers).filter fun line => !Reply.isLocation line.1 :=
    Reply.filter_linesOf_putField (by decide) _ _
  refine ⟨_, ends, fun renderer => ⟨?_, ?_, ?_⟩⟩
  · intro none address isAddress
    rw [none] at isFirst
    rw [← others]
    exact Event.leadsTo_of_location there rfl isFirst nonempty isAddress
  · intro earlier isEarlier truthy address isAddress
    rw [isEarlier] at isFirst
    rw [← others]
    exact Event.leadsTo_of_location there rfl isFirst truthy isAddress
  · intro earlier isEarlier empty reply made
    rw [isEarlier] at isFirst
    exact Event.locations_of_empty there isFirst empty made

/-- A redirection to a login page leads there, whatever marks the response has. -/
theorem leadsTo_of_redirect_login :
    let strategy : Strategy := .redirect (.str "login") (.str "/login")
    let scene : Scene :=
      { site := { strategies := Arena.empty.set 0 { strategy } }
        event :=
          { routeMatch := some {}
            response := HttpResponse.toValue { headers := [("X-Mark", [.str "a"])] }
            params := [("error", .str GuardKind.route.errorKind)] } }
    ∃ after reply, settle (Run.strategy 0) scene = (.ok (), after) ∧
      after.event.reply Page.toJson = .ok reply ∧ reply.status = .int 302 ∧
      reply.locations = ["/login"] := by
  intro strategy scene
  have acts : ¬ strategy.Abstains scene.event := by
    rintro (⟨⟨⟩⟩ | ⟨-, ⟨⟩⟩ | ⟨⟨⟩⟩ | ⟨-, ⟨⟩⟩)
  have stands : (scene.site.strategies.get 0).strategy = strategy := rfl
  obtain ⟨after, ends, leads⟩ := leadsTo_of_redirect stands acts
    (.continued (HttpResponse.ofValue?_toValue _)) rfl rfl
  obtain ⟨sendable, status, locations⟩ :=
    (leads Page.toJson).1 rfl "/login" (Value.print_str "/login")
  obtain ⟨line, sends⟩ := @Reply.exists_sends "X-Mark" "a" (by decide) (by decide)
  obtain ⟨reply, made⟩ := sendable.2 ⟨[line], .cons sends .nil⟩
  refine ⟨after, reply, ends, made, status reply made, ?_⟩
  rw [locations reply made]
  decide +kernel

/-- A response that has a location is not redirected to the login page, but to that location. -/
theorem leadsTo_of_redirect_stale :
    let strategy : Strategy := .redirect (.str "login") (.str "/login")
    let scene : Scene :=
      { site := { strategies := Arena.empty.set 0 { strategy } }
        event :=
          { routeMatch := some {}
            response := HttpResponse.toValue { headers := [("Location", [.str "/old"])] }
            params := [("error", .str GuardKind.route.errorKind)] } }
    ∃ after reply, settle (Run.strategy 0) scene = (.ok (), after) ∧
      after.event.reply Page.toJson = .ok reply ∧ reply.status = .int 302 ∧
      reply.locations = ["/old"] ∧ Reply.quoteAddress "/login" = "/login" := by
  refine ⟨_, _, rfl, rfl, rfl, ?_, ?_⟩
  · decide +kernel
  · decide +kernel

end Run

end GuardedDispatch
