import GuardedDispatch.Proofs.Access.Decision
import GuardedDispatch.Proofs.Web.Installing
import GuardedDispatch.Proofs.Web.Replying
import GuardedDispatch.Proofs.Web.Routing

/-! # Endpoints behind guards

A request that is dispatched to an endpoint reaches it iff every guard accepts it, and is refused
otherwise. The stages are settled one after the other: the route stage, where the guards listen
(`Guarded.settle_route`), and then either the dispatch stage and the endpoint
(`Guarded.exists_settle_passOn`) or the reply to the denial. What is installed on an empty bus is
ready for that, which gives `reached_iff_accepted`. -/

namespace GuardedDispatch

/-- The name of the endpoint that ran, if the call is that of an endpoint. -/
def Call.endpoint? : Call → Option String
  | .endpoint name => some name
  | _ => none

/-- The **endpoints** that ran, in order. -/
def endpointsIn (calls : List Call) : List String := calls.filterMap Call.endpoint?

namespace Web

/-! ## What is judged -/

/-- The event of a request for an endpoint. -/
def Guarded.routed (guarded : Guarded) (request : Incoming) (name : Option String)
    (target : Endpoint) (params : Params) : Event where
  id := "req_http"
  request := some (.http request.toRequest)
  routeMatch := some ⟨.ofText? name, putField "action" (.str target.name)
    (putField "controller" (.str target.module) params)⟩
  router := some guarded.app.router
  bus := some guarded.bus

variable {guarded : Guarded} {request : Incoming} {name : Option String} {target : Endpoint}
  {params : Params}

namespace Guarded

variable {guards : List GuardRef} {ref : Option StrategyRef}

variable {allows : Word → Prop} {identity : Value}

/-- The site at which a request is handled: where the context tells who is asking, the identity that
the request came with is bound. -/
def siteFor (guarded : Guarded) (site : Site) (request : Incoming) : Site :=
  match site.providers.get guarded.provider with
  | .ofContext _ =>
    { site with
      context := (site.context.bind (guarded.identify.bind (· request.toRequest))).2 }
  | .fixed .. => site

end Guarded

/-! ## Protection -/

/-- Whether a guard **accepts** a request for an endpoint, given what is allowed. -/
def Accepts (allows : Word → Prop) (request : Incoming) (name : Option String)
    (target : Endpoint) : GuardKind → Prop
  | .controller => allows (controllerResource target.module none) ∨
      (target.name ≠ "" ∧ allows (controllerResource target.module (some target.name))) ∨
      (request.method ≠ "" ∧ allows (controllerResource target.module (some request.method)))
  | .route => ∀ routeName, name = some routeName → allows (routeResource routeName)

end Web

end GuardedDispatch
