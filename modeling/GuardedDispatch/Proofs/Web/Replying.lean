import GuardedDispatch.Proofs.Dispatch.Stages
import GuardedDispatch.Proofs.Web.Conveying
import GuardedDispatch.Web.App

/-! # How refused requests are answered

What a client is told about a request that a guard turned down depends on the strategy alone
(`Refuses`): a redirection sends the client to an address, if there is one; everything else is
answered with status 403, by the strategy's page or, without a strategy, by a plain detail. -/

namespace GuardedDispatch

/-- A result that **redirects** to an address. -/
def Reply.Redirects (url : String) (result : Except Failure Reply) : Prop :=
  ∃ reply, result = .ok reply ∧ reply.status = .int 302 ∧
    ("location", quoteAddress url) ∈ reply.headers

variable {event : Event} {kind : GuardKind}

namespace Web

/-! ## Refusals -/

/-- How a request is **refused**: what the client of an application is told, depending on the
strategy. -/
def Refuses (app : App) (renderer : Renderer) (result : Except Failure Reply) :
    Option Strategy → Prop
  | none => ∃ reply, result = .ok reply ∧ reply.status = .int 403
  | some (.unauthorized template) =>
    (∃ values, result = renderer.reply (.int 403) ⟨template, values⟩) ∧
      (∀ reply, result = .ok reply → reply.status = .int 403) ∧
      (renderer = Page.toJson → ∀ text, template = .str text → ∃ reply, result = .ok reply)
  | some (.redirect route uri) =>
    (∀ url, uri = .str url → Reply.Redirects url result) ∧
      (uri = .null →
        match firstAddress? route.text app.routes with
        | some path => Reply.Redirects path result
        | none => result = .error (.noRoute route.text))

end Web

end GuardedDispatch
