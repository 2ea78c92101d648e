import GuardedDispatch.Config.File
import GuardedDispatch.Session
import GuardedDispatch.Text.Lines

/-! # The demonstration

What a configuration does to five requests of a small site: which of them pass, and how the others
are answered. The demonstration tells line by line what happens (`Demo.tell`); the lines before a
failure are kept (`Transcript`). -/

namespace GuardedDispatch

/-- The lines that were told, and the failure that ended them, if one did. -/
structure Transcript where
  lines : List String
  failure : Option Failure

/-- The **lines of the output**: a line that was told may itself hold the end of a line, as a name
from the configuration does. -/
def Transcript.outputLines (transcript : Transcript) : List String :=
  Text.lines (String.join (transcript.lines.map (· ++ "\n")))

/-- Telling line by line. -/
abbrev Telling := ExceptT Failure (StateM (List String))

/-- Tell one more line. -/
def say (line : String) : Telling Unit := modify (· ++ [line])

/-- All that was told. -/
def Telling.transcript (telling : Telling Unit) : Transcript :=
  let (result, lines) := Id.run ((ExceptT.run telling).run [])
  match result with
  | .ok _ => ⟨lines, none⟩
  | .error failure => ⟨lines, some failure⟩

namespace Demo

/-- The addresses of the site. -/
def addresses : List (String × Value) := [("home", .str "/"), ("login", .str "/login")]

/-- The rule that an article may be published by the one who owns it. -/
def ownsArticle : Assertion := fun identity _ _ =>
  .ok ((identity.map (·.subject)) == some "ada")

/-- A **visit**: who asks for what. -/
structure Visit where
  identity : Option Identity
  route : String
  controller : String
  action : String

/-- An editor of articles. -/
def editor (subject : String) : Option Identity := some ⟨subject, ["editor"]⟩

/-- The visits, in order. -/
def visits : List Visit :=
  [⟨none, "home", "demo.pages", "index"⟩,
   ⟨none, "article-edit", "demo.articles", "edit"⟩,
   ⟨editor "bob", "article-edit", "demo.articles", "edit"⟩,
   ⟨editor "bob", "article", "demo.articles", "publish"⟩,
   ⟨editor "ada", "article", "demo.articles", "publish"⟩]

namespace Visit

/-- The event of a visit. -/
def event (visit : Visit) (bus : BusRef) : Event where
  request := some (.http {})
  routeMatch := some
    { name := .str visit.route
      params := [("controller", .str visit.controller), ("action", .str visit.action)] }
  router := some (.ofTable addresses)
  bus := some bus

/-- A text with spaces behind it up to a width. -/
def padTo (width : Nat) (s : String) : String :=
  s ++ String.ofList (List.replicate (width - s.length) ' ')

/-- A visit in words: who, in a column of its own, and what. -/
def text (visit : Visit) : String :=
  padTo 10 ((visit.identity.map (·.subject)).getD "anonymous") ++ " " ++ visit.controller ++ ":" ++
    visit.action ++ " via " ++ visit.route

end Visit

/-- What became of a visit: that it passed, or the status, the error and the pages of the answer. -/
def outcomeLines (visit : Visit) (event : Event) : List String :=
  if event.isError then
    let status := (event.httpResponse?.map fun response => response.status.text).getD "-"
    ("  ✗ " ++ visit.text ++ " -> " ++ status ++ " (" ++ event.error.text ++ ")") ::
      event.pages.map fun page =>
        "      template=" ++ page.template.text ++ " reason=" ++ (event.param "exception").text
  else ["  ✓ " ++ visit.text]

/-- Tell what becomes of a visit; the answer holds the site after it. -/
def tellVisit (provider : ProviderRef) (bus : BusRef) (site : Site) (visit : Visit) :
    Telling Site := do
  let site := site.setIdentity provider visit.identity
  let (result, scene) := (Run.triggerStage bus .route).on { site, event := visit.event bus }
  discard (liftM result : Telling Responses)
  for line in outcomeLines visit scene.event do
    say line
  return scene.site

/-- The line above and below the title. -/
def rule : String := String.ofList (List.replicate 60 '=')

/-- **Tell** what the configuration in a file does to the visits. -/
def tell (settings : Settings) (path : String) (content : Option (List UInt8)) : Telling Unit := do
  for line in [rule, "GATEKEEPER DEMO", rule, ""] do
    say line
  let blueprint ← liftM (Blueprint.ofFile settings .standard path content)
  let (installation, site) := Session.installInto {} blueprint
  let (provider, site) := site.addProvider (.fixed none standardRole)
  let (_, service, site) ← liftM
    (Session.buildAuthority site installation provider [("owns_article", ownsArticle)])
  say "Compiled resources:"
  for resource in (Session.guardsOf site installation).flatMap (·.resources) do
    say ("  • " ++ resource.shown)
  say ""
  let (bus, site) := site.addBus
  let attached := Session.attachAllTo site installation bus
  discard (visits.foldlM (tellVisit provider bus) attached)
  say ""
  say ("Authorization service knows " ++ toString service.resources.length ++ " resources")

/-- The **transcript** of the demonstration. -/
def transcript (settings : Settings) (path : String) (content : Option (List UInt8)) : Transcript :=
  (tell settings path content).transcript

end Demo

end GuardedDispatch
