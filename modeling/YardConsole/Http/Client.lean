import YardConsole.Config
import YardConsole.Http.Job

/-! # Clients of the yard and of the assistant -/

namespace YardConsole

def endpoint (base service : String) : String := Config.withoutSlashes base ++ service

/-! ## The yard -/

/-- Calls are numbered from one, whatever becomes of them. Behind the last number of a word comes
zero. -/
structure YardClient where
  url : String
  nextId : UInt64
deriving DecidableEq

namespace YardClient

def new (base : String) : YardClient := ⟨endpoint base "/mcp", 1⟩

/-- The request of a call. -/
def post (c : YardClient) (method : String) (params : Json) : Post :=
  ⟨c.url, (Json.obj [("jsonrpc", .str "2.0"), ("id", .int c.nextId.toNat), ("method", .str method),
    ("params", params)]).compact⟩

def next (c : YardClient) : YardClient := { c with nextId := c.nextId + 1 }

def call (c : YardClient) (method : String) (params : Json) :
    Job (Except Failure Json × YardClient) :=
  .post (c.post method params) fun delivery => .done (delivery.asCall, c.next)

end YardClient

/-! ## The assistant -/

structure AdviceClient where
  url : String
deriving DecidableEq

namespace AdviceClient

def new (base : String) : AdviceClient := ⟨endpoint base "/ai/chat"⟩

/-- The request for advice. -/
def post (c : AdviceClient) (provider : Provider) (message : String) : Post :=
  ⟨c.url, (Json.obj [("provider", .str provider.id), ("message", .str message)]).compact⟩

def ask (c : AdviceClient) (provider : Provider) (message : String) : Job (Except Failure String) :=
  .post (c.post provider message) fun delivery => .done delivery.asAdvice

end AdviceClient

/-! ## Both -/

/-- What a session is connected to. -/
structure Links where
  yard : YardClient
  assistant : AdviceClient
deriving DecidableEq

def Links.new (base : String) : Links := ⟨.new base, .new base⟩

/-- Carries an exchange out by requests. -/
def Exchange.overHttp (links : Links) : Exchange σ α → Job (α × σ × Links)
  | done result state => .done (result, state, links)
  | advise _ provider prompt next =>
    (links.assistant.ask provider prompt).bind fun answer => overHttp links (next answer)
  | call _ method params next =>
    (links.yard.call method params).bind fun (answer, yard) =>
      overHttp { links with yard } (next answer)

/-- A session and what it is connected to. -/
structure Console where
  session : Session
  links : Links

namespace Console

def ofConfig (config : Config) : Console :=
  ⟨.start config.settings false, .new config.address⟩

/-- Carries out what the session does. -/
def perform (c : Console) (work : Session → Exchange Session α) : Job (α × Console) :=
  ((work c.session).overHttp c.links).map fun (a, session, links) => (a, ⟨session, links⟩)

def tools (c : Console) : Job (Except Failure (List Json) × Console) :=
  c.perform Session.listTools

end Console

end YardConsole
