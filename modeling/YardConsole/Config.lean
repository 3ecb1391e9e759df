import YardConsole.Session.Basic

/-! # Configuration -/

namespace YardConsole

structure Config where
  baseUrl : Option String
  provider : Option String
  /-- Replaces the standard catalog. -/
  resources : Option (List ResourceRule)
  /-- Replaces the standard routes. -/
  routes : Option (List RouteRule)
deriving DecidableEq

namespace Config

def standardUrl : String := "http://localhost:8080"

def standard : Config := ⟨some standardUrl, some Provider.standard.id, none, none⟩

/-! ## What it means -/

def withoutSlashes (url : String) : String :=
  String.ofList (url.toList.reverse.dropWhile (· = '/')).reverse

/-- The address of the yard; a blank one is the standard one. -/
def address (config : Config) : String :=
  match config.baseUrl.map fun url => withoutSlashes (Text.trim url) with
  | none => standardUrl
  | some url => if url.isEmpty then standardUrl else url

/-- The provider; an unknown one is the standard one. -/
def chosenProvider (config : Config) : Provider :=
  (config.provider.bind Provider.ofText?).getD .standard

def settings (config : Config) : Settings where
  provider := config.chosenProvider
  catalog := (config.resources.map Catalog.mk).getD .standard
  routes := (config.routes.map Routes.mk).getD .standard

/-! ## Writing -/

def nullable : Option String → Json
  | some s => .str s
  | none => .null

def rulesMember (name : String) (toJson : α → Json) : Option (List α) → List (String × Json)
  | some rules => [(name, .arr (rules.map toJson))]
  | none => []

def toJson (config : Config) : Json :=
  .obj ([("base_url", nullable config.baseUrl), ("provider", nullable config.provider)] ++
    rulesMember "resources" ResourceRule.toJson config.resources ++
    rulesMember "routes" RouteRule.toJson config.routes)

def fileText (config : Config) : String := config.toJson.indented

/-! ## Reading -/

structure Draft where
  baseUrl : Option (Option String)
  provider : Option (Option String)
  resources : Option (Option (List ResourceRule))
  routes : Option (Option (List RouteRule))

def record : Json.Record Draft Config where
  title := "struct Config"
  fields := [
    { name := "base_url"
      isRead := (·.baseUrl.isSome)
      read := fun _ draft cs =>
        (Json.readOptional (Json.readString "a string") cs).map fun (s, rest) =>
          ({ draft with baseUrl := some s }, rest) },
    { name := "provider"
      isRead := (·.provider.isSome)
      read := fun _ draft cs =>
        (Json.readOptional (Json.readString "a string") cs).map fun (s, rest) =>
          ({ draft with provider := some s }, rest) },
    { name := "resources"
      isRead := (·.resources.isSome)
      read := fun depth draft cs =>
        (Json.readOptional (Json.readList ResourceRule.record.read depth) cs).map
          fun (rules, rest) => ({ draft with resources := some rules }, rest) },
    { name := "routes"
      isRead := (·.routes.isSome)
      read := fun depth draft cs =>
        (Json.readOptional (Json.readList RouteRule.record.read depth) cs).map
          fun (rules, rest) => ({ draft with routes := some rules }, rest) }]
  start := ⟨none, none, none, none⟩
  finish draft :=
    .ok ⟨draft.baseUrl.join, draft.provider.join, draft.resources.join, draft.routes.join⟩

def parse (text : String) : Except Json.ReadError Config :=
  Json.readWith (record.read Json.maxDepth) text.toList

/-- The configuration of a file, if there is one. -/
def load : Option String → Except Json.ReadError Config
  | none => .ok standard
  | some text => parse text

/-! ## Changing the file -/

/-- The name of a provider that is none. -/
def unknownProvider (name : String) : String := "Unknown provider: " ++ name

/-- The file with another provider, which is written by its identifier. A file that cannot be
read is begun anew. -/
def saveProvider (name : String) (file : Option String) : Except String String :=
  match Provider.ofText? name with
  | none => .error (unknownProvider name)
  | some provider =>
    let config :=
      match load file with
      | .ok config => config
      | .error _ => standard
    .ok { config with provider := some provider.id }.fileText

end Config

end YardConsole
