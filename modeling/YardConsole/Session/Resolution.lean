import YardConsole.Advice.Outcome
import YardConsole.Advice.Prompt
import YardConsole.Command.Exact
import YardConsole.Command.Phrase
import YardConsole.Session.Exchange

/-! # Resolution: what a command means

The stages are asked in order, and the first one with an outcome decides. An error of an exact
command or a phrase is an outcome too.
-/

namespace YardConsole

inductive Stage where
  | help
  | resources
  | exact
  | phrase
  | planner
deriving DecidableEq

inductive Resolution where
  /-- A text to show; there is nothing to do. -/
  | reply (text : String)
  | execute (i : Instruction)
deriving DecidableEq

/-- A resolution and the stage it comes from. -/
abbrev Resolved := Except Failure (Stage × Resolution)

namespace Resolution

def helpText : String :=
  "Commandes disponibles:\n" ++
  "- help : affiche cette aide\n" ++
  "- resources : liste les ressources de l'API\n" ++
  "- METHODE /chemin [json] : appel direct, ex: GET /clients, " ++
  "POST /clients \x7b\"nom\":\"Dupont\"\x7d\n" ++
  "- langage naturel, ex: liste les bateaux, supprime le client 12,\n" ++
  "  cherche dupont dans les clients, crée un client \x7b\"nom\":\"Dupont\"\x7d,\n" ++
  "  modifie le moteur 3 \x7b\"marque\":\"Yamaha\"\x7d\n" ++
  "Sinon, la demande est confiée à l'assistant IA."

/-- The stages that ask nobody; none if no one of them has an outcome. -/
def withoutAdvice? (catalog : Catalog) (text : String) : Option Resolved :=
  if ["help", "aide"].any (Text.sameIgnoringCase text) then some (.ok (.help, .reply helpText))
  else if ["resources", "ressources"].any (Text.sameIgnoringCase text) then
    some (.ok (.resources, .execute .listResources))
  else
    match Exact.parse text with
    | .error e => some (.error e)
    | .ok (some i) => some (.ok (.exact, .execute i))
    | .ok none =>
      match Phrase.parse catalog text with
      | .error e => some (.error e)
      | .ok (some i) => some (.ok (.phrase, .execute i))
      | .ok none => none

/-- What the assistant's answer comes to. -/
def ofAdvice : Advice → Resolved
  | .directive (.reply message) => .ok (.planner, .reply message)
  | .directive d =>
    match d.instruction? with
    | some i => .ok (.planner, .execute i)
    | none => .error (.notUnderstood none)
  | .text text => .ok (.planner, .reply text)
  | .empty => .error (.notUnderstood none)

/-- What the assistant's answer, or its failure, comes to. -/
def ofAnswer : Except Failure String → Resolved
  | .ok answer => ofAdvice (Advice.interpret answer)
  | .error e => .error (.notUnderstood (some e))

/-- Resolves a command and goes on. The assistant is asked last, and at most once. -/
def resolve (provider : Provider) (catalog : Catalog) (input : String) (held : σ)
    (next : Resolved → Exchange σ α) : Exchange σ α :=
  let text := Text.trim input
  match withoutAdvice? catalog text with
  | some resolved => next resolved
  | none => .advise held provider (prompt text catalog) fun answer => next (ofAnswer answer)

end Resolution

end YardConsole
