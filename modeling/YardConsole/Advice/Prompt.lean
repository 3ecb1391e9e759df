import YardConsole.Text.Blank
import YardConsole.Yard.Catalog

/-! # What the assistant is told -/

namespace YardConsole

def prompt (input : String) (catalog : Catalog) : String :=
  "Tu traduis les demandes d'un opérateur de chantier naval en appels à l'API moussAIllon.\n" ++
  "Réponds avec EXACTEMENT UN objet JSON, sans texte autour, de l'une de ces deux formes:\n" ++
  "\x7b\"action\":\"mcp_call\",\"method\":\"GET|POST|PUT|DELETE\",\"path\":\"/ressource\"," ++
  "\"query\":\x7b\x7d,\"body\":\x7b\x7d\x7d\n" ++
  "\x7b\"action\":\"reply\",\"message\":\"texte de réponse\"\x7d\n\n" ++
  "`query` et `body` sont optionnels. Utilise `/ressource/search` avec \x7b\"q\": ...\x7d " ++
  "pour une recherche.\n" ++
  "Ressources disponibles: " ++ ", ".intercalate catalog.paths ++ "\n\n" ++
  "Demande: " ++ Text.trim input

end YardConsole
