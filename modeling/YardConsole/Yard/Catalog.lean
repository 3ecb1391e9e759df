import YardConsole.Json.Record
import YardConsole.Text.Find

/-! # The catalog: which words mean which resource -/

namespace YardConsole

/-- The path of a resource and the words that mean it. -/
structure ResourceRule where
  path : String
  keywords : List String
deriving DecidableEq

namespace ResourceRule

def toJson (r : ResourceRule) : Json :=
  .obj [("path", .str r.path), ("keywords", .arr (r.keywords.map .str))]

structure Draft where
  path : Option String
  keywords : Option (List String)

def record : Json.Record Draft ResourceRule where
  title := "struct ResourceRule"
  fields := [
    { name := "path"
      isRead := (·.path.isSome)
      read := fun _ draft cs =>
        (Json.readString "a string" cs).map fun (s, rest) => ({ draft with path := some s }, rest) },
    { name := "keywords"
      isRead := (·.keywords.isSome)
      read := fun depth draft cs =>
        (Json.readList (fun _ => Json.readString "a string") depth cs).map fun (ks, rest) =>
          ({ draft with keywords := some ks }, rest) }]
  start := ⟨none, none⟩
  finish
    | ⟨some path, some keywords⟩ => .ok ⟨path, keywords⟩
    | ⟨none, _⟩ => .error "path"
    | ⟨some _, none⟩ => .error "keywords"

end ResourceRule

/-- Rules in order: the first one that matches decides. -/
structure Catalog where
  rules : List ResourceRule
deriving DecidableEq

namespace Catalog

/-- The path of the first rule with a keyword in the text, and that keyword. -/
def resolve (catalog : Catalog) (text : String) : Option (String × String) :=
  catalog.rules.findSome? fun rule =>
    (rule.keywords.find? (Text.contains text)).map (rule.path, ·)

def paths (catalog : Catalog) : List String := catalog.rules.map (·.path)

def standard : Catalog := ⟨[
  ⟨"/clients", ["client"]⟩,
  ⟨"/bateaux", ["bateau", "boat"]⟩,
  ⟨"/moteurs", ["moteur", "engine"]⟩,
  ⟨"/remorques", ["remorque", "trailer"]⟩,
  ⟨"/forfaits", ["forfait", "package"]⟩,
  ⟨"/services", ["service", "prestation"]⟩,
  ⟨"/ventes", ["vente", "sale"]⟩,
  ⟨"/techniciens", ["technicien", "technician"]⟩,
  ⟨"/competences", ["compétence", "competence", "skill"]⟩]⟩

end Catalog

end YardConsole
